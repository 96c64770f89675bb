import StationBench.Json.Value
import StationBench.Toml.Moment
/-!
# Values of a TOML document

A table is the list of its members, in the order in which they were given and with all that were
given. One that was made by dots between keys may get more members later on (`addAt`); any other
table has all of them at once. `Value.toJson?` gives the value as other documents write it, where no
key stands twice and a moment is the text of it.
-/
namespace StationBench.Toml

inductive Value
  | string (s : String)
  | number (n : Json.Number)
  | bool (b : Bool)
  | moment (m : Moment)
  | array (items : List Value)
  /-- A table, and whether dots may add to it. -/
  | table (members : List (String × Value)) (dotted : Bool)
  /-- What would be in one place twice. -/
  | conflict
deriving Repr, Inhabited

abbrev Members := List (String × Value)

/-! ## Dotted keys -/

/-- The members with the first one of a name replaced. -/
def replaceMember (name : String) (v : Value) : Members → Members
  | [] => []
  | (k, w) :: rest => if k = name then (k, v) :: rest else (k, w) :: replaceMember name v rest

/-- Adds a value under keys with dots between them. A key that is there already is only good for
going on in a table that dots made. -/
def addAt (v : Value) : (path : List String) → Members → Option Members
  | [], _ => none
  | [name], members => some (members ++ [(name, v)])
  | name :: path, members =>
    match members.lookup name with
    | none => (addAt v path []).map fun inner => members ++ [(name, .table inner true)]
    | some (.table inner true) =>
      (addAt v path inner).map fun inner => replaceMember name (.table inner true) members
    | some _ => none

/-! ## As other documents write it -/

/-- The key of a table that is a moment: its value is the text of the moment. -/
def momentKey : String := "$__toml_private_datetime"

/-- The moment that a table with members is, if the first of them says so. -/
def momentOf? : Members → Option (Option Moment)
  | (k, v) :: _ =>
    if k = momentKey then
      some (match v with
        | .string s => Moment.ofText? s
        | _ => none)
    else none
  | [] => none

mutual

/-- The value as JSON has it, unless a key stands twice or a moment is none. -/
def Value.toJson? : Value → Option Json.Value
  | .string s => some (.string s)
  | .number n => some (.number n)
  | .bool b => some (.bool b)
  | .moment m => some (.string m.text)
  | .array items => (itemsToJson? items).map .array
  | .table members _ =>
    match momentOf? members with
    | some moment? => moment?.map fun m => .string m.text
    | none => (membersToJson? members).map .object
  | .conflict => none

def itemsToJson? : List Value → Option (List Json.Value)
  | [] => some []
  | v :: rest =>
    match v.toJson?, itemsToJson? rest with
    | some v, some rest => some (v :: rest)
    | _, _ => none

def membersToJson? : List (String × Value) → Option (List (String × Json.Value))
  | [] => some []
  | (name, v) :: rest =>
    match v.toJson?, membersToJson? rest with
    | some v, some rest => if (rest.lookup name).isSome then none else some ((name, v) :: rest)
    | _, _ => none

end

end StationBench.Toml
