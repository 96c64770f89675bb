import StationBench.Toml.Number
import StationBench.Toml.Section
/-!
# TOML documents

Settings files may be TOML documents. `Toml.read` makes an object of a document, or nothing if it is
not well formed or gives a key twice. Its sections are read line by line and are then put together.
-/
namespace StationBench.Toml

/-! ## Values -/

/-- Whether a word is the start of a date or of a time. -/
def isMomentWord (word after : List Char) : Bool :=
  let hasExponent (mark : Char) : Bool := (word.zip (word.drop 1)).contains (mark, '-')
  word.any (fun c => c = 'T' || c = 't') ||
    ((word.drop 1).contains '-' && !hasExponent 'e' && !hasExponent 'E') ||
    after.head? = some ':'

/-- A truth, a number or a moment. -/
def word (cs : List Char) : Option (Value × List Char) :=
  let (w, after) := splitWord cs
  let named := ["inf", "nan"].contains (String.ofList w)
  match String.ofList w with
  | "true" => some (.bool true, after)
  | "false" => some (.bool false, after)
  | _ =>
    if !(named || w.head?.any fun c => c = '-' || c.isDigit) then none
    else if isMomentWord w after then (Moment.read cs).map fun (m, rest) => (.moment m, rest)
    else (number w after).map fun (n, rest) => (.number n, rest)

/-- A number after its plus sign. -/
def plusNumber (cs : List Char) : Option (Value × List Char) :=
  let (w, after) := splitWord cs
  (number w after).map fun (n, rest) => (.number n, rest)

/-- A part of a text in which values stand. -/
inductive Context
  | value
  /-- The items of an array after its bracket. -/
  | items
  /-- The members of an inline table after its brace, and those before them. -/
  | members (before : Members)

/-- Parses the text of a context; `fuel` bounds the values and marks in it. -/
def parse (fuel : Nat) (context : Context) (cs : List Char) : Option (Value × List Char) :=
  match fuel with
  | 0 => none
  | fuel + 1 =>
    match context with
    | .value =>
      match cs with
      | '"' :: _ | '\'' :: _ => (string cs).map fun (s, rest) => (.string s, rest)
      | '[' :: rest => parse fuel .items rest
      | '\x7b' :: rest =>
        match skipBlanks rest with
        | '\x7d' :: rest => some (.table [] false, rest)
        | rest => parse fuel (.members []) rest
      | '+' :: rest => plusNumber rest
      | cs => word cs
    | .items =>
      match skipLines false cs with
      | ']' :: rest => some (.array [], rest)
      | rest => do
        let (v, rest) ← parse fuel .value rest
        match skipLines false rest with
        | ']' :: rest => return (.array [v], rest)
        | ',' :: rest =>
          match ← parse fuel .items rest with
          | (.array items, rest) => return (.array (v :: items), rest)
          | _ => none
        | _ => none
    | .members before => do
      let (path, rest) ← dottedKey fuel (skipBlanks cs)
      match rest with
      | '=' :: rest =>
        let (v, rest) ← parse fuel .value (skipBlanks rest)
        let members ← addAt v path before
        match skipBlanks rest with
        | '\x7d' :: rest => return (.table members false, rest)
        | ',' :: rest => parse fuel (.members members) rest
        | _ => none
      | _ => none

/-! ## Lines -/

/-- A header, after its first bracket, and the next line. -/
def header (fuel : Nat) (cs : List Char) : Option (Section × List Char) := do
  let (isItem, cs) := match cs with
    | '[' :: rest => (true, rest)
    | cs => (false, cs)
  let (path, rest) ← dottedKey fuel (skipBlanks cs)
  let rest ← match isItem, rest with
    | false, ']' :: rest => nextLine? rest
    | true, ']' :: ']' :: rest => nextLine? rest
    | _, _ => none
  return ({ path, isItem }, rest)

/-- A member of a section, put to those before it, and the next line. -/
def member (fuel : Nat) (before : Members) (cs : List Char) : Option (Members × List Char) := do
  let (path, rest) ← dottedKey fuel cs
  match rest with
  | '=' :: rest =>
    let (v, rest) ← parse fuel .value (skipBlanks rest)
    return (← addAt v path before, ← nextLine? rest)
  | _ => none

/-- Reads the lines of a document, `count` lines at most, given the section that they go on with and
those before it, the latest first. -/
def sections (fuel : Nat) : (count : Nat) → (current : Section) → (before : List Section) →
    List Char → Option (List Section)
  | 0, _, _, _ => none
  | count + 1, current, before, cs =>
    match skipLines false cs with
    | [] => some (current :: before).reverse
    | '[' :: rest => do
      let (next, rest) ← header fuel rest
      sections fuel count next (current :: before) rest
    | rest => do
      let (given, rest) ← member fuel current.given rest
      sections fuel count { current with given } before rest

/-- The object that a document stands for; a byte order mark in front does not count. -/
def read (text : String) : Option Json.Value := do
  let cs := joinBreaks (match text.toList with
    | '\ufeff' :: rest => rest
    | cs => cs)
  let fuel := 2 * cs.length + 2
  (document (← sections fuel fuel { path := [] } [] cs)).toJson?

end StationBench.Toml
