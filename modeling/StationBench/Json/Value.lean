import StationBench.Table
import StationBench.Decimal.Shortest
/-!
# JSON values

A value as programs exchange it. Numbers keep the three forms that readers tell apart: whole
numbers from zero up, whole numbers below zero, and reals. An object is the list of its members;
`Value.ordered` puts the members in key order, the later of two with one key staying, which is
the form of a free-form value that was read.
-/
namespace StationBench.Json

/-- A number of a JSON text. -/
inductive Number
  /-- A whole number from zero up. -/
  | natural (n : UInt64)
  /-- A whole number below zero. -/
  | negative (n : Int64)
  | real (x : Double)
deriving DecidableEq, Repr

namespace Number

def ofInt64 (i : Int64) : Number :=
  if i < 0 then .negative i else .natural i.toUInt64

/-- The text of a number in a JSON text. -/
def chars : Number → List Char
  | .natural n => Decimal.digits n.toNat
  | .negative n => Decimal.signedDigits n.toInt
  | .real x => x.chars .json

end Number

inductive Value
  | null
  | bool (b : Bool)
  | number (n : Number)
  | string (s : String)
  | array (items : List Value)
  | object (members : List (String × Value))
deriving Repr, Inhabited

namespace Value

mutual

/-- Equality of values can be decided. -/
def decideEq : (a b : Value) → Decidable (a = b)
  | .null, .null => .isTrue rfl
  | .bool a, .bool b =>
    if h : a = b then .isTrue (h ▸ rfl) else .isFalse fun e => h (Value.bool.inj e)
  | .number a, .number b =>
    if h : a = b then .isTrue (h ▸ rfl) else .isFalse fun e => h (Value.number.inj e)
  | .string a, .string b =>
    if h : a = b then .isTrue (h ▸ rfl) else .isFalse fun e => h (Value.string.inj e)
  | .array a, .array b =>
    match decideItemsEq a b with
    | .isTrue h => .isTrue (h ▸ rfl)
    | .isFalse h => .isFalse fun e => h (Value.array.inj e)
  | .object a, .object b =>
    match decideMembersEq a b with
    | .isTrue h => .isTrue (h ▸ rfl)
    | .isFalse h => .isFalse fun e => h (Value.object.inj e)
  | .null, .bool _ | .null, .number _ | .null, .string _ | .null, .array _ | .null, .object _
  | .bool _, .null | .bool _, .number _ | .bool _, .string _ | .bool _, .array _
  | .bool _, .object _ | .number _, .null | .number _, .bool _ | .number _, .string _
  | .number _, .array _ | .number _, .object _ | .string _, .null | .string _, .bool _
  | .string _, .number _ | .string _, .array _ | .string _, .object _ | .array _, .null
  | .array _, .bool _ | .array _, .number _ | .array _, .string _ | .array _, .object _
  | .object _, .null | .object _, .bool _ | .object _, .number _ | .object _, .string _
  | .object _, .array _ => .isFalse nofun

def decideItemsEq : (a b : List Value) → Decidable (a = b)
  | [], [] => .isTrue rfl
  | [], _ :: _ => .isFalse nofun
  | _ :: _, [] => .isFalse nofun
  | a :: as, b :: bs =>
    match decideEq a b, decideItemsEq as bs with
    | .isTrue h, .isTrue h' => .isTrue (h ▸ h' ▸ rfl)
    | .isFalse h, _ => .isFalse fun e => h (List.cons.inj e).1
    | _, .isFalse h => .isFalse fun e => h (List.cons.inj e).2

def decideMembersEq : (a b : List (String × Value)) → Decidable (a = b)
  | [], [] => .isTrue rfl
  | [], _ :: _ => .isFalse nofun
  | _ :: _, [] => .isFalse nofun
  | (k, a) :: as, (l, b) :: bs =>
    if hk : k = l then
      match decideEq a b, decideMembersEq as bs with
      | .isTrue h, .isTrue h' => .isTrue (hk ▸ h ▸ h' ▸ rfl)
      | .isFalse h, _ => .isFalse fun e => h (Prod.mk.inj (List.cons.inj e).1).2
      | _, .isFalse h => .isFalse fun e => h (List.cons.inj e).2
    else .isFalse fun e => hk (Prod.mk.inj (List.cons.inj e).1).1

end

instance : DecidableEq Value := decideEq

def ofUInt64 (n : UInt64) : Value := .number (.natural n)

/-- A count; counts stay below 2⁶⁴. -/
def ofNat (n : Nat) : Value := ofUInt64 (.ofNat n)

def ofInt64 (i : Int64) : Value := .number (.ofInt64 i)

/-- An optional value, absent written as null. -/
def ofOption {α : Type} (write : α → Value) : Option α → Value
  | some a => write a
  | none => .null

def ofList {α : Type} (write : α → Value) (l : List α) : Value := .array (l.map write)

/-- The member of an object under a key. -/
def member? (key : String) : Value → Option Value
  | .object members => members.lookup key
  | _ => none

mutual

/-- A value with the members of every object in key order, each key once. -/
def ordered : Value → Value
  | .array items => .array (orderedItems items)
  | .object members => .object (orderedMembers members {}).entries
  | v => v

def orderedItems : List Value → List Value
  | [] => []
  | v :: rest => ordered v :: orderedItems rest

def orderedMembers : List (String × Value) → Table String Value → Table String Value
  | [], t => t
  | (k, v) :: rest, t => orderedMembers rest (t.insert k (ordered v))

end

end Value

end StationBench.Json
