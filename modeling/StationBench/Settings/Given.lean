import StationBench.Json.Record
import StationBench.Table
import StationBench.Text.Lowercase
/-!
# Settings as they were given

A setting in a file or in the environment is a value that remembers where it came from, and so are
the items of a list and the members of a group. The environment knows nothing but text, and files
are written by hand, so that a scalar is taken for what a setting asks for wherever it can be:
`toInteger?`, `toBool?` and `toText?` are the rules for that. Whole numbers have 64 bits and a sign;
one that is greater counts as a real.
-/
namespace StationBench

/-- Where a setting came from. -/
inductive Origin
  | file (path : String)
  | environment
deriving DecidableEq, Repr

/-- Where a setting came from, at the end of a message. -/
def Origin.text : Origin → String
  | .file path => " in " ++ path
  | .environment => " in the environment"

/-! ## Scalars -/

/-- A value that has no parts. -/
inductive Scalar
  | null
  | bool (b : Bool)
  | number (n : Json.Number)
  | string (s : String)
deriving DecidableEq, Repr

namespace Scalar

def value : Scalar → Json.Value
  | .null => .null
  | .bool b => .bool b
  | .number n => .number n
  | .string s => .string s

/-- The words that stand for yes and no. -/
def switch? (s : String) : Option Bool :=
  if ["true", "on", "yes"].contains s then some true
  else if ["false", "off", "no"].contains s then some false
  else none

/-- A scalar as a truth: a number unless it is zero, a text if it is one of a few words. -/
def toBool? : Scalar → Option Bool
  | .null => none
  | .bool b => some b
  | .number (.natural n) => some (n ≠ 0)
  | .number (.negative _) => some true
  | .number (.real x) => some !x.isZero
  | .string s =>
    match Text.lower s with
    | "1" => some true
    | "0" => some false
    | word => switch? word

/-- A scalar as an integer: a real is rounded, a text is a decimal or one of a few words. -/
def toInteger? : Scalar → Option Int64
  | .null => none
  | .bool b => some (if b then 1 else 0)
  | .number (.natural n) => some n.toInt64
  | .number (.negative i) => some i
  | .number (.real x) => some x.roundToInt64
  | .string s =>
    match switch? (Text.lower s) with
    | some b => some (if b then 1 else 0)
    | none => Decimal.readSigned s.toList

/-- A scalar as a text. -/
def toText? : Scalar → Option String
  | .null => none
  | .bool b => some (if b then "true" else "false")
  | .number (.natural n) => some (Decimal.text n.toNat)
  | .number (.negative i) => some (Decimal.signedText i.toInt)
  | .number (.real x) => some (String.ofList (x.chars .plain))
  | .string s => some s

end Scalar

/-! ## Values with parts -/

/-- A setting as it was given. Values that were made up to hold others have no origin. -/
inductive Given
  | scalar (s : Scalar) (origin : Option Origin)
  | list (items : List Given) (origin : Option Origin)
  | group (members : List (String × Given)) (origin : Option Origin)
deriving Repr

namespace Given

/-- What stands where nothing was given. -/
def nothing : Given := .scalar .null none

def origin : Given → Option Origin
  | .scalar _ origin | .list _ origin | .group _ origin => origin

def member? (g : Given) (name : String) : Option Given :=
  match g with
  | .group members _ => members.lookup name
  | _ => none

/-- What a value is, for a message. -/
def found : Given → Json.Found
  | .scalar s _ => s.value.found
  | .list _ _ => .sequence
  | .group _ _ => .map

/-- A number as settings hold it. -/
def signed : Json.Number → Json.Number
  | .natural n =>
    if n.toNat < Decimal.signedBound then .natural n else .real (.ofFloat n.toFloat)
  | n => n

mutual

/-- A value of a document, all parts of which come from the same place. -/
def ofValue (origin : Origin) : Json.Value → Given
  | .null => .scalar .null origin
  | .bool b => .scalar (.bool b) origin
  | .number n => .scalar (.number (signed n)) origin
  | .string s => .scalar (.string s) origin
  | .array items => .list (ofItems origin items) origin
  | .object members => .group (ofMembers origin members) origin

def ofItems (origin : Origin) : List Json.Value → List Given
  | [] => []
  | v :: rest => ofValue origin v :: ofItems origin rest

def ofMembers (origin : Origin) : List (String × Json.Value) → List (String × Given)
  | [] => []
  | (name, v) :: rest => (name, ofValue origin v) :: ofMembers origin rest

end

end Given

end StationBench
