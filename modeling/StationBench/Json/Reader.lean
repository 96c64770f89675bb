import StationBench.Json.Outline
/-!
# Reading an outline

A reader takes what it asked for from an outline or says what is wrong first, in the order of the
text. Scalars, optional values, lists, maps and free-form values are read here; records are in
`StationBench.Json.Record`. What nobody asked for is passed over (`Outline.skip`): it must be JSON,
but its numbers may be of any size, its strings may hold halves of surrogate pairs, and it may be
nested as deep as it likes, where a value that is read may stand in 127 containers at most.
-/
namespace StationBench.Json

abbrev Reader (α : Type) := Outline → Except Fault α

def throwDefect {α : Type} (d : Defect) : Except Fault α := .error (.defect d)

def throwMismatch {α : Type} (m : Mismatch) : Except Fault α := .error (.mismatch m)

def liftDefect {α : Type} (x : Except Defect α) : Except Fault α := x.mapError .defect

/-- A rule of the type that is read is broken. -/
def throwBroken {α : Type} (text : String) : Except Fault α := throwMismatch (.broken text)

/-! ## Flaws and endings as defects -/

/-- The defect of a flawed value that is read. -/
def Flaw.defect : Flaw → Defect
  | .missing => .endInValue
  | .stray => .expectedValue
  | .badWord => .expectedWord
  | .cutWord => .endInValue
  | .badNumber .cut => .endInValue
  | .badNumber .misplaced => .invalidNumber
  | .noColon => .expectedColon
  | .endBeforeColon => .endInObject

/-- The defect of a flawed value that is passed over. -/
def Flaw.skippedDefect : Flaw → Defect
  | .badNumber _ => .invalidNumber
  | flaw => flaw.defect

namespace Ending

/-- An array that is read must be closed. -/
def checkArray : Ending → Except Fault Unit
  | .closed => .ok ()
  | .endOfText => throwDefect .endInArray
  | .noComma => throwDefect .expectedCommaOrBracket
  | .commaThenClose => throwDefect .trailingComma
  | .commaThenEnd => throwDefect .endInValue
  | .badKey | .unknown => throwDefect .expectedValue

/-- An object that is read must be closed. -/
def checkObject : Ending → Except Fault Unit
  | .closed => .ok ()
  | .endOfText => throwDefect .endInObject
  | .noComma => throwDefect .expectedCommaOrBrace
  | .commaThenClose => throwDefect .trailingComma
  | .commaThenEnd => throwDefect .endInValue
  | .badKey => throwDefect .keyNotString
  | .unknown => throwDefect .expectedValue

/-- An array that is passed over must be closed. -/
def checkSkippedArray : Ending → Except Fault Unit
  | .commaThenClose => throwDefect .expectedValue
  | ending => ending.checkArray

/-- An object that is passed over must be closed. -/
def checkSkippedObject : Ending → Except Fault Unit
  | .commaThenClose => throwDefect .keyNotString
  | .commaThenEnd => throwDefect .endInObject
  | ending => ending.checkObject

/-- After the last item that a record takes from an array nothing may follow but the end. -/
def checkRecord : Ending → Except Fault Unit
  | .closed => .ok ()
  | .endOfText => throwDefect .endInArray
  | .commaThenClose => throwDefect .trailingComma
  | _ => throwDefect .trailingCharacters

end Ending

/-- The greatest number of containers that a value that is read stands in. -/
def deepestLevel : Nat := 127

def checkLevel (level : Nat) : Except Fault Unit :=
  if level ≤ deepestLevel then .ok () else throwDefect .tooDeep

/-! ## Passing over -/

mutual

def Outline.skip : Outline → Except Fault Unit
  | .null | .bool _ | .number _ => .ok ()
  | .string q => liftDefect q.ending.check
  | .array _ items => items.skip
  | .object _ fields => fields.skip
  | .broken flaw => throwDefect flaw.skippedDefect

def Items.skip : Items → Except Fault Unit
  | .done ending => ending.checkSkippedArray
  | .item head rest => do
    head.skip
    rest.skip

def Fields.skip : Fields → Except Fault Unit
  | .done ending => ending.checkSkippedObject
  | .field key value rest => do
    liftDefect key.ending.check
    value.skip
    rest.skip

end

/-! ## Scalars -/

namespace Number

def found : Number → Found
  | .natural n => .integer n.toNat
  | .negative n => .integer n.toInt
  | .real x => .real x

/-- A number as a whole number of 64 bits without sign. -/
def toUInt64 : Number → Except Fault UInt64
  | .natural n => .ok n
  | .negative n => throwMismatch (.invalidValue (.integer n.toInt) "u64")
  | .real x => throwMismatch (.invalidType (.real x) "u64")

/-- A number as a whole number of 64 bits with a sign. -/
def toInt64 : Number → Except Fault Int64
  | .natural n =>
    if n.toNat < Decimal.signedBound then .ok n.toInt64
    else throwMismatch (.invalidValue (.integer n.toNat) "i64")
  | .negative n => .ok n
  | .real x => throwMismatch (.invalidType (.real x) "i64")

end Number

namespace Outline

/-- What an outline is, for a message; a scalar has to be well formed for that. -/
def found : Outline → Except Defect Found
  | .null => .ok .null
  | .bool b => .ok (.bool b)
  | .number lit => Number.found <$> lit.value
  | .string q => Found.string <$> q.decode
  | .array _ _ => .ok .sequence
  | .object _ _ => .ok .map
  | .broken flaw => .error flaw.defect

/-- The outline is not what was expected. -/
def mismatch {α : Type} (o : Outline) (expected : String) : Except Fault α := do
  throwMismatch (.invalidType (← liftDefect o.found) expected)

end Outline

namespace Reader

def bool : Reader Bool
  | .bool b => .ok b
  | o => o.mismatch "a boolean"

def uint64 : Reader UInt64
  | .number lit => do (← liftDefect lit.value).toUInt64
  | o => o.mismatch "u64"

def int64 : Reader Int64
  | .number lit => do (← liftDefect lit.value).toInt64
  | o => o.mismatch "i64"

/-- A string; `expected` is how messages call what it stands for. -/
def text (expected : String) : Reader String
  | .string q => liftDefect q.decode
  | o => o.mismatch expected

def string : Reader String := text "a string"

/-- Null reads as absent. -/
def optional {α : Type} (read : Reader α) : Reader (Option α)
  | .null => .ok none
  | o => some <$> read o

end Reader

/-! ## Lists and maps -/

def Items.read {α : Type} (read : Reader α) : Items → Except Fault (List α)
  | .done ending => do
    ending.checkArray
    return []
  | .item head rest => do
    let a ← read head
    return a :: (← rest.read read)

def Fields.read {κ ν : Type} (readKey : Quotation → Except Fault κ) (read : Reader ν) :
    Fields → Except Fault (List (κ × ν))
  | .done ending => do
    ending.checkObject
    return []
  | .field key value rest => do
    let k ← readKey key
    let v ← read value
    return (k, v) :: (← rest.read readKey read)

namespace Reader

def list {α : Type} (read : Reader α) : Reader (List α)
  | .array level items => do
    checkLevel level
    items.read read
  | o => o.mismatch "a sequence"

/-- A map in the order of the text, repeated keys and all. -/
def map {κ ν : Type} (readKey : Quotation → Except Fault κ) (read : Reader ν) :
    Reader (List (κ × ν))
  | .object level fields => do
    checkLevel level
    fields.read readKey read
  | o => o.mismatch "a map"

end Reader

namespace Quotation

/-- A key that is a text. -/
def textKey (q : Quotation) : Except Fault String := liftDefect q.decode

/-- A key that is a number in quotes: what stands between the quotes is read as it is written. -/
def numberKey (q : Quotation) : Except Fault UInt64 :=
  match q.rawChars with
  | c :: cs =>
    if c.isDigit || c = '-' then
      match scanNumber (c :: cs) with
      | (.error flaw, _) => throwDefect (Flaw.badNumber flaw).defect
      | (.ok lit, rest) => do
        let n ← (← liftDefect lit.value).toUInt64
        if rest = ['"'] then return n else throwDefect .expectedQuote
    else throwDefect .keyNotNumber
  | [] => throwDefect .keyNotNumber

end Quotation

/-! ## Free-form values -/

mutual

/-- A value as it is written, the members of objects in the order of the text. -/
def Outline.written : Reader Value
  | .null => .ok .null
  | .bool b => .ok (.bool b)
  | .number lit => do return .number (← liftDefect lit.value)
  | .string q => do return .string (← liftDefect q.decode)
  | .array level items => do
    checkLevel level
    return .array (← items.written)
  | .object level fields => do
    checkLevel level
    return .object (← fields.written)
  | .broken flaw => throwDefect flaw.defect

def Items.written : Items → Except Fault (List Value)
  | .done ending => do
    ending.checkArray
    return []
  | .item head rest => do
    let v ← head.written
    return v :: (← rest.written)

def Fields.written : Fields → Except Fault (List (String × Value))
  | .done ending => do
    ending.checkObject
    return []
  | .field key value rest => do
    let k ← key.textKey
    let v ← value.written
    return (k, v) :: (← rest.written)

end

namespace Reader

/-- A free-form value, the members of objects in key order. -/
def value : Reader Value := fun o => Value.ordered <$> o.written

end Reader

/-! ## A whole text -/

/-- Reads a text that holds one value and nothing after it. -/
def read {α : Type} (reader : Reader α) (text : String) : Except Fault α := do
  let document := Document.ofText text
  let a ← reader document.root
  if document.more then throwDefect .trailingCharacters else return a

end StationBench.Json
