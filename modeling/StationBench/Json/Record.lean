import StationBench.Json.Reader
/-!
# Reading records

A record is read from an object, whose keys are its field names, or from an array of its fields in
their declared order. A `RecordReader` is put together from the readers of its fields, and is then
run on an outline, where unknown fields are passed over (`RecordReader.outline`), or on a
free-form value, where they are refused (`RecordReader.closedValue`).
-/
namespace StationBench.Json

/-- The items of an array that are left to take, and what is wrong where they end. -/
structure Feed (σ : Type) where
  items : List σ
  atEnd : Except Fault Unit

/-- How a record of type `α` is read from fields of type `σ`. -/
structure RecordReader (σ α : Type) where
  /-- What is known of a record while its fields are met in any order. -/
  Draft : Type
  blank : Draft
  names : List String
  /-- Takes in one named field, if it is one of the record's. -/
  put : String → σ → Draft → Option (Except Fault Draft)
  /-- The record, once there are no more fields. -/
  finish : Draft → Except Fault α
  /-- Takes the fields off an array, given how messages call the record and the number of fields
  before these. -/
  take : String → Nat → Feed σ → Except Fault (α × Feed σ)

/-- What a field is if it is left out. -/
inductive Absence (β : Type)
  | missing
  /-- A default of objects only; an array has to hold the field. -/
  | unlessListed (b : β)
  | default (b : β)

namespace RecordReader

variable {σ α β : Type}

/-- A record of one field. -/
def field (name : String) (read : σ → Except Fault β) (absence : Absence β) :
    RecordReader σ β where
  Draft := Option β
  blank := none
  names := [name]
  put key s draft :=
    if key = name then
      some <| match draft with
        | some _ => throwMismatch (.duplicateField name)
        | none => some <$> read s
    else none
  finish
    | some b => .ok b
    | none => match absence with
      | .missing => throwMismatch (.missingField name)
      | .unlessListed b | .default b => .ok b
  take expected index feed := match feed.items with
    | s :: rest => do return (← read s, { feed with items := rest })
    | [] => do
      feed.atEnd
      match absence with
      | .missing | .unlessListed _ => throwMismatch (.invalidLength index expected)
      | .default b => return (b, feed)

/-- A field that must be there. -/
def required (name : String) (read : σ → Except Fault β) : RecordReader σ β :=
  field name read .missing

/-- A field with a default. -/
def defaulted (name : String) (read : σ → Except Fault β) (b : β) : RecordReader σ β :=
  field name read (.default b)

protected def map (f : α → β) (r : RecordReader σ α) : RecordReader σ β where
  Draft := r.Draft
  blank := r.blank
  names := r.names
  put := r.put
  finish draft := f <$> r.finish draft
  take expected index feed := do
    let (a, feed) ← r.take expected index feed
    return (f a, feed)

/-- The fields of two records after one another. -/
protected def seq (r : RecordReader σ (α → β)) (s : RecordReader σ α) : RecordReader σ β where
  Draft := r.Draft × s.Draft
  blank := (r.blank, s.blank)
  names := r.names ++ s.names
  put key v draft := match r.put key v draft.1 with
    | some next => some ((·, draft.2) <$> next)
    | none => (s.put key v draft.2).map ((draft.1, ·) <$> ·)
  finish draft := do
    let f ← r.finish draft.1
    return f (← s.finish draft.2)
  take expected index feed := do
    let (f, feed) ← r.take expected index feed
    let (a, feed) ← s.take expected (index + r.names.length) feed
    return (f a, feed)

instance : Functor (RecordReader σ) where
  map := RecordReader.map

instance : Seq (RecordReader σ) where
  seq r s := r.seq (s ())

/-- How messages call a record. -/
def expected (r : RecordReader σ α) (name : String) : String :=
  "struct " ++ name ++ " with " ++ Decimal.text r.names.length ++ " elements"

/-! ## From an outline -/

/-- Takes in the fields of an object one by one. -/
def putFields (r : RecordReader Outline α) : Fields → r.Draft → Except Fault r.Draft
  | .done ending, draft => do
    ending.checkObject
    return draft
  | .field key value rest, draft => do
    let name ← key.textKey
    match r.put name value draft with
    | some next => r.putFields rest (← next)
    | none => do
      value.skip
      r.putFields rest draft

end RecordReader

def Items.toList : Items → List Outline
  | .done _ => []
  | .item head rest => head :: rest.toList

def Items.ending : Items → Ending
  | .done ending => ending
  | .item _ rest => rest.ending

namespace RecordReader

variable {σ α β : Type}

/-- Reads a record, called `name` in messages, from an object or an array. -/
def outline (r : RecordReader Outline α) (name : String) : Reader α
  | .array level items => do
    checkLevel level
    let (a, feed) ← r.take (r.expected name) 0 ⟨items.toList, items.ending.checkArray⟩
    if feed.items.isEmpty then items.ending.checkRecord else throwDefect .trailingCharacters
    return a
  | .object level fields => do
    checkLevel level
    r.finish (← r.putFields fields r.blank)
  | o => o.mismatch ("struct " ++ name)

/-! ## From a free-form value -/

/-- Takes in the members of an object one by one; there may be no other. -/
def putMembers (r : RecordReader σ α) : List (String × σ) → r.Draft → Except Fault r.Draft
  | [], draft => .ok draft
  | (name, value) :: rest, draft =>
    match r.put name value draft with
    | some next => do r.putMembers rest (← next)
    | none => throwMismatch (.unknownField name r.names)

end RecordReader

/-! ## Readers of free-form values -/

namespace Value

def found : Value → Found
  | .null => .null
  | .bool b => .bool b
  | .number n => n.found
  | .string s => .string s
  | .array _ => .sequence
  | .object _ => .map

def mismatch {α : Type} (v : Value) (expected : String) : Except Fault α :=
  throwMismatch (.invalidType v.found expected)

def readBool : Value → Except Fault Bool
  | .bool b => .ok b
  | v => v.mismatch "a boolean"

def readUInt64 : Value → Except Fault UInt64
  | .number n => n.toUInt64
  | v => v.mismatch "u64"

def readInt64 : Value → Except Fault Int64
  | .number n => n.toInt64
  | v => v.mismatch "i64"

def readString : Value → Except Fault String
  | .string s => .ok s
  | v => v.mismatch "a string"

def readOptional {α : Type} (read : Value → Except Fault α) : Value → Except Fault (Option α)
  | .null => .ok none
  | v => some <$> read v

def readList {α : Type} (read : Value → Except Fault α) : Value → Except Fault (List α)
  | .array items => items.mapM read
  | v => v.mismatch "a sequence"

end Value

/-- Reads a record, called `name` in messages, from an object without other members or an array
without further items. -/
def RecordReader.closedValue {α : Type} (r : RecordReader Value α) (name : String) :
    Value → Except Fault α
  | .array items => do
    let (a, feed) ← r.take (r.expected name) 0 ⟨items, .ok ()⟩
    if feed.items.isEmpty then return a
    else throwMismatch (.invalidLength items.length "fewer elements in array")
  | .object members => do r.finish (← r.putMembers members r.blank)
  | v => v.mismatch ("struct " ++ name)

end StationBench.Json
