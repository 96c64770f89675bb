import StationBench.Json.Record
/-!
# Buttons

A button of a station is wired to pins and does one of five things. Documents name the action, or
leave it to a conventional name of the button (`ButtonAction.ofName`). An action is written by its
name, capitalised or not, or as an object with that one key and null under it.
-/
namespace StationBench

inductive ButtonAction
  | submit
  | penalty
  | delegate
  | inspection
  | clear
deriving DecidableEq, Repr

namespace ButtonAction

def name : ButtonAction → String
  | .submit => "Submit"
  | .penalty => "Penalty"
  | .delegate => "Delegate"
  | .inspection => "Inspection"
  | .clear => "Clear"

/-- The names of the actions in documents. -/
def spellings : List (String × ButtonAction) :=
  [("Submit", .submit), ("submit", .submit), ("Penalty", .penalty), ("penalty", .penalty),
    ("Delegate", .delegate), ("delegate", .delegate), ("Inspection", .inspection),
    ("inspection", .inspection), ("Clear", .clear), ("clear", .clear)]

/-- The action that a button's name implies, whatever the case of its ASCII letters. -/
def ofName (name : String) : Option ButtonAction :=
  [("submit", ButtonAction.submit), ("ok", .submit), ("confirm", .submit), ("penalty", .penalty),
    ("delegate", .delegate), ("inspection", .inspection), ("clear", .clear),
    ("reset", .clear)].lookup (String.ofList (name.toList.map Char.toLower))

def toJson (a : ButtonAction) : Json.Value := .string a.name

def ofSpelling (s : String) : Except Json.Fault ButtonAction :=
  match spellings.lookup s with
  | some a => .ok a
  | none => Json.throwMismatch (.unknownVariant s (spellings.map Prod.fst))

/-- Null, under the key of an action. -/
def readNothing : Json.Reader Unit
  | .null => .ok ()
  | o => o.mismatch "unit"

/-- An action in a document. -/
def read : Json.Reader ButtonAction
  | .string q => do ofSpelling (← q.textKey)
  | .object level fields => do
    Json.checkLevel level
    match fields with
    | .done ending => do
      ending.checkObject
      Json.throwDefect .expectedValue
    | .field key value rest => do
      let a ← ofSpelling (← key.textKey)
      readNothing value
      match rest with
      | .done .closed => return a
      | .done .endOfText => Json.throwDefect .endInObject
      | _ => Json.throwDefect .expectedValue
  | .broken .missing => Json.throwDefect .endInValue
  | .broken .noColon => Json.throwDefect .expectedColon
  | .broken .endBeforeColon => Json.throwDefect .endInObject
  | _ => Json.throwDefect .expectedValue

/-- An action in a value that was read already. -/
def ofValue? : Json.Value → Option ButtonAction
  | .string s => spellings.lookup s
  | .object [(s, .null)] => spellings.lookup s
  | _ => none

/-- Reads an action from its JSON text. -/
def ofText (text : String) : Except Json.Fault ButtonAction := Json.read read text

end ButtonAction

/-- A button of a station. -/
structure ButtonBinding where
  pins : List UInt8
  action : ButtonAction
deriving DecidableEq, Repr

/-- A button as a document declares it. -/
structure DeclaredButton where
  pins : List UInt8
  action : Option ButtonAction
deriving DecidableEq, Repr

def ButtonBinding.toJson (b : ButtonBinding) : Json.Value :=
  .object [("pins", .ofList (fun p => .ofNat p.toNat) b.pins), ("action", b.action.toJson)]

namespace DeclaredButton

def pin? : Json.Value → Option UInt8
  | .number (.natural n) => if n < 256 then some n.toUInt8 else none
  | _ => none

def pins? : Json.Value → Option (List UInt8)
  | .array items => items.mapM pin?
  | _ => none

/-- An optional action; null is none. -/
def action? : Json.Value → Option (Option ButtonAction)
  | .null => some none
  | v => some <$> ButtonAction.ofValue? v

/-- The one value under a key; a key that is given twice spoils the button. -/
def unique? (members : List (String × Json.Value)) (key : String) :
    Option (Option Json.Value) :=
  match members.filter (·.1 = key) with
  | [] => some none
  | [(_, v)] => some (some v)
  | _ => none

/-- A button in a document is a list of pins, or an object with `pins` and `action`, either of
which may be left out. -/
def ofValue? : Json.Value → Option DeclaredButton
  | .array items => do return { pins := ← pins? (.array items), action := none }
  | .object members => do
    let pins ← match ← unique? members "pins" with
      | some v => pins? v
      | none => some []
    let action ← match ← unique? members "action" with
      | some v => action? v
      | none => some none
    return { pins, action }
  | _ => none

def read : Json.Reader DeclaredButton := fun o => do
  match ofValue? (← o.written) with
  | some b => return b
  | none => Json.throwMismatch (.noForm "RawBinding")

end DeclaredButton

end StationBench
