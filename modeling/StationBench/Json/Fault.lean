import StationBench.Text.Quoted
import StationBench.Decimal.Shortest
/-!
# What can be wrong with a JSON text

A text is refused for one of two reasons. It is no JSON text (`Defect`), or it is one that does
not say what the reader asked for (`Mismatch`). Both are causes; the wording is in `Defect.text`
and `Mismatch.text` alone.
-/
namespace StationBench.Json

/-- Where and how a text stops being JSON. -/
inductive Defect
  | endInValue
  | endInString
  | endInArray
  | endInObject
  | expectedColon
  | expectedCommaOrBracket
  | expectedCommaOrBrace
  | expectedWord
  | expectedValue
  | expectedQuote
  | invalidEscape
  | invalidNumber
  | numberOutOfRange
  | loneSurrogate
  | unpairedSurrogate
  | controlCharacter
  | keyNotString
  | keyNotNumber
  | trailingComma
  | trailingCharacters
  | tooDeep
deriving DecidableEq, Repr

def Defect.text : Defect → String
  | .endInValue => "EOF while parsing a value"
  | .endInString => "EOF while parsing a string"
  | .endInArray => "EOF while parsing a list"
  | .endInObject => "EOF while parsing an object"
  | .expectedColon => "expected `:`"
  | .expectedCommaOrBracket => "expected `,` or `]`"
  | .expectedCommaOrBrace => "expected `,` or `\x7d`"
  | .expectedWord => "expected ident"
  | .expectedValue => "expected value"
  | .expectedQuote => "expected `\"`"
  | .invalidEscape => "invalid escape"
  | .invalidNumber => "invalid number"
  | .numberOutOfRange => "number out of range"
  | .loneSurrogate => "lone leading surrogate in hex escape"
  | .unpairedSurrogate => "unexpected end of hex escape"
  | .controlCharacter => "control character (\\u0000-\\u001F) found while parsing a string"
  | .keyNotString => "key must be a string"
  | .keyNotNumber => "invalid value: expected key to be a number in quotes"
  | .trailingComma => "trailing comma"
  | .trailingCharacters => "trailing characters"
  | .tooDeep => "recursion limit exceeded"

/-- What stands where something else was asked for. -/
inductive Found
  | null
  | bool (b : Bool)
  | integer (i : Int)
  | real (x : Double)
  | string (s : String)
  | sequence
  | map
deriving DecidableEq, Repr

/-- A found value in words, given the word for null and the style of reals. -/
def Found.describe (null : String) (style : FloatStyle) : Found → String
  | .null => null
  | .bool b => "boolean `" ++ (if b then "true" else "false") ++ "`"
  | .integer i => "integer `" ++ Decimal.signedText i ++ "`"
  | .real x => "floating point `" ++ String.ofList (x.chars style) ++ "`"
  | .string s => "string " ++ Text.quoted s
  | .sequence => "sequence"
  | .map => "map"

def Found.text : Found → String := Found.describe "null" .json

/-- How a JSON text fails to say what was asked for. -/
inductive Mismatch
  | invalidType (found : Found) (expected : String)
  | invalidValue (found : Found) (expected : String)
  | invalidLength (length : Nat) (expected : String)
  | missingField (name : String)
  | duplicateField (name : String)
  | unknownField (name : String) (known : List String)
  | unknownVariant (name : String) (known : List String)
  /-- None of the forms that a type may be written in fits. -/
  | noForm (type : String)
  /-- A rule of the type that was read, in its own words. -/
  | broken (text : String)
deriving DecidableEq, Repr

/-- The names that would have been right. -/
def alternatives (nothing : String) : List String → String
  | [] => nothing
  | [a] => "expected `" ++ a ++ "`"
  | [a, b] => "expected `" ++ a ++ "` or `" ++ b ++ "`"
  | names => "expected one of " ++ ", ".intercalate (names.map fun n => "`" ++ n ++ "`")

def Mismatch.text : Mismatch → String
  | .invalidType found expected => "invalid type: " ++ found.text ++ ", expected " ++ expected
  | .invalidValue found expected => "invalid value: " ++ found.text ++ ", expected " ++ expected
  | .invalidLength length expected =>
    "invalid length " ++ Decimal.text length ++ ", expected " ++ expected
  | .missingField name => "missing field `" ++ name ++ "`"
  | .duplicateField name => "duplicate field `" ++ name ++ "`"
  | .unknownField name known =>
    "unknown field `" ++ name ++ "`, " ++ alternatives "there are no fields" known
  | .unknownVariant name known =>
    "unknown variant `" ++ name ++ "`, " ++ alternatives "there are no variants" known
  | .noForm type => "data did not match any variant of untagged enum " ++ type
  | .broken text => text

/-- Why a text was refused. -/
inductive Fault
  | defect (d : Defect)
  | mismatch (m : Mismatch)
deriving DecidableEq, Repr

def Fault.text : Fault → String
  | .defect d => d.text
  | .mismatch m => m.text

end StationBench.Json
