import StationBench.Json.Value
/-!
# JSON texts of values

Two layouts: `compact`, without any blanks, and `pretty`, one item a line, two blanks of indent a
level, empty containers closed at once. Both escape the same characters of a string: the quote,
the backslash and the controls below U+0020.
-/
namespace StationBench.Json

def hexDigit (d : Nat) : Char :=
  if d < 10 then Char.ofNat (48 + d) else Char.ofNat (87 + d)

/-- One character of a string. -/
def escapeChar (c : Char) : List Char :=
  match c with
  | '"' => ['\\', '"']
  | '\\' => ['\\', '\\']
  | '\x08' => ['\\', 'b']
  | '\x0c' => ['\\', 'f']
  | '\n' => ['\\', 'n']
  | '\r' => ['\\', 'r']
  | '\t' => ['\\', 't']
  | c =>
    if c.toNat < 0x20 then ['\\', 'u', '0', '0', hexDigit (c.toNat / 16), hexDigit (c.toNat % 16)]
    else [c]

/-- A string in its quotes. -/
def stringChars (s : String) : List Char :=
  '"' :: s.toList.flatMap escapeChar ++ ['"']

def boolChars : Bool → List Char
  | true => ['t', 'r', 'u', 'e']
  | false => ['f', 'a', 'l', 's', 'e']

def nullChars : List Char := ['n', 'u', 'l', 'l']

namespace Value

mutual

/-- A value without blanks. -/
def chars : Value → List Char
  | .null => nullChars
  | .bool b => boolChars b
  | .number n => n.chars
  | .string s => stringChars s
  | .array [] => ['[', ']']
  | .array (v :: rest) => '[' :: (chars v ++ itemChars rest)
  | .object [] => ['\x7b', '\x7d']
  | .object ((k, v) :: rest) => '\x7b' :: (stringChars k ++ ':' :: (chars v ++ memberChars rest))

/-- The items after the first, and the closing bracket. -/
def itemChars : List Value → List Char
  | [] => [']']
  | v :: rest => ',' :: (chars v ++ itemChars rest)

/-- The members after the first, and the closing brace. -/
def memberChars : List (String × Value) → List Char
  | [] => ['\x7d']
  | (k, v) :: rest => ',' :: (stringChars k ++ ':' :: (chars v ++ memberChars rest))

end

def compact (v : Value) : String := String.ofList v.chars

def newline (level : Nat) : List Char := '\n' :: List.replicate (2 * level) ' '

mutual

/-- A value laid out over several lines, inside `level` containers. -/
def prettyChars (level : Nat) : Value → List Char
  | .null => nullChars
  | .bool b => boolChars b
  | .number n => n.chars
  | .string s => stringChars s
  | .array [] => ['[', ']']
  | .array (v :: rest) =>
    '[' :: (newline (level + 1) ++ (prettyChars (level + 1) v ++ prettyItems level rest))
  | .object [] => ['\x7b', '\x7d']
  | .object ((k, v) :: rest) =>
    '\x7b' :: (newline (level + 1) ++
      (stringChars k ++ ':' :: ' ' :: (prettyChars (level + 1) v ++ prettyMembers level rest)))

def prettyItems (level : Nat) : List Value → List Char
  | [] => newline level ++ [']']
  | v :: rest =>
    ',' :: (newline (level + 1) ++ (prettyChars (level + 1) v ++ prettyItems level rest))

def prettyMembers (level : Nat) : List (String × Value) → List Char
  | [] => newline level ++ ['\x7d']
  | (k, v) :: rest =>
    ',' :: (newline (level + 1) ++
      (stringChars k ++ ':' :: ' ' :: (prettyChars (level + 1) v ++ prettyMembers level rest)))

end

def pretty (v : Value) : String := String.ofList (v.prettyChars 0)

end Value

end StationBench.Json
