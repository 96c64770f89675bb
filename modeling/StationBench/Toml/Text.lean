import StationBench.Text.Hexadecimal
/-!
# The marks of a TOML text

What the lines of a TOML document are made of, below its values: blanks, comments and line breaks,
strings in their four forms, and keys with dots between them. A parser takes what it reads off the
front of a text and leaves the rest; it reads nothing if the text is not well formed there.
-/
namespace StationBench.Toml

/-- What a parser read from the front of a text, and the rest of the text. -/
abbrev Parser (α : Type) := List Char → Option (α × List Char)

/-! ## Lines -/

/-- A text with every line break as one character. -/
def joinBreaks : List Char → List Char
  | '\r' :: '\n' :: rest => '\n' :: joinBreaks rest
  | c :: rest => c :: joinBreaks rest
  | [] => []

def isBlank (c : Char) : Bool := c = ' ' || c = '\t'

def skipBlanks (cs : List Char) : List Char := cs.dropWhile isBlank

/-- The characters that a comment may hold. -/
def isCommentChar (c : Char) : Bool := c = '\t' || ' ' ≤ c

/-- Leaves out blanks, comments and line breaks. -/
def skipLines : (inComment : Bool) → List Char → List Char
  | _, [] => []
  | true, c :: rest =>
    if isCommentChar c then skipLines true rest
    else if c = '\n' then skipLines false rest
    else c :: rest
  | false, c :: rest =>
    if isBlank c || c = '\n' then skipLines false rest
    else if c = '#' then skipLines true rest
    else c :: rest

/-- The next line, if there is nothing but blanks and a comment before it. -/
def nextLine? (cs : List Char) : Option (List Char) :=
  let rest := match skipBlanks cs with
    | '#' :: rest => rest.dropWhile isCommentChar
    | rest => rest
  match rest with
  | [] => some []
  | '\n' :: rest => some rest
  | _ => none

/-! ## Strings -/

/-- The characters that a string may hold as they are. -/
def isPlain (c : Char) : Bool := c = '\t' || (' ' ≤ c && c ≠ '\x7f')

/-- The character of a number, if there is one. -/
def character? (n : Nat) : Option Char :=
  if n < 0xd800 ∨ (0xe000 ≤ n ∧ n < 0x110000) then some (Char.ofNat n) else none

/-- The character that a letter after a backslash stands for. -/
def escape? : Char → Option Char
  | 'b' => some '\x08'
  | 't' => some '\t'
  | 'n' => some '\n'
  | 'f' => some '\x0c'
  | 'r' => some '\r'
  | '"' => some '"'
  | '\\' => some '\\'
  | _ => none

/-- How many hexadecimal digits a letter after a backslash asks for. -/
def escapeWidth? : Char → Option Nat
  | 'u' => some 4
  | 'U' => some 8
  | _ => none

/-- Puts a character in front of what was read. -/
def cons? (c : Char) : Option (List Char × List Char) → Option (List Char × List Char) :=
  Option.map fun (s, rest) => (c :: s, rest)

/-- The quotes that end a string of many lines, after the first of them: three at least, and up to
two more that belong to the string. -/
def closing? (quote : Char) (cs : List Char) : Option (List Char × List Char) :=
  let n := (cs.takeWhile (· = quote)).length
  if n < 2 then none else some (List.replicate (min n 4 - 2) quote, cs.drop (min n 4))

/-- What goes before a place in a string with escapes. -/
inductive StringState
  | text
  | escape
  /-- Digits are missing to the number of a character. -/
  | digits (missing number : Nat)
  /-- A backslash at the end of a line, and blanks. -/
  | beforeBreak
  /-- A backslash at the end of a line, and blanks and line breaks. -/
  | afterBreak
deriving DecidableEq

/-- The rest of a string with escapes after its opening quotes, one or, if it may have many lines,
three. -/
def basicString (manyLines : Bool) : StringState → Parser (List Char)
  | _, [] => none
  | .escape, c :: rest =>
    match escape? c, escapeWidth? c with
    | some e, _ => cons? e (basicString manyLines .text rest)
    | none, some width => basicString manyLines (.digits width 0) rest
    | none, none =>
      if !manyLines then none
      else if c = '\n' then basicString manyLines .afterBreak rest
      else if isBlank c then basicString manyLines .beforeBreak rest
      else none
  | .digits missing number, c :: rest =>
    match Text.hexValue? c with
    | none => none
    | some d =>
      if 1 < missing then basicString manyLines (.digits (missing - 1) (16 * number + d)) rest
      else match character? (16 * number + d) with
        | none => none
        | some u => cons? u (basicString manyLines .text rest)
  | .beforeBreak, c :: rest =>
    if isBlank c then basicString manyLines .beforeBreak rest
    else if c = '\n' then basicString manyLines .afterBreak rest
    else none
  | state, c :: rest =>
    if state = .afterBreak && (isBlank c || c = '\n') then basicString manyLines .afterBreak rest
    else if c = '\\' then basicString manyLines .escape rest
    else if c = '"' then
      if !manyLines then some ([], rest)
      else match closing? '"' rest with
        | some closed => some closed
        | none => cons? '"' (basicString manyLines .text rest)
    else if isPlain c || (manyLines && c = '\n') then cons? c (basicString manyLines .text rest)
    else none

/-- The rest of a string without escapes after its opening apostrophes, one or, if it may have many
lines, three. -/
def literalString (manyLines : Bool) : Parser (List Char)
  | [] => none
  | c :: rest =>
    if c = '\'' then
      if !manyLines then some ([], rest)
      else match closing? '\'' rest with
        | some closed => some closed
        | none => cons? '\'' (literalString manyLines rest)
    else if isPlain c || (manyLines && c = '\n') then cons? c (literalString manyLines rest)
    else none

/-- The text without a line break at its start. -/
def skipBreak : List Char → List Char
  | '\n' :: rest => rest
  | cs => cs

/-- A string that stands in one line. -/
def lineString (cs : List Char) : Option (String × List Char) :=
  let text? (read : Option (List Char × List Char)) : Option (String × List Char) :=
    read.map fun (s, rest) => (String.ofList s, rest)
  match cs with
  | '"' :: rest => text? (basicString false .text rest)
  | '\'' :: rest => text? (literalString false rest)
  | _ => none

/-- A string in any of its forms. -/
def string (cs : List Char) : Option (String × List Char) :=
  let text? (read : Option (List Char × List Char)) : Option (String × List Char) :=
    read.map fun (s, rest) => (String.ofList s, rest)
  match cs with
  | '"' :: '"' :: '"' :: rest => text? (basicString true .text (skipBreak rest))
  | '\'' :: '\'' :: '\'' :: rest => text? (literalString true (skipBreak rest))
  | cs => lineString cs

/-! ## Keys -/

/-- The characters of words: keys without quotes, numbers and truths. -/
def isWordChar (c : Char) : Bool := c.isAlphanum || c = '-' || c = '_'

/-- The word in front of a text, which may be empty. -/
def splitWord (cs : List Char) : List Char × List Char :=
  (cs.takeWhile isWordChar, cs.dropWhile isWordChar)

/-- Whether a text begins with the quotes of a string of many lines. -/
def opensManyLines : List Char → Bool
  | '"' :: '"' :: '"' :: _ | '\'' :: '\'' :: '\'' :: _ => true
  | _ => false

def key (cs : List Char) : Option (String × List Char) :=
  if opensManyLines cs then none
  else (lineString cs).or <|
    let (word, rest) := splitWord cs
    if word.isEmpty then none else some (String.ofList word, rest)

/-- Keys with dots between them, `count` at most, and the blanks after them. -/
def dottedKey : (count : Nat) → Parser (List String)
  | 0, _ => none
  | count + 1, cs => do
    let (k, rest) ← key cs
    match skipBlanks rest with
    | '.' :: rest => do
      let (ks, rest) ← dottedKey count (skipBlanks rest)
      return (k :: ks, rest)
    | rest => return ([k], rest)

end StationBench.Toml
