import StationBench.Text.Hexadecimal
import StationBench.Json.Value
import StationBench.Json.Fault
/-!
# Tokens of a JSON text

A text is cut into brackets, commas, colons, words, numbers and strings. Cutting never fails: a
token that is spoilt says how, and whether that matters is left to whoever reads it. A number
keeps its digits and a string its pieces, for a number that is passed over may be too large and a
string that is passed over may hold half a surrogate pair. `tokens` cuts a whole text.
-/
namespace StationBench.Json

/-! ## Numbers -/

/-- A number as it is written. -/
structure Literal where
  negative : Bool
  whole : List Char
  fraction : Option (List Char) := none
  /-- Whether the exponent is negative, and its digits. -/
  exponent : Option (Bool × List Char) := none
deriving DecidableEq, Repr

/-- How a number is spoilt. -/
inductive NumberFlaw
  /-- A character that cannot stand there. -/
  | misplaced
  /-- The text ends in the number. -/
  | cut
deriving DecidableEq, Repr

abbrev ScannedNumber := Except NumberFlaw Literal × List Char

/-- The digits at the start of a text, and the rest. -/
def splitDigits (cs : List Char) : List Char × List Char :=
  (cs.takeWhile Char.isDigit, cs.dropWhile Char.isDigit)

/-- The flaw of a number that lacks digits before `rest`. -/
def flawBefore : List Char → NumberFlaw
  | [] => .cut
  | _ :: _ => .misplaced

/-- The exponent of a number, after its letter. -/
def scanExponent (lit : Literal) (cs : List Char) : ScannedNumber :=
  let (negative, cs) := match cs with
    | '-' :: rest => (true, rest)
    | '+' :: rest => (false, rest)
    | _ => (false, cs)
  match splitDigits cs with
  | ([], rest) => (.error (flawBefore rest), rest)
  | (ds, rest) => (.ok { lit with exponent := some (negative, ds) }, rest)

/-- What may follow the fraction of a number, or its whole part where there is none. -/
def scanTail (lit : Literal) : List Char → ScannedNumber
  | 'e' :: rest => scanExponent lit rest
  | 'E' :: rest => scanExponent lit rest
  | rest => (.ok lit, rest)

/-- What may follow the whole part of a number. -/
def scanFraction (lit : Literal) : List Char → ScannedNumber
  | '.' :: cs =>
    match splitDigits cs with
    | ([], rest) => (.error (flawBefore rest), rest)
    | (ds, rest) => scanTail { lit with fraction := some ds } rest
  | cs => scanTail lit cs

/-- A number after its sign: a zero that no digit follows, or digits that start with another. -/
def scanMagnitude (negative : Bool) (cs : List Char) : ScannedNumber :=
  match splitDigits cs with
  | ([], rest) => (.error (flawBefore rest), rest)
  | (['0'], rest) => scanFraction { negative, whole := ['0'] } rest
  | ('0' :: _, rest) => (.error .misplaced, rest)
  | (ds, rest) => scanFraction { negative, whole := ds } rest

/-- A number, at its first character. -/
def scanNumber : List Char → ScannedNumber
  | '-' :: rest => scanMagnitude true rest
  | cs => scanMagnitude false cs

/-! ## The value of a number -/

/-- The digits of a real that count: a whole number of 64 bits, and the power of ten that the
digits left out or standing after the point make up for. -/
structure Significand where
  value : Nat
  exponent : Int

/-- Takes in the digits before the point. Once a digit does not fit, it and the rest only count. -/
def Significand.ofWhole : (value : Nat) → List Char → Significand
  | value, [] => ⟨value, 0⟩
  | value, c :: rest =>
    let next := 10 * value + Decimal.digitValue c
    if next < UInt64.size then ofWhole next rest else ⟨value, rest.length + 1⟩

/-- Takes in the digits after the point, up to the first that does not fit. -/
def Significand.addFraction : Significand → List Char → Significand
  | s, [] => s
  | s, c :: rest =>
    let next := 10 * s.value + Decimal.digitValue c
    if next < UInt64.size then addFraction ⟨next, s.exponent - 1⟩ rest else s

/-- Scales by powers of ten in double precision: at most `10 ^ 308` at once downwards, and once
upwards, where infinity is out of range. The first argument bounds the downward steps. -/
def scale : Nat → Float → Int → Except Defect Float
  | 0, _, _ => .ok 0
  | steps + 1, x, e =>
    if e.natAbs ≤ 308 then
      let power := Float.ofScientific 1 false e.natAbs
      if 0 ≤ e then
        let y := x * power
        if y.isInf then .error .numberOutOfRange else .ok y
      else .ok (x / power)
    else if x == 0 then .ok x
    else if 0 ≤ e then .error .numberOutOfRange
    else scale steps (x / Float.ofScientific 1 false 308) (e + 308)

/-- The real that a significand and a sign make. Every magnitude of 64 bits is gone after four
steps of `10 ^ 308`. -/
def Significand.toDouble (negative : Bool) (s : Significand) : Except Defect Double := do
  let x ← scale 8 (UInt64.ofNat s.value).toFloat s.exponent
  return .ofFloat (if negative then -x else x)

/-- The greatest exponent that is worked with. -/
def greatestExponent : Nat := 0x7fffffff

namespace Literal

/-- The significand of a number written with a fraction, an exponent or too many digits. -/
def significand (lit : Literal) : Significand :=
  (Significand.ofWhole 0 lit.whole).addFraction (lit.fraction.getD [])

/-- The value of a number. A whole number that fits is kept exactly; minus zero and all else is a
real. -/
def value (lit : Literal) : Except Defect Number :=
  let s := lit.significand
  match lit.fraction, lit.exponent with
  | none, none =>
    let n := Decimal.value lit.whole
    if !lit.negative && n < UInt64.size then .ok (.natural (.ofNat n))
    else if lit.negative && 0 < n && n ≤ Decimal.signedBound then .ok (.negative (.ofInt (-n)))
    else .real <$> s.toDouble lit.negative
  | _, none => .real <$> s.toDouble lit.negative
  | _, some (down, ds) =>
    let e := Decimal.value ds
    if greatestExponent < e then
      if s.value ≠ 0 ∧ ¬ down then .error .numberOutOfRange
      else .ok (.real (.ofFloat (if lit.negative then -0.0 else 0.0)))
    else
      let shift : Int := if down then -e else e
      .real <$> { s with exponent := s.exponent + shift }.toDouble lit.negative

end Literal

/-! ## Strings -/

/-- One character of a string as it is written, or one half or whole of a `\u` escape. -/
inductive Piece
  | plain (c : Char)
  | escaped (c : Char)
  | unit (u : Nat)
deriving DecidableEq, Repr

/-- How a string ends. -/
inductive StringEnd
  | closed
  | endOfText
  | controlCharacter
  /-- A backslash before a letter that escapes nothing. -/
  | badEscape
  /-- A `\u` without four hexadecimal digits. -/
  | badUnit
deriving DecidableEq, Repr

/-- A string as it is written, without its opening quote. -/
structure Quotation where
  pieces : List Piece
  ending : StringEnd
deriving DecidableEq, Repr

/-- How far an escape has been read. -/
inductive EscapeState
  | none
  | backslash
  /-- In a `\u` escape: the digits so far, and their value. -/
  | unit (count : Nat) (value : Nat)

/-- The character that a letter after a backslash stands for. -/
def unescape : Char → Option Char
  | '"' => some '"'
  | '\\' => some '\\'
  | '/' => some '/'
  | 'b' => some '\x08'
  | 'f' => some '\x0c'
  | 'n' => some '\n'
  | 'r' => some '\r'
  | 't' => some '\t'
  | _ => Option.none

def utf8Length (cs : List Char) : Nat := cs.foldl (fun n c => n + c.utf8Size) 0

/-- Puts a piece before a scanned string. -/
def pushPiece (p : Piece) (scanned : Quotation × List Char) : Quotation × List Char :=
  ({ scanned.1 with pieces := p :: scanned.1.pieces }, scanned.2)

/-- A string after its opening quote, and what follows it. A `\u` that fewer than four bytes
follow is cut off by the end of the text, whatever the bytes are. -/
def scanString : EscapeState → List Char → Quotation × List Char
  | _, [] => (⟨[], .endOfText⟩, [])
  | .none, c :: rest =>
    if c = '"' then (⟨[], .closed⟩, rest)
    else if c = '\\' then scanString .backslash rest
    else if c.toNat < 0x20 then (⟨[], .controlCharacter⟩, [])
    else pushPiece (.plain c) (scanString .none rest)
  | .backslash, c :: rest =>
    if c = 'u' then scanString (.unit 0 0) rest
    else match unescape c with
      | some d => pushPiece (.escaped d) (scanString .none rest)
      | Option.none => (⟨[], .badEscape⟩, [])
  | .unit count value, c :: rest =>
    match Text.hexValue? c with
    | some d =>
      if count = 3 then pushPiece (.unit (16 * value + d)) (scanString .none rest)
      else scanString (.unit (count + 1) (16 * value + d)) rest
    | Option.none =>
      (⟨[], if count + utf8Length (c :: rest) < 4 then .endOfText else .badUnit⟩, [])

/-- Why a string that is not closed cannot be read. -/
def StringEnd.check : StringEnd → Except Defect Unit
  | .closed => .ok ()
  | .endOfText => .error .endInString
  | .controlCharacter => .error .controlCharacter
  | .badEscape => .error .invalidEscape
  | .badUnit => .error .invalidEscape

def isLeadingSurrogate (u : Nat) : Bool := 0xd800 ≤ u && u < 0xdc00

def isTrailingSurrogate (u : Nat) : Bool := 0xdc00 ≤ u && u < 0xe000

/-- The characters that the pieces of a string denote. -/
def decodePieces (ending : StringEnd) : List Piece → Except Defect (List Char)
  | [] => do
    ending.check
    return []
  | .plain c :: rest => (c :: ·) <$> decodePieces ending rest
  | .escaped c :: rest => (c :: ·) <$> decodePieces ending rest
  | .unit u :: .unit v :: rest =>
    if isTrailingSurrogate u then .error .loneSurrogate
    else if isLeadingSurrogate u then
      if isTrailingSurrogate v then
        let c := Char.ofNat (0x10000 + 0x400 * (u - 0xd800) + (v - 0xdc00))
        (c :: ·) <$> decodePieces ending rest
      else .error .loneSurrogate
    else (Char.ofNat u :: ·) <$> decodePieces ending (.unit v :: rest)
  | .unit u :: rest =>
    if isTrailingSurrogate u then .error .loneSurrogate
    else if isLeadingSurrogate u then
      match rest, ending with
      | [], .endOfText => .error .endInString
      | [], .badUnit => .error .invalidEscape
      | _, _ => .error .unpairedSurrogate
    else (Char.ofNat u :: ·) <$> decodePieces ending rest

namespace Quotation

/-- The text of a string. -/
def decode (q : Quotation) : Except Defect String :=
  String.ofList <$> decodePieces q.ending q.pieces

/-- The characters of a string as they are written, up to the first backslash. -/
def rawChars (q : Quotation) : List Char :=
  let rec go : List Piece → List Char
    | .plain c :: rest => c :: go rest
    | .escaped _ :: _ => ['\\']
    | .unit _ :: _ => ['\\']
    | [] => match q.ending with
      | .closed => ['"']
      | .endOfText => []
      | .controlCharacter => ['\x00']
      | .badEscape => ['\\']
      | .badUnit => ['\\']
  go q.pieces

end Quotation

/-! ## Cutting a text -/

inductive Token
  | openBracket
  | closeBracket
  | openBrace
  | closeBrace
  | comma
  | colon
  | null
  | bool (b : Bool)
  | number (lit : Literal)
  | string (q : Quotation)
  /-- A number that is spoilt. -/
  | badNumber (flaw : NumberFlaw)
  /-- A word that starts like `true`, `false` or `null` and goes on otherwise. -/
  | badWord
  /-- The text ends in a word. -/
  | cutWord
  /-- A character that no value starts with. -/
  | stray
deriving DecidableEq, Repr

/-- The rest of a word that has to follow its first letter. -/
def scanWord (token : Token) : (word : List Char) → List Char → Token × List Char
  | [], rest => (token, rest)
  | _ :: _, [] => (.cutWord, [])
  | w :: word, c :: rest => if c = w then scanWord token word rest else (.badWord, [])

def scanNumberToken (cs : List Char) : Token × List Char :=
  match scanNumber cs with
  | (.ok lit, rest) => (.number lit, rest)
  | (.error flaw, _) => (.badNumber flaw, [])

/-- The token that starts with `c`, and what follows it; nothing follows a spoilt one. -/
def scanToken (c : Char) (rest : List Char) : Token × List Char :=
  match c with
  | '[' => (.openBracket, rest)
  | ']' => (.closeBracket, rest)
  | '\x7b' => (.openBrace, rest)
  | '\x7d' => (.closeBrace, rest)
  | ',' => (.comma, rest)
  | ':' => (.colon, rest)
  | 'n' => scanWord .null ['u', 'l', 'l'] rest
  | 't' => scanWord (.bool true) ['r', 'u', 'e'] rest
  | 'f' => scanWord (.bool false) ['a', 'l', 's', 'e'] rest
  | '"' =>
    match scanString .none rest with
    | (q, rest) => (.string q, rest)
  | c => if c = '-' || c.isDigit then scanNumberToken (c :: rest) else (.stray, [])

/-- The blanks that may stand between tokens. -/
def isBlank (c : Char) : Bool := c = ' ' || c = '\n' || c = '\t' || c = '\r'

/-! ### Tokens are shorter than the text -/

theorem length_splitDigits_le (cs : List Char) : (splitDigits cs).2.length ≤ cs.length :=
  (List.dropWhile_suffix _).length_le

theorem length_scanExponent_le (lit : Literal) (cs : List Char) :
    (scanExponent lit cs).2.length ≤ cs.length := by
  unfold scanExponent
  split
  next negative ds h =>
  have hd : ds.length ≤ cs.length := by
    split at h <;> cases h <;> simp
  have := length_splitDigits_le ds
  split <;> simp_all <;> omega

theorem length_scanTail_le (lit : Literal) (cs : List Char) :
    (scanTail lit cs).2.length ≤ cs.length := by
  unfold scanTail
  split
  · exact Nat.le_succ_of_le (length_scanExponent_le _ _)
  · exact Nat.le_succ_of_le (length_scanExponent_le _ _)
  · exact Nat.le_refl _

theorem length_scanFraction_le (lit : Literal) (cs : List Char) :
    (scanFraction lit cs).2.length ≤ cs.length := by
  unfold scanFraction
  split
  · next cs =>
    have h := length_splitDigits_le cs
    split
    · next rest heq => rw [heq] at h; exact Nat.le_succ_of_le h
    · next ds rest _ heq =>
      rw [heq] at h
      exact Nat.le_succ_of_le (Nat.le_trans (length_scanTail_le _ _) h)
  · exact length_scanTail_le _ _

theorem length_scanMagnitude_le (negative : Bool) (cs : List Char) :
    (scanMagnitude negative cs).2.length ≤ cs.length := by
  have h := length_splitDigits_le cs
  unfold scanMagnitude
  split
  · next rest heq => rw [heq] at h; exact h
  · next rest heq => rw [heq] at h; exact Nat.le_trans (length_scanFraction_le _ _) h
  · next rest _ heq => rw [heq] at h; exact h
  · next ds rest _ _ _ heq => rw [heq] at h; exact Nat.le_trans (length_scanFraction_le _ _) h

theorem length_scanString_le (state : EscapeState) (cs : List Char) :
    (scanString state cs).2.length ≤ cs.length := by
  induction cs generalizing state with
  | nil => cases state <;> simp [scanString]
  | cons c rest ih =>
    cases state with
    | none =>
      simp only [scanString]
      split
      · simp
      · split
        · exact Nat.le_succ_of_le (ih _)
        · split
          · simp
          · exact Nat.le_succ_of_le (ih _)
    | backslash =>
      simp only [scanString]
      split
      · exact Nat.le_succ_of_le (ih _)
      · split
        · exact Nat.le_succ_of_le (ih _)
        · simp
    | unit count value =>
      simp only [scanString]
      split
      · split <;> exact Nat.le_succ_of_le (ih _)
      · simp

theorem length_scanWord_le (token : Token) (word cs : List Char) :
    (scanWord token word cs).2.length ≤ cs.length := by
  induction word generalizing cs with
  | nil => simp [scanWord]
  | cons w word ih =>
    cases cs with
    | nil => simp [scanWord]
    | cons c rest =>
      simp only [scanWord]
      split
      · exact Nat.le_succ_of_le (ih _)
      · simp

/-- A number takes at least the character it starts with. -/
theorem length_scanNumberToken_le (c : Char) (rest : List Char)
    (h : c = '-' ∨ c.isDigit = true) : (scanNumberToken (c :: rest)).2.length ≤ rest.length := by
  have key : ∀ lit out, scanNumber (c :: rest) = (.ok lit, out) → out.length ≤ rest.length := by
    intro lit out heq
    unfold scanNumber at heq
    split at heq
    · next cs hcs =>
      cases hcs
      exact (congrArg Prod.snd heq ▸ length_scanMagnitude_le true _ :)
    · next cs hne =>
      have hc : c.isDigit = true := h.resolve_left (fun hc => hne rest (by rw [hc]))
      have hs : (splitDigits (c :: rest)).2.length ≤ rest.length := by
        simp only [splitDigits, List.dropWhile_cons, hc, if_true]
        exact (List.dropWhile_suffix _).length_le
      unfold scanMagnitude at heq
      split at heq
      · simp at heq
      · next r hr =>
        rw [hr] at hs
        exact Nat.le_trans (congrArg Prod.snd heq ▸ length_scanFraction_le _ _ :) hs
      · simp at heq
      · next ds r _ _ _ hr =>
        rw [hr] at hs
        exact Nat.le_trans (congrArg Prod.snd heq ▸ length_scanFraction_le _ _ :) hs
  unfold scanNumberToken
  split
  · next lit out heq => exact key lit out heq
  · simp

theorem length_scanToken_le (c : Char) (rest : List Char) :
    (scanToken c rest).2.length ≤ rest.length := by
  unfold scanToken
  split
  all_goals first
    | exact Nat.le_refl _
    | exact length_scanWord_le _ _ _
    | skip
  · exact length_scanString_le _ _
  · split
    · next h =>
      exact length_scanNumberToken_le _ _ (by simpa using h)
    · simp

/-- The tokens of a text. -/
def tokens : List Char → List Token
  | [] => []
  | c :: rest =>
    if isBlank c then tokens rest
    else (scanToken c rest).1 :: tokens (scanToken c rest).2
termination_by cs => cs.length
decreasing_by
  · simp
  · exact Nat.lt_succ_of_le (length_scanToken_le c rest)

end StationBench.Json
