import StationBench.Json.Value
import StationBench.Toml.Text
/-!
# Numbers of a TOML text

Whole numbers of 64 bits with a sign, in decimal, hexadecimal, octal or binary digits, and reals,
which have a fraction or an exponent or a name. Underscores may stand between digits, and a plus
sign may stand before any number.
-/
namespace StationBench.Toml

open Json (Number)

/-- Whether a list of digits and underscores has a digit on either side of every underscore. -/
def isSpaced : List Char → Bool
  | [] => false
  | ['_'] => false
  | [_] => true
  | '_' :: _ => false
  | _ :: '_' :: rest => isSpaced rest
  | _ :: rest => isSpaced rest

/-- Digits with underscores between them, without these. -/
def digitRun (isDigit : Char → Bool) (cs : List Char) : Option (List Char × List Char) :=
  let run := cs.takeWhile fun c => isDigit c || c = '_'
  if isSpaced run then
    some (run.filter (· ≠ '_'), cs.dropWhile fun c => isDigit c || c = '_')
  else none

/-- Decimal digits without a needless zero in front. -/
def wholeDigits (cs : List Char) : Option (List Char × List Char) :=
  match digitRun Char.isDigit cs with
  | some ('0' :: _ :: _, _) => none
  | result => result

def splitMinus : List Char → Bool × List Char
  | '-' :: rest => (true, rest)
  | cs => (false, cs)

/-! ## Whole numbers -/

/-- A whole number of 64 bits with a sign. -/
def integer? (negative : Bool) (n : Nat) : Option Number :=
  if n < Decimal.signedBound ∨ (negative ∧ n = Decimal.signedBound) then
    some (.ofInt64 (.ofInt (if negative then -(n : Int) else n)))
  else none

/-- A whole number in digits of a radix, which are a word to its end. -/
def radixInteger? (radix : Nat) (word : List Char) : Option Number :=
  match digitRun (fun c => (Text.hexValue? c).any (· < radix)) word with
  | some (ds, []) =>
    integer? false (ds.foldl (fun n c => radix * n + (Text.hexValue? c).getD 0) 0)
  | _ => none

/-- A whole number in decimal digits, which are a word to its end. -/
def decimalInteger? (word : List Char) : Option Number :=
  let (negative, ds) := splitMinus word
  match wholeDigits ds with
  | some (ds, []) => integer? negative (Decimal.value ds)
  | _ => none

/-! ## Reals -/

/-- The real `n · 10 ^ e`, unless it is too great. -/
def real? (negative : Bool) (n : Nat) (e : Int) : Option Number :=
  let lead : Int := (Decimal.digits n).length + e
  let magnitude : Float :=
    if n = 0 ∨ lead < -330 then 0.0 else Float.ofScientific n (e < 0) e.natAbs
  if n ≠ 0 ∧ 310 < lead ∨ magnitude.isInf then none
  else some (.real (.ofFloat (if negative then -magnitude else magnitude)))

/-- The exponent after what goes before it in a word, and what follows the word. A plus sign ends
the word of the exponent's letter, and its digits are a word of their own. -/
def exponent? (tail after : List Char) : Option (Int × List Char) :=
  let isMark (c : Char) : Bool := c = 'e' || c = 'E'
  match tail with
  | [] => some (0, after)
  | c :: tail =>
    if !isMark c then none
    else if tail.isEmpty then
      match after with
      | '+' :: after =>
        let (word, after) := splitWord after
        match digitRun Char.isDigit word with
        | some (ds, []) => some (Decimal.value ds, after)
        | _ => none
      | _ => none
    else
      let (negative, ds) := splitMinus tail
      match digitRun Char.isDigit ds with
      | some (ds, []) =>
        let e : Int := Decimal.value ds
        some (if negative then -e else e, after)
      | _ => none

/-- A real that begins with a word; if a fraction follows, its digits are at the start of a word of
their own. -/
def real (word : List Char) (fraction? : Option (List Char)) (after : List Char) :
    Option (Number × List Char) := do
  let (negative, ds) := splitMinus word
  let (whole, tail) ← wholeDigits ds
  let (fraction, tail) ← match fraction? with
    | none => some ([], tail)
    | some word => if tail.isEmpty then digitRun Char.isDigit word else none
  let (exponent, after) ← exponent? tail after
  return (← real? negative (Decimal.value (whole ++ fraction)) (exponent - fraction.length), after)

/-- The reals that have a name. -/
def namedReal? (word : List Char) : Option Double :=
  match String.ofList word with
  | "inf" => some ⟨0x7ff0000000000000⟩
  | "-inf" => some ⟨0xfff0000000000000⟩
  | "nan" => some ⟨0x7ff8000000000000⟩
  | "-nan" => some ⟨0xfff8000000000000⟩
  | _ => none

/-! ## Numbers -/

/-- A number that begins with a word, and what follows the word. -/
def number (word after : List Char) : Option (Number × List Char) :=
  let whole (n : Option Number) : Option (Number × List Char) := n.map fun n => (n, after)
  match word with
  | '0' :: 'x' :: ds => whole (radixInteger? 16 ds)
  | '0' :: 'o' :: ds => whole (radixInteger? 8 ds)
  | '0' :: 'b' :: ds => whole (radixInteger? 2 ds)
  | word =>
    if word.any fun c => c = 'e' || c = 'E' then real word none after
    else match after with
      | '.' :: after =>
        let (fraction, after) := splitWord after
        real word (some fraction) after
      | after =>
        match namedReal? word with
        | some x => some (.real x, after)
        | none => whole (decimalInteger? word)

end StationBench.Toml
