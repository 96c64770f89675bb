import StationBench.Decimal.Double
import StationBench.Decimal.Natural
/-!
# The shortest decimal that reads back

Between a double-precision number and its neighbours lies an interval of reals that all round to
it. `shortest` finds the decimal with the fewest digits in that interval, and among those the one
nearest to the number, by exact arithmetic on whole numbers: on the grid of each digit count only
the two points around the number have to be looked at. `FloatStyle` says how the digits are then
laid out, and `Double.chars` does it.
-/
namespace StationBench

/-- The number `digits · 10 ^ exponent`. -/
structure Scientific where
  digits : Nat
  exponent : Int
deriving DecidableEq, Repr

/-- The reals that round to a positive number `num / den`: from `low / den` to `high / den`, the
ends included if `closed`. -/
structure RoundingInterval where
  num : Nat
  den : Nat
  low : Nat
  high : Nat
  closed : Bool

namespace Double

/-- The interval of a positive finite number, in quarters of its last place. -/
def interval (x : Double) : RoundingInterval :=
  let up := Nat.pow 2 x.exponent.toNat
  let m := 4 * x.mantissa
  { num := m * up
    den := 4 * Nat.pow 2 (-x.exponent).toNat
    low := (m - if x.isNarrowBelow then 1 else 2) * up
    high := (m + 2) * up
    closed := x.mantissa % 2 == 0 }

end Double

namespace RoundingInterval

/-- Whether `point / den` lies in the interval scaled by `scale`. -/
def holds (i : RoundingInterval) (scale point : Nat) : Bool :=
  if i.closed then i.low * scale ≤ point && point ≤ i.high * scale
  else i.low * scale < point && point < i.high * scale

/-- The exponent of the leading decimal digit of `num / den`, for numbers above `10 ^ -400`. -/
def magnitude (i : RoundingInterval) : Int :=
  ((Decimal.digits (i.num * Nat.pow 10 400 / i.den)).length : Int) - 401

/-- The point of the grid of `10 ^ e` that lies in the interval and is nearest to the number; of
two equally near ones the even one. -/
def onGrid (i : RoundingInterval) (e : Int) : Option Nat :=
  let scale := Nat.pow 10 (-e).toNat
  let a := i.num * scale
  let b := i.den * Nat.pow 10 e.toNat
  let d := a / b
  let below := i.holds scale (d * b)
  let above := i.holds scale ((d + 1) * b)
  if below && above then
    let toBelow := a - d * b
    let toAbove := (d + 1) * b - a
    if toBelow < toAbove || (toBelow == toAbove && d % 2 == 0) then some d else some (d + 1)
  else if below then some d
  else if above then some (d + 1)
  else none

/-- Looks for a point with ever more digits; `count` more digit counts are tried. -/
def search (i : RoundingInterval) : (count : Nat) → (e : Int) → Scientific
  | 0, e => ⟨i.num * Nat.pow 10 (-e).toNat / (i.den * Nat.pow 10 e.toNat), e⟩
  | count + 1, e =>
    match i.onGrid e with
    | some d => ⟨d, e⟩
    | none => i.search count (e - 1)

end RoundingInterval

/-- Moves trailing zeros of the digits into the exponent; `count` zeros at most. -/
def Scientific.trim : (count : Nat) → Scientific → Scientific
  | 0, s => s
  | count + 1, s =>
    if s.digits % 10 == 0 then trim count ⟨s.digits / 10, s.exponent + 1⟩ else s

/-- The shortest decimal of a positive finite number. -/
def Double.shortest (x : Double) : Scientific :=
  (x.interval.search 17 x.interval.magnitude).trim 18

/-- The decisions of a number format: the exponents of the leading digit that are written without
an exponent, and whether a whole number keeps a `.0`. -/
structure FloatStyle where
  positionalFrom : Int
  positionalTo : Int
  pointZero : Bool

/-- JSON texts write the exponents from -5 to 15 positionally. -/
def FloatStyle.json : FloatStyle := ⟨-5, 15, true⟩

/-- Messages about settings write every number positionally, with a point. -/
def FloatStyle.pointed : FloatStyle := ⟨-400, 400, true⟩

/-- A number given for a text is written positionally, with a point only if it needs one. -/
def FloatStyle.plain : FloatStyle := ⟨-400, 400, false⟩

/-- The digits of a positive number in a style. -/
def Scientific.layOut (style : FloatStyle) (s : Scientific) : List Char :=
  let ds := Decimal.digits s.digits
  let lead : Int := s.exponent + ds.length - 1
  if style.positionalFrom ≤ lead && lead ≤ style.positionalTo then
    if 0 ≤ s.exponent then
      ds ++ List.replicate s.exponent.toNat '0' ++ if style.pointZero then ['.', '0'] else []
    else if 0 ≤ lead then
      ds.take (lead + 1).toNat ++ '.' :: ds.drop (lead + 1).toNat
    else '0' :: '.' :: List.replicate (-lead - 1).toNat '0' ++ ds
  else
    let fraction := match ds.drop 1 with
      | [] => []
      | rest => '.' :: rest
    ds.take 1 ++ fraction ++ ['e', if lead < 0 then '-' else '+'] ++ Decimal.digits lead.natAbs

/-- A number as text, in a style. -/
def Double.chars (style : FloatStyle) (x : Double) : List Char :=
  if x.isNaN then ['N', 'a', 'N']
  else
    let magnitude :=
      if x.isInfinite then ['i', 'n', 'f']
      else if x.isZero then '0' :: if style.pointZero then ['.', '0'] else []
      else x.shortest.layOut style
    if x.isNegative then '-' :: magnitude else magnitude

end StationBench
