import StationBench.Decimal.Natural
/-!
# Double-precision numbers

A number of the binary64 format, held as its 64 bits, so that two are equal exactly when their
bits are (minus zero differs from zero). Arithmetic goes through `Float`; what is said about a
number, its sign and its exact value, is read off the bits.
-/
namespace StationBench

structure Double where
  bits : UInt64
deriving DecidableEq, Repr

namespace Double

def ofFloat (x : Float) : Double := ⟨x.toBits⟩

def toFloat (x : Double) : Float := Float.ofBits x.bits

def isNegative (x : Double) : Bool := x.bits >>> 63 == 1

/-- The eleven exponent bits. -/
def exponentBits (x : Double) : Nat := ((x.bits >>> 52) &&& 0x7ff).toNat

/-- The fifty-two fraction bits. -/
def fractionBits (x : Double) : Nat := (x.bits &&& 0xfffffffffffff).toNat

def isNaN (x : Double) : Bool := x.exponentBits == 0x7ff && x.fractionBits != 0

def isInfinite (x : Double) : Bool := x.exponentBits == 0x7ff && x.fractionBits == 0

def isZero (x : Double) : Bool := x.exponentBits == 0 && x.fractionBits == 0

/-- The whole number `m` of a finite magnitude `m · 2 ^ q`. -/
def mantissa (x : Double) : Nat :=
  if x.exponentBits == 0 then x.fractionBits else 0x10000000000000 + x.fractionBits

/-- The exponent `q` of a finite magnitude `m · 2 ^ q`. -/
def exponent (x : Double) : Int :=
  if x.exponentBits == 0 then -1074 else (x.exponentBits : Int) - 1075

/-- Whether the next magnitude below lies half as far away as the next one above. -/
def isNarrowBelow (x : Double) : Bool := x.fractionBits == 0 && 1 < x.exponentBits

/-- The nearest whole number, halves away from zero, kept within 64 signed bits; what is not a
number counts as zero. -/
def roundToInt64 (x : Double) : Int64 :=
  if x.isNaN then 0
  else
    let magnitude : Nat :=
      if x.isInfinite then UInt64.size
      else if 0 ≤ x.exponent then x.mantissa * Nat.pow 2 x.exponent.toNat
      else
        let unit := Nat.pow 2 (-x.exponent).toNat
        (2 * x.mantissa + unit) / (2 * unit)
    if x.isNegative then .ofInt (-(min magnitude Decimal.signedBound : Nat))
    else .ofInt (min magnitude (Decimal.signedBound - 1) : Nat)

end Double

end StationBench
