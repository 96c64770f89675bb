import StationBench.Json.Record
/-!
# Penalties

A penalty attached to a solve. Documents write it as an integer; every integer of 64 bits is some
penalty, and `toInt64` gives it back.
-/
namespace StationBench

inductive Penalty
  | none
  | plusTwo
  /-- Did not finish. -/
  | dnf
  /-- Did not start. -/
  | dns
  /-- Any other integer, kept as it is. -/
  | other (value : Int64)
deriving DecidableEq, Repr

namespace Penalty

def ofInt64 (i : Int64) : Penalty :=
  if i = 0 then .none
  else if i = 2 then .plusTwo
  else if i = -1 then .dnf
  else if i = -2 then .dns
  else .other i

def toInt64 : Penalty → Int64
  | .none => 0
  | .plusTwo => 2
  | .dnf => -1
  | .dns => -2
  | .other i => i

/-- The penalty that the penalty button gives next. -/
def cycle : Penalty → Penalty
  | .none => .plusTwo
  | .plusTwo => .dnf
  | .dnf | .dns | .other _ => .none

def text : Penalty → String
  | .none => "none"
  | .plusTwo => "+2"
  | .dnf => "DNF"
  | .dns => "DNS"
  | .other i => (if 0 < i then "+" else "") ++ Decimal.signedText i.toInt

def toJson (p : Penalty) : Json.Value := .ofInt64 p.toInt64

def read : Json.Reader Penalty := fun o => ofInt64 <$> Json.Reader.int64 o

def ofValue (v : Json.Value) : Except Json.Fault Penalty := ofInt64 <$> v.readInt64

theorem toInt64_ofInt64 (i : Int64) : (ofInt64 i).toInt64 = i := by
  unfold ofInt64
  split
  · next h => exact h.symm
  split
  · next h => exact h.symm
  split
  · next h => exact h.symm
  split
  · next h => exact h.symm
  rfl

end Penalty

end StationBench
