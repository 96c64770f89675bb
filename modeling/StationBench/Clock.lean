import StationBench.Duration
/-!
# The logical clock

Every test has a clock of its own, in milliseconds, that starts at zero and only moves when the
test waits. It stops at the greatest time. Under realtime pacing a wait also takes that long on
the wall, which the clock adds up in `waited`; nothing else depends on the pacing.
-/
namespace StationBench

/-- How waits of a test map onto the time on the wall. -/
inductive Pacing
  /-- Waits only move the logical clock. -/
  | compressed
  /-- Waits take as long as they say. -/
  | realtime
deriving DecidableEq, Repr

def Pacing.name : Pacing → String
  | .compressed => "Compressed"
  | .realtime => "Realtime"

/-- The sum of two times, at most the greatest time. -/
def Millis.addCapped (a b : Millis) : Millis :=
  .ofNat (min (a.toNat + b.toNat) Duration.greatest)

structure Clock where
  now : Millis := 0
  pacing : Pacing := .compressed
  /-- The time on the wall that was spent waiting, in milliseconds. -/
  waited : Nat := 0
deriving DecidableEq, Repr

namespace Clock

def start (pacing : Pacing) : Clock := { pacing }

def advance (c : Clock) (ms : Millis) : Clock :=
  { c with
    now := c.now.addCapped ms
    waited := match c.pacing with
      | .compressed => c.waited
      | .realtime => c.waited + ms.toNat }

end Clock

end StationBench
