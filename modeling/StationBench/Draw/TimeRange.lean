import StationBench.Duration
import StationBench.Draw.Keystream
/-!
# Random solve times

A random time is uniform in a range of times with both ends included, and depends only on the
range, the seed of the test and the number of draws before it. `TimeRange.pick` makes a time of a
word of 64 bits, or refuses the word: the word is multiplied by the number of times in the range,
the high half of the product counts from the least time, and the low half must not exceed a bound
that leaves every time the same number of words. A draw takes the first word of its keystream that
is not refused.
-/
namespace StationBench

/-- The times from `least` to `greatest`. -/
structure TimeRange where
  least : Millis
  greatest : Millis
  least_le_greatest : least ≤ greatest
deriving DecidableEq

namespace TimeRange

/-- The range between two times, given in either order. -/
def between (a b : Millis) : TimeRange :=
  if h : a ≤ b then ⟨a, b, h⟩
  else ⟨b, a, by rw [UInt64.le_iff_toNat_le] at h ⊢; omega⟩

/-- The number of times in a range, which is 2⁶⁴, and so zero, for all of them. -/
def width (r : TimeRange) : UInt64 := r.greatest - r.least + 1

/-- The greatest low half of a product for which a word is taken. -/
def zone (r : TimeRange) : UInt64 :=
  (r.width <<< (63 - r.width.log2)) - 1

/-- The time that a word makes, unless the word is refused. -/
def pick (r : TimeRange) (word : UInt64) : Option Millis :=
  if r.width = 0 then some word
  else
    let product := word.toNat * r.width.toNat
    if product % UInt64.size ≤ r.zone.toNat then
      some (r.least + .ofNat (product / UInt64.size))
    else none

/-- The first time that the blocks from one on make; `count` blocks are looked at, and if they make
none, it is the least time. -/
def firstPick (r : TimeRange) (seed stream : UInt64) : (count : Nat) → (counter : UInt64) → Millis
  | 0, _ => r.least
  | count + 1, counter =>
    match (Keystream.words seed stream counter).findSome? r.pick with
    | some t => t
    | none => firstPick r seed stream count (counter + 1)

/-- The draw of a seed with a number of draws before it: the first time that 1024 blocks make. To
look at more blocks changes nothing unless all their 8192 words are refused. -/
def draw (r : TimeRange) (seed call : UInt64) : Millis := r.firstPick seed call 1024 0

end TimeRange

/-- The draws of one test. -/
structure Draws where
  seed : UInt64
  drawn : List Millis := []
deriving DecidableEq, Repr

/-- Draws one more time. -/
def Draws.next (d : Draws) (range : TimeRange) : Millis × Draws :=
  let t := range.draw d.seed (.ofNat d.drawn.length)
  (t, { d with drawn := d.drawn ++ [t] })

/-- The seed of the test at an index: its own, else that of the run, to which the index is added
if every test is to have another. -/
def testSeed (runSeed : UInt64) (index : Nat) (perTest : Bool) : (own : Option UInt64) → UInt64
  | some seed => seed
  | none => if perTest then runSeed + .ofNat index else runSeed

end StationBench
