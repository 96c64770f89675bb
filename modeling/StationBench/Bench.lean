import StationBench.Clock
import StationBench.Draw.TimeRange
import StationBench.Station
import StationBench.Suite
/-!
# The bench

A test runs on a bench: a station with a clock, a source of random times, and a record of what the
station sent and of the buttons that were held. Every test gets a new bench (`Bench.start`). What
all tests of a run share, the suite's inventory, the range of random times and the pacing, is the
`Rig` that the bench stands in.
-/
namespace StationBench

/-- A button that was held. -/
structure PressEvent where
  name : String
  action : ButtonAction
  pressedAt : Millis
  heldFor : Millis
deriving DecidableEq, Repr

structure Bench where
  station : Station := .idle
  clock : Clock
  draws : Draws
  /-- All that the station sent, in order. -/
  outbox : List Message := []
  presses : List PressEvent := []
deriving DecidableEq, Repr

/-- What the tests of a run share. -/
structure Rig where
  inventory : Inventory
  range : TimeRange
  pacing : Pacing
deriving DecidableEq

namespace Bench

/-- A bench on which nothing happened yet. -/
def start (rig : Rig) (seed : UInt64) : Bench :=
  { clock := .start rig.pacing, draws := { seed } }

/-- Lets time pass. -/
def wait (b : Bench) (ms : Millis) : Bench := { b with clock := b.clock.advance ms }

end Bench

/-! ## What is left of a bench -/

/-- All that can be told about a bench after a test. -/
structure StateDump where
  snapshot : Snapshot
  lastSnapshot : Option Snapshot
  clock : Millis
  presses : List PressEvent
  sent : List Message
  draws : List Millis
deriving DecidableEq, Repr

def Bench.dump (b : Bench) : StateDump where
  snapshot := b.station.snapshot
  lastSnapshot := b.station.lastSnapshot
  clock := b.clock.now
  presses := b.presses
  sent := b.outbox
  draws := b.draws.drawn

def PressEvent.toJson (p : PressEvent) : Json.Value :=
  .object
    [("name", .string p.name), ("action", p.action.toJson), ("pressedAt", .ofUInt64 p.pressedAt),
      ("heldMs", .ofUInt64 p.heldFor)]

def StateDump.toJson (d : StateDump) : Json.Value :=
  .object
    [("snapshot", d.snapshot.toJson), ("lastSnapshot", .ofOption Snapshot.toJson d.lastSnapshot),
      ("clockMs", .ofUInt64 d.clock), ("buttonEvents", .ofList PressEvent.toJson d.presses),
      ("sent", .ofList Message.toJson d.sent), ("rngDraws", .ofList .ofUInt64 d.draws)]

end StationBench
