import StationBench.Bench.Execute
/-!
# Traces of tests

A trace lists the steps of a test that were executed, with their places in the test and what came
of each, and ends with the bench as the last step left it. Between two steps the bench waits. A
step that fails ends the trace, unless the test goes on after failures.
-/
namespace StationBench

/-- One executed step. -/
structure Entry where
  index : Nat
  step : Step
  result : Except StepFault Note

namespace Entry

/-- Why the step failed, if it did. -/
def fault? (e : Entry) : Option StepFault :=
  match e.result with
  | .ok _ => none
  | .error fault => some fault

/-- What the step did, or why it failed, in words. -/
def text (e : Entry) : String :=
  match e.result with
  | .ok note => note.text
  | .error fault => fault.text

end Entry

/-- How a test goes on. -/
structure Flow where
  /-- The time between two steps. -/
  sleepBetween : Millis
  continueOnFailure : Bool
deriving DecidableEq, Repr

namespace Flow

/-- The bench when it is the turn of the step at `index`: between two steps it waits. -/
def ready (flow : Flow) (index : Nat) (b : Bench) : Bench :=
  if index = 0 then b else b.wait flow.sleepBetween

/-- Whether a test ends with an entry. -/
def stops (flow : Flow) (e : Entry) : Bool := e.fault?.isSome && !flow.continueOnFailure

end Flow

structure Trace where
  entries : List Entry
  /-- The bench after the last step. -/
  bench : Bench

namespace Trace

/-- A trace with one more entry in front. -/
def cons (e : Entry) (t : Trace) : Trace := ⟨e :: t.entries, t.bench⟩

/-- Executes the step at `index`: its entry, and the bench afterwards. -/
def turn (rig : Rig) (flow : Flow) (index : Nat) (step : Step) (b : Bench) : Entry × Bench :=
  let (result, after) := (flow.ready index b).execute rig step
  ({ index, step, result }, after)

/-- Executes the steps of a test from the one at `index` on. -/
def run (rig : Rig) (flow : Flow) : (index : Nat) → List Step → Bench → Trace
  | _, [], b => ⟨[], b⟩
  | index, step :: rest, b =>
    let (entry, after) := turn rig flow index step b
    if flow.stops entry then ⟨[entry], after⟩
    else (run rig flow (index + 1) rest after).cons entry

/-- Whether any step failed. -/
def failed (t : Trace) : Bool := t.entries.any (·.fault?.isSome)

end Trace

end StationBench
