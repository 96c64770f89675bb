import StationBench.Bench
/-!
# Reports

The outcome of a run, test by test, and how many tests passed, failed and were skipped. A run that
was stopped before its last test is interrupted. `RunReport.allPassed` is the verdict: nothing
failed and nothing was left out.
-/
namespace StationBench

inductive Status
  | passed
  | failed
  /-- The test was not selected. -/
  | skipped
deriving DecidableEq, Repr

namespace Status

def name : Status → String
  | .passed => "Passed"
  | .failed => "Failed"
  | .skipped => "Skipped"

def ofName? (s : String) : Option Status :=
  [passed, failed, skipped].find? (·.name = s)

/-- A status in the middle of a sentence. -/
def text : Status → String
  | .passed => "passed"
  | .failed => "failed"
  | .skipped => "skipped"

end Status

/-- An executed step. -/
structure StepRecord where
  index : Nat
  type : String
  ok : Bool
  /-- What the step did, or why it failed. -/
  message : String
deriving DecidableEq, Repr

/-- The record of a step that failed. -/
def StepRecord.failed (index : Nat) (type : String) (fault : StepFault) : StepRecord :=
  { index, type, ok := false, message := fault.text }

/-- The record of a step that did what it should. -/
def StepRecord.passed (index : Nat) (type message : String) : StepRecord :=
  { index, type, ok := true, message }

/-- A failed step. -/
structure Failure where
  index : Nat
  type : String
  fault : StepFault
deriving DecidableEq, Repr

structure TestReport where
  name : String
  status : Status
  seed : Option UInt64 := none
  /-- The logical time at which the test stopped. -/
  clock : Millis := 0
  steps : List StepRecord := []
  failures : List Failure := []
  dump : Option StateDump := none
deriving DecidableEq, Repr

structure RunReport where
  seed : UInt64
  interrupted : Bool := false
  passed : Nat := 0
  failed : Nat := 0
  skipped : Nat := 0
  tests : List TestReport := []
deriving DecidableEq, Repr

namespace RunReport

/-- Adds the report of one more test. -/
def push (r : RunReport) (t : TestReport) : RunReport :=
  { r with
    passed := if t.status = .passed then r.passed + 1 else r.passed
    failed := if t.status = .failed then r.failed + 1 else r.failed
    skipped := if t.status = .skipped then r.skipped + 1 else r.skipped
    tests := r.tests ++ [t] }

def interrupt (r : RunReport) : RunReport := { r with interrupted := true }

/-- The report of a run of these tests. -/
def ofTests (seed : UInt64) (interrupted : Bool) (tests : List TestReport) : RunReport :=
  tests.foldl push { seed, interrupted }

/-- Whether nothing failed and nothing was left out. -/
def allPassed (r : RunReport) : Bool := r.failed = 0 && !r.interrupted

end RunReport

end StationBench
