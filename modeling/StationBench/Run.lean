import StationBench.Bench.Trace
import StationBench.Log
import StationBench.Report
import StationBench.Settings
/-!
# Runs

A run goes through the tests of a suite in order. Before each test it takes a reading, whether it
was cancelled and how much time has gone by, and the reading may stop it (`Settings.stop?`). A test
that is not selected is skipped; any other runs on a bench of its own. The report and the log of a
run are views of its visits to tests: `Run.report` and `Run.records`.
-/
namespace StationBench

/-! ## One test -/

/-- What a run makes of one test. -/
inductive Visit
  | skipped (test : Test)
  /-- The test ran with a seed, and its state is reported if `dumped`. -/
  | ran (test : Test) (seed : UInt64) (dumped : Bool) (trace : Trace)

/-- The settings of a suite's benches. -/
def Suite.rig (suite : Suite) (settings : Settings) : Rig :=
  { inventory := suite.toInventory, range := settings.range, pacing := settings.pacing }

/-- Runs a test with a seed. -/
def Test.run (t : Test) (rig : Rig) (continueOnFailure : Bool) (seed : UInt64) : Trace :=
  .run rig { sleepBetween := t.sleepBetween, continueOnFailure } 0 t.steps (.start rig seed)

/-- Runs a test of a suite with a seed. -/
def Suite.perform (suite : Suite) (settings : Settings) (test : Test) (seed : UInt64) : Visit :=
  .ran test seed suite.dumpStateAfterTest
    (test.run (suite.rig settings) settings.continueOnFailure seed)

/-- What a run makes of the test at an index. -/
def Suite.visit (suite : Suite) (settings : Settings) (index : Nat) (test : Test) : Visit :=
  if settings.selects test.name then
    suite.perform settings test (testSeed settings.seed index settings.perTestSeed test.seed)
  else .skipped test

namespace Entry

def record (e : Entry) : StepRecord :=
  { index := e.index, type := e.step.type, ok := e.fault?.isNone, message := e.text }

def failure? (e : Entry) : Option Failure :=
  e.fault?.map fun fault => { index := e.index, type := e.step.type, fault }

end Entry

namespace Failure

/-- A failed step after the name of its test, as a log shows it. -/
def warning (test : String) (f : Failure) : LogRecord :=
  ⟨.warn, "Test '" ++ test ++ "' step " ++ Decimal.text f.index ++ " (" ++ f.type ++ ") failed: " ++
    f.fault.text⟩

/-- A failed step in the list of failures at the end of a log. -/
def error (test : String) (f : Failure) : LogRecord :=
  ⟨.error, "'" ++ test ++ "' step " ++ Decimal.text f.index ++ " (" ++ f.type ++ "): " ++
    f.fault.text⟩

end Failure

def Trace.failures (t : Trace) : List Failure := t.entries.filterMap Entry.failure?

def Trace.status (t : Trace) : Status := if t.failed then .failed else .passed

namespace Visit

def report : Visit → TestReport
  | .skipped test => { name := test.name, status := .skipped }
  | .ran test seed dumped trace =>
    { name := test.name
      status := trace.status
      seed := some seed
      clock := trace.bench.clock.now
      steps := trace.entries.map Entry.record
      failures := trace.failures
      dump := if dumped then some trace.bench.dump else none }

/-- What a visit tells the log, but for the time on the wall that the test took. -/
def records : Visit → List LogRecord
  | .skipped _ => []
  | .ran test _ _ trace =>
    ⟨.info, "Test '" ++ test.name ++ "' (" ++ Decimal.text test.steps.length ++ " steps)"⟩ ::
      trace.failures.map (Failure.warning test.name) ++
      [⟨.info, "Test '" ++ test.name ++ "' " ++ trace.status.text ++ " at logical " ++
        Decimal.text trace.bench.clock.now.toNat ++ " ms"⟩]

/-- The time on the wall that was spent waiting, in milliseconds. -/
def waited : Visit → Nat
  | .skipped _ => 0
  | .ran _ _ _ trace => trace.bench.clock.waited

end Visit

/-! ## All tests -/

/-- What a run finds out before a test. -/
structure Reading where
  cancelled : Bool
  /-- The time since the start of the run, in nanoseconds. -/
  elapsed : Nat
deriving DecidableEq, Repr

/-- Why a run stops early. -/
inductive Stop
  | cancelled
  | timedOut (timeout : Millis)
deriving DecidableEq, Repr

/-- Whether a reading stops a run; being cancelled comes before running out of time. -/
def Settings.stop? (s : Settings) (r : Reading) : Option Stop :=
  if r.cancelled then some .cancelled
  else s.timeout.bind fun timeout =>
    if timeout.toNat * 1000000 ≤ r.elapsed then some (.timedOut timeout) else none

/-- A run that stopped early, before the test of a name. -/
structure Interruption where
  stop : Stop
  before : String
deriving DecidableEq, Repr

def Interruption.record (i : Interruption) : LogRecord :=
  ⟨.warn, match i.stop with
    | .cancelled => "Run cancelled before test '" ++ i.before ++ "'"
    | .timedOut timeout =>
      "Run timed out after " ++ Duration.describe timeout ++ " before test '" ++ i.before ++ "'"⟩

structure Run where
  /-- The seed that the run was started with. -/
  seed : UInt64
  /-- The number of tests in the suite. -/
  planned : Nat
  visits : List Visit
  interruption : Option Interruption

/-- Visits the tests from the one at `index` on, as long as the readings let it. -/
def Suite.visits (suite : Suite) (settings : Settings) (readings : Nat → Reading) :
    (index : Nat) → List Test → List Visit × Option Interruption
  | _, [] => ([], none)
  | index, test :: rest =>
    match settings.stop? (readings index) with
    | some stop => ([], some { stop, before := test.name })
    | none =>
      let (later, interruption) := suite.visits settings readings (index + 1) rest
      (suite.visit settings index test :: later, interruption)

/-- Runs a suite, given the reading before the test at each index. -/
def Suite.run (suite : Suite) (settings : Settings) (readings : Nat → Reading) : Run :=
  let (visits, interruption) := suite.visits settings readings 0 suite.tests
  { seed := settings.seed, planned := suite.tests.length, visits, interruption }

/-- The readings of a run that takes no time but for the waiting, and waits in real time only. -/
def Suite.idealReadings (suite : Suite) (settings : Settings) (cancelled : Bool) (index : Nat) :
    Reading :=
  let waited : Nat := match settings.pacing with
    | .compressed => 0
    | .realtime =>
      (suite.tests.zipIdx.take index).foldl
        (fun total (test, i) => total + (suite.visit settings i test).waited) 0
  { cancelled, elapsed := waited * 1000000 }

namespace Run

def report (r : Run) : RunReport :=
  .ofTests r.seed r.interruption.isSome (r.visits.map Visit.report)

/-- The first record of a run. -/
def opening (planned : Nat) (seed : UInt64) : LogRecord :=
  ⟨.info, "Starting " ++ Decimal.text planned ++ " tests with seed " ++ Decimal.text seed.toNat⟩

/-- The last record of a run. -/
def closing (r : RunReport) : LogRecord :=
  ⟨.info, "Finished: " ++ Decimal.text r.passed ++ " passed, " ++ Decimal.text r.failed ++
    " failed, " ++ Decimal.text r.skipped ++ " skipped" ++
    (if r.interrupted then " (interrupted)" else "")⟩

/-- What a run tells the log. -/
def records (r : Run) : List LogRecord :=
  opening r.planned r.seed :: r.visits.flatMap Visit.records ++
    r.interruption.toList.map Interruption.record ++ [closing r.report]

end Run

end StationBench
