import StationBench.Proofs.Run
import StationBench.Proofs.SnapshotCheck
import StationBench.Report.Draft
/-!
# Runs as loops

`Suite.run` first finds out what becomes of every test, and its report and its log are views of
that. Here a run goes on as it does in practice: test by test and step by step, with a log that is
told of everything as it happens, captures and reports that fail among it. Both come to the same
report and the same log (`Suite.run_loop`), so that nothing of what may go wrong on the way ever
does.
-/
namespace StationBench

open Logged

/-! ## Steps -/

/-- Executes a step; a check against a snapshot has to capture it first. -/
def Bench.executeLogged (b : Bench) (rig : Rig) : Step → Logged Bench.Outcome
  | .verifySnapshot fields => do
    let result ← (b.station.checkSnapshot fields).run
    return (.snapshotMatches <$> result, b)
  | s => return b.execute rig s

/-- Warns of a step of a test if it failed. -/
def Logged.warn (test : String) : Option Failure → Logged Unit
  | some f => tell (f.warning test)
  | none => return

namespace Trace

/-- Executes the step at `index`, with a warning if it fails. -/
def turnLogged (rig : Rig) (flow : Flow) (test : String) (index : Nat) (step : Step) (b : Bench) :
    Logged (Entry × Bench) := do
  let (result, after) ← (flow.ready index b).executeLogged rig step
  let entry : Entry := { index, step, result }
  warn test entry.failure?
  return (entry, after)

/-- Executes the steps of a test from the one at `index` on. -/
def loop (rig : Rig) (flow : Flow) (test : String) :
    (index : Nat) → List Step → Bench → Logged Trace
  | _, [], b => return ⟨[], b⟩
  | index, step :: rest, b => do
    let (entry, after) ← turnLogged rig flow test index step b
    if flow.stops entry then return ⟨[entry], after⟩
    else
      let later ← loop rig flow test (index + 1) rest after
      return later.cons entry

end Trace

/-! ## Tests -/

/-- A test whose report cannot be put together. -/
def MissingField.record (test : String) (missing : MissingField) : LogRecord :=
  ⟨.error, "Cannot build report of test '" ++ test ++ "': " ++ missing.text⟩

namespace Suite

/-- Runs a test with a seed and puts its report together. -/
def performLoop (suite : Suite) (settings : Settings) (test : Test) (seed : UInt64) :
    Logged (Except MissingField TestReport) := do
  tell ⟨.info, "Test '" ++ test.name ++ "' (" ++ Decimal.text test.steps.length ++ " steps)"⟩
  let rig := suite.rig settings
  let trace ← Trace.loop rig ⟨test.sleepBetween, settings.continueOnFailure⟩ test.name 0 test.steps
    (.start rig seed)
  let status : Status := if trace.failures.isEmpty then .passed else .failed
  tell ⟨.info, "Test '" ++ test.name ++ "' " ++ status.text ++ " at logical " ++
    Decimal.text trace.bench.clock.now.toNat ++ " ms"⟩
  return ReportDraft.build
    { name := some test.name, status := some status, seed := some seed
      clock := some trace.bench.clock.now
      steps := some (trace.entries.map Entry.record)
      failures := some trace.failures
      dump := if suite.dumpStateAfterTest then some trace.bench.dump else none }

/-- Runs the test at an index, or skips it. -/
def visitLoop (suite : Suite) (settings : Settings) (index : Nat) (test : Test) :
    Logged (Except MissingField TestReport) :=
  if settings.selects test.name then
    suite.performLoop settings test
      (testSeed settings.seed index settings.perTestSeed test.seed)
  else return ReportDraft.build { name := some test.name, status := some .skipped }

/-- Goes through the tests from the one at `index` on, as long as the readings let it, and adds
to a report. -/
def testsLoop (suite : Suite) (settings : Settings) (readings : Nat → Reading) :
    (index : Nat) → List Test → RunReport → Logged RunReport
  | _, [], report => return report
  | index, test :: rest, report => do
    match settings.stop? (readings index) with
    | some stop =>
      tell (Interruption.record { stop, before := test.name })
      return report.interrupt
    | none =>
      match ← suite.visitLoop settings index test with
      | .ok r => testsLoop suite settings readings (index + 1) rest (report.push r)
      | .error missing =>
        tell (missing.record test.name)
        testsLoop suite settings readings (index + 1) rest report

/-- Runs a suite, given the reading before the test at each index. -/
def loop (suite : Suite) (settings : Settings) (readings : Nat → Reading) : Logged RunReport := do
  tell (Run.opening suite.tests.length settings.seed)
  let report ← suite.testsLoop settings readings 0 suite.tests { seed := settings.seed }
  tell (Run.closing report)
  return report

end Suite

/-! ## The same as runs -/

/-- What comes after a part goes on from what the part comes to. -/
theorem Logged.run_bind {α β : Type} {x : Logged α} {f : α → Logged β} {a : α}
    {log log' : List LogRecord} (h : x.run log = (a, log')) :
    (x >>= f).run log = (f a).run log' := by
  rw [StateT.run_bind, h]
  rfl

theorem Logged.run_warn (test : String) (f? : Option Failure) (log : List LogRecord) :
    (warn test f?).run log = ((), log ++ f?.toList.map (Failure.warning test)) := by
  cases f? with
  | none => exact congrArg (Prod.mk ()) (List.append_nil log).symm
  | some f => rfl

theorem Bench.run_executeLogged (b : Bench) (rig : Rig) (s : Step) (log : List LogRecord) :
    (b.executeLogged rig s).run log = (b.execute rig s, log) := by
  cases s with
  | verifySnapshot fields =>
    rw [executeLogged, run_bind (b.station.run_checkSnapshot fields log)]
    rfl
  | _ => rfl

namespace Trace

variable (rig : Rig) (flow : Flow) (test : String)

theorem run_turnLogged (i : Nat) (s : Step) (b : Bench) (log : List LogRecord) :
    (turnLogged rig flow test i s b).run log =
      (turn rig flow i s b,
        log ++ (turn rig flow i s b).1.failure?.toList.map (Failure.warning test)) := by
  rw [turnLogged, run_bind ((flow.ready i b).run_executeLogged rig s log)]
  exact run_bind (run_warn test (turn rig flow i s b).1.failure? log)

/-- A test comes to its trace, and the log hears of its failures. -/
theorem run_loop (i : Nat) (steps : List Step) (b : Bench) (log : List LogRecord) :
    (loop rig flow test i steps b).run log =
      (run rig flow i steps b,
        log ++ (run rig flow i steps b).failures.map (Failure.warning test)) := by
  -- for any log, since the rest of the steps goes on from one that has grown
  induction steps generalizing i b log with
  | nil => exact congrArg (Prod.mk _) (List.append_nil log).symm
  | cons s rest ih =>
    rw [loop, run_bind (run_turnLogged rig flow test i s b log), run_cons]
    generalize turn rig flow i s b = p
    obtain ⟨entry, after⟩ := p
    by_cases h : flow.stops entry = true
    · have hfailures : Trace.failures ⟨[entry], after⟩ = entry.failure?.toList := by
        rw [← List.append_nil entry.failure?.toList]
        exact failures_cons entry ⟨[], after⟩
      simp only [h, if_true, hfailures]
      rfl
    · simp only [if_neg h, failures_cons, List.map_append, ← List.append_assoc]
      exact run_bind (ih (i + 1) after _)

end Trace

namespace Suite

variable (suite : Suite) (settings : Settings)

/-- A test comes to its report, and what the log hears is what the visit has to tell. -/
theorem run_performLoop (test : Test) (seed : UInt64) (log : List LogRecord) :
    (suite.performLoop settings test seed).run log =
      (.ok (suite.perform settings test seed).report,
        log ++ (suite.perform settings test seed).records) := by
  have htrace := Trace.run_loop (suite.rig settings)
    ⟨test.sleepBetween, settings.continueOnFailure⟩ test.name 0 test.steps
    (.start (suite.rig settings) seed)
  rw [performLoop]
  refine (run_bind rfl).trans ((run_bind (htrace _)).trans ?_)
  simp only [Trace.status_eq]
  refine (run_bind rfl).trans ?_
  simp only [Visit.records, perform, List.append_assoc, List.cons_append, List.nil_append]
  rfl

theorem run_visitLoop (i : Nat) (test : Test) (log : List LogRecord) :
    (suite.visitLoop settings i test).run log =
      (.ok (suite.visit settings i test).report,
        log ++ (suite.visit settings i test).records) := by
  by_cases h : settings.selects test.name = true
  · rw [visitLoop, if_pos h, suite.visit_of_selects settings h]
    exact suite.run_performLoop settings test _ log
  · rw [visitLoop, if_neg h, suite.visit_of_not_selects settings (Bool.eq_false_iff.2 h)]
    exact congrArg (Prod.mk _) (List.append_nil log).symm

variable (readings : Nat → Reading)

/-- The report that tests are added to, with a mark if the run is interrupted. -/
def ended (interruption : Option Interruption) (report : RunReport) : RunReport :=
  if interruption.isSome then report.interrupt else report

theorem run_testsLoop (i : Nat) (tests : List Test) (report : RunReport) (log : List LogRecord) :
    (suite.testsLoop settings readings i tests report).run log =
      (ended (suite.visits settings readings i tests).2
          (((suite.visits settings readings i tests).1.map Visit.report).foldl .push report),
        log ++ (suite.visits settings readings i tests).1.flatMap Visit.records ++
          (suite.visits settings readings i tests).2.toList.map Interruption.record) := by
  induction tests generalizing i report log with
  | nil =>
    simp [testsLoop, visits, ended]
    rfl
  | cons test rest ih =>
    rw [testsLoop, visits]
    cases h : settings.stop? (readings i) with
    | some stop =>
      simp [ended]
      rfl
    | none =>
      refine (run_bind (suite.run_visitLoop settings i test log)).trans ((ih _ _ _).trans ?_)
      simp

theorem ended_foldl_push (seed : UInt64) (interruption : Option Interruption)
    (tests : List TestReport) :
    ended interruption (tests.foldl .push { seed }) = .ofTests seed interruption.isSome tests := by
  rw [RunReport.ofTests_eq, RunReport.foldl_push]
  cases interruption <;> simp [ended, RunReport.interrupt]

/-- **A run that goes on step by step comes to the report and the log of the run.** -/
theorem run_loop :
    (suite.loop settings readings).run [] =
      ((suite.run settings readings).report, (suite.run settings readings).records) := by
  rw [loop]
  refine (run_bind rfl).trans ((run_bind (suite.run_testsLoop settings readings 0 _ _ _)).trans ?_)
  rw [ended_foldl_push]
  rfl

end Suite

end StationBench
