import Mathlib.Data.Nat.Count
import StationBench.Proofs.Move
import StationBench.Proofs.Run
/-!
# Steps that only look

A verification leaves the bench as it is, whether it passes or not, and so does a step that is not
supported (`Bench.execute_snd_of_observes`). A test that goes on after failures and does not wait
between its steps therefore comes to the same without them: what is left of it is executed on the
same benches, only under other indices (`Trace.run_keeping`). Reporting the state of the bench is
such a look as well (`observers_do_not_disturb`).
-/
namespace StationBench

/-! ## Observing steps -/

/-- Whether a step only looks, if it does anything at all. -/
def Step.observes (s : Step) : Bool := s.verifies || !s.isSupported

/-- A step that only looks leaves the bench alone. -/
theorem Bench.execute_snd_of_observes (b : Bench) (rig : Rig) {s : Step} (h : s.observes = true) :
    (b.execute rig s).2 = b := by
  cases s with
  | unsupported type => rfl
  | _ => exact b.execute_snd_of_verifies rig (by simpa [Step.observes, Step.isSupported] using h)

theorem Millis.addCapped_zero (a : Millis) : a.addCapped 0 = a := by
  apply UInt64.toNat_inj.1
  have hlt := a.toNat_lt_size
  have hzero : (0 : Millis).toNat = 0 := rfl
  rw [Millis.toNat_addCapped, hzero]
  omega

/-- A wait that takes no time changes nothing. -/
theorem Bench.wait_zero (b : Bench) : b.wait 0 = b := by
  obtain ⟨station, ⟨now, pacing, waited⟩, draws, outbox, presses⟩ := b
  cases pacing <;> simp [Bench.wait, Clock.advance, Millis.addCapped_zero]

/-! ## Leaving steps out -/

/-- The steps at the places that are kept, if the first one is at place `i`. -/
def keptSteps (keep : Nat → Bool) (i : Nat) (steps : List Step) : List Step :=
  ((steps.zipIdx i).filter (keep ·.2)).map Prod.fst

/-- The place of a step among those that are kept. -/
def newIndex (keep : Nat → Bool) (i : Nat) : Nat := Nat.count (fun k => keep k = true) i

/-- A test without the steps at the places that are not kept. -/
def Test.keeping (test : Test) (keep : Nat → Bool) : Test :=
  { test with steps := keptSteps keep 0 test.steps }

def Entry.renumber (keep : Nat → Bool) (e : Entry) : Entry :=
  { e with index := newIndex keep e.index }

def StepRecord.renumber (keep : Nat → Bool) (r : StepRecord) : StepRecord :=
  { r with index := newIndex keep r.index }

def Failure.renumber (keep : Nat → Bool) (f : Failure) : Failure :=
  { f with index := newIndex keep f.index }

namespace Trace

variable {keep : Nat → Bool} {rig : Rig} {flow : Flow}

/-- **What is left of a test is executed as before.** -/
theorem run_keeping (hgo : flow.continueOnFailure = true) (hpause : flow.sleepBetween = 0) (i : Nat)
    (steps : List Step) (b : Bench)
    (hkeep : ∀ p ∈ steps.zipIdx i, keep p.2 = false → p.1.observes = true) :
    run rig flow (newIndex keep i) (keptSteps keep i steps) b =
      ⟨((run rig flow i steps b).entries.filter (keep ·.index)).map (Entry.renumber keep),
        (run rig flow i steps b).bench⟩ := by
  have hready (j : Nat) (b : Bench) : flow.ready j b = b := by
    rw [Flow.ready, hpause, Bench.wait_zero, ite_self]
  induction steps generalizing i b with
  | nil => rfl
  | cons s rest ih =>
    rw [List.zipIdx_cons, List.forall_mem_cons] at hkeep
    obtain ⟨hs, hrest⟩ := hkeep
    rw [run_cons_of_not_stops (Flow.not_stops_of_continue hgo _)]
    have hnext := ih (i + 1) (turn rig flow i s b).2 hrest
    cases hk : keep i with
    | true =>
      have hsteps : keptSteps keep i (s :: rest) = s :: keptSteps keep (i + 1) rest := by
        simp [keptSteps, List.zipIdx_cons, hk]
      have hindex : newIndex keep (i + 1) = newIndex keep i + 1 := by
        simp [newIndex, Nat.count_succ, hk]
      have hturn : turn rig flow (newIndex keep i) s b =
          ((turn rig flow i s b).1.renumber keep, (turn rig flow i s b).2) := by
        simp only [turn, hready]
        rfl
      rw [hsteps, run_cons_of_not_stops (Flow.not_stops_of_continue hgo _), hturn, ← hindex, hnext]
      simp [cons, hk]
    | false =>
      have hsteps : keptSteps keep i (s :: rest) = keptSteps keep (i + 1) rest := by
        simp [keptSteps, List.zipIdx_cons, hk]
      have hindex : newIndex keep (i + 1) = newIndex keep i := by
        simp [newIndex, Nat.count_succ, hk]
      have hafter : (turn rig flow i s b).2 = b := by
        change ((flow.ready i b).execute rig s).2 = b
        rw [hready]
        exact b.execute_snd_of_observes rig (hs hk)
      rw [hafter, hindex] at hnext
      rw [hsteps, hnext, hafter]
      simp [cons, hk]

end Trace

/-! ## Reports of tests -/

/-- What a test reports without some of its steps, compared with what it reports with them. -/
structure TestReport.KeptFrom (keep : Nat → Bool) (reduced whole : TestReport) : Prop where
  dump : ∃ dump, whole.dump = some dump ∧ reduced.dump = some dump
  clock : reduced.clock = whole.clock
  /-- The steps that are left have their records, under their new indices. -/
  steps : reduced.steps = (whole.steps.filter (keep ·.index)).map (StepRecord.renumber keep)
  failures : reduced.failures = (whole.failures.filter (keep ·.index)).map (Failure.renumber keep)

theorem Entry.failure?_renumber (keep : Nat → Bool) (e : Entry) :
    (e.renumber keep).failure? = e.failure?.map (Failure.renumber keep) := by
  obtain ⟨index, step, result⟩ := e
  cases result <;> rfl

theorem Entry.index_of_failure? {e : Entry} {f : Failure} (h : e.failure? = some f) :
    f.index = e.index := by
  obtain ⟨fault, -, rfl⟩ := Option.map_eq_some_iff.1 h
  rfl

/-- The failures of kept entries are the kept failures. -/
theorem Entry.filterMap_failure?_kept (keep : Nat → Bool) (entries : List Entry) :
    ((entries.filter (keep ·.index)).map (Entry.renumber keep)).filterMap Entry.failure? =
      ((entries.filterMap Entry.failure?).filter (keep ·.index)).map (Failure.renumber keep) := by
  induction entries with
  | nil => rfl
  | cons e rest ih =>
    cases hf : e.failure? with
    | none =>
      rw [List.filterMap_cons_none hf, ← ih, List.filter_cons]
      split
      · rw [List.map_cons, List.filterMap_cons_none (by rw [failure?_renumber, hf]; rfl)]
      · rfl
    | some f =>
      have hindex : keep f.index = keep e.index := by rw [index_of_failure? hf]
      rw [List.filterMap_cons_some hf, List.filter_cons, List.filter_cons, hindex]
      split
      · rw [List.map_cons, List.map_cons,
          List.filterMap_cons_some (by rw [failure?_renumber, hf]; rfl), ih]
      · exact ih

theorem Suite.keptFrom_perform {suite : Suite} {settings : Settings} {test : Test}
    {keep : Nat → Bool} (hdump : suite.dumpStateAfterTest = true)
    (hgo : settings.continueOnFailure = true) (hpause : test.sleepBetween = 0)
    (hkeep : ∀ p ∈ test.steps.zipIdx, keep p.2 = false → p.1.observes = true) (seed : UInt64) :
    (suite.perform settings (test.keeping keep) seed).report.KeptFrom keep
      (suite.perform settings test seed).report := by
  let whole := test.run (suite.rig settings) settings.continueOnFailure seed
  have hrun : (test.keeping keep).run (suite.rig settings) settings.continueOnFailure seed =
      ⟨(whole.entries.filter (keep ·.index)).map (Entry.renumber keep), whole.bench⟩ :=
    Trace.run_keeping hgo hpause 0 test.steps _ hkeep
  rw [Suite.perform, hrun]
  refine ⟨⟨whole.bench.dump, if_pos hdump, if_pos hdump⟩, rfl, ?_, ?_⟩
  · change (List.map _ _).map Entry.record =
      ((whole.entries.map Entry.record).filter (keep ·.index)).map (StepRecord.renumber keep)
    rw [List.filter_map, List.map_map, List.map_map]
    rfl
  · exact Entry.filterMap_failure?_kept keep whole.entries

/-! ## Dumps -/

/-- A suite whose tests report the state of the bench, or do not. -/
def Suite.dumping (suite : Suite) (dumped : Bool) : Suite :=
  { suite with dumpStateAfterTest := dumped }

def TestReport.undumped (t : TestReport) : TestReport := { t with dump := none }

def RunReport.undumped (r : RunReport) : RunReport := { r with tests := r.tests.map .undumped }

section
variable (suite : Suite) (settings : Settings) (readings : Nat → Reading)

theorem Suite.report_visit_undumped (i : Nat) (test : Test) :
    ((suite.dumping false).visit settings i test).report =
      ((suite.dumping true).visit settings i test).report.undumped := by
  unfold visit
  split <;> rfl

theorem Suite.tests_report_undumped :
    ((suite.dumping false).run settings readings).report.tests =
      ((suite.dumping true).run settings readings).report.undumped.tests := by
  rw [report_tests, RunReport.undumped, report_tests, List.map_map]
  exact List.map_congr_left fun p _ => report_visit_undumped suite settings p.2 p.1

theorem Suite.report_undumped :
    ((suite.dumping false).run settings readings).report =
      ((suite.dumping true).run settings readings).report.undumped := by
  have htests := suite.tests_report_undumped settings readings
  have hinterrupted : ((suite.dumping false).run settings readings).report.interrupted =
      ((suite.dumping true).run settings readings).report.interrupted := by
    rw [Bool.eq_iff_iff, report_interrupted_iff, report_interrupted_iff, htests,
      RunReport.undumped, List.length_map]
    rfl
  rw [RunReport.undumped] at htests ⊢
  simp only [Run.report, RunReport.ofTests_eq] at htests hinterrupted ⊢
  rw [htests, hinterrupted]
  simp only [List.countP_map]
  rfl

/-- The state that is reported of a test is the one at which it stopped; it is reported of all tests
that ran. -/
theorem Suite.dump_of_mem_tests {t : TestReport}
    (h : t ∈ ((suite.dumping true).run settings readings).report.tests) :
    (t.dump.isSome = true ↔ t.status ≠ .skipped) ∧
      ∀ dump, t.dump = some dump → dump.clock = t.clock := by
  rw [report_tests] at h
  obtain ⟨p, -, rfl⟩ := List.mem_map.1 h
  unfold visit
  split
  · refine ⟨iff_of_true rfl (Trace.status_ne_skipped _), ?_⟩
    rintro _ ⟨rfl⟩
    rfl
  · refine ⟨iff_of_false Bool.false_ne_true fun h => h rfl, ?_⟩
    rintro _ ⟨⟩

end

/-- **Observers do not disturb.** A test that goes on after failures and does not wait between its
steps reports the same without any of the steps that only look, but for their own records; and
whether the state of the benches is reported changes nothing else of a report. -/
theorem observers_do_not_disturb (suite : Suite) (settings : Settings) :
    (suite.dumpStateAfterTest = true → settings.continueOnFailure = true →
      ∀ (test : Test) (keep : Nat → Bool) (seed : UInt64), test.sleepBetween = 0 →
        (∀ p ∈ test.steps.zipIdx, keep p.2 = false → p.1.observes = true) →
        (suite.perform settings (test.keeping keep) seed).report.KeptFrom keep
          (suite.perform settings test seed).report) ∧
    ∀ readings : Nat → Reading,
      ((suite.dumping false).run settings readings).report =
        ((suite.dumping true).run settings readings).report.undumped ∧
      ∀ t ∈ ((suite.dumping true).run settings readings).report.tests,
        (t.dump.isSome = true ↔ t.status ≠ .skipped) ∧
          ∀ dump, t.dump = some dump → dump.clock = t.clock := by
  refine ⟨?_, ?_⟩
  · intro hdump hgo test keep seed hpause hkeep
    exact Suite.keptFrom_perform hdump hgo hpause hkeep seed
  · intro readings
    exact ⟨suite.report_undumped settings readings,
      fun t ht => suite.dump_of_mem_tests settings readings ht⟩

/-- Two verifications that fail and a step that is not supported are left out. -/
theorem observers_do_not_disturb_failing :
    let suite : Suite :=
      { groups := [], cards := {}, buttons := {}, dumpStateAfterTest := true, tests := [] }
    let settings : Settings := { continueOnFailure := true }
    let test : Test := ⟨"t", 0, none, [.verifySend ⟨none, none, none⟩, .solveTime (some 3000),
      .verifySolveTime ⟨some 1, none, none⟩, .unsupported "Beep", .verifyDelegateSent]⟩
    let keep : Nat → Bool := fun i => i = 1 || i = 4
    suite.dumpStateAfterTest = true ∧ settings.continueOnFailure = true ∧ test.sleepBetween = 0 ∧
      (∀ p ∈ test.steps.zipIdx, keep p.2 = false → p.1.observes = true) ∧
      (test.keeping keep).steps = [.solveTime (some 3000), .verifyDelegateSent] ∧
      (suite.perform settings (test.keeping keep) 7).report.KeptFrom keep
        (suite.perform settings test 7).report := by
  intro suite settings test keep
  have hkeep : ∀ p ∈ test.steps.zipIdx, keep p.2 = false → p.1.observes = true := by decide
  obtain ⟨hkept, -⟩ := observers_do_not_disturb suite settings
  exact ⟨rfl, rfl, rfl, hkeep, rfl, hkept rfl rfl test keep 7 rfl hkeep⟩

end StationBench
