import StationBench.Proofs.Run
/-!
# Replaying a test

The report of a test that ran depends on the test, its seed, what the suite declares and how the run
treats tests, and on nothing else that the run did (`perform_congr`). So a test can be replayed by
itself with the seed that its report names, and the report comes out the same
(`report_reproducible`).
-/
namespace StationBench

/-- The suite with a single test, which has a seed of its own. -/
def Suite.alone (suite : Suite) (test : Test) (seed : UInt64) : Suite :=
  { suite with tests := [{ test with seed := some seed }] }

/-- The settings with other seeds, and with nothing that keeps a test from running. -/
def Settings.unrestricted (settings : Settings) (seed : UInt64) (perTestSeed : Bool) : Settings :=
  { settings with seed, perTestSeed, timeout := none, only := [] }

/-- Two runs treat a test alike: they find the same cards, groups and buttons, dump the same, and
their settings differ in the seeds, the timeout and the selection of tests at most. -/
structure Alike (suite suite' : Suite) (settings settings' : Settings) : Prop where
  inventory : suite.toInventory = suite'.toInventory
  dumps : suite.dumpStateAfterTest = suite'.dumpStateAfterTest
  settings : settings.unrestricted 0 false = settings'.unrestricted 0 false

/-- What makes the report `r` at the index `i` of a run reproducible. -/
structure Reproducible (suite : Suite) (settings : Settings) (readings : Nat → Reading) (i : Nat)
    (r : TestReport) (test : Test) (seed : UInt64) : Prop where
  declared : suite.tests[i]? = some test
  reported : r.seed = some seed
  /-- The seed is the test's own, or that of the run with or without the index. -/
  seed_eq : seed = test.seed.getD
    (if settings.perTestSeed then settings.seed + .ofNat i else settings.seed)
  /-- If every test is to have another seed, no other test without its own has this one. -/
  seed_ne : settings.perTestSeed = true → test.seed = none → i < UInt64.size →
    ∀ (j : Nat) (test' : Test) (r' : TestReport), j < UInt64.size → j ≠ i →
      suite.tests[j]? = some test' → test'.seed = none →
      (suite.run settings readings).report.tests[j]? = some r' → r'.seed ≠ some seed
  /-- The test by itself is reported alike, under whatever seeds the run is given. -/
  alone : ∀ (runSeed : UInt64) (perTestSeed : Bool) (readings' : Nat → Reading),
    (readings' 0).cancelled = false →
      let settings' := settings.unrestricted runSeed perTestSeed
      let replay := ((suite.alone test seed).run settings' readings').report
      replay.interrupted = false ∧ replay.tests = [r]
  /-- So is the test wherever else it runs with this seed, whatever runs before and beside it. -/
  elsewhere : ∀ (suite' : Suite) (settings' : Settings) (readings' : Nat → Reading) (j : Nat)
    (test' : Test) (r' : TestReport), Alike suite suite' settings settings' →
      suite'.tests[j]? = some test' → { test with seed := none } = { test' with seed := none } →
      (suite'.run settings' readings').report.tests[j]? = some r' → r'.seed = some seed → r' = r

/-! ## The seed of a test -/

theorem testSeed_eq (runSeed : UInt64) (i : Nat) (perTest : Bool) (own : Option UInt64) :
    testSeed runSeed i perTest own =
      own.getD (if perTest then runSeed + .ofNat i else runSeed) := by
  cases own <;> rfl

theorem testSeed_perTest_injective {runSeed : UInt64} {i j : Nat} (hi : i < UInt64.size)
    (hj : j < UInt64.size) (h : testSeed runSeed i true none = testSeed runSeed j true none) : i = j := by
  -- adding the run's seed wraps around, but it is undone by subtracting it
  have hij : UInt64.ofNat i = UInt64.ofNat j := (UInt64.add_right_inj runSeed).1 h
  have hnat := congrArg UInt64.toNat hij
  rwa [UInt64.toNat_ofNat_of_lt' hi, UInt64.toNat_ofNat_of_lt' hj] at hnat

/-! ## What a report depends on -/

namespace Suite

variable {suite suite' : Suite} {settings settings' : Settings} {readings : Nat → Reading}

theorem seed_perform (test : Test) (seed : UInt64) :
    (suite.perform settings test seed).report.seed = some seed := rfl

theorem rig_congr (h : Alike suite suite' settings settings') :
    suite.rig settings = suite'.rig settings' := by
  have hrange : settings.range = settings'.range := (congrArg Settings.range h.settings :)
  have hpacing : settings.pacing = settings'.pacing := (congrArg Settings.pacing h.settings :)
  unfold rig
  rw [h.inventory, hrange, hpacing]

theorem perform_congr (h : Alike suite suite' settings settings') {test test' : Test}
    (ht : { test with seed := none } = { test' with seed := none }) (seed : UInt64) :
    (suite.perform settings test seed).report = (suite'.perform settings' test' seed).report := by
  -- the two tests have the same fields, but for the seed, which `perform` is given apart
  rcases test with ⟨name, ms, _, steps⟩
  rcases test' with ⟨name', ms', _, steps'⟩
  obtain ⟨rfl, rfl, -, rfl⟩ := Test.mk.inj ht
  have hflag : settings.continueOnFailure = settings'.continueOnFailure :=
    (congrArg Settings.continueOnFailure h.settings :)
  simp only [perform, Visit.report, Test.run, rig_congr h, hflag, h.dumps]

/-- A report that is not of a skipped test is the one of performing the test at its index. -/
theorem report_eq_perform {i : Nat} {r : TestReport}
    (hr : (suite.run settings readings).report.tests[i]? = some r) (hs : r.status ≠ .skipped) :
    ∃ test, suite.tests[i]? = some test ∧
      r = (suite.perform settings test
        (testSeed settings.seed i settings.perTestSeed test.seed)).report := by
  obtain ⟨test, ht, rfl⟩ := suite.getElem?_report_tests settings readings hr
  refine ⟨test, ht, ?_⟩
  rw [suite.visit_of_selects settings (suite.selects_of_status_ne_skipped settings hs)]

/-- A report that names a seed is not of a skipped test. -/
theorem status_ne_skipped_of_seed {i : Nat} {r : TestReport} {seed : UInt64}
    (hr : (suite.run settings readings).report.tests[i]? = some r) (hs : r.seed = some seed) :
    r.status ≠ .skipped := by
  obtain ⟨test, -, rfl⟩ := suite.getElem?_report_tests settings readings hr
  by_cases hsel : settings.selects test.name = true
  · rw [suite.visit_of_selects settings hsel]
    exact Trace.status_ne_skipped _
  · rw [suite.visit_of_not_selects settings (Bool.eq_false_iff.2 hsel)] at hs
    cases hs

/-- A suite with a single test reports on it, unless the run is cancelled before. -/
theorem report_alone (test : Test) (seed runSeed : UInt64) (perTestSeed : Bool)
    (hc : (readings 0).cancelled = false) :
    let settings' := settings.unrestricted runSeed perTestSeed
    let replay := ((suite.alone test seed).run settings' readings).report
    replay.interrupted = false ∧ replay.tests = [(suite.perform settings test seed).report] := by
  intro settings' replay
  have hgo : settings'.stop? (readings 0) = none := by
    simp [Settings.stop?, hc, settings', Settings.unrestricted]
  have htests : replay.tests = [(suite.perform settings test seed).report] := by
    rw [report_tests]
    simp only [alone, List.zipIdx_cons, List.zipIdx_nil, List.takeWhile_cons, hgo,
      Option.isNone_none, if_true, List.takeWhile_nil, List.map_cons, List.map_nil]
    rw [visit_of_selects _ _ rfl]
    exact congrArg (fun r => [r]) (perform_congr ⟨rfl, rfl, rfl⟩ rfl seed)
  refine ⟨?_, htests⟩
  rw [Bool.eq_false_iff]
  intro hint
  rw [report_interrupted_iff, htests] at hint
  exact absurd hint (Nat.lt_irrefl 1)

end Suite

/-! ## Reproducing a report -/

/-- **Replay**: a test that was not skipped is reported with the seed that it ran with, and any
other run of the test with that seed, alone or among other tests, reports the same. -/
theorem report_reproducible (suite : Suite) (settings : Settings) (readings : Nat → Reading)
    {i : Nat} {r : TestReport} (hr : (suite.run settings readings).report.tests[i]? = some r)
    (hs : r.status ≠ .skipped) :
    ∃ test seed, Reproducible suite settings readings i r test seed := by
  obtain ⟨test, ht, hperf⟩ := Suite.report_eq_perform hr hs
  refine ⟨test, testSeed settings.seed i settings.perTestSeed test.seed, ?_⟩
  refine ⟨ht, ?_, testSeed_eq _ _ _ _, ?_, ?_, ?_⟩
  · rw [hperf, Suite.seed_perform]
  · intro hper hown hi j test' r' hj hji ht' hown' hr' hseed
    obtain ⟨test₂, ht₂, hperf'⟩ :=
      Suite.report_eq_perform hr' (Suite.status_ne_skipped_of_seed hr' hseed)
    obtain rfl : test' = test₂ := Option.some.inj (ht'.symm.trans ht₂)
    rw [hperf', Suite.seed_perform, hper, hown, hown'] at hseed
    exact hji (testSeed_perTest_injective hj hi (Option.some.inj hseed))
  · intro runSeed perTestSeed readings' hc
    rw [hperf]
    exact Suite.report_alone test _ runSeed perTestSeed hc
  · intro suite' settings' readings' j test' r' halike ht' hsame hr' hseed
    obtain ⟨test₂, ht₂, hperf'⟩ :=
      Suite.report_eq_perform hr' (Suite.status_ne_skipped_of_seed hr' hseed)
    obtain rfl : test' = test₂ := Option.some.inj (ht'.symm.trans ht₂)
    rw [hperf', Suite.seed_perform] at hseed
    rw [hperf', hperf, Option.some.inj hseed]
    exact (Suite.perform_congr halike hsame _).symm

/-- The second of two tests, the first of which is left out, draws its time with the seed 24302. -/
theorem report_reproducible_second :
    let test : Test :=
      { name := "drawn", sleepBetween := 5, seed := none, steps := [.solveTimeRng, .sleep 20] }
    let suite : Suite :=
      { groups := [], cards := {}, buttons := {}, dumpStateAfterTest := true
        tests := [{ name := "idle", sleepBetween := 0, seed := none, steps := [] }, test] }
    let settings : Settings := { only := ["drawn"] }
    let r : TestReport := (suite.perform settings test 24302).report
    (suite.run settings fun _ => ⟨false, 0⟩).report.tests[1]? = some r ∧ r.status ≠ .skipped ∧
      ∃ test seed, Reproducible suite settings (fun _ => ⟨false, 0⟩) 1 r test seed := by
  intro test suite settings r
  have hr : (suite.run settings fun _ => ⟨false, 0⟩).report.tests[1]? = some r := rfl
  have hs : r.status ≠ .skipped := by decide
  exact ⟨hr, hs, report_reproducible suite settings _ hr hs⟩

end StationBench
