import StationBench.Proofs.Delivery
import StationBench.Proofs.Verification
/-!
# Checks of results

What an expectation asks of a result, be it the station's own or that of the last message: the check
passes if and only if every field fits, and names the first field that does not otherwise
(`Expectation.Decides`). An expectation that asks for less passes wherever one that asks for more
does (`Expectation.Weaker.fits`). At every point of a test of a loaded suite checks are of this
kind, and what the report of a run shows of any failed verification are two different values
(`result_check_exact`).
-/
namespace StationBench
open Json

/-! ## Expectations -/

/-- An expectation asks for nothing that another does not ask for. -/
structure Expectation.Weaker (e' e : Expectation) : Prop where
  time : e'.time = none ∨ e'.time = e.time
  penalty : e'.penalty = none ∨ e'.penalty = e.penalty
  delegate : e'.delegate = none ∨ e'.delegate = e.delegate

/-- The result of a step is what comes of holding an expectation against what is observed. -/
structure Expectation.Decides (e : Expectation) (o : Observed) (result : Except StepFault Note) :
    Prop where
  passes : result.isOk = true ↔ ∀ f, e.Fits o f
  /-- The fault shows the first field that does not fit. -/
  fails : ∀ fault, result = .error fault ↔
    ∃ f, IsFirst ResultField.all (fun f => ¬ e.Fits o f) f ∧
      fault = .verification f.name (e.written f) (o.written f)

namespace Expectation

variable {e e' : Expectation} {o : Observed}

theorem canonical_of_ofValue {d : Value} (h : ofValue d.ordered = .ok e) : e.Canonical :=
  ((ofValue_eq_ok_iff d.distinct_ordered).1 h).canonical

/-- What fits an expectation fits one that asks for less. -/
theorem Weaker.fits (h : e'.Weaker e) {f : ResultField} (hf : e.Fits o f) : e'.Fits o f := by
  cases f with
  | time =>
    intro t ht
    rcases h.time with hnone | hsame
    · simp [hnone] at ht
    · exact hf t (hsame ▸ ht)
  | penalty =>
    intro p hp
    rcases h.penalty with hnone | hsame
    · simp [hnone] at hp
    · exact hf p (hsame ▸ hp)
  | delegate =>
    intro d hd
    rcases h.delegate with hnone | hsame
    · simp [hnone] at hd
    · exact hf d (hsame ▸ hd)

theorem Weaker.canonical (h : e'.Weaker e) (he : e.Canonical) : e'.Canonical := by
  intro p hp
  rcases h.penalty with hnone | hsame
  · simp [hnone] at hp
  · exact he p (hsame ▸ hp)

/-- A verdict on the mismatches decides. -/
theorem decides_verdict (he : e.Canonical) (ho : o.penalty.Canonical) {α : Type} (a : α)
    (note : α → Note) : e.Decides o (note <$> Station.verdict (e.mismatch? o) a) := by
  refine ⟨?_, fun fault => ?_⟩
  · rw [isOk_map, Station.isOk_verdict_iff, mismatch?_eq_none_iff he ho]
  · rw [map_eq_error_iff, Station.verdict_eq_error_iff, mismatch?_eq_some_iff he ho]
    rfl

end Expectation

/-! ## Checks -/

/-- What comes of checks on the bench `b`, if `sent` are the messages since the last reset. -/
structure ResultCheck (rig : Rig) (b : Bench) (sent : List Message) (e : Expectation) : Prop where
  /-- The station's own result is held against the expectation. -/
  station : e.Decides b.station.observed (b.execute rig (.verifySolveTime e)).1
  /-- That of a message passes if there is one and it fits. -/
  passes : (b.execute rig (.verifySend e)).1.isOk = true ↔
    ∃ m, sent.getLast? = some m ∧ ∀ f, e.Fits m.observed f
  /-- It is the last message that is held against the expectation. -/
  message : ∀ m, sent.getLast? = some m →
    e.Decides m.observed (b.execute rig (.verifySend e)).1
  /-- Without a message there is nothing to hold against it. -/
  unsent : sent = [] →
    (b.execute rig (.verifySend e)).1 = .error (.verification "lastSent" e.toJson.ordered .null)
  /-- Whoever asks for less passes as well. -/
  weaker : ∀ e' : Expectation, e'.Weaker e →
    ((b.execute rig (.verifySolveTime e)).1.isOk = true →
      (b.execute rig (.verifySolveTime e')).1.isOk = true) ∧
    ((b.execute rig (.verifySend e)).1.isOk = true →
      (b.execute rig (.verifySend e')).1.isOk = true)

namespace ResultCheck

variable {rig : Rig} {b : Bench} {sent : List Message} {e : Expectation}

theorem decides_station (hb : b.station.From .canonical) (he : e.Canonical) :
    e.Decides b.station.observed (b.execute rig (.verifySolveTime e)).1 := by
  have ho : b.station.observed.penalty.Canonical := hb.penalty
  exact Expectation.decides_verdict he ho b.station.solveTime .timeMatches

theorem decides_message (hb : b.station.From .canonical) (he : e.Canonical) {m : Message}
    (hm : b.station.lastSent = some m) :
    e.Decides m.observed (b.execute rig (.verifySend e)).1 := by
  have hresult : (b.execute rig (.verifySend e)).1 =
      .messageMatches <$> Station.verdict (e.mismatch? m.observed) m := by
    simp only [Bench.execute, Station.verifySend, hm]
  have ho : m.observed.penalty.Canonical := (hb.lastSent m hm).penalty
  rw [hresult]
  exact Expectation.decides_verdict he ho m .messageMatches

theorem verifySend_of_none (hm : b.station.lastSent = none) (e : Expectation) :
    (b.execute rig (.verifySend e)).1 =
      .error (.verification "lastSent" e.toJson.ordered .null) := by
  simp only [Bench.execute, Station.verifySend, hm]
  rfl

/-- A check of a message passes if there is one and it fits. -/
theorem isOk_verifySend_iff (hb : b.station.From .canonical) (he : e.Canonical) :
    (b.execute rig (.verifySend e)).1.isOk = true ↔
      ∃ m, b.station.lastSent = some m ∧ ∀ f, e.Fits m.observed f := by
  cases hm : b.station.lastSent with
  | none => simp [verifySend_of_none hm, Except.isOk, Except.toBool]
  | some m => simp [(decides_message hb he hm).passes]

theorem of_canonical (hb : b.station.From .canonical) (hsent : b.station.lastSent = sent.getLast?)
    (he : e.Canonical) : ResultCheck rig b sent e := by
  refine ⟨decides_station hb he, ?_, fun m hm => decides_message hb he (hsent.trans hm), ?_, ?_⟩
  · rw [isOk_verifySend_iff hb he, hsent]
  · rintro rfl
    exact verifySend_of_none hsent e
  · intro e' hweaker
    have he' := hweaker.canonical he
    constructor
    · rw [(decides_station hb he).passes, (decides_station hb he').passes]
      exact fun h f => hweaker.fits (h f)
    · rw [isOk_verifySend_iff hb he, isOk_verifySend_iff hb he']
      rintro ⟨m, hm, h⟩
      exact ⟨m, hm, fun f => hweaker.fits (h f)⟩

end ResultCheck

/-- **Checks of results are exact, and their failures tell something.** At every point of a test of
a suite that was loaded, and for every expectation that was read, the station's result and that of
the last message since the reset are held against it field by field. Whatever the report of a run
shows of a failed verification, what was expected is not what was there. -/
theorem result_check_exact {text : String} {suite : Suite} (hload : Suite.ofText text = .ok suite)
    (settings : Settings) :
    (∀ test ∈ suite.tests, ∀ (seed : UInt64) (past : List (Turn (suite.rig settings))),
      past <+: Trace.turns (suite.rig settings)
        ⟨test.sleepBetween, settings.continueOnFailure⟩ 0 test.steps
        (.start (suite.rig settings) seed) →
      ∀ b : Bench,
        b.station = (Trace.benchAfter (.start (suite.rig settings) seed) past).station →
        ∀ (d : Value) (e : Expectation), Expectation.ofValue d.ordered = .ok e →
          ResultCheck (suite.rig settings) b (Trace.sentSinceReset past) e) ∧
    ∀ (readings : Nat → Reading), ∀ r ∈ (suite.run settings readings).report.tests,
      ∀ f ∈ r.failures, ∀ field expected actual,
        f.fault = .verification field expected actual → ¬ expected.Same actual := by
  refine ⟨?_, ?_⟩
  · intro test htest seed past hpast b hb d e he
    have hcanonical : b.station.From .canonical := by
      rw [hb]
      exact (Suite.canonical_benchAfter hload htest hpast).station
    have hsent : b.station.lastSent = (Trace.sentSinceReset past).getLast? := by
      rw [hb]
      exact Trace.lastSent_benchAfter rfl hpast
    exact .of_canonical hcanonical hsent (Expectation.canonical_of_ofValue he)
  · -- both are in key order, where being the same is being equal
    intro readings r hr f hf field expected actual hfault hsame
    obtain ⟨hexpected, hactual, hne⟩ := Suite.telling_of_reported hload hr hf _ _ _ hfault
    rw [Value.Same, hexpected, hactual] at hsame
    exact hne hsame

/-- A delegate gives another penalty than the one that is asked for: the time fits, and the report
shows both penalties. -/
theorem result_check_exact_penalty :
    let text := "\x7b\"tests\":[\x7b\"name\":\"t\",\"steps\":[[\"SolveTime\",3000]," ++
      "[\"DelegateResolve\",[false,5]],[\"VerifySend\",[3000,2]]]\x7d]\x7d"
    let test : Test :=
      ⟨"t", 0, none, [.solveTime (some 3000), .delegateResolve ⟨false, some (.other 5), none⟩,
        .verifySend ⟨some 3000, some .plusTwo, none⟩]⟩
    let suite : Suite :=
      { groups := [], cards := {}, buttons := {}, dumpStateAfterTest := false, tests := [test] }
    let rig := suite.rig {}
    let turns := Trace.turns rig ⟨0, false⟩ 0 test.steps (.start rig 7)
    let b := Trace.benchAfter (.start rig 7) turns
    let d : Value := .array [.ofUInt64 3000, .ofUInt64 2]
    let e : Expectation := ⟨some 3000, some .plusTwo, none⟩
    let fault : StepFault := .verification "penalty" (.ofUInt64 2) (.ofUInt64 5)
    Suite.ofText text = .ok suite ∧ Expectation.ofValue d.ordered = .ok e ∧
      ResultCheck rig b (Trace.sentSinceReset turns) e ∧
      (suite.run {} fun _ => ⟨false, 0⟩).report.tests.flatMap TestReport.failures =
        [⟨2, "VerifySend", fault⟩] ∧
      ¬ (Value.ofUInt64 2).Same (.ofUInt64 5) := by
  intro text test suite rig turns b d e fault
  have hload : Suite.ofText text = .ok suite := eq_ok_of_toOption (by decide +kernel)
  have hread : Expectation.ofValue d.ordered = .ok e := eq_ok_of_toOption (by decide +kernel)
  obtain ⟨hchecks, hreports⟩ := result_check_exact hload {}
  have hcheck := hchecks test List.mem_cons_self 7 turns List.prefix_rfl b rfl d e hread
  have hfailures : (suite.run {} fun _ => ⟨false, 0⟩).report.tests.flatMap TestReport.failures =
      [⟨2, "VerifySend", fault⟩] := by decide +kernel
  have hfailure : (⟨2, "VerifySend", fault⟩ : Failure) ∈
      (suite.run {} fun _ => ⟨false, 0⟩).report.tests.flatMap TestReport.failures := by
    rw [hfailures]
    exact List.mem_singleton.2 rfl
  obtain ⟨r, hr, hf⟩ := List.mem_flatMap.1 hfailure
  exact ⟨hload, hread, hcheck, hfailures, hreports (fun _ => ⟨false, 0⟩) r hr _ hf _ _ _ rfl⟩

end StationBench
