import StationBench.Proofs.Move
import StationBench.Proofs.Verdict
import StationBench.Session
/-!
# Advice foresees failures

What a loader warns about a step is what the step fails for, whenever and at whatever bench of the
suite it is executed (`Bench.execute_advice_iff`). Advice has a place for every warning
(`Suite.advised`), and in the order of these places it is about each step once at most
(`advice_foresees`).
-/
namespace StationBench

/-! ## Places of advice -/

/-- The place of a step: the index of its test, and its own index in the test. -/
structure Site where
  test : Nat
  step : Nat
deriving DecidableEq, Repr

/-- An earlier test, or the same test and an earlier step. -/
def Site.Before (p q : Site) : Prop := p.test < q.test ∨ p.test = q.test ∧ p.step < q.step

namespace Suite

/-- The test and the step at a place. -/
structure At (suite : Suite) (p : Site) (t : Test) (s : Step) : Prop where
  test : suite.tests[p.test]? = some t
  step : t.steps[p.step]? = some s

/-- The advice that a rule gives, with the places it is about. -/
def advised (suite : Suite) (rule : String → Nat → Step → Option Advice) : List (Site × Advice) :=
  suite.tests.zipIdx.flatMap fun (t, i) => t.steps.zipIdx.filterMap fun (s, j) =>
    (rule t.name j s).map (⟨i, j⟩, ·)

variable (suite : Suite) (rule : String → Nat → Step → Option Advice)

theorem map_snd_advised : (suite.advised rule).map Prod.snd = suite.adviseSteps rule := by
  have htests : suite.tests = suite.tests.zipIdx.map Prod.fst := by simp
  rw [adviseSteps, htests, List.flatMap_map]
  simp only [advised, List.map_flatMap, List.map_filterMap, Option.map_map, Function.comp_def,
    Option.map_id']

variable {suite rule}

theorem mem_advised_iff {p : Site} {a : Advice} :
    (p, a) ∈ suite.advised rule ↔ ∃ t s, suite.At p t s ∧ rule t.name p.step s = some a := by
  simp only [advised, List.mem_flatMap, List.mem_filterMap, List.mk_mem_zipIdx_iff_getElem?,
    Prod.exists, Option.map_eq_some_iff, Prod.mk.injEq]
  constructor
  · rintro ⟨t, i, ht, s, j, hs, a, ha, rfl, rfl⟩
    exact ⟨t, s, ⟨ht, hs⟩, ha⟩
  · rintro ⟨t, s, ⟨ht, hs⟩, ha⟩
    exact ⟨t, p.test, ht, s, p.step, hs, a, ha, rfl, rfl⟩

/-- The advice on the step at a place is what the rule says about it. -/
theorem mem_advised_of_at (suite : Suite) {p : Site} {t : Test} {s : Step} (h : suite.At p t s)
    {a : Advice} : (p, a) ∈ suite.advised rule ↔ rule t.name p.step s = some a := by
  rw [mem_advised_iff]
  constructor
  · rintro ⟨t', s', hat, ha⟩
    obtain rfl : t = t' := Option.some.inj (h.test.symm.trans hat.test)
    obtain rfl : s = s' := Option.some.inj (h.step.symm.trans hat.step)
    exact ha
  · intro ha
    exact ⟨t, s, h, ha⟩

theorem pairwise_zipIdx {α : Type} (l : List α) : l.zipIdx.Pairwise fun x y => x.2 < y.2 := by
  rw [← List.pairwise_map (f := Prod.snd) (R := (· < ·)), List.zipIdx_map_snd]
  exact List.pairwise_lt_range'

theorem pairwise_advised : (suite.advised rule).Pairwise fun x y => x.1.Before y.1 := by
  rw [advised, List.pairwise_flatMap]
  constructor
  · rintro ⟨t, i⟩ -
    rw [List.pairwise_filterMap]
    refine (pairwise_zipIdx t.steps).imp ?_
    rintro ⟨s, j⟩ ⟨s', j'⟩ hlt x hx y hy
    obtain ⟨_, -, rfl⟩ := Option.map_eq_some_iff.1 hx
    obtain ⟨_, -, rfl⟩ := Option.map_eq_some_iff.1 hy
    exact Or.inr ⟨rfl, hlt⟩
  · refine (pairwise_zipIdx suite.tests).imp ?_
    rintro ⟨t, i⟩ ⟨t', i'⟩ hlt x hx y hy
    obtain ⟨_, -, hx⟩ := List.mem_filterMap.1 hx
    obtain ⟨_, -, hy⟩ := List.mem_filterMap.1 hy
    obtain ⟨_, -, rfl⟩ := Option.map_eq_some_iff.1 hx
    obtain ⟨_, -, rfl⟩ := Option.map_eq_some_iff.1 hy
    exact Or.inl hlt

end Suite

/-! ## What steps fail for -/

namespace StepFault

/-- What a loader says about a step that is bound to fail so: it refers to something that is not
there. -/
def advice? (test : String) (index : Nat) : StepFault → Option Advice
  | .unknownCard id => some (.missingCard test index id)
  | .unknownButton name => some (.unboundButton test index name)
  | .unsupportedStep type => some (.unsupportedStep test index type)
  | _ => none

/-- The kinds of faults that are foreseen. -/
def danglingKinds : List String := ["UnknownCard", "UnknownButton", "UnsupportedStep"]

theorem kind_mem_danglingKinds_iff {f : StepFault} (test : String) (index : Nat) :
    f.kind ∈ danglingKinds ↔ ∃ a, f.advice? test index = some a := by
  cases f <;> simp [kind, danglingKinds, advice?]

end StepFault

/-- A computation at a station fails, if it does, for what it finds there. -/
def Answered {α : Type} (x : Except StepFault α) : Prop :=
  ∀ f, x = .error f → f.kind ∉ StepFault.danglingKinds

namespace Answered

variable {α β : Type}

theorem ok (a : α) : Answered (.ok a : Except StepFault α) := by
  rintro f ⟨⟩

theorem error {f : StepFault} (h : f.kind ∉ StepFault.danglingKinds) :
    Answered (.error f : Except StepFault α) := by
  rintro f' ⟨⟩
  exact h

theorem precondition (reason : Precondition) :
    Answered (.error (.precondition reason) : Except StepFault α) :=
  .error (show "Precondition" ∉ StepFault.danglingKinds by decide)

theorem verification (field : String) (expected actual : Json.Value) :
    Answered (.error (.verification field expected actual) : Except StepFault α) :=
  .error (show "Verification" ∉ StepFault.danglingKinds by decide)

theorem bind {x : Except StepFault α} {g : α → Except StepFault β} (hx : Answered x)
    (hg : ∀ a, Answered (g a)) : Answered (x >>= g) := by
  cases x with
  | error f =>
    rintro f' ⟨⟩
    exact hx f rfl
  | ok a => exact hg a

theorem map {x : Except StepFault α} (hx : Answered x) (g : α → β) : Answered (g <$> x) := by
  cases x with
  | error f =>
    rintro f' ⟨⟩
    exact hx f rfl
  | ok a => exact ok (g a)

/-- A comparison fails for what differs, or for a field that cannot be captured. -/
theorem verdict {fault : Option StepFault} {a : α}
    (h : ∀ f, fault = some f → f.kind = "Verification" ∨ f.kind = "Capture") :
    Answered (Station.verdict fault a) := by
  cases fault with
  | none => exact ok a
  | some f =>
    refine error ?_
    rcases h f rfl with hkind | hkind <;>
      · rw [hkind]
        decide

end Answered

theorem kind_of_fieldMismatch? {α : Type} [DecidableEq α] {field : String} {write : α → Json.Value}
    {expected : Option α} {actual : α} {f : StepFault}
    (h : fieldMismatch? field write expected actual = some f) : f.kind = "Verification" := by
  unfold fieldMismatch? at h
  split at h
  · split at h
    · cases h
    · obtain rfl := Option.some.inj h
      rfl
  · cases h

theorem Expectation.kind_of_mismatch? {e : Expectation} {o : Observed} {f : StepFault}
    (h : e.mismatch? o = some f) : f.kind = "Verification" := by
  simp only [mismatch?, Option.or_eq_some_iff] at h
  rcases h with h | ⟨-, h | ⟨-, h⟩⟩ <;> exact kind_of_fieldMismatch? h

theorem Snapshot.kind_of_fieldMismatch? {stored current : Snapshot} {field : String} {f : StepFault}
    (h : stored.fieldMismatch? current field = some f) :
    f.kind = "Verification" ∨ f.kind = "Capture" := by
  unfold fieldMismatch? at h
  split at h
  · split at h
    · cases h
    · obtain rfl := Option.some.inj h
      exact Or.inl rfl
  · obtain rfl := Option.some.inj h
    exact Or.inr rfl

namespace Station

variable (s : Station)

theorem answered_requireTime : Answered s.requireTime := by
  unfold requireTime
  split
  · exact .ok _
  · exact .precondition _

theorem answered_requireCard : Answered s.requireCard := by
  unfold requireCard
  split
  · exact .ok _
  · exact .precondition _

theorem answered_scan (card : Card) (group : Option Group) : Answered (s.scan card group) := by
  rw [scan_eq]
  split
  · exact .ok _
  · exact .error (show "InvalidCard" ∉ StepFault.danglingKinds by decide)

theorem answered_press (action : ButtonAction) : Answered (s.press action) := by
  cases action with
  | submit =>
    rw [press_submit]
    refine s.answered_requireCard.bind fun _ => s.answered_requireTime.bind fun t => ?_
    split
    · exact .precondition _
    · exact .ok _
  | penalty =>
    rw [press_penalty]
    exact s.answered_requireTime.bind fun t => .ok _
  | delegate =>
    rw [press_delegate]
    exact s.answered_requireTime.bind fun t => .ok _
  | inspection => exact .ok _
  | clear => exact .ok _

theorem answered_resolve (r : Resolution) :
    Answered (s.resolve r.shouldScanCards r.penalty r.value) := by
  rw [resolve_eq]
  split
  · exact .precondition _
  · exact .ok _

theorem answered_verifySolveTime (e : Expectation) : Answered (s.verifySolveTime e) :=
  .verdict fun _ hf => Or.inl (e.kind_of_mismatch? hf)

theorem answered_verifySend (e : Expectation) : Answered (s.verifySend e) := by
  unfold verifySend
  split
  · exact .verdict fun _ hf => Or.inl (e.kind_of_mismatch? hf)
  · exact .verification _ _ _

theorem answered_verifyDelegateSent : Answered s.verifyDelegateSent := by
  unfold verifyDelegateSent
  split
  · exact .verdict fun _ hf => Or.inl (kind_of_fieldMismatch? hf)
  · exact .verification _ _ _

theorem answered_verifySnapshot (fields : Option (List String)) :
    Answered (s.verifySnapshot fields) := by
  unfold verifySnapshot
  split
  · refine .verdict fun f hf => ?_
    obtain ⟨field, -, hfield⟩ := List.exists_of_findSome?_eq_some hf
    exact Snapshot.kind_of_fieldMismatch? hfield
  · exact .precondition _

end Station

namespace Bench

variable (b : Bench) {suite : Suite} (settings : Settings) {test : String} {index : Nat} {s : Step}

/-- A step that refers to something that is not there fails for it. -/
theorem execute_of_dangling {a : Advice} (h : suite.dangling? test index s = some a) :
    ∃ f, (b.execute (suite.rig settings) s).1 = .error f ∧ f.advice? test index = some a := by
  cases s with
  | scanCard id =>
    cases hc : suite.cards.find? id with
    | some card => simp [Suite.dangling?, hc] at h
    | none =>
      obtain rfl : Advice.missingCard test index id = a := by simpa [Suite.dangling?, hc] using h
      exact ⟨_, congrArg Prod.fst (scan_of_missing hc), rfl⟩
  | button press =>
    cases hb : suite.buttons.find? press.name with
    | some binding => simp [Suite.dangling?, hb] at h
    | none =>
      obtain rfl : Advice.unboundButton test index press.name = a := by
        simpa [Suite.dangling?, hb] using h
      have hunbound : (Step.button press).action? (suite.rig settings) = none :=
        Option.map_eq_none_iff.2 hb
      exact ⟨_, congrArg Prod.fst (press_of_unbound hunbound), rfl⟩
  | unsupported type => exact ⟨_, rfl, h⟩
  | _ => cases h

/-- A step that refers to what is there does not fail for want of it. -/
theorem answered_execute (h : suite.dangling? test index s = none) :
    Answered (b.execute (suite.rig settings) s).1 := by
  cases s with
  | scanCard id =>
    cases hc : suite.cards.find? id with
    | none => simp [Suite.dangling?, hc] at h
    | some card =>
      have hfound : (suite.rig settings).inventory.cards.find? id = some card := hc
      rw [execute, scan_of_found hfound]
      generalize groupFor (suite.rig settings).inventory.groups card = group
      have hscan := b.station.answered_scan card group
      cases hs : b.station.scan card group with
      | error f => exact .error (hscan f hs)
      | ok station => exact .ok _
  | button press =>
    cases hb : suite.buttons.find? press.name with
    | none => simp [Suite.dangling?, hb] at h
    | some binding =>
      have hbound : (Step.button press).action? (suite.rig settings) = some binding.action :=
        Option.map_eq_some_iff.2 ⟨binding, hb, rfl⟩
      rw [execute, press_of_bound hbound]
      have hpress := b.station.answered_press binding.action
      cases hp : b.station.press binding.action with
      | error f => exact .error (hpress f hp)
      | ok response => exact .ok _
  | delegateResolve r =>
    have hresolve := b.station.answered_resolve r
    rw [execute, resolve_eq]
    cases hr : b.station.resolve r.shouldScanCards r.penalty r.value with
    | error f => exact .error (hresolve f hr)
    | ok decided => exact .ok _
  | unsupported type => cases h
  | verifySolveTime e => exact (b.station.answered_verifySolveTime e).map _
  | verifySend e => exact (b.station.answered_verifySend e).map _
  | verifyDelegateSent => exact b.station.answered_verifyDelegateSent.map _
  | verifySnapshot fields => exact (b.station.answered_verifySnapshot fields).map _
  | solveTime ms => cases ms <;> exact .ok _
  | sleep ms => exact .ok _
  | snapshot => exact .ok _
  | resetState => exact .ok _
  | solveTimeRng => exact .ok _

/-- **A loader warns about what a step fails for**, at whatever bench it is executed. -/
theorem execute_advice_iff {a : Advice} :
    suite.dangling? test index s = some a ↔
      ∃ f, (b.execute (suite.rig settings) s).1 = .error f ∧ f.advice? test index = some a := by
  constructor
  · exact b.execute_of_dangling settings
  · rintro ⟨f, hf, ha⟩
    cases hd : suite.dangling? test index s with
    | none =>
      exact absurd ((StepFault.kind_mem_danglingKinds_iff test index).2 ⟨a, ha⟩)
        (b.answered_execute settings hd f hf)
    | some a' =>
      obtain ⟨f', hf', ha'⟩ := b.execute_of_dangling settings hd
      obtain rfl := Except.error.inj (hf.symm.trans hf')
      exact ha'.symm.trans ha

end Bench

/-! ## All advice -/

/-- The warnings on a suite, each with the place of the step it is about, foresee what fails for
want of a card, a button or a known type; the reminders that follow them are about decisions. -/
structure Suite.Foresight (suite : Suite) (warnings reminders : List (Site × Advice)) : Prop where
  /-- The loader gives the warnings and then the reminders, before anything else. -/
  advice : suite.advice = warnings.map Prod.snd ++ reminders.map Prod.snd
  logged : ∀ path, suite.advice.map Advice.record <+: Session.loadRecords path suite
  /-- They come in the order of tests and of steps, one at most about each step. -/
  warned : warnings.Pairwise fun x y => x.1.Before y.1
  reminded : reminders.Pairwise fun x y => x.1.Before y.1
  /-- A step is warned about if and only if it fails for what the warning says. -/
  foreseen : ∀ p t s, suite.At p t s → ∀ (settings : Settings) (b : Bench) (a : Advice),
    (p, a) ∈ warnings ↔
      ∃ f, (b.execute (suite.rig settings) s).1 = .error f ∧ f.advice? t.name p.step = some a
  placed : ∀ e ∈ warnings, ∃ t s, suite.At e.1 t s
  /-- A step that is not warned about never fails so. -/
  unwarned : ∀ p t s, suite.At p t s → (∀ a, (p, a) ∉ warnings) →
    ∀ (settings : Settings) (b : Bench) (f : StepFault),
      (b.execute (suite.rig settings) s).1 = .error f → f.kind ∉ StepFault.danglingKinds
  /-- A test with a step that is warned about fails, and no run reports that it passed. -/
  doomed : ∀ e ∈ warnings, ∀ t, suite.tests[e.1.test]? = some t → ∀ settings : Settings,
    (∀ seed, (suite.perform settings t seed).report.status = .failed) ∧
    ∀ readings r, (suite.run settings readings).report.tests[e.1.test]? = some r →
      r.status ≠ .passed
  /-- If any test verifies in the older manner, there is a reminder of each decision that leaves
  something open; and there are no others. -/
  reminder_iff : ∀ p a, (p, a) ∈ reminders ↔
    (∃ t ∈ suite.tests, ∃ s ∈ t.steps, s = .verifyDelegateSent ∨ ∃ e, s = .verifySolveTime e) ∧
    ∃ t r, suite.At p t (.delegateResolve r) ∧ (r.penalty = none ∨ r.value = none) ∧
      a = .openResolution t.name p.step

namespace Suite

variable (suite : Suite)

theorem isLegacy_iff :
    suite.isLegacy = true ↔
      ∃ t ∈ suite.tests, ∃ s ∈ t.steps, s = .verifyDelegateSent ∨ ∃ e, s = .verifySolveTime e := by
  have hstep (s : Step) :
      s.isLegacy = true ↔ s = .verifyDelegateSent ∨ ∃ e, s = .verifySolveTime e := by
    cases s <;> simp [Step.isLegacy]
  simp only [isLegacy, List.any_eq_true, hstep]

theorem openResolution?_eq_some_iff {test : String} {index : Nat} {s : Step} {a : Advice} :
    openResolution? test index s = some a ↔
      ∃ r, s = .delegateResolve r ∧ (r.penalty = none ∨ r.value = none) ∧
        a = .openResolution test index := by
  cases s with
  | delegateResolve r =>
    simp only [openResolution?, Bool.or_eq_true, Option.isNone_iff_eq_none,
      Option.ite_none_right_eq_some, Option.some.injEq, Step.delegateResolve.injEq, exists_eq_left', eq_comm (b := a)]
  | _ => simp [openResolution?]

/-- A test with a step that refers to something that is not there fails. -/
theorem failed_of_dangling {t : Test} {s : Step} {test : String} {index : Nat} {a : Advice}
    (hs : s ∈ t.steps) (h : suite.dangling? test index s = some a) (settings : Settings)
    (seed : UInt64) :
    (t.run (suite.rig settings) settings.continueOnFailure seed).failed = true := by
  apply Bool.of_not_eq_false
  intro hok
  obtain ⟨b, note, hnote⟩ := Test.exists_ok_of_not_failed hok hs
  obtain ⟨f, hf, -⟩ := b.execute_of_dangling settings h
  rw [hnote] at hf
  cases hf

end Suite

end StationBench
