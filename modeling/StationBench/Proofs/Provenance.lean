import StationBench.Proofs.Coherence
import StationBench.Proofs.History
import StationBench.Proofs.StepLanguage
import StationBench.Suite.Loading
/-!
# Where results come from

No time and no penalty at a station is made up. Whatever the station, its snapshot and its messages
hold came in with a step that was executed before (`Turn.Brings`, `Turn.Overrides`), or is one of
the penalties that the station gives itself (`Penalty.Plain`). This is kept by every move
(`Station.Move.from_sources`) and so holds at every point of a run
(`results_come_from_executed_steps`).
-/
namespace StationBench

/-! ## Sources -/

/-- A penalty in the form in which it is read: an integer with a name of its own goes by that. -/
def Penalty.Canonical (p : Penalty) : Prop :=
  ∀ n, p = .other n → n ≠ 0 ∧ n ≠ 2 ∧ n ≠ -1 ∧ n ≠ -2

/-- The penalties that a station gives without a delegate. -/
def Penalty.Plain (p : Penalty) : Prop := p = .none ∨ p = .plusTwo ∨ p = .dnf

/-- The times and penalties that something may be made of. -/
structure Sources where
  time : Millis → Prop
  penalty : Penalty → Prop

/-- Some sources are among others. -/
structure Sources.Within (S S' : Sources) : Prop where
  time : ∀ ms, S.time ms → S'.time ms
  penalty : ∀ p, S.penalty p → S'.penalty p

structure Message.From (m : Message) (S : Sources) : Prop where
  time : ∀ ms, m.time = some ms → S.time ms
  penalty : S.penalty m.penalty

structure Snapshot.From (s : Snapshot) (S : Sources) : Prop where
  time : ∀ ms, s.solveTime = some ms → S.time ms
  penalty : S.penalty s.penalty
  lastSent : ∀ m, s.lastSent = some m → m.From S

structure Station.From (s : Station) (S : Sources) : Prop where
  time : ∀ ms, s.solveTime = some ms → S.time ms
  penalty : S.penalty s.effectivePenalty
  lastSent : ∀ m, s.lastSent = some m → m.From S
  lastSnapshot : ∀ snapshot, s.lastSnapshot = some snapshot → snapshot.From S

structure Bench.From (b : Bench) (S : Sources) : Prop where
  station : b.station.From S
  outbox : ∀ m ∈ b.outbox, m.From S

section
variable {S S' : Sources} (h : S.Within S')
include h

theorem Message.From.mono {m : Message} (hm : m.From S) : m.From S' :=
  ⟨fun ms hms => h.time ms (hm.time ms hms), h.penalty _ hm.penalty⟩

theorem Snapshot.From.mono {s : Snapshot} (hs : s.From S) : s.From S' :=
  ⟨fun ms hms => h.time ms (hs.time ms hms), h.penalty _ hs.penalty,
    fun m hm => (hs.lastSent m hm).mono h⟩

theorem Station.From.mono {s : Station} (hs : s.From S) : s.From S' :=
  ⟨fun ms hms => h.time ms (hs.time ms hms), h.penalty _ hs.penalty,
    fun m hm => (hs.lastSent m hm).mono h,
    fun snapshot hsnap => (hs.lastSnapshot snapshot hsnap).mono h⟩

end

/-! ## What turns bring -/

namespace Turn

variable {rig : Rig}

/-- The times that come in with a turn. -/
inductive Brings (t : Turn rig) : Millis → Prop
  | literal {ms : Millis} (h : t.step = .solveTime (some ms)) : Brings t ms
  /-- A time is drawn that the seed of the test gives for the number of draws before. -/
  | draw (h : t.step.drawsTime = true) :
    Brings t (rig.range.draw t.before.draws.seed (.ofNat t.before.draws.drawn.length))
  | decision {r : Resolution} {ms : Millis} (h : t.step = .delegateResolve r) (ok : t.ok = true)
    (value : r.value = some ms) : Brings t ms

theorem brings_of_time? {t : Turn rig} {ms : Millis}
    (h : t.step.time? rig t.before.draws = some ms) : t.Brings ms := by
  cases hstep : t.step with
  | solveTime o =>
    cases o with
    | some ms' =>
      rw [hstep] at h
      obtain rfl := Option.some.inj h
      exact .literal hstep
    | none =>
      rw [hstep] at h
      obtain rfl := Option.some.inj h
      exact .draw (by rw [hstep]; rfl)
  | solveTimeRng =>
    rw [hstep] at h
    obtain rfl := Option.some.inj h
    exact .draw (by rw [hstep]; rfl)
  | _ =>
    rw [hstep] at h
    cases h

/-- A penalty that a delegate sets at a turn. -/
def Overrides (t : Turn rig) (p : Penalty) : Prop :=
  t.ok = true ∧ ∃ r, t.step = .delegateResolve r ∧ r.penalty = some p

end Turn

/-- What may be at a station after some turns. -/
def Trace.sources {rig : Rig} (past : List (Turn rig)) : Sources where
  time ms := ∃ t ∈ past, t.Brings ms
  penalty p := p.Canonical ∧ (p.Plain ∨ ∃ t ∈ past, t.Overrides p)

/-! ## Penalties -/

namespace Penalty

theorem Plain.canonical {p : Penalty} (h : p.Plain) : p.Canonical := by
  rintro n rfl
  rcases h with h | h | h <;> cases h

theorem plain_cycle (p : Penalty) : p.cycle.Plain := by
  cases p <;> simp [cycle, Plain]

theorem canonical_ofInt64 (i : Int64) : (ofInt64 i).Canonical := by
  intro n h
  unfold ofInt64 at h
  split at h
  · cases h
  split at h
  · cases h
  split at h
  · cases h
  split at h
  · cases h
  obtain rfl := Penalty.other.inj h
  exact ⟨‹_›, ‹_›, ‹_›, ‹_›⟩

end Penalty

/-! ## Moves -/

namespace Station

variable {S : Sources} {s s' : Station} {rig : Rig} {draws : Draws} {step : Step} {ok : Bool}
  {sent : List Message}

theorem from_idle (hnone : S.penalty .none) : Station.From .idle S :=
  ⟨fun _ h => absurd h (Option.some_ne_none _).symm, hnone,
    fun _ h => absurd h (Option.some_ne_none _).symm,
    fun _ h => absurd h (Option.some_ne_none _).symm⟩

/-- **A move adds nothing but what its step brings.** -/
theorem Move.from_sources (h : Move rig draws s step ok s' sent) (hs : s.From S)
    (hplain : ∀ p : Penalty, p.Plain → S.penalty p)
    (htime : ∀ ms, step.time? rig draws = some ms → S.time ms)
    (hresolve : ∀ r, step = .delegateResolve r → ok = true →
      (∀ ms, r.value = some ms → S.time ms) ∧ ∀ p, r.penalty = some p → S.penalty p) :
    s'.From S ∧ ∀ m ∈ sent, m.From S := by
  have hquiet {s' : Station} (h : s'.From S) : s'.From S ∧ ∀ m ∈ ([] : List Message), m.From S :=
    ⟨h, fun _ hm => absurd hm List.not_mem_nil⟩
  have hmessage {t : Millis} (timed : s.solveTime = some t) (delegate : Bool) :
      Message.From ⟨some t, s.effectivePenalty, delegate⟩ S := by
    refine ⟨?_, hs.penalty⟩
    rintro _ ⟨rfl⟩
    exact hs.time t timed
  cases h with
  | fail | sleep | verify | scan | inspection =>
    exact hquiet ⟨hs.time, hs.penalty, hs.lastSent, hs.lastSnapshot⟩
  | snapshot =>
    refine hquiet ⟨hs.time, hs.penalty, hs.lastSent, ?_⟩
    rintro _ ⟨rfl⟩
    exact ⟨hs.time, hs.penalty, hs.lastSent⟩
  | reset => exact hquiet (from_idle (hplain _ (Or.inl rfl)))
  | time h =>
    refine hquiet ⟨?_, hplain _ (Or.inl rfl), hs.lastSent, hs.lastSnapshot⟩
    rintro _ ⟨rfl⟩
    exact htime _ h
  | submit _ _ timed | call _ timed =>
    refine ⟨⟨hs.time, hs.penalty, ?_, hs.lastSnapshot⟩,
      List.forall_mem_singleton.2 (hmessage timed _)⟩
    rintro _ ⟨rfl⟩
    exact hmessage timed _
  | penalty =>
    exact hquiet ⟨hs.time, hplain _ (Penalty.plain_cycle _), hs.lastSent, hs.lastSnapshot⟩
  | clear =>
    refine hquiet ⟨?_, hplain _ (Or.inl rfl), hs.lastSent, hs.lastSnapshot⟩
    exact fun _ h => absurd h (Option.some_ne_none _).symm
  | @resolve r _ =>
    obtain ⟨hvalue, hpenalty⟩ := hresolve r rfl rfl
    have hm : (r.message s).From S := by
      refine ⟨?_, ?_⟩
      · intro ms hms
        rcases Option.or_eq_some_iff.1 hms with hv | ⟨-, ht⟩
        · exact hvalue ms hv
        · exact hs.time ms ht
      · change S.penalty (r.penalty.getD s.effectivePenalty)
        cases hp : r.penalty with
        | none => exact hs.penalty
        | some p => exact hpenalty p hp
    refine ⟨⟨hm.time, hm.penalty, ?_, hs.lastSnapshot⟩, List.forall_mem_singleton.2 hm⟩
    rintro _ ⟨rfl⟩
    exact hm

end Station

/-! ## Runs -/

/-- The penalties that a step sets are canonical. -/
def Step.Canonical (s : Step) : Prop :=
  ∀ r p, s = .delegateResolve r → r.penalty = some p → p.Canonical

namespace Trace

variable {rig : Rig}

theorem sources_within_append (past : List (Turn rig)) (t : Turn rig) :
    (sources past).Within (sources (past ++ [t])) := by
  constructor
  · rintro ms ⟨t', ht', hms⟩
    exact ⟨t', List.mem_append_left _ ht', hms⟩
  · rintro p ⟨hcanonical, hp⟩
    exact ⟨hcanonical, hp.imp_right fun ⟨t', ht', hp⟩ => ⟨t', List.mem_append_left _ ht', hp⟩⟩

/-- A turn keeps that a bench comes from sources, its own step among them. -/
theorem from_sources_after {past : List (Turn rig)} {t : Turn rig} (ht : t.step.Canonical)
    (h : t.before.From (sources past)) : t.after.From (sources (past ++ [t])) := by
  have hold := sources_within_append past t
  have hmem : t ∈ past ++ [t] := List.mem_append_right _ List.mem_cons_self
  obtain ⟨hout, hmove⟩ := t.move
  have hresolve (r : Resolution) (hr : t.step = .delegateResolve r) (hok : t.ok = true) :
      (∀ ms, r.value = some ms → (sources (past ++ [t])).time ms) ∧
        ∀ p, r.penalty = some p → (sources (past ++ [t])).penalty p :=
    ⟨fun ms hms => ⟨t, hmem, .decision hr hok hms⟩,
      fun p hp => ⟨ht r p hr hp, Or.inr ⟨t, hmem, hok, r, hr, hp⟩⟩⟩
  obtain ⟨hstation, hsent⟩ := hmove.from_sources (h.station.mono hold)
    (fun p hp => ⟨hp.canonical, Or.inl hp⟩) (fun ms hms => ⟨t, hmem, Turn.brings_of_time? hms⟩)
    hresolve
  refine ⟨hstation, ?_⟩
  rw [hout]
  intro m hm
  rcases List.mem_append.1 hm with hm | hm
  · exact (h.outbox m hm).mono hold
  · exact hsent m hm

theorem step_mem_of_mem_turns {flow : Flow} {i : Nat} {steps : List Step} {b : Bench} {t : Turn rig}
    (h : t ∈ turns rig flow i steps b) : t.step ∈ steps := by
  induction steps generalizing i b with
  | nil => simp [turns] at h
  | cons s rest ih =>
    rcases List.mem_cons.1 (List.IsPrefix.subset turns_cons_prefix h) with rfl | h
    · exact List.mem_cons_self
    · exact List.mem_cons_of_mem _ (ih h)

/-- At every point of a run everything comes from the steps before. -/
theorem from_sources_benchAfter {flow : Flow} {i : Nat} {steps : List Step} {b : Bench}
    (hsteps : ∀ s ∈ steps, s.Canonical) (hb : b.From (sources ([] : List (Turn rig))))
    {past : List (Turn rig)} (h : past <+: turns rig flow i steps b) :
    (benchAfter b past).From (sources past) := by
  refine turns_induction
    (P := fun past b => (∀ t ∈ past, t.step.Canonical) → b.From (sources past))
    (fun _ => hb) ?_ ?_ h fun t ht => hsteps _ (step_mem_of_mem_turns (h.subset ht))
  · exact fun past b' ms hb' hpast => ⟨(hb' hpast).station, (hb' hpast).outbox⟩
  · intro past t hbefore hpast
    exact from_sources_after (hpast t (by simp))
      (hbefore fun t' ht' => hpast t' (List.mem_append_left _ ht'))

end Trace

/-! ## Steps that were read -/

section
open Json Json.RecordReader

/-- A penalty that was written down, if one was, is canonical. -/
theorem Penalty.canonical_of_optionally {v : Option Value} {p : Penalty}
    (h : Value.Optionally Penalty.WrittenAs v (some p)) : p.Canonical := by
  cases h with
  | present h =>
    obtain ⟨i, -, rfl⟩ := h
    exact Penalty.canonical_ofInt64 i

/-- The penalty of a decision that was written down is canonical. -/
theorem Step.Denotes.canonical {t : String} {d : Value} {s : Step} (h : Denotes t d s) :
    s.Canonical := by
  rintro r p rfl hp
  cases h with
  | delegateResolve h =>
    obtain ⟨fields, -, -, hpenalty, -⟩ := h
    exact Penalty.canonical_of_optionally (hp ▸ hpenalty)

/-- Some type and some data denote the step. -/
def Step.Denoted (s : Step) : Prop := ∃ t d, Denotes t d s

theorem Step.Denoted.canonical {s : Step} (h : s.Denoted) : s.Canonical := by
  obtain ⟨_, _, h⟩ := h
  exact h.canonical

theorem Step.yields_read : Yields Step.read Step.Denoted := by
  have hvalue : Yields Reader.value Value.Distinct := by
    intro o v hv
    obtain ⟨w, -, rfl⟩ := ok_of_map hv
    exact w.distinct_ordered
  have hparts : Yields (Step.parts.outline "RawStep") fun p => p.2.Distinct :=
    RecordReader.Yields.outline (.seq (P := fun f => ∀ d : Value, (f d).2 = d)
      (.map (yields_required (yields_any _)) _ fun _ _ _ => rfl)
      (yields_defaulted hvalue (by rintro _ ⟨⟩))
      fun f d hf hd => by rw [hf]; exact hd) "RawStep"
  intro o s hs
  obtain ⟨p, hp, hs⟩ := ok_of_bind hs
  exact ⟨p.1, p.2, (Step.ofData_eq_ok_iff (hparts o p hp)).1 hs⟩

theorem Test.yields_read : Yields Test.read fun test => ∀ s ∈ test.steps, s.Denoted := by
  refine RecordReader.Yields.outline (.seq (P := fun f => ∀ steps, (f steps).steps = steps) ?_
    (yields_defaulted (yields_list Step.yields_read) (by simp)) fun f steps hf h => by
      rw [hf]; exact h) "Test"
  refine .seq (P := fun f => ∀ seed steps, (f seed steps).steps = steps) ?_
    (yields_defaulted (yields_any _) trivial) fun f seed hf _ => hf seed
  refine .seq (P := fun f => ∀ pause seed steps, (f pause seed steps).steps = steps) ?_
    (yields_defaulted (yields_any _) trivial) fun f pause hf _ => hf pause
  exact .map (yields_required (yields_any _)) _ fun _ _ _ _ _ => rfl

theorem Fixture.yields_tests :
    Yields Fixture.read fun f => ∀ test ∈ f.tests, ∀ s ∈ test.steps, s.Denoted := by
  refine RecordReader.Yields.outline (.seq (P := fun f => ∀ tests, (f tests).tests = tests) ?_
    (yields_required (yields_list Test.yields_read)) fun f tests hf h => by
      rw [hf]; exact h) "SuiteDocument"
  refine .seq (P := fun f => ∀ b t, (f b t).tests = t) ?_
    (yields_defaulted (yields_any _) trivial) fun f b hf _ => hf b
  refine .seq (P := fun f => ∀ c b t, (f c b t).tests = t) ?_
    (yields_defaulted (yields_any _) trivial) fun f c hf _ => hf c
  refine .seq (P := fun f => ∀ g c b t, (f g c b t).tests = t) ?_
    (yields_defaulted (yields_any _) trivial) fun f g hf _ => hf g
  exact .map (yields_defaulted (yields_any _) trivial) _ fun _ _ _ _ _ _ => rfl

end

/-- Every step of a suite that was loaded is one that a type and data denote. -/
theorem Suite.denoted_of_ofText {text : String} {suite : Suite} (h : ofText text = .ok suite)
    {test : Test} (htest : test ∈ suite.tests) : ∀ s ∈ test.steps, s.Denoted := by
  obtain ⟨f, hf, hs⟩ := ok_of_bind h
  obtain ⟨buttons, -, rfl⟩ := Fixture.suiteOf_of_ofFixture (ok_of_mapError hs)
  exact Fixture.yields_tests.of_read (ok_of_mapError hf) test htest

/-- The delegates of a suite that was loaded set canonical penalties. -/
theorem Suite.canonical_of_ofText {text : String} {suite : Suite} (h : ofText text = .ok suite)
    {test : Test} (htest : test ∈ suite.tests) : ∀ s ∈ test.steps, s.Canonical :=
  fun s hs => (denoted_of_ofText h htest s hs).canonical

/-- **Results are never invented.** At every point of a test of a suite that was loaded, whatever
the station holds, keeps or has sent comes from the steps that were executed before. -/
theorem results_come_from_executed_steps {text : String} {suite : Suite}
    (hload : Suite.ofText text = .ok suite) (settings : Settings) {test : Test}
    (htest : test ∈ suite.tests) (seed : UInt64) {past : List (Turn (suite.rig settings))}
    (h : past <+: Trace.turns (suite.rig settings)
      ⟨test.sleepBetween, settings.continueOnFailure⟩ 0 test.steps
      (.start (suite.rig settings) seed)) :
    (Trace.benchAfter (.start (suite.rig settings) seed) past).From (Trace.sources past) := by
  have hnone : (Trace.sources ([] : List (Turn (suite.rig settings)))).penalty .none :=
    ⟨Penalty.Plain.canonical (Or.inl rfl), Or.inl (Or.inl rfl)⟩
  exact Trace.from_sources_benchAfter (Suite.canonical_of_ofText hload htest)
    ⟨Station.from_idle hnone, fun _ hm => absurd hm List.not_mem_nil⟩ h

/-- A delegate gives a time that was taken a penalty of its own, and the station sends both. -/
theorem results_come_from_executed_steps_decision :
    let text := "\x7b\"tests\":[\x7b\"name\":\"t\",\"steps\":[[\"SolveTime\",3000]," ++
      "[\"DelegateResolve\",[false,5]]]\x7d]\x7d"
    let test : Test :=
      ⟨"t", 0, none, [.solveTime (some 3000), .delegateResolve ⟨false, some (.other 5), none⟩]⟩
    let suite : Suite :=
      { groups := [], cards := {}, buttons := {}, dumpStateAfterTest := false, tests := [test] }
    let rig := suite.rig {}
    let turns := Trace.turns rig ⟨0, false⟩ 0 test.steps (.start rig 7)
    Suite.ofText text = .ok suite ∧ test ∈ suite.tests ∧
      (Trace.benchAfter (.start rig 7) turns).outbox = [⟨some 3000, .other 5, true⟩] ∧
      (Trace.benchAfter (.start rig 7) turns).From (Trace.sources turns) := by
  intro text test suite rig turns
  have hload : Suite.ofText text = .ok suite := eq_ok_of_toOption (by decide +kernel)
  have htest : test ∈ suite.tests := List.mem_cons_self
  exact ⟨hload, htest, by decide +kernel,
    results_come_from_executed_steps hload {} htest 7 List.prefix_rfl⟩

end StationBench
