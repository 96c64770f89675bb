import StationBench.Proofs.Delivery
import StationBench.Proofs.Run
/-!
# Two generations of steps

Some steps can be written in an older and in a newer way. To verify that a delegate's message was
sent is to verify the last message for a delegate (`verifyDelegateSent_finds`). To verify the result
at the station is to verify the one in the last message, as long as nothing has changed either since
the message was sent (`Trace.showsLastSent_of_quiet`). And a random time may be asked for with a
step of its own or with a solve time that is left out (`report_respelled`). The three together are
`generations_agree`.
-/
namespace StationBench

/-! ## A delegate's message -/

/-- The expectation that a message is a delegate's. -/
def Expectation.sentByDelegate : Expectation := ⟨none, none, some true⟩

/-- Two verifications both pass, or both fail over one field and what is found there. -/
inductive SameFinding : Except StepFault Note → Except StepFault Note → Prop
  | pass (note note' : Note) : SameFinding (.ok note) (.ok note')
  | fail (field : String) (expected expected' actual : Json.Value) :
    SameFinding (.error (.verification field expected actual))
      (.error (.verification field expected' actual))

theorem Bench.verifyDelegateSent_finds (b : Bench) (rig : Rig) :
    SameFinding (b.execute rig .verifyDelegateSent).1
      (b.execute rig (.verifySend .sentByDelegate)).1 := by
  simp only [execute, Station.verifyDelegateSent, Station.verifySend]
  cases b.station.lastSent with
  | none => exact .fail "lastSent" _ _ .null
  | some m =>
    rcases m with ⟨t, p, delegate⟩
    cases delegate with
    | true => exact .pass _ _
    | false => exact .fail "delegate" _ _ (.bool false)

/-! ## The result at the station and the last message -/

/-- The last message has the time and the penalty that are at the station. -/
def Station.ShowsLastSent (s : Station) : Prop :=
  ∃ m, s.lastSent = some m ∧ m.time = s.solveTime ∧ m.penalty = s.effectivePenalty

/-- Whether a step has nothing to do with the result and with messages. -/
def Step.isQuiet (rig : Rig) : Step → Bool
  | .sleep _ | .scanCard _ | .snapshot | .unsupported _ => true
  | .verifySolveTime _ | .verifySend _ | .verifyDelegateSent | .verifySnapshot _ => true
  | .button press => (button press).action? rig = some .inspection
  | .resetState | .solveTime _ | .solveTimeRng | .delegateResolve _ => false

/-- Whether a turn leaves result and messages as they are, be it that its step fails. -/
def Turn.isQuiet {rig : Rig} (t : Turn rig) : Bool := !t.ok || t.step.isQuiet rig

namespace Station.Move

variable {rig : Rig} {draws : Draws} {s s' : Station} {step : Step} {ok : Bool}
  {sent : List Message}

/-- A message that is sent has the result of the station that sends it. -/
theorem showsLastSent_of_delivers (h : Move rig draws s step ok s' sent) (hok : ok = true)
    (hdelivers : step.delivers rig = true) : s'.ShowsLastSent := by
  cases h with
  | submit bound scanned timed settled => exact ⟨s.submission _, rfl, timed.symm, rfl⟩
  | call bound timed => exact ⟨s.call _, rfl, timed.symm, rfl⟩
  | resolve scanned => exact ⟨_, rfl, rfl, rfl⟩
  | verify hv => simp [Step.delivers_of_verifies hv] at hdelivers
  | time ht => simp [Step.delivers_of_time? ht] at hdelivers
  | penalty bound | inspection bound | clear bound =>
    simp [Step.delivers, bound] at hdelivers
  | fail => cases hok
  | sleep | scan | snapshot | reset => cases hdelivers

theorem kept_of_quiet (h : Move rig draws s step ok s' sent)
    (hquiet : (!ok || step.isQuiet rig) = true) :
    s'.lastSent = s.lastSent ∧ s'.solveTime = s.solveTime ∧ s'.penalty = s.penalty := by
  cases h with
  | time ht =>
    cases step with
    | solveTime t | solveTimeRng => cases hquiet
    | _ => cases ht
  | submit bound | penalty bound | call bound | clear bound =>
    simp [Step.isQuiet, bound] at hquiet
  | reset | resolve => cases hquiet
  | fail | sleep | verify | scan | snapshot | inspection => exact ⟨rfl, rfl, rfl⟩

theorem showsLastSent_of_quiet (h : Move rig draws s step ok s' sent)
    (hquiet : (!ok || step.isQuiet rig) = true) (hs : s.ShowsLastSent) : s'.ShowsLastSent := by
  obtain ⟨m, hm, htime, hpenalty⟩ := hs
  obtain ⟨hlast, hsolve, hpen⟩ := h.kept_of_quiet hquiet
  refine ⟨m, hlast.trans hm, htime.trans hsolve.symm, ?_⟩
  rw [hpenalty, effectivePenalty, effectivePenalty, hpen]

end Station.Move

namespace Trace

variable {rig : Rig} {flow : Flow} {i : Nat} {steps : List Step} {b : Bench}

/-- **The station shows what it sent last** from a delivery on, whatever quiet turns follow. -/
theorem showsLastSent_of_quiet {past later : List (Turn rig)} {t : Turn rig}
    (h : past ++ t :: later <+: turns rig flow i steps b) (ht : t.delivers = true)
    (hquiet : ∀ u ∈ later, u.isQuiet = true) :
    (benchAfter b (past ++ t :: later)).station.ShowsLastSent := by
  induction later using List.reverseRecOn with
  | nil =>
    rw [benchAfter_append_singleton]
    obtain ⟨hok, hdelivers⟩ := Bool.and_eq_true_iff.1 ht
    exact t.move.2.showsLastSent_of_delivers hok hdelivers
  | append_singleton later u ih =>
    have hlater : past ++ t :: (later ++ [u]) = (past ++ t :: later) ++ [u] := by simp
    rw [hlater] at h ⊢
    rw [benchAfter_append_singleton]
    refine u.move.2.showsLastSent_of_quiet (hquiet u (by simp)) ?_
    rw [station_before h]
    exact ih ((List.prefix_append _ _).trans h) fun u' hu' => hquiet u' (by simp [hu'])

end Trace

/-- What the two verifications of results find is the same if the results are. -/
theorem Bench.verifySolveTime_agrees {b : Bench} (h : b.station.ShowsLastSent) (rig : Rig)
    {e : Expectation} (he : e.delegate = none) :
    failureOf? (b.execute rig (.verifySolveTime e)).1 =
      failureOf? (b.execute rig (.verifySend e)).1 := by
  obtain ⟨m, hm, htime, hpenalty⟩ := h
  have hobserved : m.observed = { b.station.observed with delegate := m.delegate } := by
    rw [Message.observed, htime, hpenalty]
    rfl
  have hsame : e.mismatch? m.observed = e.mismatch? b.station.observed := by
    rw [hobserved, Expectation.mismatch?, Expectation.mismatch?, he]
    rfl
  simp only [execute, failureOf?_map, Station.verifySolveTime, Station.verifySend, hm, hsame]
  cases e.mismatch? b.station.observed <;> rfl

/-! ## Random times -/

/-- Steps that are the same, or two ways to ask for a random time. -/
inductive Step.Respelled : Step → Step → Prop
  | refl (s : Step) : Respelled s s
  | named : Respelled (.solveTime none) .solveTimeRng
  | unnamed : Respelled .solveTimeRng (.solveTime none)

namespace Step.Respelled

variable {s s' : Step}

theorem execute_eq (h : Respelled s s') (b : Bench) (rig : Rig) :
    b.execute rig s' = b.execute rig s := by
  cases h <;> rfl

/-- A step that is written in another way is not one that fails. -/
theorem type_eq (h : Respelled s s') {b : Bench} {rig : Rig} {f : StepFault}
    (hf : (b.execute rig s).1 = .error f) : s'.type = s.type := by
  cases h with
  | refl => rfl
  | named | unnamed => cases hf

theorem forall₂_refl (steps : List Step) : List.Forall₂ Respelled steps steps :=
  List.forall₂_same.2 fun s _ => .refl s

end Step.Respelled

/-- An entry of another step that came to the same. -/
def Entry.respell (e : Entry) (s : Step) : Entry := { e with step := s }

/-- The type of a step shows in a failure only if the step fails. -/
theorem Entry.failure?_respell {e : Entry} {s : Step}
    (h : ∀ f, e.result = .error f → s.type = e.step.type) :
    (e.respell s).failure? = e.failure? := by
  have hfault : (e.respell s).fault? = e.fault? := rfl
  rw [failure?, failure?, hfault]
  cases hf : e.fault? with
  | none => rfl
  | some f => simp [respell, h f (fault?_eq_some_iff.1 hf)]

/-- A record of a step with another type. -/
def StepRecord.respell (r : StepRecord) (s : Step) : StepRecord := { r with type := s.type }

namespace Trace

/-- What a trace comes to if its steps are written in another way. -/
structure Respelled (steps' : List Step) (t t' : Trace) : Prop where
  entries : t'.entries = List.zipWith Entry.respell t.entries steps'
  failures : t'.failures = t.failures
  bench : t'.bench = t.bench

variable {rig : Rig} {flow : Flow}

theorem turn_respelled {s s' : Step} (h : s.Respelled s') (i : Nat) (b : Bench) :
    turn rig flow i s' b = ((turn rig flow i s b).1.respell s', (turn rig flow i s b).2) := by
  rw [turn, turn, h.execute_eq]
  rfl

theorem run_respelled {steps steps' : List Step} (h : List.Forall₂ Step.Respelled steps steps')
    (i : Nat) (b : Bench) :
    Respelled steps' (run rig flow i steps b) (run rig flow i steps' b) := by
  induction h generalizing i b with
  | nil => exact ⟨rfl, rfl, rfl⟩
  | @cons s s' rest rest' hs hrest ih =>
    have hfailure : ((turn rig flow i s b).1.respell s').failure? =
        (turn rig flow i s b).1.failure? := Entry.failure?_respell fun f => hs.type_eq
    have hstops : flow.stops ((turn rig flow i s b).1.respell s') =
        flow.stops (turn rig flow i s b).1 := rfl
    rw [run_cons, run_cons, turn_respelled hs, hstops]
    split
    · exact ⟨rfl, by simp only [Trace.failures, List.filterMap_cons, hfailure], rfl⟩
    · obtain ⟨hentries, hfailures, hbench⟩ := ih (i + 1) (turn rig flow i s b).2
      refine ⟨congrArg (_ :: ·) hentries, ?_, hbench⟩
      rw [failures_cons, failures_cons, hfailure, hfailures]

end Trace

theorem Visit.report_respelled {t t' : Trace} {test : Test} {steps' : List Step}
    (h : Trace.Respelled steps' t t') (seed : UInt64) (dumped : Bool) :
    (ran { test with steps := steps' } seed dumped t').report =
      { (ran test seed dumped t).report with
        steps :=
          List.zipWith StepRecord.respell (ran test seed dumped t).report.steps steps' } := by
  have hsteps : t'.entries.map Entry.record =
      List.zipWith StepRecord.respell (t.entries.map Entry.record) steps' := by
    rw [h.entries, List.map_zipWith, List.zipWith_map_left]
    rfl
  simp only [report, ← Trace.status_eq, hsteps, h.failures, h.bench]

namespace Suite

variable (suite : Suite) (settings : Settings) (index : Nat) {test : Test} {steps' : List Step}

theorem report_respelled (h : List.Forall₂ Step.Respelled test.steps steps') :
    (suite.visit settings index { test with steps := steps' }).report =
      { (suite.visit settings index test).report with
        steps := List.zipWith StepRecord.respell
          (suite.visit settings index test).report.steps steps' } := by
  cases hselects : settings.selects test.name with
  | true =>
    have hvisit : suite.visit settings index { test with steps := steps' } = _ :=
      suite.visit_of_selects settings hselects
    rw [hvisit, suite.visit_of_selects settings hselects]
    exact Visit.report_respelled (Trace.run_respelled h 0 _) _ suite.dumpStateAfterTest
  | false =>
    have hvisit : suite.visit settings index { test with steps := steps' } = _ :=
      suite.visit_of_not_selects settings hselects
    rw [hvisit, suite.visit_of_not_selects settings hselects]
    simp [Visit.report]

/-- The record of a step that is written as it was is the same. -/
theorem record_of_same_step (h : List.Forall₂ Step.Respelled test.steps steps') {k : Nat}
    (hk : test.steps[k]? = steps'[k]?) :
    (suite.visit settings index test).report.steps[k]? =
      (suite.visit settings index { test with steps := steps' }).report.steps[k]? := by
  have hsame := congrArg TestReport.steps
    (suite.report_respelled settings index (Step.Respelled.forall₂_refl test.steps))
  have hother := congrArg TestReport.steps (suite.report_respelled settings index h)
  calc (suite.visit settings index test).report.steps[k]?
    _ = (List.zipWith StepRecord.respell (suite.visit settings index test).report.steps
          test.steps)[k]? := congrArg (·[k]?) hsame
    _ = (List.zipWith StepRecord.respell (suite.visit settings index test).report.steps
          steps')[k]? := by rw [List.getElem?_zipWith, List.getElem?_zipWith, hk]
    _ = _ := congrArg (·[k]?) hother.symm

end Suite

/-! ## The two generations -/

/-- **The two generations of steps agree**: they find the same of a delegate's message, and of the
result for as long as the station shows what it sent last, and it makes no difference how a random
time is asked for, but for the type that is reported of that step. -/
theorem generations_agree :
    (∀ (rig : Rig) (b : Bench),
      SameFinding (b.execute rig .verifyDelegateSent).1
        (b.execute rig (.verifySend .sentByDelegate)).1) ∧
    (∀ (rig : Rig) (flow : Flow) (i : Nat) (steps : List Step) (b : Bench)
        (past later : List (Turn rig)) (t : Turn rig),
      past ++ t :: later <+: Trace.turns rig flow i steps b → t.delivers = true →
      (∀ u ∈ later, u.isQuiet = true) →
      ∀ (j : Nat) (e : Expectation), e.delegate = none →
        let b' := flow.ready j (Trace.benchAfter b (past ++ t :: later))
        failureOf? (b'.execute rig (.verifySolveTime e)).1 =
          failureOf? (b'.execute rig (.verifySend e)).1) ∧
    (∀ (suite : Suite) (settings : Settings) (index : Nat) (test : Test) (steps' : List Step),
      List.Forall₂ Step.Respelled test.steps steps' →
      let report : TestReport := (suite.visit settings index test).report
      let report' : TestReport := (suite.visit settings index { test with steps := steps' }).report
      report' = { report with steps := List.zipWith StepRecord.respell report.steps steps' } ∧
        ∀ k : Nat, test.steps[k]? = steps'[k]? → report.steps[k]? = report'.steps[k]?) := by
  refine ⟨fun rig b => b.verifyDelegateSent_finds rig, ?_, ?_⟩
  · intro rig flow i steps b past later t h ht hquiet j e he b'
    have hshows : b'.station.ShowsLastSent := by
      rw [flow.station_ready j]
      exact Trace.showsLastSent_of_quiet h ht hquiet
    exact Bench.verifySolveTime_agrees hshows rig he
  · intro suite settings index test steps' h report report'
    exact ⟨suite.report_respelled settings index h,
      fun k => suite.record_of_same_step settings index h⟩

/-- A delegate is called, then inspection starts and a submission is refused: both verifications
miss the same time. In another test a random time is asked for in another way. -/
theorem generations_agree_refused :
    let card : Card := ⟨true, "Ada", 42, "2019LOVE01", []⟩
    let suite : Suite :=
      { groups := [], cards := ⟨[(42, card)]⟩
        buttons := ⟨[("eye", ⟨[3], .inspection⟩), ("judge", ⟨[2], .delegate⟩),
          ("ok", ⟨[1], .submit⟩)]⟩
        dumpStateAfterTest := true, tests := [] }
    let rig := suite.rig {}
    let flow : Flow := ⟨10, true⟩
    let steps : List Step :=
      [.scanCard 42, .solveTime (some 3000), .button ⟨"judge", 5⟩, .button ⟨"eye", 5⟩,
        .button ⟨"ok", 5⟩]
    let turns := Trace.turns rig flow 0 steps (.start rig 7)
    let b := flow.ready 5 (Trace.benchAfter (.start rig 7) turns)
    let e : Expectation := ⟨some 9, none, none⟩
    let test : Test := ⟨"random", 10, none, [.solveTime none, .snapshot]⟩
    let steps' : List Step := [.solveTimeRng, .snapshot]
    turns.map Turn.ok = [true, true, true, true, false] ∧
      SameFinding (b.execute rig .verifyDelegateSent).1
        (b.execute rig (.verifySend .sentByDelegate)).1 ∧
      failureOf? (b.execute rig (.verifySolveTime e)).1 =
        failureOf? (b.execute rig (.verifySend e)).1 ∧
      (b.execute rig (.verifySend e)).1.isOk = false ∧
      List.Forall₂ Step.Respelled test.steps steps' ∧
      (suite.visit {} 0 test).report.steps[1]? =
        (suite.visit {} 0 { test with steps := steps' }).report.steps[1]? := by
  intro card suite rig flow steps turns b e test steps'
  obtain ⟨hdelegate, hresult, hrandom⟩ := generations_agree
  have hrespelled : List.Forall₂ Step.Respelled test.steps steps' :=
    .cons .named (.cons (.refl .snapshot) .nil)
  have hagree := hresult rig flow 0 steps (.start rig 7) (turns.take 2) (turns.drop 3) turns[2]
    List.prefix_rfl (by decide) (by decide) 5 e rfl
  exact ⟨by decide, hdelegate rig b, hagree, by decide, hrespelled,
    (hrandom suite {} 0 test steps' hrespelled).2 1 rfl⟩

end StationBench
