import StationBench.Proofs.Move
import StationBench.Proofs.Run
/-!
# Time and outcomes

Executing a step never looks at the clock, but to say when a button was held. So times can be
changed before or after the execution of a test, and it comes to the same (`Retiming.run_bench`).
Stopping the clock is such a change, and so is forgetting how waits are paced.
-/
namespace StationBench

/-! ## Changes of times -/

/-- A change of the times that are waited and of the times that a clock shows, which go together. -/
structure Retiming where
  /-- What becomes of a clock. -/
  clock : Clock → Clock
  /-- What becomes of a time that is waited. -/
  span : Millis → Millis
  /-- What becomes of a time that a clock shows. -/
  instant : Millis → Millis
  advance_clock : ∀ c ms, (clock c).advance (span ms) = clock (c.advance ms)
  now_clock : ∀ c, (clock c).now = instant c.now

namespace Retiming

/-- A clock that does not move, and waits that take no time. -/
def stopped : Retiming where
  clock _ := .start .compressed
  span _ := 0
  instant _ := 0
  advance_clock _ _ := rfl
  now_clock _ := rfl

/-- The time on the wall is forgotten, whatever the pacing. -/
def unpaced : Retiming where
  clock c := { now := c.now }
  span ms := ms
  instant t := t
  advance_clock _ _ := rfl
  now_clock _ := rfl

variable (ρ : Retiming)

def step : Step → Step
  | .sleep ms => .sleep (ρ.span ms)
  | .button press => .button { press with time := ρ.span press.time }
  | s => s

def note : Note → Note
  | .slept ms => .slept (ρ.span ms)
  | .pressed press action => .pressed { press with time := ρ.span press.time } action
  | n => n

def press (p : PressEvent) : PressEvent :=
  { p with pressedAt := ρ.instant p.pressedAt, heldFor := ρ.span p.heldFor }

def bench (b : Bench) : Bench :=
  { b with clock := ρ.clock b.clock, presses := b.presses.map ρ.press }

def entry (e : Entry) : Entry := { e with step := ρ.step e.step, result := e.result.map ρ.note }

def trace (t : Trace) : Trace := ⟨t.entries.map ρ.entry, ρ.bench t.bench⟩

/-! ## Execution respects changes of times -/

theorem wait_bench (b : Bench) (ms : Millis) :
    (ρ.bench b).wait (ρ.span ms) = ρ.bench (b.wait ms) := by
  simp only [bench, Bench.wait, ρ.advance_clock]

theorem hold_bench (b : Bench) (p : ButtonPress) (action : ButtonAction) :
    (ρ.bench b).hold { p with time := ρ.span p.time } action = ρ.bench (b.hold p action) := by
  rw [Bench.hold, Bench.hold, wait_bench]
  simp [bench, Bench.wait, press, ρ.now_clock]

theorem scan_bench (b : Bench) (rig : Rig) (id : UInt64) :
    (ρ.bench b).scan rig id = ((b.scan rig id).1.map ρ.note, ρ.bench (b.scan rig id).2) := by
  have hs : (ρ.bench b).station = b.station := rfl
  cases hc : rig.inventory.cards.find? id with
  | none =>
    rw [Bench.scan_of_missing hc, Bench.scan_of_missing hc]
    rfl
  | some card =>
    rw [Bench.scan_of_found hc, Bench.scan_of_found hc, hs]
    cases b.station.scan card (groupFor rig.inventory.groups card) <;> rfl

theorem press_bench (b : Bench) (rig : Rig) (p : ButtonPress) :
    (ρ.bench b).press rig { p with time := ρ.span p.time } =
      ((b.press rig p).1.map ρ.note, ρ.bench (b.press rig p).2) := by
  have hs : (ρ.bench b).station = b.station := rfl
  cases ha : (Step.button p).action? rig with
  | none =>
    have ha' : (Step.button { p with time := ρ.span p.time }).action? rig = none := ha
    rw [Bench.press_of_unbound ha, Bench.press_of_unbound ha']
    rfl
  | some action =>
    have ha' : (Step.button { p with time := ρ.span p.time }).action? rig = some action := ha
    rw [Bench.press_of_bound ha, Bench.press_of_bound ha', hs, hold_bench]
    cases b.station.press action <;> rfl

theorem resolve_bench (b : Bench) (r : Resolution) :
    (ρ.bench b).resolve r = ((b.resolve r).1.map ρ.note, ρ.bench (b.resolve r).2) := by
  have hs : (ρ.bench b).station = b.station := rfl
  rw [Bench.resolve_eq, Bench.resolve_eq, hs]
  cases b.station.resolve r.shouldScanCards r.penalty r.value <;> rfl

/-- A check of the station notes no times. -/
theorem map_note_check {α : Type} (check : Except StepFault α) {found : α → Note}
    (h : ∀ a, ρ.note (found a) = found a) : (found <$> check).map ρ.note = found <$> check := by
  cases check with
  | error fault => rfl
  | ok a => exact congrArg Except.ok (h a)

/-- **Execution respects changes of times**: a step with changed times on a bench with a changed
clock does what the step does, with changed times. -/
theorem execute_bench (b : Bench) (rig : Rig) (s : Step) :
    (ρ.bench b).execute rig (ρ.step s) =
      ((b.execute rig s).1.map ρ.note, ρ.bench (b.execute rig s).2) := by
  have checked {α : Type} (check : Except StepFault α) {found : α → Note}
      (h : ∀ a, ρ.note (found a) = found a) :
      (found <$> check, ρ.bench b) = ((found <$> check).map ρ.note, ρ.bench b) := by
    rw [ρ.map_note_check check h]
  cases s with
  | sleep ms => exact congrArg (Prod.mk _) (ρ.wait_bench b ms)
  | scanCard id => exact ρ.scan_bench b rig id
  | solveTime ms => cases ms <;> rfl
  | button p => exact ρ.press_bench b rig p
  | delegateResolve r => exact ρ.resolve_bench b r
  | verifySolveTime e => exact checked (b.station.verifySolveTime e) fun _ => rfl
  | verifySend e => exact checked (b.station.verifySend e) fun _ => rfl
  | verifyDelegateSent => exact checked b.station.verifyDelegateSent fun _ => rfl
  | verifySnapshot fields => exact checked (b.station.verifySnapshot fields) fun _ => rfl
  | snapshot | resetState | solveTimeRng | unsupported type => rfl

/-! ## So do traces -/

def flow (f : Flow) : Flow := { f with sleepBetween := ρ.span f.sleepBetween }

@[simp] theorem fault?_entry (e : Entry) : (ρ.entry e).fault? = e.fault? := by
  cases h : e.result <;> simp [Entry.fault?, entry, h, Except.map]

theorem ready_bench (f : Flow) (i : Nat) (b : Bench) :
    (ρ.flow f).ready i (ρ.bench b) = ρ.bench (f.ready i b) := by
  cases i with
  | zero => rfl
  | succ i => exact ρ.wait_bench b f.sleepBetween

theorem turn_bench (rig : Rig) (f : Flow) (i : Nat) (s : Step) (b : Bench) :
    Trace.turn rig (ρ.flow f) i (ρ.step s) (ρ.bench b) =
      (ρ.entry (Trace.turn rig f i s b).1, ρ.bench (Trace.turn rig f i s b).2) := by
  simp only [Trace.turn, ready_bench, execute_bench]
  rfl

theorem stops_entry (f : Flow) (e : Entry) : (ρ.flow f).stops (ρ.entry e) = f.stops e := by
  simp [Flow.stops, flow]

/-- Executing steps with changed times comes to the trace with changed times. -/
theorem run_bench (rig : Rig) (f : Flow) (i : Nat) (steps : List Step) (b : Bench) :
    Trace.run rig (ρ.flow f) i (steps.map ρ.step) (ρ.bench b) =
      ρ.trace (Trace.run rig f i steps b) := by
  induction steps generalizing i b with
  | nil => rfl
  | cons s rest ih =>
    rw [List.map_cons, Trace.run_cons, turn_bench, stops_entry]
    by_cases h : f.stops (Trace.turn rig f i s b).1 = true
    · rw [Trace.run_cons_of_stops h, if_pos h]
      rfl
    · rw [Trace.run_cons_of_not_stops h, if_neg h, ih]
      rfl

end Retiming

/-! ## The pacing -/

theorem Bench.execute_pacing (b : Bench) (rig : Rig) (pacing : Pacing) (s : Step) :
    b.execute { rig with pacing } s = b.execute rig s := by
  cases s with
  | solveTime ms => cases ms <;> rfl
  | _ => rfl

/-- Only the clock that a test starts with knows of the pacing. -/
theorem Trace.run_pacing (rig : Rig) (pacing : Pacing) (f : Flow) (i : Nat) (steps : List Step)
    (b : Bench) : run { rig with pacing } f i steps b = run rig f i steps b := by
  induction steps generalizing i b with
  | nil => rfl
  | cons s rest ih =>
    have hturn : turn { rig with pacing } f i s b = turn rig f i s b := by
      rw [turn, turn, Bench.execute_pacing]
    rw [run_cons, run_cons, hturn, ih]

/-! ## What a test comes to, but for times -/

/-- Steps that differ in the times that they take at most. -/
inductive Step.SameButForTime : Step → Step → Prop
  | sleep (ms ms' : Millis) : SameButForTime (.sleep ms) (.sleep ms')
  | button (name : String) (ms ms' : Millis) :
    SameButForTime (.button ⟨name, ms⟩) (.button ⟨name, ms'⟩)
  | refl (s : Step) : SameButForTime s s

/-- Records that differ in how long a wait or a press took at most, if it succeeded. -/
structure StepRecord.SameButForTime (r r' : StepRecord) : Prop where
  index : r.index = r'.index
  type : r.type = r'.type
  ok : r.ok = r'.ok
  message : ¬ (r.ok = true ∧ (r.type = "Sleep" ∨ r.type = "Button")) → r.message = r'.message

/-- Dumps that differ in the clock and in the times of presses at most. -/
structure StateDump.SameButForTime (d d' : StateDump) : Prop where
  snapshot : d.snapshot = d'.snapshot
  lastSnapshot : d.lastSnapshot = d'.lastSnapshot
  sent : d.sent = d'.sent
  draws : d.draws = d'.draws
  presses : d.presses.map (fun p => (p.name, p.action)) = d'.presses.map fun p => (p.name, p.action)

/-- Reports of tests that came to the same, but for times. -/
structure TestReport.SameButForTime (r r' : TestReport) : Prop where
  status : r.status = r'.status
  failures : r.failures = r'.failures
  steps : List.Forall₂ StepRecord.SameButForTime r.steps r'.steps
  dump : Option.Rel StateDump.SameButForTime r.dump r'.dump

/-- Whether a step takes a time of its own. -/
def Step.takesTime : Step → Bool
  | .sleep _ | .button _ => true
  | _ => false

theorem Step.type_of_takesTime {s : Step} (h : s.takesTime = true) :
    s.type = "Sleep" ∨ s.type = "Button" := by
  cases s with
  | sleep ms => exact Or.inl rfl
  | button p => exact Or.inr rfl
  | _ => cases h

theorem map_step_stopped {steps steps' : List Step}
    (h : List.Forall₂ Step.SameButForTime steps steps') :
    steps.map Retiming.stopped.step = steps'.map Retiming.stopped.step := by
  induction h with
  | nil => rfl
  | cons hs _ ih =>
    rw [List.map_cons, List.map_cons, ih]
    cases hs <;> rfl

/-- Lists with the same images under a map are related as the elements with the same image are. -/
theorem forall₂_of_map_eq {α β : Type} {R : α → α → Prop} {f : α → β} {l l' : List α}
    (h : l.map f = l'.map f) (hR : ∀ a ∈ l, ∀ a' ∈ l', f a = f a' → R a a') :
    List.Forall₂ R l l' := by
  rw [List.forall₂_iff_get]
  constructor
  · simpa using congrArg List.length h
  · intro i hi hi'
    apply hR _ (List.get_mem l ⟨i, hi⟩) _ (List.get_mem l' ⟨i, hi'⟩)
    have hget := congrArg (·[i]?) h
    simpa [hi, hi'] using hget

namespace Retiming

variable (ρ : Retiming)

@[simp] theorem type_step (s : Step) : (ρ.step s).type = s.type := by
  cases s <;> rfl

/-- The note of a step that takes no time has no time in it. -/
theorem note_execute {s : Step} (h : s.takesTime = false) (b : Bench) (rig : Rig) :
    (b.execute rig s).1.map ρ.note = (b.execute rig s).1 := by
  cases s with
  | sleep ms => cases h
  | button p => cases h
  | scanCard id =>
    rcases b.scan_cases rig id with ⟨_, hs⟩ | ⟨_, -, -, hs⟩ <;> rw [Bench.execute, hs] <;> rfl
  | solveTime ms => cases ms <;> rfl
  | delegateResolve r =>
    rcases b.resolve_cases r with ⟨_, hr⟩ | ⟨-, hr⟩ <;> rw [Bench.execute, hr] <;> rfl
  | verifySolveTime e => exact ρ.map_note_check (b.station.verifySolveTime e) fun _ => rfl
  | verifySend e => exact ρ.map_note_check (b.station.verifySend e) fun _ => rfl
  | verifyDelegateSent => exact ρ.map_note_check b.station.verifyDelegateSent fun _ => rfl
  | verifySnapshot fields => exact ρ.map_note_check (b.station.verifySnapshot fields) fun _ => rfl
  | snapshot | resetState | solveTimeRng | unsupported type => rfl

/-- Changed times do not show in what an entry says, unless it tells how long something took. -/
theorem text_entry {rig : Rig} {e : Entry} (he : ∃ b : Bench, e.result = (b.execute rig e.step).1)
    (h : ¬ (e.record.ok = true ∧ (e.record.type = "Sleep" ∨ e.record.type = "Button"))) :
    (ρ.entry e).text = e.text := by
  cases hr : e.result with
  | error fault => simp [Entry.text, entry, hr, Except.map]
  | ok note =>
    have hok : e.record.ok = true := by simp [Entry.fault?, hr]
    have hstep : e.step.takesTime = false := by
      rw [Bool.eq_false_iff]
      intro ht
      exact h ⟨hok, Step.type_of_takesTime ht⟩
    obtain ⟨b, hb⟩ := he
    have hsame : e.result.map ρ.note = e.result := by rw [hb, ρ.note_execute hstep]
    simp only [Entry.text, entry, hsame]

theorem failure?_entry (e : Entry) : (ρ.entry e).failure? = e.failure? := by
  simp only [Entry.failure?, fault?_entry]
  simp [entry]

theorem failures_trace (t : Trace) : (ρ.trace t).failures = t.failures := by
  simp only [Trace.failures, trace, List.filterMap_map]
  apply List.filterMap_congr
  intro e _
  exact ρ.failure?_entry e

theorem status_trace (t : Trace) : (ρ.trace t).status = t.status := by
  simp [Trace.status, Trace.failed, trace, Function.comp_def]

theorem record_sameButForTime {rig rig' : Rig} {e e' : Entry}
    (he : ∃ b : Bench, e.result = (b.execute rig e.step).1)
    (he' : ∃ b : Bench, e'.result = (b.execute rig' e'.step).1) (h : ρ.entry e = ρ.entry e') :
    StepRecord.SameButForTime e.record e'.record := by
  have htype : e.record.type = e'.record.type := by
    rw [Entry.record_type, Entry.record_type, ← ρ.type_step, ← ρ.type_step e'.step]
    exact congrArg (fun x : Entry => x.step.type) h
  have hok : e.record.ok = e'.record.ok := by
    rw [Entry.record_ok, Entry.record_ok, ← ρ.fault?_entry, h, ρ.fault?_entry]
  refine ⟨(congrArg Entry.index h :), htype, hok, ?_⟩
  intro hm
  have hm' : ¬ (e'.record.ok = true ∧ (e'.record.type = "Sleep" ∨ e'.record.type = "Button")) := by
    rwa [← hok, ← htype]
  calc e.text = (ρ.entry e).text := (ρ.text_entry he hm).symm
    _ = (ρ.entry e').text := by rw [h]
    _ = e'.text := ρ.text_entry he' hm'

theorem dump_sameButForTime {b b' : Bench} (h : stopped.bench b = stopped.bench b') :
    StateDump.SameButForTime b.dump b'.dump := by
  have hstation : b.station = b'.station := (congrArg Bench.station h :)
  have hpresses : b.presses.map stopped.press = b'.presses.map stopped.press :=
    (congrArg Bench.presses h :)
  refine ⟨?_, ?_, (congrArg Bench.outbox h :), (congrArg (fun x : Bench => x.draws.drawn) h :), ?_⟩
  · unfold Bench.dump
    rw [hstation]
  · unfold Bench.dump
    rw [hstation]
  · have hnames := congrArg (List.map fun p : PressEvent => (p.name, p.action)) hpresses
    rwa [List.map_map, List.map_map] at hnames

/-- A test with changed times, whatever the pacing. -/
theorem trace_run (t : Test) (rig : Rig) (pacing : Pacing) (continueOnFailure : Bool)
    (seed : UInt64) :
    ρ.trace (t.run { rig with pacing } continueOnFailure seed) =
      Trace.run rig (ρ.flow ⟨t.sleepBetween, continueOnFailure⟩) 0 (t.steps.map ρ.step)
        (ρ.bench (.start { rig with pacing } seed)) := by
  rw [Test.run, Trace.run_pacing, run_bench]

/-- Once times are left out, tests whose steps differ in times only have the same trace. -/
theorem stopped_trace_run {t t' : Test} (h : List.Forall₂ Step.SameButForTime t.steps t'.steps)
    (rig : Rig) (pacing pacing' : Pacing) (continueOnFailure : Bool) (seed : UInt64) :
    stopped.trace (t.run { rig with pacing } continueOnFailure seed) =
      stopped.trace (t'.run { rig with pacing := pacing' } continueOnFailure seed) := by
  rw [trace_run, trace_run, map_step_stopped h]
  rfl

/-- Once the pacing is left out, a test has the same trace under any. -/
theorem unpaced_trace_run (t : Test) (rig : Rig) (pacing pacing' : Pacing)
    (continueOnFailure : Bool) (seed : UInt64) :
    unpaced.trace (t.run { rig with pacing } continueOnFailure seed) =
      unpaced.trace (t.run { rig with pacing := pacing' } continueOnFailure seed) := by
  rw [trace_run, trace_run]
  rfl

theorem unpaced_entry (e : Entry) : unpaced.entry e = e := by
  rcases e with ⟨i, s, result⟩
  have hs : unpaced.step s = s := by cases s <;> rfl
  have hn : unpaced.note = id := by
    ext n
    cases n <;> rfl
  simp only [entry, hs, hn, Except.map_id]
  rfl

/-- A report does not tell how waits were paced. -/
theorem report_unpaced (test : Test) (seed : UInt64) (dumped : Bool) (t : Trace) :
    (Visit.ran test seed dumped (unpaced.trace t)).report =
      (Visit.ran test seed dumped t).report := by
  have hentries : (unpaced.trace t).entries = t.entries := List.map_id'' unpaced_entry t.entries
  have hpresses : (unpaced.trace t).bench.presses = t.bench.presses :=
    List.map_id'' (fun _ => rfl) t.bench.presses
  have hdump : (unpaced.trace t).bench.dump = t.bench.dump := by
    unfold Bench.dump
    rw [hpresses]
    rfl
  simp only [Visit.report, Trace.status, Trace.failed, Trace.failures, hentries, hdump]
  rfl

end Retiming

/-- **Timing never changes outcomes**: tests whose steps differ in the times that they take at most
come to the same but for times, however long the times between steps are and whatever the pacing.
The pacing by itself makes no difference at all. -/
theorem report_sameButForTime (suite : Suite) (settings : Settings) (realtime : Bool)
    (seed : UInt64) {test test' : Test} (h : List.Forall₂ Step.SameButForTime test.steps test'.steps) :
    TestReport.SameButForTime (suite.perform settings test seed).report
      (suite.perform { settings with realtime } test' seed).report ∧
    (suite.perform settings test seed).report =
      (suite.perform { settings with realtime } test seed).report := by
  have htrace := Retiming.stopped_trace_run h (suite.rig settings) settings.pacing
    { settings with realtime }.pacing settings.continueOnFailure seed
  refine ⟨⟨?_, ?_, ?_, ?_⟩, ?_⟩
  · have hstatus := congrArg Trace.status htrace
    rwa [Retiming.status_trace, Retiming.status_trace] at hstatus
  · have hfailures := congrArg Trace.failures htrace
    rwa [Retiming.failures_trace, Retiming.failures_trace] at hfailures
  · -- the records are those of the entries, and the entries of the two traces pair up
    rw [Suite.perform, Suite.perform, Visit.report, Visit.report, List.forall₂_map_left_iff,
      List.forall₂_map_right_iff]
    apply forall₂_of_map_eq (congrArg Trace.entries htrace)
    intro e he e' he' heq
    exact Retiming.stopped.record_sameButForTime (Trace.result_of_mem_entries he)
      (Trace.result_of_mem_entries he') heq
  · have hdump := Retiming.dump_sameButForTime (congrArg Trace.bench htrace)
    simp only [Suite.perform, Visit.report]
    cases suite.dumpStateAfterTest with
    | true => exact .some hdump
    | false => exact .none
  · have hpaced := Retiming.unpaced_trace_run test (suite.rig settings) settings.pacing
      { settings with realtime }.pacing settings.continueOnFailure seed
    have hreport :=
      congrArg (fun t => (Visit.ran test seed suite.dumpStateAfterTest t).report) hpaced
    simp only [Retiming.report_unpaced] at hreport
    exact hreport

/-- Held and waited longer, in real time and with pauses, a submission comes to the same. -/
theorem report_sameButForTime_submission :
    let suite : Suite :=
      { groups := [], cards := ⟨[(42, ⟨true, "Ada", 42, "2019LOVE01", []⟩)]⟩
        buttons := ⟨[("submit", ⟨[1], .submit⟩)]⟩, dumpStateAfterTest := true, tests := [] }
    let test : Test :=
      ⟨"brief", 0, none, [.scanCard 42, .solveTime (some 3000), .sleep 0, .button ⟨"submit", 5⟩]⟩
    let test' : Test :=
      ⟨"long", 900, none, [.scanCard 42, .solveTime (some 3000), .sleep 9, .button ⟨"submit", 70⟩]⟩
    List.Forall₂ Step.SameButForTime test.steps test'.steps ∧
      TestReport.SameButForTime (suite.perform {} test 7).report
        (suite.perform { realtime := true } test' 7).report ∧
      (suite.perform {} test 7).report = (suite.perform { realtime := true } test 7).report := by
  intro suite test test'
  have h : List.Forall₂ Step.SameButForTime test.steps test'.steps :=
    .cons (.refl _) (.cons (.refl _) (.cons (.sleep _ _) (.cons (.button _ _ _) .nil)))
  exact ⟨h, report_sameButForTime suite {} true 7 h⟩

end StationBench
