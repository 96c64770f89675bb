import StationBench.Proofs.History
/-!
# Resets

A reset leaves nothing of what was done before it in what comes after it. Two benches with the same
station and the same draws answer every step alike, whatever their clocks show and whatever was sent
and held before (`Bench.Follows.execute`). So the steps after a reset come to what they come to by
themselves on an idle station that has drawn as many times (`reset_isolates`).
-/
namespace StationBench

/-! ## Draws -/

/-- The draws of a seed once a number of times has been drawn. -/
def Draws.made (range : TimeRange) (seed : UInt64) : (count : Nat) → Draws
  | 0 => { seed }
  | count + 1 => ((made range seed count).next range).2

/-- A bench on which nothing happened yet, but for a number of draws. -/
def Bench.startAfter (rig : Rig) (seed : UInt64) (count : Nat) : Bench :=
  { Bench.start rig seed with draws := .made rig.range seed count }

/-- A bench with its station reset. -/
def Bench.reset (b : Bench) : Bench := { b with station := .idle }

theorem Draws.length_drawn_next (d : Draws) (range : TimeRange) :
    (d.next range).2.drawn.length = d.drawn.length + 1 := by
  simp [next]

namespace Trace

variable (rig : Rig) (flow : Flow) (i : Nat) (steps : List Step)

/-- The draws that a test has made are fixed by their number. -/
theorem draws_run_start (seed : UInt64) :
    (run rig flow i steps (.start rig seed)).bench.draws =
      .made rig.range seed (run rig flow i steps (.start rig seed)).bench.draws.drawn.length := by
  refine bench_run_induction
    (P := fun b => b.draws = .made rig.range seed b.draws.drawn.length) rfl (fun b ms hb => hb) ?_
  intro t ht
  rw [Turn.after, Bench.execute_draws]
  split
  · rw [Draws.length_drawn_next, Draws.made, ← ht]
  · exact ht

/-- A run keeps the draws that were made before it. -/
theorem draws_prefix_run (b : Bench) :
    b.draws.drawn <+: (run rig flow i steps b).bench.draws.drawn := by
  refine bench_run_induction (P := fun b' => b.draws.drawn <+: b'.draws.drawn)
    List.prefix_rfl (fun b' ms hb => hb) ?_
  intro t ht
  rw [Turn.after, Bench.execute_draws]
  split
  · exact ht.trans (List.prefix_append _ _)
  · exact ht

end Trace

/-! ## Benches with a past -/

/-- A press, but for the time at which it was made. -/
def PressEvent.untimed (p : PressEvent) : String × ButtonAction × Millis :=
  (p.name, p.action, p.heldFor)

/-- The bench `b` is where the bench `b'` is, and has a past: messages that were sent and buttons
that were held before. What the clocks show has no part in it. -/
structure Bench.Follows (sent : List Message) (held : List PressEvent) (b b' : Bench) : Prop where
  station : b.station = b'.station
  draws : b.draws = b'.draws
  outbox : b.outbox = sent ++ b'.outbox
  presses : ∃ later, b.presses = held ++ later ∧
    later.map PressEvent.untimed = b'.presses.map PressEvent.untimed

namespace Bench.Follows

variable {sent : List Message} {held : List PressEvent} {b b' : Bench}

theorem wait (h : Follows sent held b b') (ms ms' : Millis) :
    Follows sent held (b.wait ms) (b'.wait ms') :=
  ⟨h.station, h.draws, h.outbox, h.presses⟩

theorem ready (h : Follows sent held b b') (flow : Flow) (i j : Nat) :
    Follows sent held (flow.ready i b) (flow.ready j b') := by
  unfold Flow.ready
  split <;> split <;> exact ⟨h.station, h.draws, h.outbox, h.presses⟩

/-- Another station, the same on both benches, takes the place of the one that is there. -/
theorem replace (h : Follows sent held b b') {s s' : Station} (hs : s = s') :
    Follows sent held { b with station := s } { b' with station := s' } :=
  ⟨hs, h.draws, h.outbox, h.presses⟩

theorem hold (h : Follows sent held b b') (p : ButtonPress) (action : ButtonAction) :
    Follows sent held (b.hold p action) (b'.hold p action) := by
  obtain ⟨later, hb, hsame⟩ := h.presses
  refine ⟨h.station, h.draws, h.outbox, later ++ [⟨p.name, action, b.clock.now, p.time⟩], ?_, ?_⟩
  · simp [Bench.hold, hb]
  · simp [Bench.hold, hsame, PressEvent.untimed]

theorem receive (h : Follows sent held b b') (r : Station.Response) :
    Follows sent held (b.receive r) (b'.receive r) :=
  ⟨rfl, h.draws, by simp [Bench.receive, h.outbox], h.presses⟩

theorem scan (h : Follows sent held b b') (rig : Rig) (id : UInt64) :
    (b.scan rig id).1 = (b'.scan rig id).1 ∧
      Follows sent held (b.scan rig id).2 (b'.scan rig id).2 := by
  cases hc : rig.inventory.cards.find? id with
  | none =>
    rw [scan_of_missing hc, scan_of_missing hc]
    exact ⟨rfl, h⟩
  | some card =>
    rw [scan_of_found hc, scan_of_found hc, h.station]
    cases b'.station.scan card (groupFor rig.inventory.groups card) with
    | error fault => exact ⟨rfl, h⟩
    | ok station => exact ⟨rfl, h.replace rfl⟩

theorem drawTime (h : Follows sent held b b') (rig : Rig) :
    (b.drawTime rig).1 = (b'.drawTime rig).1 ∧
      Follows sent held (b.drawTime rig).2 (b'.drawTime rig).2 := by
  rw [Bench.drawTime, Bench.drawTime, h.draws, h.station]
  exact ⟨rfl, rfl, rfl, h.outbox, h.presses⟩

theorem press (h : Follows sent held b b') (rig : Rig) (p : ButtonPress) :
    (b.press rig p).1 = (b'.press rig p).1 ∧
      Follows sent held (b.press rig p).2 (b'.press rig p).2 := by
  cases ha : (Step.button p).action? rig with
  | none =>
    rw [press_of_unbound ha, press_of_unbound ha]
    exact ⟨rfl, h⟩
  | some action =>
    rw [press_of_bound ha, press_of_bound ha, h.station]
    cases b'.station.press action with
    | error fault => exact ⟨rfl, h.hold p action⟩
    | ok response => exact ⟨rfl, (h.hold p action).receive response⟩

theorem resolve (h : Follows sent held b b') (r : Resolution) :
    (b.resolve r).1 = (b'.resolve r).1 ∧ Follows sent held (b.resolve r).2 (b'.resolve r).2 := by
  rw [resolve_eq, resolve_eq, h.station]
  cases b'.station.resolve r.shouldScanCards r.penalty r.value with
  | error fault => exact ⟨rfl, h⟩
  | ok decided => exact ⟨rfl, h.receive _⟩

/-- **Only the station and the draws decide** what a step comes to. -/
theorem execute (h : Follows sent held b b') (rig : Rig) (s : Step) :
    (b.execute rig s).1 = (b'.execute rig s).1 ∧
      Follows sent held (b.execute rig s).2 (b'.execute rig s).2 := by
  cases s with
  | sleep ms => exact ⟨rfl, h.wait ms ms⟩
  | scanCard id => exact h.scan rig id
  | snapshot =>
    rw [Bench.execute, Bench.execute, h.station]
    exact ⟨rfl, h.replace rfl⟩
  | resetState => exact ⟨rfl, h.replace rfl⟩
  | solveTime ms =>
    cases ms with
    | some ms => exact ⟨rfl, h.replace (congrArg (Station.recordTime · ms) h.station)⟩
    | none => exact h.drawTime rig
  | solveTimeRng => exact h.drawTime rig
  | button p => exact h.press rig p
  | delegateResolve r => exact h.resolve r
  | verifySolveTime e | verifySend e | verifyDelegateSent | verifySnapshot fields =>
    rw [Bench.execute, Bench.execute, h.station]
    exact ⟨rfl, h⟩
  | unsupported type => exact ⟨rfl, h⟩

end Bench.Follows

/-! ## Runs on benches with a past -/

/-- An entry in a longer test, so many steps further on. -/
def Entry.later (n : Nat) (e : Entry) : Entry := { e with index := e.index + n }

/-- A record in a longer test, so many steps further on. -/
def StepRecord.later (n : Nat) (r : StepRecord) : StepRecord := { r with index := r.index + n }

/-- A failure in a longer test, so many steps further on. -/
def Failure.later (n : Nat) (f : Failure) : Failure := { f with index := f.index + n }

namespace Entry

@[simp] theorem fault?_later (n : Nat) (e : Entry) : (e.later n).fault? = e.fault? := rfl

theorem failure?_later (n : Nat) (e : Entry) :
    (e.later n).failure? = e.failure?.map (Failure.later n) := by
  unfold failure?
  rw [fault?_later, Option.map_map]
  rfl

theorem filterMap_failure?_later (n : Nat) (entries : List Entry) :
    (entries.map (later n)).filterMap failure? =
      (entries.filterMap failure?).map (Failure.later n) := by
  rw [List.filterMap_map, List.map_filterMap]
  exact congrArg (List.filterMap · entries) (funext (failure?_later n))

end Entry

namespace Trace

variable (rig : Rig) (flow : Flow) {sent : List Message} {held : List PressEvent} {b b' : Bench}

theorem turn_follows (h : b.Follows sent held b') (n i : Nat) (s : Step) :
    (turn rig flow (i + n) s b).1 = (turn rig flow i s b').1.later n ∧
      (turn rig flow (i + n) s b).2.Follows sent held (turn rig flow i s b').2 := by
  obtain ⟨hresult, hafter⟩ := (h.ready flow (i + n) i).execute rig s
  refine ⟨?_, hafter⟩
  simp only [turn, Entry.later, hresult]

/-- Steps that are executed on a bench with a past, later in a test, come to the same. -/
theorem run_follows (n i : Nat) (steps : List Step) (h : b.Follows sent held b') :
    (run rig flow (i + n) steps b).entries =
        (run rig flow i steps b').entries.map (Entry.later n) ∧
      (run rig flow (i + n) steps b).bench.Follows sent held (run rig flow i steps b').bench := by
  induction steps generalizing i b b' with
  | nil => exact ⟨rfl, h⟩
  | cons s rest ih =>
    obtain ⟨hentry, hafter⟩ := turn_follows rig flow h n i s
    by_cases hs : flow.stops (turn rig flow i s b').1 = true
    · rw [run_cons_of_stops hs, run_cons_of_stops (by rw [hentry]; exact hs), hentry]
      exact ⟨rfl, hafter⟩
    · rw [run_cons_of_not_stops hs, run_cons_of_not_stops (by rw [hentry]; exact hs), hentry]
      obtain ⟨hentries, hbench⟩ := ih (i + 1) hafter
      rw [Nat.add_right_comm] at hentries hbench
      exact ⟨congrArg _ hentries, hbench⟩

end Trace

/-! ## What comes after a reset -/

/-- How a test (`whole`) goes that resets the station after some steps, compared with the test of
these steps (`first`) and with the steps after the reset by themselves (`apart`). -/
structure ResetIsolates (before : Nat) (first whole apart : Trace) : Prop where
  /-- The records after the reset differ in their indices only. -/
  records : whole.entries.map Entry.record =
    first.entries.map Entry.record ++ ⟨before, "ResetState", true, "state reset"⟩ ::
      (apart.entries.map Entry.record).map (StepRecord.later (before + 1))
  failures : whole.failures = first.failures ++ apart.failures.map (Failure.later (before + 1))
  snapshot : whole.bench.dump.snapshot = apart.bench.dump.snapshot
  lastSnapshot : whole.bench.dump.lastSnapshot = apart.bench.dump.lastSnapshot
  sent : whole.bench.dump.sent = first.bench.dump.sent ++ apart.bench.dump.sent
  /-- The draws after the reset are those that the steps after it make by themselves. -/
  draws : ∃ later, apart.bench.dump.draws = first.bench.dump.draws ++ later ∧
    whole.bench.dump.draws = first.bench.dump.draws ++ later
  /-- The presses after the reset differ in the times at which they were made only. -/
  presses : ∃ later, whole.bench.dump.presses = first.bench.dump.presses ++ later ∧
    later.map PressEvent.untimed = apart.bench.dump.presses.map PressEvent.untimed

namespace Trace

variable {rig : Rig} {flow : Flow} {b : Bench}

/-- The trace from a reset on, in a test that goes on after failures. -/
theorem run_resetState (h : flow.continueOnFailure = true) (i : Nat) (later : List Step) :
    run rig flow i (.resetState :: later) b =
      (run rig flow (i + 1) later (flow.ready i b).reset).cons
        ⟨i, .resetState, .ok .stateReset⟩ :=
  run_cons_of_not_stops (Flow.not_stops_of_continue h _)

/-- A bench that is reset is where an idle one is that has drawn as many times. -/
theorem follows_of_reset (flow : Flow) (i : Nat) {seed : UInt64}
    (h : b.draws = .made rig.range seed b.draws.drawn.length) :
    (flow.ready i b).reset.Follows b.outbox b.presses
      (.startAfter rig seed b.draws.drawn.length) := by
  have hwait : (flow.ready i b).outbox = b.outbox ∧ (flow.ready i b).draws = b.draws ∧
      (flow.ready i b).presses = b.presses := by
    unfold Flow.ready
    split <;> exact ⟨rfl, rfl, rfl⟩
  obtain ⟨hout, hdraws, hpresses⟩ := hwait
  refine ⟨rfl, hdraws.trans h, ?_, [], ?_, rfl⟩
  · exact hout.trans (List.append_nil _).symm
  · exact hpresses.trans (List.append_nil _).symm

/-- A test that resets the station has the entries of the steps before the reset, and then those
that the steps after it have by themselves. -/
theorem run_reset (rig : Rig) (flow : Flow) (h : flow.continueOnFailure = true) (seed : UInt64)
    (before after : List Step) :
    let first := run rig flow 0 before (.start rig seed)
    let apart := run rig flow 0 after (.startAfter rig seed first.bench.draws.drawn.length)
    ∃ last : Bench, run rig flow 0 (before ++ .resetState :: after) (.start rig seed) =
        ⟨first.entries ++ ⟨before.length, .resetState, .ok .stateReset⟩ ::
          apart.entries.map (Entry.later (before.length + 1)), last⟩ ∧
      last.Follows first.bench.outbox first.bench.presses apart.bench := by
  intro first apart
  -- from the turn of the reset on, the test goes side by side with the steps by themselves
  have hreset := follows_of_reset flow before.length (draws_run_start rig flow 0 before seed)
  obtain ⟨hentries, hbench⟩ := run_follows rig flow (before.length + 1) 0 after hreset
  rw [Nat.zero_add] at hentries hbench
  refine ⟨_, ?_, hbench⟩
  rw [run_append h, Nat.zero_add, run_resetState h, entries_cons, hentries]
  rfl

end Trace

/-- **A reset isolates** what comes after it from what came before: the steps after it come to what
they come to by themselves, on an idle station whose test has drawn as many times. -/
theorem reset_isolates (rig : Rig) (test : Test) (seed : UInt64) (before after : List Step) :
    let first := { test with steps := before }.run rig true seed
    let whole := { test with steps := before ++ Step.resetState :: after }.run rig true seed
    let idle := Bench.startAfter rig seed first.bench.draws.drawn.length
    ResetIsolates before.length first whole
      (.run rig ⟨test.sleepBetween, true⟩ 0 after idle) := by
  intro first whole idle
  obtain ⟨last, hwhole, hlast⟩ :=
    Trace.run_reset rig ⟨test.sleepBetween, true⟩ rfl seed before after
  have hentries := congrArg Trace.entries hwhole
  have hbench : whole.bench = last := congrArg Trace.bench hwhole
  obtain ⟨later, hdrawn⟩ := Trace.draws_prefix_run rig ⟨test.sleepBetween, true⟩ 0 after idle
  have hfirst : idle.draws.drawn = first.bench.draws.drawn :=
    congrArg Draws.drawn
      (Trace.draws_run_start rig ⟨test.sleepBetween, true⟩ 0 before seed).symm
  rw [hfirst] at hdrawn
  refine ⟨?_, ?_, ?_, ?_, ?_, ⟨later, hdrawn.symm, ?_⟩, ?_⟩
  · refine (congrArg (List.map Entry.record) hentries).trans ?_
    rw [List.map_append, List.map_cons, List.map_map, List.map_map]
    rfl
  · refine (congrArg (List.filterMap Entry.failure?) hentries).trans ?_
    rw [List.filterMap_append, List.filterMap_cons_none rfl, Entry.filterMap_failure?_later]
    rfl
  · exact congrArg Station.snapshot (hbench ▸ hlast.station)
  · exact congrArg Station.lastSnapshot (hbench ▸ hlast.station)
  · exact hbench ▸ hlast.outbox
  · exact (congrArg Draws.drawn (hbench ▸ hlast.draws)).trans hdrawn.symm
  · exact hbench ▸ hlast.presses

end StationBench
