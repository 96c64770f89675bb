import Mathlib.Algebra.Ring.Nat
import StationBench.Proofs.History
/-!
# What the clock of a test shows

A step takes the time that it waits or that it holds a bound button, and between two steps there is
a pause. The clock of a test shows the sum of these times, and so do the records of presses, up to
the greatest time (`clock_and_presses_exact`). Adding up times one by one and stopping at the
greatest comes to the same as adding them all up first, because no time is taken away.
-/
namespace StationBench

/-! ## The times of steps -/

namespace Step

variable (rig : Rig)

/-- How long a step takes. A button that is not bound is not held, and one that is bound is held
whether or not the station then does what the button asks for. -/
def duration : Step → Nat
  | .sleep ms => ms.toNat
  | .button press => if ((button press).action? rig).isSome then press.time.toNat else 0
  | _ => 0

/-- The press that a step comes to if it is executed at a time. -/
def press? (now : Millis) : Step → Option PressEvent
  | .button press => ((button press).action? rig).map (⟨press.name, ·, now, press.time⟩)
  | _ => none

end Step

namespace Trace

variable (rig : Rig) (pause : Millis)

/-- The time after some steps: the steps took their time, and there was a pause between them. -/
def timeAfter (steps : List Step) : Nat :=
  (steps.length - 1) * pause.toNat + (steps.map (Step.duration rig)).sum

/-- The time when it is the turn of the step after some others, each followed by a pause. -/
def timeBefore (earlier : List Step) : Nat :=
  earlier.length * pause.toNat + (earlier.map (Step.duration rig)).sum

/-- The presses that steps come to: one for each step that presses a bound button, in order. -/
def presses (steps : List Step) : List PressEvent :=
  steps.zipIdx.filterMap fun p =>
    p.1.press? rig (.ofNat (min (UInt64.size - 1) (timeBefore rig pause (steps.take p.2))))

end Trace

/-! ## One step -/

namespace Bench

variable (b : Bench) (rig : Rig)

theorem now_wait (ms : Millis) :
    (b.wait ms).clock.now.toNat = min (UInt64.size - 1) (b.clock.now.toNat + ms.toNat) := by
  rw [Nat.min_comm]
  exact Millis.toNat_addCapped _ _

/-- A button that is held takes its time, and the press is recorded. -/
theorem now_hold {p : ButtonPress} {action : ButtonAction}
    (h : (Step.button p).action? rig = some action) :
    (b.hold p action).clock.now.toNat =
        min (UInt64.size - 1) (b.clock.now.toNat + (Step.button p).duration rig) ∧
      (b.hold p action).presses =
        b.presses ++ ((Step.button p).press? rig b.clock.now).toList := by
  have hduration : (Step.button p).duration rig = p.time.toNat := by simp [Step.duration, h]
  rw [hduration, Step.press?, h]
  exact ⟨b.now_wait p.time, rfl⟩

/-- A step moves the clock on by the time it takes, and adds its press to the record. -/
theorem now_execute (s : Step) :
    (b.execute rig s).2.clock.now.toNat =
        min (UInt64.size - 1) (b.clock.now.toNat + s.duration rig) ∧
      (b.execute rig s).2.presses = b.presses ++ (s.press? rig b.clock.now).toList := by
  -- all but a wait and a bound button take no time
  have quiet {after : Bench} (hclock : after.clock = b.clock) (hpresses : after.presses = b.presses)
      (hduration : s.duration rig = 0) (hpress : s.press? rig b.clock.now = none) :
      after.clock.now.toNat = min (UInt64.size - 1) (b.clock.now.toNat + s.duration rig) ∧
        after.presses = b.presses ++ (s.press? rig b.clock.now).toList := by
    have hlt := b.clock.now.toNat_lt_size
    rw [hclock, hpresses, hduration, hpress]
    exact ⟨by omega, (List.append_nil _).symm⟩
  cases s with
  | sleep ms => exact ⟨b.now_wait ms, (List.append_nil _).symm⟩
  | button p =>
    rw [execute]
    rcases b.press_cases rig p with ⟨ha, _, hp⟩ | ⟨action, ha, ⟨_, hp⟩ | ⟨r, -, hp⟩⟩
    · rw [hp]
      exact quiet rfl rfl (by simp [Step.duration, ha]) (by simp [Step.press?, ha])
    · rw [hp]
      exact b.now_hold rig ha
    · rw [hp]
      exact b.now_hold rig ha
  | scanCard id =>
    rw [execute]
    rcases b.scan_cases rig id with ⟨_, hs⟩ | ⟨_, -, -, hs⟩ <;> rw [hs] <;>
      exact quiet rfl rfl rfl rfl
  | delegateResolve r =>
    rw [execute]
    rcases b.resolve_cases r with ⟨_, hr⟩ | ⟨-, hr⟩ <;> rw [hr] <;> exact quiet rfl rfl rfl rfl
  | solveTime ms => cases ms <;> exact quiet rfl rfl rfl rfl
  | snapshot | resetState | solveTimeRng | verifySolveTime e | verifySend e | verifyDelegateSent
  | verifySnapshot fields | unsupported type => exact quiet rfl rfl rfl rfl

end Bench

/-! ## All steps -/

namespace Trace

section
variable (rig : Rig) (pause : Millis) (steps : List Step) (s : Step)

theorem timeAfter_append_singleton :
    timeAfter rig pause (steps ++ [s]) = timeBefore rig pause steps + s.duration rig := by
  simp [timeAfter, timeBefore, Nat.add_assoc]

/-- Between two steps there is a pause, and none before the first. -/
theorem timeBefore_eq (h : steps ≠ []) :
    timeBefore rig pause steps = timeAfter rig pause steps + pause.toNat := by
  have hpos : 0 < steps.length := List.length_pos_iff.2 h
  have hpause : steps.length * pause.toNat = (steps.length - 1) * pause.toNat + pause.toNat := by
    rw [← Nat.succ_mul]
    congr 1
    omega
  unfold timeBefore timeAfter
  omega

theorem presses_append_singleton :
    presses rig pause (steps ++ [s]) = presses rig pause steps ++
      (s.press? rig (.ofNat (min (UInt64.size - 1) (timeBefore rig pause steps)))).toList := by
  have hearlier : ∀ p ∈ steps.zipIdx, (steps ++ [s]).take p.2 = steps.take p.2 := by
    intro p hp
    have hlt : p.2 < steps.length := by simpa using (List.mem_zipIdx hp).2.1
    exact List.take_append_of_le_length (Nat.le_of_lt hlt)
  unfold presses
  rw [List.zipIdx_append, List.filterMap_append]
  congr 1
  · apply List.filterMap_congr
    intro p hp
    rw [hearlier p hp]
  · have hlast : (steps ++ [s]).take (0 + steps.length) = steps := by simp
    simp only [List.zipIdx_singleton, List.filterMap_cons, List.filterMap_nil, hlast]
    cases s.press? rig _ <;> rfl

theorem timeAfter_le_timeBefore : timeAfter rig pause steps ≤ timeBefore rig pause steps :=
  Nat.add_le_add_right (Nat.mul_le_mul_right _ (Nat.sub_le _ _)) _

end

variable {rig : Rig} {flow : Flow} {i : Nat} {steps : List Step} {b : Bench}

/-- Turns are numbered from the first on. -/
theorem index_of_prefix {past : List (Turn rig)} {t : Turn rig}
    (h : past ++ [t] <+: turns rig flow i steps b) : t.index = i + past.length := by
  induction steps generalizing i b past with
  | nil => simp [turns] at h
  | cons s rest ih =>
    have hcons := h.trans turns_cons_prefix
    cases past with
    | nil =>
      obtain ⟨rfl, -⟩ := List.cons_prefix_cons.1 hcons
      rfl
    | cons t' past =>
      obtain ⟨-, hrest⟩ := List.cons_prefix_cons.1 hcons
      rw [ih hrest, List.length_cons]
      omega

/-- When it is a step's turn the pause after the step before is over. -/
theorem now_ready {earlier : List Step}
    (h : b.clock.now.toNat = min (UInt64.size - 1) (timeAfter rig flow.sleepBetween earlier)) :
    (flow.ready earlier.length b).clock.now.toNat =
        min (UInt64.size - 1) (timeBefore rig flow.sleepBetween earlier) ∧
      (flow.ready earlier.length b).presses = b.presses := by
  cases earlier with
  | nil => exact ⟨h, rfl⟩
  | cons s earlier =>
    have hnow := b.now_wait flow.sleepBetween
    have htime := timeBefore_eq rig flow.sleepBetween (s :: earlier) (List.cons_ne_nil _ _)
    refine ⟨?_, rfl⟩
    change (b.wait flow.sleepBetween).clock.now.toNat = _
    omega

/-- **The clock and the presses at every point** of a run that starts at zero. -/
theorem now_benchAfter (hclock : b.clock.now = 0) (hpresses : b.presses = [])
    {past : List (Turn rig)} (h : past <+: turns rig flow 0 steps b) :
    (benchAfter b past).clock.now.toNat =
        min (UInt64.size - 1) (timeAfter rig flow.sleepBetween (past.map Turn.step)) ∧
      (benchAfter b past).presses = presses rig flow.sleepBetween (past.map Turn.step) := by
  induction past using List.reverseRecOn with
  | nil => exact ⟨by simp [benchAfter, timeAfter, hclock], hpresses⟩
  | append_singleton past t ih =>
    obtain ⟨hnow, hlog⟩ := ih ((List.prefix_append _ _).trans h)
    obtain ⟨hready, hsame⟩ := now_ready hnow
    obtain ⟨hafter, hadded⟩ := t.before.now_execute rig t.step
    have hbefore : t.before = flow.ready (past.map Turn.step).length (benchAfter b past) := by
      rw [before_eq_ready h, index_of_prefix h, List.length_map, Nat.zero_add]
    rw [← hbefore] at hready hsame
    have hat : t.before.clock.now =
        .ofNat (min (UInt64.size - 1) (timeBefore rig flow.sleepBetween (past.map Turn.step))) := by
      rw [← hready, UInt64.ofNat_toNat]
    rw [benchAfter_append_singleton, List.map_append, List.map_singleton,
      timeAfter_append_singleton, presses_append_singleton]
    refine ⟨?_, ?_⟩
    · rw [Turn.after, hafter]
      omega
    · rw [Turn.after, hadded, hsame, hlog, hat]

end Trace

/-! ## The order of presses -/

/-- A press is made at the time given, and lasts as long as its step. -/
theorem Step.eq_of_press? {rig : Rig} {s : Step} {now : Millis} {p : PressEvent}
    (h : s.press? rig now = some p) : p.pressedAt = now ∧ p.heldFor.toNat = s.duration rig := by
  cases s with
  | button press =>
    obtain ⟨action, ha, rfl⟩ := Option.map_eq_some_iff.1 h
    exact ⟨rfl, by simp [duration, ha]⟩
  | _ => cases h

namespace Trace

variable (rig : Rig) (pause : Millis)

/-- A press of the step after some others begins when it is its turn and ends with the step. -/
theorem toNat_pressedAt {steps : List Step} {s : Step} {p : PressEvent}
    (h : s.press? rig (.ofNat (min (UInt64.size - 1) (timeBefore rig pause steps))) = some p) :
    p.pressedAt.toNat = min (UInt64.size - 1) (timeBefore rig pause steps) ∧
      min (UInt64.size - 1) (p.pressedAt.toNat + p.heldFor.toNat) =
        min (UInt64.size - 1) (timeAfter rig pause (steps ++ [s])) := by
  obtain ⟨hat, hheld⟩ := Step.eq_of_press? h
  have hnow : p.pressedAt.toNat = min (UInt64.size - 1) (timeBefore rig pause steps) := by
    rw [hat]
    exact UInt64.toNat_ofNat_of_lt' (Nat.lt_of_le_of_lt (Nat.min_le_left _ _) (by decide))
  refine ⟨hnow, ?_⟩
  rw [timeAfter_append_singleton, hnow, hheld]
  omega

/-- Every press is over when the steps are. -/
theorem presses_over (steps : List Step) : ∀ p ∈ presses rig pause steps,
    min (UInt64.size - 1) (p.pressedAt.toNat + p.heldFor.toNat) ≤
      min (UInt64.size - 1) (timeAfter rig pause steps) := by
  induction steps using List.reverseRecOn with
  | nil => simp [presses]
  | append_singleton steps s ih =>
    intro p hp
    rw [presses_append_singleton] at hp
    rcases List.mem_append.1 hp with hp | hp
    · have hle := timeAfter_le_timeBefore rig pause steps
      have hover := ih p hp
      rw [timeAfter_append_singleton]
      omega
    · exact Nat.le_of_eq (toNat_pressedAt rig pause (Option.mem_toList.1 hp)).2

/-- Every press is over when a later one is made. -/
theorem pairwise_presses (steps : List Step) :
    (presses rig pause steps).Pairwise fun p q =>
      min (UInt64.size - 1) (p.pressedAt.toNat + p.heldFor.toNat) ≤ q.pressedAt.toNat := by
  induction steps using List.reverseRecOn with
  | nil => simp [presses]
  | append_singleton steps s ih =>
    rw [presses_append_singleton, List.pairwise_append]
    refine ⟨ih, by cases s.press? rig _ <;> simp, ?_⟩
    intro p hp q hq
    have hover := presses_over rig pause steps p hp
    have hle := timeAfter_le_timeBefore rig pause steps
    rw [(toNat_pressedAt rig pause (Option.mem_toList.1 hq)).1]
    omega

end Trace

/-! ## Clock and presses -/

/-- What is left of a bench on which steps were executed, as far as times go. -/
structure TimedExactly (rig : Rig) (pause : Millis) (executed : List Step) (dump : StateDump) :
    Prop where
  /-- The clock shows the times of the steps and the pauses between them, up to the greatest. -/
  clock : dump.clock.toNat = min (UInt64.size - 1) (Trace.timeAfter rig pause executed)
  unmoved : executed = [] → dump.clock = 0
  /-- There is a press for each step with a bound button, made when it was the step's turn. -/
  presses : dump.presses = Trace.presses rig pause executed
  ascending : dump.presses.Pairwise (·.pressedAt ≤ ·.pressedAt)
  /-- No press is made before an earlier one is over. -/
  apart : dump.presses.Pairwise fun p q =>
    min (UInt64.size - 1) (p.pressedAt.toNat + p.heldFor.toNat) ≤ q.pressedAt.toNat
  past : ∀ p ∈ dump.presses, p.pressedAt ≤ dump.clock

/-- The order of the presses follows from their times. -/
theorem TimedExactly.of_eq {rig : Rig} {pause : Millis} {executed : List Step} {dump : StateDump}
    (hclock : dump.clock.toNat = min (UInt64.size - 1) (Trace.timeAfter rig pause executed))
    (hpresses : dump.presses = Trace.presses rig pause executed) :
    TimedExactly rig pause executed dump := by
  have hapart := Trace.pairwise_presses rig pause executed
  have hover := Trace.presses_over rig pause executed
  rw [← hpresses] at hapart hover
  refine ⟨hclock, ?_, hpresses, ?_, hapart, ?_⟩
  · rintro rfl
    exact UInt64.toNat_inj.1 (hclock.trans (by simp [Trace.timeAfter]))
  · refine hapart.imp ?_
    intro p q h
    have hlt := p.pressedAt.toNat_lt_size
    exact UInt64.le_iff_toNat_le.2 (by omega)
  · intro p hp
    have hlt := p.pressedAt.toNat_lt_size
    have h := hover p hp
    exact UInt64.le_iff_toNat_le.2 (by omega)

/-- After a run that starts at zero the clock and the presses are those of the steps executed. -/
theorem Trace.timedExactly_run (rig : Rig) (flow : Flow) (steps : List Step) (seed : UInt64) :
    let trace := run rig flow 0 steps (.start rig seed)
    TimedExactly rig flow.sleepBetween (trace.entries.map Entry.step) trace.bench.dump := by
  intro trace
  have htrace : trace = ⟨(turns rig flow 0 steps (.start rig seed)).map Turn.entry, _⟩ :=
    run_eq_turns rig flow 0 steps (.start rig seed)
  have hexecuted : trace.entries.map Entry.step =
      (turns rig flow 0 steps (.start rig seed)).map Turn.step := by
    rw [htrace, List.map_map]
    rfl
  obtain ⟨hclock, hpresses⟩ := now_benchAfter (b := .start rig seed) rfl rfl
    (List.prefix_rfl (l := turns rig flow 0 steps (.start rig seed)))
  rw [hexecuted, htrace]
  exact .of_eq hclock hpresses

/-- **Clock and presses are exact** up to the greatest time. After a test the clock shows the times
of the steps that were executed and the pauses between them, added up without bound and then capped,
and there is a press for each of them that held a button, with the time at which it began. -/
theorem clock_and_presses_exact (suite : Suite) (settings : Settings) (test : Test)
    (seed : UInt64) :
    let rig := suite.rig settings
    let trace := test.run rig settings.continueOnFailure seed
    let report := (suite.perform settings test seed).report
    let executed := test.steps.take report.steps.length
    trace.entries.map Entry.step = executed ∧
      TimedExactly rig test.sleepBetween executed trace.bench.dump ∧
      report.clock = trace.bench.dump.clock ∧
      ∀ dump, report.dump = some dump → dump = trace.bench.dump := by
  intro rig trace report executed
  have hexecuted : trace.entries.map Entry.step = executed := by
    have htake := List.prefix_iff_eq_take.1 (Trace.steps_entries_prefix rig
      ⟨test.sleepBetween, settings.continueOnFailure⟩ 0 test.steps (.start rig seed))
    rw [List.length_map] at htake
    have hlength : report.steps.length = trace.entries.length := List.length_map _
    exact htake.trans (congrArg (test.steps.take ·) hlength.symm)
  refine ⟨hexecuted, ?_, rfl, fun dump => Suite.dump_perform⟩
  rw [← hexecuted]
  exact Trace.timedExactly_run rig ⟨test.sleepBetween, settings.continueOnFailure⟩ test.steps seed

/-- A refused submission takes its time, and a button that is not bound takes none. -/
example :
    let rig : Rig :=
      { inventory := { groups := [], cards := {}, buttons := ⟨[("ok", ⟨[1], .submit⟩)]⟩ }
        range := .between 5 9, pacing := .compressed }
    let steps : List Step := [.sleep 40, .button ⟨"ok", 7⟩, .button ⟨"no", 9⟩, .solveTimeRng]
    Trace.timeAfter rig 100 steps = 347 ∧
      Trace.presses rig 100 steps = [⟨"ok", .submit, 140, 7⟩] := by
  decide

end StationBench
