import Mathlib.Data.List.Induction
import StationBench.Proofs.Move
import StationBench.Proofs.Trace
/-!
# The history of a run

A trace keeps only the last bench of a run. The history of a run (`Trace.turns`) is the list of its
turns, each with the bench on which its step was executed, and a trace is a view of it
(`Trace.run_eq_turns`). The first turns of a history are what had happened up to some point of the
run, and `Trace.benchAfter` is the bench at that point. What is kept by waits and by steps holds at
every point (`Trace.turns_induction`).
-/
namespace StationBench

/-! ## Turns -/

/-- A step at its turn, and the bench on which it is executed. -/
structure Turn (rig : Rig) where
  index : Nat
  before : Bench
  step : Step

namespace Turn

variable {rig : Rig} (t : Turn rig)

def result : Except StepFault Note := (t.before.execute rig t.step).1

/-- The bench as the step leaves it. -/
def after : Bench := (t.before.execute rig t.step).2

def entry : Entry := ⟨t.index, t.step, t.result⟩

/-- Whether the step succeeds. -/
def ok : Bool := t.result.isOk

/-- What the step adds to the outbox. -/
def sent : List Message := t.after.outbox.drop t.before.outbox.length

/-- A turn adds what it sends to the outbox, and makes one of the moves. -/
theorem move :
    t.after.outbox = t.before.outbox ++ t.sent ∧
      Station.Move rig t.before.draws t.before.station t.step t.ok t.after.station t.sent := by
  obtain ⟨sent, hout, hmove⟩ := t.before.execute_move rig t.step
  have hsent : t.sent = sent := by
    unfold Turn.sent after
    rw [hout, List.drop_left]
  rw [hsent]
  exact ⟨hout, hmove⟩

end Turn

/-! ## The turns of a run -/

namespace Trace

/-- The turns of a run from the step at `index` on. -/
def turns (rig : Rig) (flow : Flow) : (index : Nat) → List Step → Bench → List (Turn rig)
  | _, [], _ => []
  | index, step :: rest, b =>
    let t : Turn rig := ⟨index, flow.ready index b, step⟩
    if flow.stops t.entry then [t] else t :: turns rig flow (index + 1) rest t.after

/-- The bench after some turns, if the bench was `b` before them. -/
def benchAfter {rig : Rig} (b : Bench) (past : List (Turn rig)) : Bench :=
  (past.getLast?.map Turn.after).getD b

section
variable {rig : Rig} (b : Bench) (t : Turn rig) (past : List (Turn rig))

@[simp] theorem benchAfter_append_singleton : benchAfter b (past ++ [t]) = t.after := by
  simp [benchAfter]

theorem benchAfter_cons : benchAfter b (t :: past) = benchAfter t.after past := by
  cases past with
  | nil => rfl
  | cons t' rest => simp [benchAfter, List.getLast?_eq_some_getLast]

end

section
variable {rig : Rig} {flow : Flow} {i : Nat} {s : Step} {rest : List Step} {b : Bench}

theorem turns_cons_of_stops (h : flow.stops (turn rig flow i s b).1 = true) :
    turns rig flow i (s :: rest) b = [⟨i, flow.ready i b, s⟩] := by
  rw [turns]
  exact if_pos h

theorem turns_cons_of_not_stops (h : ¬ flow.stops (turn rig flow i s b).1 = true) :
    turns rig flow i (s :: rest) b =
      ⟨i, flow.ready i b, s⟩ :: turns rig flow (i + 1) rest (turn rig flow i s b).2 := by
  rw [turns]
  exact if_neg h

/-- Whether or not the first turn ends the test, the turns are among those of going on. -/
theorem turns_cons_prefix :
    turns rig flow i (s :: rest) b <+:
      ⟨i, flow.ready i b, s⟩ :: turns rig flow (i + 1) rest (turn rig flow i s b).2 := by
  by_cases h : flow.stops (turn rig flow i s b).1 = true
  · simp [turns_cons_of_stops h]
  · simp [turns_cons_of_not_stops h]

end

/-- **A trace is a view of its turns.** -/
theorem run_eq_turns (rig : Rig) (flow : Flow) (i : Nat) (steps : List Step) (b : Bench) :
    run rig flow i steps b =
      ⟨(turns rig flow i steps b).map Turn.entry, benchAfter b (turns rig flow i steps b)⟩ := by
  induction steps generalizing i b with
  | nil => rfl
  | cons s rest ih =>
    by_cases h : flow.stops (turn rig flow i s b).1 = true
    · rw [run_cons_of_stops h, turns_cons_of_stops h]
      rfl
    · rw [run_cons_of_not_stops h, turns_cons_of_not_stops h, ih, benchAfter_cons]
      rfl

/-- The bench on which a step is executed is the one after the turns before it, once it has waited. -/
theorem before_eq_ready {rig : Rig} {flow : Flow} {i : Nat} {steps : List Step} {b : Bench}
    {past : List (Turn rig)} {t : Turn rig} (h : past ++ [t] <+: turns rig flow i steps b) :
    t.before = flow.ready t.index (benchAfter b past) := by
  induction steps generalizing i b past with
  | nil => simp [turns] at h
  | cons s rest ih =>
    have hcons := h.trans turns_cons_prefix
    cases past with
    | nil =>
      obtain ⟨rfl, -⟩ := List.cons_prefix_cons.1 hcons
      rfl
    | cons t' past =>
      obtain ⟨rfl, hrest⟩ := List.cons_prefix_cons.1 hcons
      rw [benchAfter_cons]
      exact ih hrest

theorem station_before {rig : Rig} {flow : Flow} {i : Nat} {steps : List Step} {b : Bench}
    {past : List (Turn rig)} {t : Turn rig} (h : past ++ [t] <+: turns rig flow i steps b) :
    t.before.station = (benchAfter b past).station := by
  rw [before_eq_ready h, Flow.station_ready]

/-! ## What holds at every point of a run -/

section
variable {rig : Rig} {flow : Flow} {i : Nat} {steps : List Step} {b : Bench}
  {P : List (Turn rig) → Bench → Prop}

/-- What waits keep still holds when it is a step's turn. -/
theorem before_of_benchAfter (wait : ∀ past b' ms, P past b' → P past (b'.wait ms))
    {past : List (Turn rig)} {t : Turn rig} (h : past ++ [t] <+: turns rig flow i steps b)
    (hp : P past (benchAfter b past)) : P past t.before := by
  rw [before_eq_ready h, Flow.ready]
  split
  · exact hp
  · exact wait _ _ _ hp

/-- **Induction over a run**: what holds of the bench at the start and is kept by waits and by turns
holds at every point of the run. -/
theorem turns_induction (start : P [] b) (wait : ∀ past b' ms, P past b' → P past (b'.wait ms))
    (turn : ∀ past (t : Turn rig), P past t.before → P (past ++ [t]) t.after)
    {past : List (Turn rig)} (h : past <+: turns rig flow i steps b) : P past (benchAfter b past) := by
  -- from the end on, as the bench after the turns is the one that the last turn leaves
  induction past using List.reverseRecOn with
  | nil => exact start
  | append_singleton past t ih =>
    rw [benchAfter_append_singleton]
    exact turn past t (before_of_benchAfter wait h (ih ((List.prefix_append _ _).trans h)))

/-- What is kept by waits and by turns holds of the bench after the last step. -/
theorem bench_run_induction {P : Bench → Prop} (start : P b) (wait : ∀ b' ms, P b' → P (b'.wait ms))
    (turn : ∀ t : Turn rig, P t.before → P t.after) : P (run rig flow i steps b).bench := by
  rw [run_eq_turns]
  exact turns_induction (P := fun _ => P) start (fun _ => wait) (fun _ => turn) List.prefix_rfl

end

/-- Every turn of a run has its place in the history. -/
theorem exists_prefix_of_mem {rig : Rig} {turns : List (Turn rig)} {t : Turn rig} (h : t ∈ turns) :
    ∃ past, past ++ [t] <+: turns := by
  obtain ⟨past, later, rfl⟩ := List.append_of_mem h
  exact ⟨past, later, by simp⟩

end Trace

end StationBench
