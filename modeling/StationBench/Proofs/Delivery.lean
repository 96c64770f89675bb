import Mathlib.Data.List.DropRight
import StationBench.Proofs.History
/-!
# Delivery of messages

The outbox of a bench only grows: by one message with every submission, every call of a delegate and
every decision of one, and by none with any other step or with one that fails. A message is kept in
two places, in the outbox for good and at the station as the last one until the station is reset.
That the two stay in step is the main result (`messages_delivered_once`).
-/
namespace StationBench

/-! ## Steps that send -/

/-- Whether a step sends a message if it succeeds. -/
def Step.delivers (rig : Rig) : Step → Bool
  | .delegateResolve _ => true
  | s => s.action? rig = some .submit || s.action? rig = some .delegate

namespace Turn

variable {rig : Rig} (t : Turn rig)

/-- Whether the turn is a submission, a call of a delegate or a decision of one that succeeds. -/
def delivers : Bool := t.ok && t.step.delivers rig

/-- Whether the turn resets the station. -/
def resets : Bool := t.ok && t.step = .resetState

end Turn

/-- What was sent since the station was reset for the last time, or since the start. -/
def Trace.sentSinceReset {rig : Rig} (past : List (Turn rig)) : List Message :=
  (past.rtakeWhile fun t => !t.resets).flatMap Turn.sent

/-! ## One turn -/

theorem Step.delivers_of_verifies {rig : Rig} {s : Step} (h : s.verifies = true) :
    s.delivers rig = false := by
  cases s with
  | verifySolveTime e | verifySend e | verifyDelegateSent | verifySnapshot fields => rfl
  | _ => cases h

theorem Step.delivers_of_time? {rig : Rig} {draws : Draws} {s : Step} {ms : Millis}
    (h : s.time? rig draws = some ms) : s.delivers rig = false := by
  cases s with
  | solveTime t | solveTimeRng => rfl
  | _ => cases h

namespace Station.Move

variable {rig : Rig} {draws : Draws} {s s' : Station} {step : Step} {ok : Bool}
  {sent : List Message}

theorem length_sent (h : Move rig draws s step ok s' sent) :
    sent.length = if (ok && step.delivers rig) = true then 1 else 0 := by
  cases h with
  | verify hv => simp [Step.delivers_of_verifies hv]
  | time ht => simp [Step.delivers_of_time? ht]
  | submit bound | penalty bound | call bound | inspection bound | clear bound =>
    simp [Step.delivers, bound]
  | fail | sleep | scan | snapshot | reset | resolve => rfl

/-- The last message is the one that was sent last, unless the station is reset. -/
theorem lastSent_eq (h : Move rig draws s step ok s' sent) :
    s'.lastSent =
      if (ok && step = .resetState) = true then none else sent.getLast?.or s.lastSent := by
  cases h with
  | verify hv =>
    have hne : step ≠ .resetState := by
      rintro rfl
      cases hv
    simp [hne]
  | time ht =>
    have hne : step ≠ .resetState := by
      rintro rfl
      cases ht
    simp [hne, recordTime]
  | _ => rfl

end Station.Move

/-! ## All turns -/

namespace Trace

variable {rig : Rig} {flow : Flow} {i : Nat} {steps : List Step} {b : Bench}

theorem sentSinceReset_append_singleton (past : List (Turn rig)) (t : Turn rig) :
    sentSinceReset (past ++ [t]) =
      if t.resets = true then [] else sentSinceReset past ++ t.sent := by
  unfold sentSinceReset
  rw [List.rtakeWhile_concat]
  cases t.resets <;> simp

theorem outbox_benchAfter {past : List (Turn rig)} (h : past <+: turns rig flow i steps b) :
    (benchAfter b past).outbox = b.outbox ++ past.flatMap Turn.sent := by
  refine turns_induction (P := fun past b' => b'.outbox = b.outbox ++ past.flatMap Turn.sent)
    (by simp) (fun past b' ms hp => hp) ?_ h
  intro past t hp
  rw [t.move.1, hp]
  simp

theorem lastSent_benchAfter (hb : b.station.lastSent = none) {past : List (Turn rig)}
    (h : past <+: turns rig flow i steps b) :
    (benchAfter b past).station.lastSent = (sentSinceReset past).getLast? := by
  refine turns_induction (P := fun past b' => b'.station.lastSent = (sentSinceReset past).getLast?)
    hb (fun past b' ms hp => hp) ?_ h
  intro past t hp
  rw [t.move.2.lastSent_eq, hp, sentSinceReset_append_singleton]
  unfold Turn.resets
  split <;> simp [List.getLast?_append]

end Trace

/-! ## The outbox and the last message -/

/-- What becomes of messages in a run that started on the bench `b`. -/
structure DeliveredOnce {rig : Rig} (b : Bench) (turns : List (Turn rig)) : Prop where
  /-- A turn adds its messages after the earlier ones: one if it delivers, and else none. -/
  turn : ∀ t ∈ turns, t.after.outbox = t.before.outbox ++ t.sent ∧
    t.sent.length = if t.delivers then 1 else 0
  /-- At every point the outbox holds what it held and what the turns sent, in order. -/
  sent : ∀ past, past <+: turns →
    (Trace.benchAfter b past).dump.sent = b.outbox ++ past.flatMap Turn.sent
  /-- No message that was there at one point is missing at a later one. -/
  kept : ∀ past past', past <+: past' → past' <+: turns →
    (Trace.benchAfter b past).outbox <+: (Trace.benchAfter b past').outbox
  /-- At every point the last message is the one that was sent last since the last reset. -/
  lastSent : ∀ past, past <+: turns →
    (Trace.benchAfter b past).station.lastSent = (Trace.sentSinceReset past).getLast? ∧
    (Trace.benchAfter b past).dump.snapshot.lastSent = (Trace.sentSinceReset past).getLast?

/-- **Messages are delivered once**: whatever is done from an idle station on, no message is lost,
sent twice or out of order, and the station knows the last one that it sent since its reset. -/
theorem messages_delivered_once (rig : Rig) (flow : Flow) (i : Nat) (steps : List Step) (b : Bench)
    (h : b.station = .idle) : DeliveredOnce b (Trace.turns rig flow i steps b) := by
  refine ⟨?_, fun past hp => Trace.outbox_benchAfter hp, ?_, ?_⟩
  · intro t _
    exact ⟨t.move.1, t.move.2.length_sent⟩
  · intro past past' hle hp
    rw [Trace.outbox_benchAfter hp, Trace.outbox_benchAfter (hle.trans hp)]
    obtain ⟨later, rfl⟩ := hle
    rw [List.flatMap_append, ← List.append_assoc]
    exact List.prefix_append _ _
  · intro past hp
    have hlast := Trace.lastSent_benchAfter (by rw [h]; rfl) hp
    exact ⟨hlast, hlast⟩

/-- A time is called about, decided on and submitted, with a reset and a refused submission between:
of the three messages the last one is from after the reset. -/
theorem messages_delivered_once_reset :
    let card : Card := ⟨true, "Ada", 42, "2019LOVE01", []⟩
    let rig : Rig :=
      { inventory :=
          { groups := [], cards := ⟨[(42, card)]⟩
            buttons := ⟨[("judge", ⟨[2], .delegate⟩), ("ok", ⟨[1], .submit⟩)]⟩ }
        range := .between 5 9, pacing := .compressed }
    let steps : List Step :=
      [.scanCard 42, .solveTime (some 3000), .button ⟨"judge", 5⟩, .button ⟨"ok", 5⟩,
        .delegateResolve ⟨true, none, none⟩, .resetState, .scanCard 42, .solveTime (some 900),
        .button ⟨"ok", 5⟩]
    let b : Bench := .start rig 7
    b.station = .idle ∧ DeliveredOnce b (Trace.turns rig ⟨10, true⟩ 0 steps b) ∧
      (Trace.run rig ⟨10, true⟩ 0 steps b).bench.dump.sent.length = 3 := by
  intro card rig steps b
  exact ⟨rfl, messages_delivered_once rig ⟨10, true⟩ 0 steps b rfl, by decide⟩

end StationBench
