import StationBench.Proofs.Delivery
/-!
# Calls of delegates

A call of a delegate is open until a delegate decides or the station is reset. While it is, the last
message is the call, or a later one, with a time in it, and nothing is sent as a competitor's own
result. What a competitor submits and what may go out without a time is said message by message. All
of it is one statement about runs from an idle station (`delegate_protocol`).
-/
namespace StationBench

/-! ## Calls and decisions -/

/-- Whether a step calls a delegate if it succeeds. -/
def Step.calls (rig : Rig) (s : Step) : Bool := s.action? rig = some .delegate

/-- Whether a step ends a call if it succeeds: a delegate's decision, or a reset. -/
def Step.settles : Step → Bool
  | .delegateResolve _ | .resetState => true
  | _ => false

namespace Turn

variable {rig : Rig} (t : Turn rig)

def calls : Bool := t.ok && t.step.calls rig

def settles : Bool := t.ok && t.step.settles

end Turn

/-- Whether there was a call or a decision or a reset, and the last of them was a call. -/
def Trace.callOpen {rig : Rig} (past : List (Turn rig)) : Bool :=
  (past.filter fun t => t.calls || t.settles).getLast?.any Turn.calls

/-! ## Stations that keep to the protocol -/

/-- A station that only knows cards that are admitted, and that called for a delegate, with a time,
in its last message while a call is pending. -/
structure Station.Attended (s : Station) : Prop where
  admitted : ∀ card, s.scannedCard = some card → card.canCompete = true
  called : s.delegatePending = true →
    ∃ m t, s.lastSent = some m ∧ m.delegate = true ∧ m.time = some t

theorem Station.attended_idle : Attended .idle := by
  constructor <;> intros <;> contradiction

namespace Station.Move

variable {rig : Rig} {draws : Draws} {s s' : Station} {step : Step} {ok : Bool}
  {sent : List Message}

theorem attended (h : Move rig draws s step ok s' sent) (hs : Attended s) : Attended s' := by
  cases h with
  | fail | sleep | verify | snapshot | time | penalty | inspection | clear =>
    exact ⟨hs.admitted, hs.called⟩
  | scan found admitted =>
    refine ⟨?_, hs.called⟩
    rintro card ⟨rfl⟩
    exact admitted
  | reset => exact attended_idle
  | submit bound scanned timed settled =>
    -- the last message is now a competitor's own, but then no call is pending
    refine ⟨hs.admitted, ?_⟩
    intro hp
    rw [settled] at hp
    cases hp
  | call bound timed => exact ⟨hs.admitted, fun _ => ⟨_, _, rfl, rfl, rfl⟩⟩
  | resolve => exact ⟨hs.admitted, fun hp => by cases hp⟩

/-- A call is pending from the step that calls to the one that settles it. -/
theorem delegatePending_eq (h : Move rig draws s step ok s' sent) :
    s'.delegatePending =
      (ok && step.calls rig || !(ok && step.settles) && s.delegatePending) := by
  cases h with
  | verify hv =>
    cases step with
    | verifySolveTime e | verifySend e | verifyDelegateSent | verifySnapshot fields => rfl
    | _ => cases hv
  | time ht =>
    cases step with
    | solveTime t | solveTimeRng => rfl
    | _ => cases ht
  | submit bound | penalty bound | call bound | inspection bound | clear bound =>
    simp [Step.calls, Step.settles, bound]
  | fail | sleep | scan | snapshot | reset | resolve => rfl

/-- A competitor's own result is a submission: of an admitted competitor, with a time, and while no
call is pending. -/
theorem submitted (h : Move rig draws s step ok s' sent) (hs : Attended s) {m : Message}
    (hm : m ∈ sent) (hd : m.delegate = false) :
    ok = true ∧ step.action? rig = some .submit ∧
      ∃ card t, s.scannedCard = some card ∧ card.canCompete = true ∧ s.solveTime = some t ∧
        s.delegatePending = false ∧ m = ⟨some t, s.effectivePenalty, false⟩ := by
  cases h with
  | submit bound scanned timed settled =>
    obtain rfl := List.mem_singleton.1 hm
    exact ⟨rfl, bound, _, _, scanned, hs.admitted _ scanned, timed, settled, rfl⟩
  | call | resolve =>
    obtain rfl := List.mem_singleton.1 hm
    cases hd
  | fail | sleep | verify | scan | snapshot | reset | time | penalty | inspection | clear =>
    cases hm

/-- A message without a time is a decision at a station without one. -/
theorem untimed (h : Move rig draws s step ok s' sent) {m : Message} (hm : m ∈ sent)
    (ht : m.time = none) :
    ok = true ∧ (∃ r, step = .delegateResolve r ∧ r.value = none) ∧ s.solveTime = none ∧
      m.delegate = true := by
  cases h with
  | submit | call =>
    obtain rfl := List.mem_singleton.1 hm
    cases ht
  | resolve =>
    obtain rfl := List.mem_singleton.1 hm
    obtain ⟨hv, hs⟩ := Option.or_eq_none_iff.1 ht
    exact ⟨rfl, ⟨_, rfl, hv⟩, hs, rfl⟩
  | fail | sleep | verify | scan | snapshot | reset | time | penalty | inspection | clear =>
    cases hm

end Station.Move

/-! ## All turns -/

namespace Trace

variable {rig : Rig} {flow : Flow} {i : Nat} {steps : List Step} {b : Bench}

theorem callOpen_append_singleton (past : List (Turn rig)) (t : Turn rig) :
    callOpen (past ++ [t]) = (t.calls || !t.settles && callOpen past) := by
  unfold callOpen
  cases hc : t.calls <;> cases hs : t.settles <;> simp [hc, hs]

theorem delegatePending_benchAfter (hb : b.station = .idle) {past : List (Turn rig)}
    (h : past <+: turns rig flow i steps b) :
    (benchAfter b past).station.delegatePending = callOpen past := by
  refine turns_induction (P := fun past b' => b'.station.delegatePending = callOpen past)
    (by rw [hb]; rfl) (fun past b' ms hp => hp) ?_ h
  intro past t hp
  rw [t.move.2.delegatePending_eq, hp, callOpen_append_singleton]
  rfl

theorem attended_benchAfter (hb : b.station = .idle) {past : List (Turn rig)}
    (h : past <+: turns rig flow i steps b) : (benchAfter b past).station.Attended :=
  turns_induction (P := fun _ b' => b'.station.Attended) (by rw [hb]; exact Station.attended_idle)
    (fun past b' ms hp => hp) (fun past t hp => t.move.2.attended hp) h

/-- A call stays open until it is settled. -/
theorem callOpen_append {past mid : List (Turn rig)} (hopen : callOpen past = true)
    (hmid : ∀ t ∈ mid, t.settles = false) : callOpen (past ++ mid) = true := by
  induction mid using List.reverseRecOn with
  | nil => simpa using hopen
  | append_singleton mid t ih =>
    rw [← List.append_assoc, callOpen_append_singleton, hmid t (by simp),
      ih fun t' ht' => hmid t' (List.mem_append_left _ ht')]
    simp

theorem attended_before (hb : b.station = .idle) {t : Turn rig}
    (ht : t ∈ turns rig flow i steps b) : t.before.station.Attended := by
  obtain ⟨past, h⟩ := exists_prefix_of_mem ht
  rw [station_before h]
  exact attended_benchAfter hb ((List.prefix_append _ _).trans h)

/-- While a call is open, only delegates' results are sent. -/
theorem delegate_of_callOpen (hb : b.station = .idle) {past : List (Turn rig)} {t : Turn rig}
    (h : past ++ [t] <+: turns rig flow i steps b) (hopen : callOpen past = true) {m : Message}
    (hm : m ∈ t.sent) : m.delegate = true := by
  have hpast := (List.prefix_append _ _).trans h
  have hpending : t.before.station.delegatePending = true := by
    rw [station_before h, delegatePending_benchAfter hb hpast, hopen]
  have hatt : t.before.station.Attended := by
    rw [station_before h]
    exact attended_benchAfter hb hpast
  by_contra hd
  obtain ⟨-, -, _, _, -, -, -, hsettled, -⟩ :=
    t.move.2.submitted hatt hm (Bool.eq_false_iff.2 hd)
  rw [hpending] at hsettled
  cases hsettled

end Trace

/-! ## The protocol -/

/-- How calls of delegates go in a run that started on the bench `b`. -/
structure DelegateProtocol {rig : Rig} (b : Bench) (turns : List (Turn rig)) : Prop where
  /-- A call is pending if and only if the last call, decision or reset so far was a call. -/
  pending_iff : ∀ past, past <+: turns →
    ((Trace.benchAfter b past).station.delegatePending = true ↔ Trace.callOpen past = true)
  /-- While a call is pending, the last message is a delegate's, with a time. -/
  lastSent : ∀ past, past <+: turns → (Trace.benchAfter b past).station.delegatePending = true →
    ∃ m t, (Trace.benchAfter b past).station.lastSent = some m ∧ m.delegate = true ∧
      m.time = some t
  /-- From a point at which a call is pending on, only delegates' messages are sent, until a
  decision or a reset succeeds. -/
  silent : ∀ past mid, past ++ mid <+: turns →
    (Trace.benchAfter b past).station.delegatePending = true → (∀ t ∈ mid, t.settles = false) →
      ∀ t ∈ mid, ∀ m ∈ t.sent, m.delegate = true
  /-- Whatever is in the outbox and was not before was sent in one of the turns. -/
  sent : (Trace.benchAfter b turns).outbox = b.outbox ++ turns.flatMap Turn.sent
  /-- A competitor's own message is what was submitted, by an admitted competitor and with the time
  and the penalty of the moment, while no call was pending. -/
  submitted : ∀ t ∈ turns, ∀ m ∈ t.sent, m.delegate = false →
    t.ok = true ∧ t.step.action? rig = some .submit ∧
      ∃ card time, t.before.station.scannedCard = some card ∧ card.canCompete = true ∧
        t.before.station.solveTime = some time ∧ t.before.station.delegatePending = false ∧
        m = ⟨some time, t.before.station.effectivePenalty, false⟩
  /-- A message without a time is a decision that gives none, at a station that has none. -/
  untimed : ∀ t ∈ turns, ∀ m ∈ t.sent, m.time = none →
    t.ok = true ∧ (∃ r, t.step = .delegateResolve r ∧ r.value = none) ∧
      t.before.station.solveTime = none ∧ m.delegate = true

/-- **Calls of delegates keep to the protocol**, whatever is done from an idle station on. -/
theorem delegate_protocol (rig : Rig) (flow : Flow) (i : Nat) (steps : List Step) (b : Bench)
    (h : b.station = .idle) : DelegateProtocol b (Trace.turns rig flow i steps b) := by
  refine ⟨?_, ?_, ?_, Trace.outbox_benchAfter (List.prefix_refl _), ?_, ?_⟩
  · intro past hp
    rw [Trace.delegatePending_benchAfter h hp]
  · intro past hp
    exact (Trace.attended_benchAfter h hp).called
  · intro past mid hp hpending hmid t ht
    -- the call is still open when it is the turn of `t`, as nothing between settles it
    obtain ⟨before, later, rfl⟩ := List.append_of_mem ht
    rw [Trace.delegatePending_benchAfter h ((List.prefix_append _ _).trans hp)] at hpending
    have hopen : Trace.callOpen (past ++ before) = true :=
      Trace.callOpen_append hpending fun t' ht' => hmid t' (List.mem_append_left _ ht')
    have hturn : past ++ before ++ [t] <+: Trace.turns rig flow i steps b :=
      List.IsPrefix.trans ⟨later, by simp⟩ hp
    intro m hm
    exact Trace.delegate_of_callOpen h hturn hopen hm
  · intro t ht m hm hd
    exact t.move.2.submitted (Trace.attended_before h ht) hm hd
  · intro t _ m hm hno
    exact t.move.2.untimed hm hno

/-- A call, a refused submission and a cleared time: the delegate's decision goes out without one,
and then the next time may be submitted. -/
theorem delegate_protocol_cleared :
    let card : Card := ⟨true, "Ada", 42, "2019LOVE01", []⟩
    let rig : Rig :=
      { inventory :=
          { groups := [], cards := ⟨[(42, card)]⟩
            buttons := ⟨[("judge", ⟨[2], .delegate⟩), ("no", ⟨[], .clear⟩), ("ok", ⟨[1], .submit⟩)]⟩ }
        range := .between 5 9, pacing := .compressed }
    let steps : List Step :=
      [.scanCard 42, .solveTime (some 3000), .button ⟨"judge", 5⟩, .button ⟨"ok", 5⟩,
        .button ⟨"no", 5⟩, .delegateResolve ⟨true, none, none⟩, .solveTime (some 900),
        .button ⟨"ok", 5⟩]
    let b : Bench := .start rig 7
    b.station = .idle ∧ DelegateProtocol b (Trace.turns rig ⟨10, true⟩ 0 steps b) ∧
      (Trace.run rig ⟨10, true⟩ 0 steps b).bench.outbox =
        [⟨some 3000, .none, true⟩, ⟨none, .none, true⟩, ⟨some 900, .none, false⟩] := by
  intro card rig steps b
  exact ⟨rfl, delegate_protocol rig ⟨10, true⟩ 0 steps b rfl, by decide⟩

end StationBench
