import StationBench.Bench.Execute
import StationBench.Proofs.Except
/-!
# What an operation leaves

An operation changes the station and sends messages as it goes, and what it did before a fault
stays. Its checks all come first, so that an operation that fails leaves the line as it was, and one
that succeeds leaves the station of its response and the messages it sent at the end of the line
(`run_scan`, `run_press`, `run_resolve`).
-/
namespace StationBench

/-- What a station sends when a time is submitted. -/
def Station.submission (s : Station) (t : Millis) : Message := ⟨some t, s.effectivePenalty, false⟩

/-- What a station sends when a delegate is called. -/
def Station.call (s : Station) (t : Millis) : Message := ⟨some t, s.effectivePenalty, true⟩

/-- What a station sends when a delegate has decided. -/
def Resolution.message (r : Resolution) (s : Station) : Message :=
  ⟨r.value.or s.solveTime, r.penalty.getD s.effectivePenalty, true⟩

/-- A station once a competitor has signed on. -/
def Station.signOn (s : Station) (card : Card) (group : Option Group) : Station :=
  { s with
    scannedCard := some card
    activeGroup := group
    inspectionActive := (group.map Group.useInspection).getD false }

/-- A station once a delegate has decided. -/
def Station.settled (s : Station) (r : Resolution) : Station :=
  { s with
    solveTime := (r.message s).time
    penalty := some (r.message s).penalty
    delegatePending := false
    lastSent := some (r.message s) }

namespace Station

/-! ## Responses -/

variable (s : Station)

theorem scan_eq (card : Card) (group : Option Group) :
    s.scan card group =
      if card.canCompete = true then .ok (s.signOn card group)
      else .error (.invalidCard card.registrantId) := by
  cases h : card.canCompete <;> simp only [scan, Operation.on, Operation.scan, h] <;> rfl

-- the checks of an operation look at few fields: once these are known, it runs by itself
theorem press_submit :
    s.press .submit = (do
      s.requireCard
      let t ← s.requireTime
      if s.delegatePending then .error (.precondition .delegatePending)
      else
        return { station := { s with lastSent := some (s.submission t) }
                 sent := some (s.submission t) }) := by
  obtain ⟨card, group, inspection, time, penalty, pending, sent, snapshot⟩ := s
  cases card <;> cases time <;> cases pending <;> rfl

theorem press_penalty :
    s.press .penalty = (do
      let _ ← s.requireTime
      return { station := { s with penalty := some s.effectivePenalty.cycle } }) := by
  obtain ⟨card, group, inspection, time, penalty, pending, sent, snapshot⟩ := s
  cases time <;> rfl

theorem press_delegate :
    s.press .delegate = (do
      let t ← s.requireTime
      return { station := { s with lastSent := some (s.call t), delegatePending := true }
               sent := some (s.call t) }) := by
  obtain ⟨card, group, inspection, time, penalty, pending, sent, snapshot⟩ := s
  cases time <;> rfl

theorem press_inspection :
    s.press .inspection = .ok { station := { s with inspectionActive := !s.inspectionActive } } :=
  rfl

theorem press_clear :
    s.press .clear = .ok { station := { s with solveTime := none, penalty := none } } := rfl

/-- A delegate may decide without a card, unless one is asked for. -/
theorem resolve_eq (r : Resolution) :
    s.resolve r.shouldScanCards r.penalty r.value =
      if r.shouldScanCards = true ∧ s.scannedCard = none then
        .error (.precondition .noCardScanned)
      else .ok (s.settled r, r.message s) := by
  obtain ⟨scanCards, penalty, value⟩ := r
  obtain ⟨card, group, inspection, time, current, pending, sent, snapshot⟩ := s
  cases scanCards <;> cases card <;> rfl

end Station

/-! ## Frames -/

namespace Station.Operation

/-- **Signing on** leaves the line as it was if it fails, and else sends nothing. -/
theorem run_scan (card : Card) (group : Option Group) (l : Line) :
    (scan card group).run.run l =
      match l.station.scan card group with
      | .error fault => (.error fault, l)
      | .ok station => (.ok (), { l with station }) := by
  cases h : card.canCompete <;> simp only [Station.scan_eq, scan, h] <;> rfl

/-- **A button** leaves the line as it was if it fails, and else the station of its response and the
message that it sent, if any, at the end of the line. -/
theorem run_press (action : ButtonAction) (l : Line) :
    (press action).run.run l =
      match l.station.press action with
      | .error fault => (.error fault, l)
      | .ok response =>
        (.ok (), { station := response.station, sent := l.sent ++ response.sent.toList }) := by
  obtain ⟨⟨card, group, inspection, time, penalty, pending, last, snapshot⟩, sent⟩ := l
  -- a button that sends nothing adds nothing to the line
  have quiet (s : Station) :
      ((.ok (), ⟨s, sent⟩) : Except StepFault Unit × Line) = (.ok (), ⟨s, sent ++ []⟩) := by
    rw [List.append_nil]
  cases action with
  | submit => cases card <;> cases time <;> cases pending <;> rfl
  | penalty =>
    cases time with
    | none => rfl
    | some t => exact quiet _
  | delegate => cases time <;> rfl
  | inspection => exact quiet _
  | clear => exact quiet _

/-- **A decision** leaves the line as it was if it fails, and else sends one message. -/
theorem run_resolve (r : Resolution) (l : Line) :
    (resolve r.shouldScanCards r.penalty r.value).run.run l =
      match l.station.resolve r.shouldScanCards r.penalty r.value with
      | .error fault => (.error fault, l)
      | .ok (station, message) => (.ok message, { station, sent := l.sent ++ [message] }) := by
  obtain ⟨scanCards, penalty, value⟩ := r
  obtain ⟨⟨card, group, inspection, time, current, pending, last, snapshot⟩, sent⟩ := l
  cases scanCards <;> cases card <;> rfl

end Station.Operation

end StationBench
