import StationBench.Proofs.Operation
/-!
# What a step can do

`Station.Move` lists what a step can do to the station and what the station sends as it does:
nothing if the step fails, and one thing for each way to succeed. Every step that is executed makes
one of these moves (`Bench.execute_move`). A step that fails takes time at most, and that only if it
holds a button (`failed_step_leaves_no_trace`).
-/
namespace StationBench

/-! ## Steps -/

namespace Step

/-- What the button does that a step presses, if it is bound. -/
def action? (rig : Rig) : Step → Option ButtonAction
  | .button press => (rig.inventory.buttons.find? press.name).map ButtonBinding.action
  | _ => none

/-- Whether a step only compares what is there with what should be. -/
def verifies : Step → Bool
  | .verifySolveTime _ | .verifySend _ | .verifyDelegateSent | .verifySnapshot _ => true
  | _ => false

/-- Whether a step draws a random time. -/
def drawsTime : Step → Bool
  | .solveTime none | .solveTimeRng => true
  | _ => false

/-- The time that comes in with a step, given the draws before it. -/
def time? (rig : Rig) (draws : Draws) : Step → Option Millis
  | .solveTime (some ms) => some ms
  | .solveTime none | .solveTimeRng => some (draws.next rig.range).1
  | _ => none

end Step

/-! ## Moves -/

/-- **What a step can do**: whether it succeeds, the station afterwards and what the station sent. -/
inductive Station.Move (rig : Rig) (draws : Draws) (s : Station) :
    Step → Bool → Station → List Message → Prop
  | fail (step : Step) : Move rig draws s step false s []
  | sleep (ms : Millis) : Move rig draws s (.sleep ms) true s []
  | verify {step : Step} (h : step.verifies = true) : Move rig draws s step true s []
  | scan {id : UInt64} {card : Card} (found : rig.inventory.cards.find? id = some card)
      (admitted : card.canCompete = true) :
    Move rig draws s (.scanCard id) true (s.signOn card (groupFor rig.inventory.groups card)) []
  | snapshot : Move rig draws s .snapshot true s.takeSnapshot []
  | reset : Move rig draws s .resetState true .idle []
  | time {step : Step} {ms : Millis} (h : step.time? rig draws = some ms) :
    Move rig draws s step true (s.recordTime ms) []
  | submit {press : ButtonPress} {card : Card} {t : Millis}
      (bound : (Step.button press).action? rig = some .submit) (scanned : s.scannedCard = some card)
      (timed : s.solveTime = some t) (settled : s.delegatePending = false) :
    Move rig draws s (.button press) true { s with lastSent := some (s.submission t) }
      [s.submission t]
  | penalty {press : ButtonPress} {t : Millis}
      (bound : (Step.button press).action? rig = some .penalty) (timed : s.solveTime = some t) :
    Move rig draws s (.button press) true { s with penalty := some s.effectivePenalty.cycle } []
  | call {press : ButtonPress} {t : Millis}
      (bound : (Step.button press).action? rig = some .delegate) (timed : s.solveTime = some t) :
    Move rig draws s (.button press) true
      { s with lastSent := some (s.call t), delegatePending := true } [s.call t]
  | inspection {press : ButtonPress} (bound : (Step.button press).action? rig = some .inspection) :
    Move rig draws s (.button press) true { s with inspectionActive := !s.inspectionActive } []
  | clear {press : ButtonPress} (bound : (Step.button press).action? rig = some .clear) :
    Move rig draws s (.button press) true { s with solveTime := none, penalty := none } []
  | resolve {r : Resolution} (scanned : r.shouldScanCards = true → s.scannedCard.isSome = true) :
    Move rig draws s (.delegateResolve r) true (s.settled r) [r.message s]

/-! ## Every step makes a move -/

namespace Station

variable {s : Station} {rig : Rig} {draws : Draws}

theorem solveTime_of_requireTime {t : Millis} (h : s.requireTime = .ok t) :
    s.solveTime = some t := by
  unfold requireTime at h
  cases ht : s.solveTime with
  | none => simp [ht] at h
  | some t' => simpa [ht] using h

theorem isSome_scannedCard_of_requireCard (h : s.requireCard = .ok ()) :
    s.scannedCard.isSome = true := by
  unfold requireCard at h
  by_cases hc : s.scannedCard.isSome = true
  · exact hc
  · simp [hc] at h

/-- A button that does what it should makes the move of its action. -/
theorem move_of_press {p : ButtonPress} {action : ButtonAction} {r : Response}
    (bound : (Step.button p).action? rig = some action) (h : s.press action = .ok r) :
    Move rig draws s (.button p) true r.station r.sent.toList := by
  cases action with
  | submit =>
    rw [press_submit] at h
    obtain ⟨_, hc, h⟩ := ok_of_bind h
    obtain ⟨t, ht, h⟩ := ok_of_bind h
    obtain ⟨card, hcard⟩ := Option.isSome_iff_exists.1 (isSome_scannedCard_of_requireCard hc)
    by_cases hp : s.delegatePending = true
    · rw [if_pos hp] at h
      cases h
    · rw [if_neg hp] at h
      obtain rfl := Except.ok.inj h
      exact .submit bound hcard (solveTime_of_requireTime ht) (by simpa using hp)
  | penalty =>
    rw [press_penalty] at h
    obtain ⟨t, ht, h⟩ := ok_of_bind h
    obtain rfl := Except.ok.inj h
    exact .penalty bound (solveTime_of_requireTime ht)
  | delegate =>
    rw [press_delegate] at h
    obtain ⟨t, ht, h⟩ := ok_of_bind h
    obtain rfl := Except.ok.inj h
    exact .call bound (solveTime_of_requireTime ht)
  | inspection =>
    rw [press_inspection] at h
    obtain rfl := Except.ok.inj h
    exact .inspection bound
  | clear =>
    rw [press_clear] at h
    obtain rfl := Except.ok.inj h
    exact .clear bound

end Station

namespace Bench

/-- Takes over a station after an operation, and what it sent. -/
def receive (b : Bench) (r : Station.Response) : Bench :=
  { b with station := r.station, outbox := b.outbox ++ r.sent.toList }

section
variable {b : Bench} {rig : Rig}

/-- Holding a button leaves the station alone. -/
@[simp] theorem station_hold (p : ButtonPress) (action : ButtonAction) :
    (b.hold p action).station = b.station := rfl

/-- The bench takes over the line that the station's operation leaves, whatever comes of it. -/
theorem act_atStation {α : Type} (op : Station.Operation α) (next : α → Act Note) :
    b.act (atStation op >>= next) =
      match op.run.run ⟨b.station, b.outbox⟩ with
      | (.error fault, line) =>
        (.error fault, { b with station := line.station, outbox := line.sent })
      | (.ok x, line) =>
        { b with station := line.station, outbox := line.sent : Bench }.act (next x) := by
  have hrun : (atStation op).run.run b =
      ((op.run.run ⟨b.station, b.outbox⟩).1,
        { b with
          station := (op.run.run ⟨b.station, b.outbox⟩).2.station
          outbox := (op.run.run ⟨b.station, b.outbox⟩).2.sent }) := rfl
  simp only [act, ExceptT.run_bind, StateT.run_bind, hrun]
  cases op.run.run ⟨b.station, b.outbox⟩ with
  | mk result line => cases result <;> rfl

theorem press_of_unbound {p : ButtonPress} (h : (Step.button p).action? rig = none) :
    b.press rig p = (.error (.unknownButton p.name), b) := by
  have hno : rig.inventory.binding p.name = .error (.unknownButton p.name) := by
    simp only [Inventory.binding, Option.map_eq_none_iff.1 h]
  rw [press, hno]
  rfl

theorem press_of_bound {p : ButtonPress} {action : ButtonAction}
    (h : (Step.button p).action? rig = some action) :
    b.press rig p =
      match b.station.press action with
      | .error fault => (.error fault, b.hold p action)
      | .ok response => (.ok (.pressed p action), (b.hold p action).receive response) := by
  obtain ⟨binding, hfound, rfl⟩ := Option.map_eq_some_iff.1 h
  have hyes : rig.inventory.binding p.name = .ok binding := by
    simp only [Inventory.binding, hfound]
  have hheld : b.press rig p = (b.hold p binding.action).act (do
      atStation (.press binding.action)
      return .pressed p binding.action) := by
    rw [press, hyes]
    rfl
  rw [hheld, act_atStation, Station.Operation.run_press]
  cases hr : b.station.press binding.action <;> simp only [station_hold, hr] <;> rfl

theorem scan_of_missing {id : UInt64} (h : rig.inventory.cards.find? id = none) :
    b.scan rig id = (.error (.unknownCard id), b) := by
  simp only [scan, Inventory.card, h]
  rfl

theorem scan_of_found {id : UInt64} {card : Card} (h : rig.inventory.cards.find? id = some card) :
    b.scan rig id =
      match b.station.scan card (groupFor rig.inventory.groups card) with
      | .error fault => (.error fault, b)
      | .ok station => (.ok (.scanned card), { b with station }) := by
  have hscan : b.scan rig id = b.act (do
      atStation (.scan card (groupFor rig.inventory.groups card))
      return .scanned card) := by
    simp only [scan, Inventory.card, h]
    rfl
  rw [hscan, act_atStation, Station.Operation.run_scan]
  cases b.station.scan card (groupFor rig.inventory.groups card) <;> rfl

theorem resolve_eq (r : Resolution) :
    b.resolve r =
      match b.station.resolve r.shouldScanCards r.penalty r.value with
      | .error fault => (.error fault, b)
      | .ok (station, message) =>
        (.ok (.resolved message), b.receive { station, sent := some message }) := by
  rw [resolve, act_atStation, Station.Operation.run_resolve]
  cases b.station.resolve r.shouldScanCards r.penalty r.value <;> rfl

end

variable (b : Bench) (rig : Rig)

/-- A bound button is held, whether or not the station then does what the button asks for. -/
theorem press_cases (p : ButtonPress) :
    ((Step.button p).action? rig = none ∧ ∃ f, b.press rig p = (.error f, b)) ∨
      ∃ action, (Step.button p).action? rig = some action ∧
        ((∃ f, b.press rig p = (.error f, b.hold p action)) ∨
          ∃ r, b.station.press action = .ok r ∧
            b.press rig p = (.ok (.pressed p action), (b.hold p action).receive r)) := by
  cases ha : (Step.button p).action? rig with
  | none => exact Or.inl ⟨rfl, _, press_of_unbound ha⟩
  | some action =>
    refine Or.inr ⟨action, rfl, ?_⟩
    rw [press_of_bound ha]
    cases b.station.press action with
    | error f => exact Or.inl ⟨f, rfl⟩
    | ok r => exact Or.inr ⟨r, rfl, rfl⟩

theorem scan_cases (id : UInt64) :
    (∃ f, b.scan rig id = (.error f, b)) ∨
      ∃ card, rig.inventory.cards.find? id = some card ∧ card.canCompete = true ∧
        b.scan rig id = (.ok (.scanned card),
          { b with station := b.station.signOn card (groupFor rig.inventory.groups card) }) := by
  cases hc : rig.inventory.cards.find? id with
  | none => exact Or.inl ⟨_, scan_of_missing hc⟩
  | some card =>
    rw [scan_of_found hc]
    by_cases hok : card.canCompete = true
    · rw [Station.scan_eq, if_pos hok]
      exact Or.inr ⟨card, rfl, hok, rfl⟩
    · rw [Station.scan_eq, if_neg hok]
      exact Or.inl ⟨_, rfl⟩

theorem resolve_cases (r : Resolution) :
    (∃ f, b.resolve r = (.error f, b)) ∨
      (r.shouldScanCards = true → b.station.scannedCard.isSome = true) ∧
        b.resolve r = (.ok (.resolved (r.message b.station)),
          b.receive ⟨b.station.settled r, some (r.message b.station)⟩) := by
  rw [resolve_eq, Station.resolve_eq]
  by_cases hno : r.shouldScanCards = true ∧ b.station.scannedCard = none
  · rw [if_pos hno]
    exact Or.inl ⟨_, rfl⟩
  · rw [if_neg hno]
    refine Or.inr ⟨?_, rfl⟩
    intro hr
    rw [Option.isSome_iff_ne_none]
    exact fun hc => hno ⟨hr, hc⟩

/-- Only a step that draws a time moves the draws on. -/
theorem execute_draws (s : Step) :
    (b.execute rig s).2.draws =
      if s.drawsTime = true then (b.draws.next rig.range).2 else b.draws := by
  cases s with
  | solveTime ms => cases ms <;> rfl
  | button p =>
    rcases b.press_cases rig p with ⟨-, _, hp⟩ | ⟨_, -, ⟨_, hp⟩ | ⟨_, -, hp⟩⟩ <;>
      rw [execute, hp] <;> rfl
  | scanCard id =>
    rcases b.scan_cases rig id with ⟨_, hs⟩ | ⟨_, -, -, hs⟩ <;> rw [execute, hs] <;> rfl
  | delegateResolve r =>
    rcases b.resolve_cases r with ⟨_, hr⟩ | ⟨-, hr⟩ <;> rw [execute, hr] <;> rfl
  | _ => rfl

/-- **Every step makes a move**, and what the station sends is added to the outbox. -/
theorem execute_move (s : Step) :
    ∃ sent, (b.execute rig s).2.outbox = b.outbox ++ sent ∧
      Station.Move rig b.draws b.station s (b.execute rig s).1.isOk (b.execute rig s).2.station
        sent := by
  -- all but a press and a decision send nothing
  have quiet {ok : Bool} {s' : Station} (h : Station.Move rig b.draws b.station s ok s' []) :
      ∃ sent, b.outbox = b.outbox ++ sent ∧ Station.Move rig b.draws b.station s ok s' sent :=
    ⟨[], (List.append_nil _).symm, h⟩
  have checked {α : Type} (check : Except StepFault α) (found : α → Note)
      (h : s.verifies = true) :
      Station.Move rig b.draws b.station s (found <$> check).isOk b.station [] := by
    cases check with
    | error f => exact .fail s
    | ok a => exact .verify h
  cases s with
  | sleep ms => exact quiet (.sleep ms)
  | snapshot => exact quiet .snapshot
  | resetState => exact quiet .reset
  | solveTime ms => cases ms <;> exact quiet (.time rfl)
  | solveTimeRng => exact quiet (.time rfl)
  | scanCard id =>
    rw [execute]
    rcases b.scan_cases rig id with ⟨f, hs⟩ | ⟨card, hc, hok, hs⟩
    · rw [hs]
      exact quiet (.fail _)
    · rw [hs]
      exact quiet (.scan hc hok)
  | button p =>
    rw [execute]
    rcases b.press_cases rig p with ⟨-, f, hp⟩ | ⟨action, ha, ⟨f, hp⟩ | ⟨r, hr, hp⟩⟩
    · rw [hp]
      exact quiet (.fail _)
    · rw [hp]
      exact quiet (.fail _)
    · rw [hp]
      exact ⟨r.sent.toList, rfl, Station.move_of_press ha hr⟩
  | delegateResolve r =>
    rw [execute]
    rcases b.resolve_cases r with ⟨f, hr⟩ | ⟨hcard, hr⟩
    · rw [hr]
      exact quiet (.fail _)
    · rw [hr]
      exact ⟨_, rfl, .resolve hcard⟩
  | verifySolveTime e => exact quiet (checked (b.station.verifySolveTime e) .timeMatches rfl)
  | verifySend e => exact quiet (checked (b.station.verifySend e) .messageMatches rfl)
  | verifyDelegateSent => exact quiet (checked b.station.verifyDelegateSent .delegateSent rfl)
  | verifySnapshot fields =>
    exact quiet (checked (b.station.verifySnapshot fields) .snapshotMatches rfl)
  | unsupported type => exact quiet (.fail _)

/-- A verification leaves the bench alone. -/
theorem execute_snd_of_verifies {s : Step} (h : s.verifies = true) : (b.execute rig s).2 = b := by
  cases s with
  | verifySolveTime e | verifySend e | verifyDelegateSent | verifySnapshot fields => rfl
  | _ => cases h

/-- A step that fails leaves the bench alone, but for the time that a bound button is held. -/
theorem execute_snd_of_error {s : Step} {f : StepFault} (h : (b.execute rig s).1 = .error f) :
    (s.action? rig = none ∧ (b.execute rig s).2 = b) ∨
      ∃ p action, s = .button p ∧ s.action? rig = some action ∧
        (b.execute rig s).2 = b.hold p action := by
  cases s with
  | button p =>
    rw [execute] at h ⊢
    rcases b.press_cases rig p with ⟨hno, _, hp⟩ | ⟨action, ha, ⟨_, hp⟩ | ⟨_, -, hp⟩⟩
    · exact Or.inl ⟨hno, congrArg Prod.snd hp⟩
    · exact Or.inr ⟨p, action, rfl, ha, congrArg Prod.snd hp⟩
    · rw [hp] at h
      cases h
  | scanCard id =>
    rw [execute] at h ⊢
    rcases b.scan_cases rig id with ⟨_, hs⟩ | ⟨_, -, -, hs⟩
    · exact Or.inl ⟨rfl, congrArg Prod.snd hs⟩
    · rw [hs] at h
      cases h
  | delegateResolve r =>
    rw [execute] at h ⊢
    rcases b.resolve_cases r with ⟨_, hr⟩ | ⟨-, hr⟩
    · exact Or.inl ⟨rfl, congrArg Prod.snd hr⟩
    · rw [hr] at h
      cases h
  | solveTime ms => cases ms <;> cases h
  | sleep ms | snapshot | resetState | solveTimeRng => cases h
  | verifySolveTime e | verifySend e | verifyDelegateSent | verifySnapshot fields
  | unsupported type => exact Or.inl ⟨rfl, rfl⟩

end Bench

/-! ## Steps that fail -/

/-- The sum of two times is exact up to the greatest time. -/
theorem Millis.toNat_addCapped (a b : Millis) :
    (a.addCapped b).toNat = min (a.toNat + b.toNat) (UInt64.size - 1) := by
  have hlt : min (a.toNat + b.toNat) (UInt64.size - 1) < UInt64.size :=
    Nat.lt_of_le_of_lt (Nat.min_le_right _ _) (by decide)
  exact UInt64.toNat_ofNat_of_lt' hlt

/-- The bench `after` has nothing of a step on the bench `b` but the time that a button was held. -/
structure Bench.Untraced (rig : Rig) (s : Step) (b after : Bench) : Prop where
  station : after.station = b.station
  outbox : after.outbox = b.outbox
  draws : after.draws = b.draws
  /-- A step that holds no button takes no time either, and nothing is recorded. -/
  unheld : s.action? rig = none → after = b
  /-- A button that is held takes its time, and the press is recorded. -/
  held : ∀ (p : ButtonPress) (action : ButtonAction), s = .button p → s.action? rig = some action →
    after.clock.now.toNat = min (b.clock.now.toNat + p.time.toNat) (UInt64.size - 1) ∧
    after.presses = b.presses ++ [⟨p.name, action, b.clock.now, p.time⟩]

theorem Bench.untraced_hold {rig : Rig} {p : ButtonPress} {action : ButtonAction} {b : Bench}
    (h : (Step.button p).action? rig = some action) :
    Untraced rig (.button p) b (b.hold p action) := by
  refine ⟨rfl, rfl, rfl, ?_, ?_⟩
  · intro hno
    rw [h] at hno
    cases hno
  · rintro p' action' ⟨rfl⟩ ha
    obtain rfl := Option.some.inj (h.symm.trans ha)
    exact ⟨Millis.toNat_addCapped _ _, rfl⟩

/-- **A step that fails leaves no trace**, and a verification does not even if it passes. -/
theorem failed_step_leaves_no_trace (b : Bench) (rig : Rig) (s : Step) :
    ((b.execute rig s).1.isOk = false → Bench.Untraced rig s b (b.execute rig s).2) ∧
      (s.verifies = true → (b.execute rig s).2 = b) := by
  refine ⟨?_, b.execute_snd_of_verifies rig⟩
  intro h
  cases hr : (b.execute rig s).1 with
  | ok note => simp [hr, Except.isOk, Except.toBool] at h
  | error f =>
    rcases b.execute_snd_of_error rig hr with ⟨hno, hb⟩ | ⟨p, action, rfl, ha, hb⟩
    · rw [hb]
      refine ⟨rfl, rfl, rfl, fun _ => rfl, ?_⟩
      intro p action _ ha
      rw [hno] at ha
      cases ha
    · rw [hb]
      exact Bench.untraced_hold ha

/-- A time is submitted without a card: only the hold of the button is left of it. -/
theorem failed_step_leaves_no_trace_submission :
    let rig : Rig :=
      { inventory := { groups := [], cards := {}, buttons := ⟨[("ok", ⟨[1], .submit⟩)]⟩ }
        range := .between 5 9, pacing := .compressed }
    let b : Bench := ((Bench.start rig 7).wait 100).takeTime 3000 |>.2
    let press : Step := .button ⟨"ok", 30⟩
    let check : Step := .verifySend ⟨some 3000, none, none⟩
    (b.execute rig press).1.isOk = false ∧ Bench.Untraced rig press b (b.execute rig press).2 ∧
      check.verifies = true ∧ (b.execute rig check).2 = b := by
  intro rig b press check
  obtain ⟨hfail, -⟩ := failed_step_leaves_no_trace b rig press
  obtain ⟨-, hcheck⟩ := failed_step_leaves_no_trace b rig check
  have hpress : (b.execute rig press).1.isOk = false := rfl
  exact ⟨hpress, hfail hpress, rfl, hcheck rfl⟩

end StationBench
