import StationBench.Proofs.Run
import StationBench.Proofs.Written
/-!
# What verifications find

A verification goes through fields and reports the first one that is not as it should be
(`IsFirst`). For a result these are the fields that an expectation asks for
(`Expectation.mismatch?_eq_some_iff`), for a snapshot those that are selected
(`Snapshot.mismatch?_eq_some_iff`). What is reported are two values in key order that are not the
same (`Bench.telling_of_execute`), and so it is with every failure in the report of a run of a suite
that was loaded (`Suite.telling_of_reported`).
-/
namespace StationBench
open Json

/-! ## The first of some fields -/

/-- The first element of a list that has a property. -/
def IsFirst {α : Type} (l : List α) (P : α → Prop) (a : α) : Prop :=
  ∃ before after, l = before ++ a :: after ∧ P a ∧ ∀ b ∈ before, ¬ P b

section
variable {α β : Type} {l : List α} {P : α → Prop} {f : α → Option β} {g : α → β}

/-- A search that passes over what has a property stops at the first element without it. -/
theorem findSome?_eq_some_iff_isFirst (h : ∀ a ∈ l, P a ∧ f a = none ∨ ¬ P a ∧ f a = some (g a))
    {b : β} : l.findSome? f = some b ↔ ∃ a, IsFirst l (fun a => ¬ P a) a ∧ b = g a := by
  rw [List.findSome?_eq_some_iff]
  constructor
  · rintro ⟨before, a, after, rfl, ha, hbefore⟩
    rcases h a (by simp) with ⟨-, hf⟩ | ⟨hp, hf⟩
    · simp [ha] at hf
    · refine ⟨a, ⟨before, after, rfl, hp, fun x hx => ?_⟩, Option.some.inj (ha.symm.trans hf)⟩
      rcases h x (by simp [hx]) with ⟨hpx, -⟩ | ⟨-, hfx⟩
      · exact not_not_intro hpx
      · simp [hbefore x hx] at hfx
  · rintro ⟨a, ⟨before, after, rfl, hp, hbefore⟩, rfl⟩
    refine ⟨before, a, after, rfl, ?_, fun x hx => ?_⟩
    · rcases h a (by simp) with ⟨hpa, -⟩ | ⟨-, hf⟩
      · exact absurd hpa hp
      · exact hf
    · rcases h x (by simp [hx]) with ⟨-, hfx⟩ | ⟨hpx, -⟩
      · exact hfx
      · exact absurd hpx (hbefore x hx)

theorem findSome?_eq_none_iff_forall (h : ∀ a ∈ l, P a ∧ f a = none ∨ ¬ P a ∧ f a = some (g a)) :
    l.findSome? f = none ↔ ∀ a ∈ l, P a := by
  rw [List.findSome?_eq_none_iff]
  refine forall₂_congr fun a ha => ?_
  rcases h a ha with ⟨hp, hf⟩ | ⟨hp, hf⟩ <;> simp [hp, hf]

theorem findSome?_filter (p : α → Bool) (l : List α) :
    (l.filter p).findSome? f = l.findSome? fun a => if p a then f a else none := by
  induction l with
  | nil => rfl
  | cons a rest ih => by_cases h : p a <;> simp [List.findSome?_cons, h, ih]

end

/-! ## Results -/

/-- What an expectation may ask for. -/
inductive ResultField
  | time
  | penalty
  | delegate
deriving DecidableEq, Repr

namespace ResultField

/-- The fields in the order in which they are compared. -/
def all : List ResultField := [time, penalty, delegate]

def name : ResultField → String
  | .time => "time"
  | .penalty => "penalty"
  | .delegate => "delegate"

theorem mem_all (f : ResultField) : f ∈ all := by
  cases f <;> decide

end ResultField

/-- What a result writes in a field. -/
def Observed.written (o : Observed) : ResultField → Value
  | .time => .ofOption .ofUInt64 o.time
  | .penalty => o.penalty.toJson
  | .delegate => .bool o.delegate

theorem Observed.ordered_written (o : Observed) (f : ResultField) :
    (o.written f).ordered = o.written f := by
  cases f with
  | time => cases h : o.time <;> simp only [written, h] <;> rfl
  | penalty | delegate => rfl

/-- The fault of a field is that something else was asked for. -/
theorem fieldMismatch?_cases {α : Type} [DecidableEq α] (field : String) (write : α → Value)
    (expected : Option α) (actual : α) :
    (∀ a, expected = some a → actual = a) ∧ fieldMismatch? field write expected actual = none ∨
      ∃ a, expected = some a ∧ actual ≠ a ∧ fieldMismatch? field write expected actual =
        some (.verification field (write a) (write actual)) := by
  cases expected with
  | none => exact Or.inl ⟨nofun, rfl⟩
  | some a =>
    by_cases h : a = actual
    · refine Or.inl ⟨?_, by simp [fieldMismatch?, h]⟩
      rintro _ ⟨rfl⟩
      exact h.symm
    · exact Or.inr ⟨a, rfl, Ne.symm h, by simp [fieldMismatch?, h]⟩

namespace Expectation

/-- What an expectation writes in a field. -/
def written (e : Expectation) : ResultField → Value
  | .time => .ofOption .ofUInt64 e.time
  | .penalty => .ofOption Penalty.toJson e.penalty
  | .delegate => .ofOption .bool e.delegate

/-- A result has what an expectation asks for in a field; penalties count by their integers. -/
def Fits (e : Expectation) (o : Observed) : ResultField → Prop
  | .time => ∀ t, e.time = some t → o.time = some t
  | .penalty => ∀ p, e.penalty = some p → o.penalty.toInt64 = p.toInt64
  | .delegate => ∀ d, e.delegate = some d → o.delegate = d

/-- The penalty that an expectation asks for is canonical. -/
def Canonical (e : Expectation) : Prop := ∀ p, e.penalty = some p → p.Canonical

/-- The fault of a field that does not fit. -/
def fault (e : Expectation) (o : Observed) (f : ResultField) : StepFault :=
  .verification f.name (e.written f) (o.written f)

/-- The fault of a field, if it does not fit. -/
def fault? (e : Expectation) (o : Observed) : ResultField → Option StepFault
  | .time => fieldMismatch? "time" (.ofOption .ofUInt64) (e.time.map some) o.time
  | .penalty => fieldMismatch? "penalty" Penalty.toJson e.penalty o.penalty
  | .delegate => fieldMismatch? "delegate" .bool e.delegate o.delegate

variable {e : Expectation} {o : Observed}

theorem WrittenAs.canonical {d : Value} (h : e.WrittenAs d) : e.Canonical := by
  intro p hp
  obtain ⟨fields, -, -, hpenalty, -⟩ := h
  exact Penalty.canonical_of_optionally (hp ▸ hpenalty)

theorem ordered_written (e : Expectation) (f : ResultField) :
    (e.written f).ordered = e.written f := by
  obtain ⟨time, penalty, delegate⟩ := e
  cases f with
  | time => cases time <;> rfl
  | penalty => cases penalty <;> rfl
  | delegate => cases delegate <;> rfl

theorem mismatch?_eq (e : Expectation) (o : Observed) :
    e.mismatch? o = ResultField.all.findSome? (e.fault? o) := by
  simp only [mismatch?, ResultField.all, List.findSome?_cons, List.findSome?_nil, fault?]
  cases fieldMismatch? "time" (.ofOption .ofUInt64) (e.time.map some) o.time with
  | some f => rfl
  | none =>
    cases fieldMismatch? "penalty" Penalty.toJson e.penalty o.penalty with
    | some f => rfl
    | none => cases fieldMismatch? "delegate" .bool e.delegate o.delegate <;> rfl

/-- A field is at fault if and only if it does not fit. -/
theorem fault?_cases (he : e.Canonical) (ho : o.penalty.Canonical) (f : ResultField) :
    e.Fits o f ∧ e.fault? o f = none ∨ ¬ e.Fits o f ∧ e.fault? o f = some (e.fault o f) := by
  cases f with
  | time =>
    rcases fieldMismatch?_cases "time" (.ofOption .ofUInt64) (e.time.map some) o.time with
      ⟨hfits, hnone⟩ | ⟨_, hasked, hne, hsome⟩
    · exact Or.inl ⟨fun t ht => hfits (some t) (by rw [ht]; rfl), hnone⟩
    · obtain ⟨t, ht, rfl⟩ := Option.map_eq_some_iff.1 hasked
      refine Or.inr ⟨fun hfits => hne (hfits t ht), ?_⟩
      simp only [fault, written, ht]
      exact hsome
  | penalty =>
    rcases fieldMismatch?_cases "penalty" Penalty.toJson e.penalty o.penalty with
      ⟨hfits, hnone⟩ | ⟨p, hp, hne, hsome⟩
    · exact Or.inl ⟨fun p hp => congrArg Penalty.toInt64 (hfits p hp), hnone⟩
    · -- penalties that differ have different integers, as both are canonical
      refine Or.inr ⟨fun hfits => hne ((Penalty.toInt64_inj ho (he p hp)).1 (hfits p hp)), ?_⟩
      simp only [fault, written, hp]
      exact hsome
  | delegate =>
    rcases fieldMismatch?_cases "delegate" .bool e.delegate o.delegate with
      ⟨hfits, hnone⟩ | ⟨d, hd, hne, hsome⟩
    · exact Or.inl ⟨hfits, hnone⟩
    · refine Or.inr ⟨fun hfits => hne (hfits d hd), ?_⟩
      simp only [fault, written, hd]
      exact hsome

/-- **The mismatch of a result is in the first field that does not fit.** -/
theorem mismatch?_eq_some_iff (he : e.Canonical) (ho : o.penalty.Canonical) {fault : StepFault} :
    e.mismatch? o = some fault ↔
      ∃ f, IsFirst ResultField.all (fun f => ¬ e.Fits o f) f ∧ fault = e.fault o f := by
  rw [mismatch?_eq]
  exact findSome?_eq_some_iff_isFirst fun f _ => fault?_cases he ho f

theorem mismatch?_eq_none_iff (he : e.Canonical) (ho : o.penalty.Canonical) :
    e.mismatch? o = none ↔ ∀ f, e.Fits o f := by
  rw [mismatch?_eq, findSome?_eq_none_iff_forall (g := e.fault o) fun f _ => fault?_cases he ho f]
  simp [ResultField.mem_all]

/-- What is the same in writing fits. -/
theorem fits_of_same {f : ResultField} (h : (e.written f).Same (o.written f)) : e.Fits o f := by
  cases f with
  | time =>
    intro t ht
    have htime : e.time = o.time := legible_optionalUInt64 trivial trivial h
    rw [← htime, ht]
  | penalty =>
    intro p hp
    simp only [written, hp] at h
    exact (legible_int64 trivial trivial h).symm
  | delegate =>
    intro d hd
    simp only [written, hd] at h
    exact (legible_bool trivial trivial h).symm

end Expectation

/-! ## Snapshots -/

namespace Snapshot

/-- The field is one of those that are asked for, or all are. -/
def Field.Selected (fields : Option (List String)) (f : Field) : Prop :=
  ∀ l, fields = some l → f.name ∈ l

instance (fields : Option (List String)) (f : Field) : Decidable (f.Selected fields) :=
  decidable_of_iff (fields.all (·.contains f.name) = true)
    (by cases fields <;> simp [Field.Selected])

theorem selected_eq (fields : Option (List String)) :
    selected fields = (Field.all.filter (·.Selected fields)).map Field.name := by
  rw [selected, ← Field.map_name_all, List.filter_map]
  congr 2
  funext f
  cases fields <;> simp [Field.Selected]

/-- The fault of a field in which two snapshots differ. -/
def fault (stored current : Snapshot) (f : Field) : StepFault :=
  .verification f.name (stored.written f).ordered (current.written f).ordered

theorem member?_capture (s : Snapshot) (f : Field) :
    s.capture.member? f.name = some (s.written f).ordered := by
  have hnodup : ((Field.all.map fun f => (f.name, s.written f)).map Prod.fst).Nodup :=
    Field.nodup_fieldNames
  have hlookup := (lookup_eq_some_iff_mem hnodup).2 (List.mem_map_of_mem f.mem_all)
  rw [capture, toJson_eq, Value.lookup_ordered hnodup, hlookup]
  rfl

variable {stored current : Snapshot} (hs : stored.From .canonical) (hc : current.From .canonical)
include hs hc

/-- A field is at fault if and only if the snapshots do not agree in it. -/
theorem fieldMismatch?_cases (f : Field) :
    stored.Agrees current f ∧ stored.fieldMismatch? current f.name = none ∨
      ¬ stored.Agrees current f ∧
        stored.fieldMismatch? current f.name = some (stored.fault current f) := by
  rw [agrees_iff_same hs hc]
  by_cases h : (stored.written f).Same (current.written f)
  · refine Or.inl ⟨h, ?_⟩
    simp only [fieldMismatch?, member?_capture]
    exact if_pos h
  · refine Or.inr ⟨h, ?_⟩
    simp only [fieldMismatch?, member?_capture]
    exact if_neg h

theorem selectedMismatch?_cases (fields : Option (List String)) (f : Field) :
    (f.Selected fields → stored.Agrees current f) ∧
        (if f.Selected fields then stored.fieldMismatch? current f.name else none) = none ∨
      ¬ (f.Selected fields → stored.Agrees current f) ∧
        (if f.Selected fields then stored.fieldMismatch? current f.name else none) =
          some (stored.fault current f) := by
  by_cases hf : f.Selected fields
  · simpa [hf] using fieldMismatch?_cases hs hc f
  · simp [hf]

/-- **The mismatch of a snapshot is in the first selected field in which it differs.** -/
theorem mismatch?_eq_some_iff (fields : Option (List String)) {fault : StepFault} :
    (selected fields).findSome? (stored.fieldMismatch? current) = some fault ↔
      ∃ f, IsFirst Field.all (fun f => f.Selected fields ∧ ¬ stored.Agrees current f) f ∧
        fault = stored.fault current f := by
  rw [selected_eq, List.findSome?_map, findSome?_filter]
  simp only [Function.comp_apply, decide_eq_true_eq]
  rw [findSome?_eq_some_iff_isFirst fun f _ => selectedMismatch?_cases hs hc fields f]
  simp only [Classical.not_imp]

theorem mismatch?_eq_none_iff (fields : Option (List String)) :
    (selected fields).findSome? (stored.fieldMismatch? current) = none ↔
      ∀ f : Field, f.Selected fields → stored.Agrees current f := by
  rw [selected_eq, List.findSome?_map, findSome?_filter]
  simp only [Function.comp_apply, decide_eq_true_eq]
  rw [findSome?_eq_none_iff_forall (g := stored.fault current) fun f _ =>
    selectedMismatch?_cases hs hc fields f]
  simp [Field.mem_all]

end Snapshot

/-! ## What is shown of a mismatch -/

namespace Station

variable {α : Type} {fault? : Option StepFault} {a a' : α} {fault : StepFault}

theorem verdict_eq_ok_iff : verdict fault? a = .ok a' ↔ fault? = none ∧ a = a' := by
  cases fault? <;> simp [verdict]

theorem verdict_eq_error_iff : verdict fault? a = .error fault ↔ fault? = some fault := by
  cases fault? <;> simp [verdict]

theorem isOk_verdict_iff : (verdict fault? a).isOk = true ↔ fault? = none := by
  cases fault? <;> simp [verdict, Except.isOk, Except.toBool]

end Station

/-- A fault that shows what was expected and what is there shows two values in key order, and they
are not the same. -/
def StepFault.Telling (f : StepFault) : Prop :=
  ∀ field expected actual, f = .verification field expected actual →
    expected.ordered = expected ∧ actual.ordered = actual ∧ expected ≠ actual

theorem Expectation.telling_fault {e : Expectation} {o : Observed} {f : ResultField}
    (h : ¬ e.Fits o f) : (e.fault o f).Telling := by
  rintro _ _ _ ⟨rfl⟩
  refine ⟨e.ordered_written f, o.ordered_written f, ?_⟩
  intro heq
  exact h (fits_of_same (congrArg Value.ordered heq))

theorem Expectation.telling_of_mismatch? {e : Expectation} {o : Observed} {fault : StepFault}
    (he : e.Canonical) (ho : o.penalty.Canonical) (h : e.mismatch? o = some fault) :
    fault.Telling := by
  obtain ⟨f, ⟨-, -, -, hf, -⟩, rfl⟩ := (mismatch?_eq_some_iff he ho).1 h
  exact telling_fault hf

theorem Snapshot.telling_fault {stored current : Snapshot} {f : Field}
    (hs : stored.From .canonical) (hc : current.From .canonical) (h : ¬ stored.Agrees current f) :
    (stored.fault current f).Telling := by
  rintro _ _ _ ⟨rfl⟩
  refine ⟨Value.ordered_ordered _, Value.ordered_ordered _, ?_⟩
  intro heq
  exact h ((agrees_iff_same hs hc f).2 heq)

namespace Station

variable {s : Station} {fault : StepFault}

theorem error_of_requireTime (h : s.requireTime = .error fault) :
    fault = .precondition .noSolveTime := by
  unfold requireTime at h
  cases ht : s.solveTime <;> simp [ht] at h
  exact h.symm

theorem error_of_requireCard (h : s.requireCard = .error fault) :
    fault = .precondition .noCardScanned := by
  unfold requireCard at h
  by_cases hc : s.scannedCard.isSome = true <;> simp [hc] at h
  exact h.symm

/-- A press fails for want of a precondition only. -/
theorem error_of_press {action : ButtonAction} (h : s.press action = .error fault) :
    ∃ reason, fault = .precondition reason := by
  cases action with
  | submit =>
    rw [press_submit] at h
    rcases error_of_bind h with h | ⟨_, -, h⟩
    · exact ⟨_, error_of_requireCard h⟩
    · rcases error_of_bind h with h | ⟨_, -, h⟩
      · exact ⟨_, error_of_requireTime h⟩
      · split at h
        · exact ⟨_, (Except.error.inj h).symm⟩
        · cases h
  | penalty | delegate =>
    simp only [press_penalty, press_delegate] at h
    rcases error_of_bind h with h | ⟨_, -, h⟩
    · exact ⟨_, error_of_requireTime h⟩
    · cases h
  | inspection | clear => cases h

variable (hs : s.From .canonical)
include hs

theorem telling_of_verifySolveTime {e : Expectation} (he : e.Canonical)
    (h : s.verifySolveTime e = .error fault) : fault.Telling := by
  have ho : s.observed.penalty.Canonical := hs.penalty
  exact Expectation.telling_of_mismatch? he ho (verdict_eq_error_iff.1 h)

theorem telling_of_verifySend {e : Expectation} (he : e.Canonical)
    (h : s.verifySend e = .error fault) : fault.Telling := by
  unfold verifySend at h
  cases hsent : s.lastSent with
  | none =>
    simp only [hsent, Except.error.injEq] at h
    subst h
    rintro _ _ _ ⟨rfl⟩
    exact ⟨Value.ordered_ordered _, rfl, nofun⟩
  | some m =>
    simp only [hsent] at h
    have ho : m.observed.penalty.Canonical := (hs.lastSent m hsent).penalty
    exact Expectation.telling_of_mismatch? he ho (verdict_eq_error_iff.1 h)

omit hs in
theorem telling_of_verifyDelegateSent (h : s.verifyDelegateSent = .error fault) :
    fault.Telling := by
  unfold verifyDelegateSent at h
  cases hsent : s.lastSent with
  | none =>
    simp only [hsent, Except.error.injEq] at h
    subst h
    rintro _ _ _ ⟨rfl⟩
    exact ⟨rfl, rfl, nofun⟩
  | some m =>
    simp only [hsent] at h
    have hmismatch := verdict_eq_error_iff.1 h
    rcases fieldMismatch?_cases "delegate" .bool (some true) m.delegate with
      ⟨-, hnone⟩ | ⟨_, ⟨rfl⟩, hne, hsome⟩
    · rw [hnone] at hmismatch
      cases hmismatch
    · obtain rfl := Option.some.inj (hsome.symm.trans hmismatch)
      rintro _ _ _ ⟨rfl⟩
      exact ⟨rfl, rfl, fun heq => hne (Value.bool.inj heq).symm⟩

theorem telling_of_verifySnapshot {fields : Option (List String)}
    (h : s.verifySnapshot fields = .error fault) : fault.Telling := by
  unfold verifySnapshot at h
  cases hstored : s.lastSnapshot with
  | none =>
    simp only [hstored, Except.error.injEq] at h
    subst h
    exact nofun
  | some stored =>
    simp only [hstored] at h
    have hmismatch := verdict_eq_error_iff.1 h
    have hcanonical := hs.lastSnapshot stored hstored
    obtain ⟨f, ⟨-, -, -, ⟨-, hf⟩, -⟩, rfl⟩ :=
      (Snapshot.mismatch?_eq_some_iff hcanonical hs.snapshot fields).1 hmismatch
    exact Snapshot.telling_fault hcanonical hs.snapshot hf

end Station

namespace Bench

variable {b : Bench} {rig : Rig} {s : Step} {fault : StepFault}

theorem error_of_scan {id : UInt64} (h : (b.scan rig id).1 = .error fault) :
    fault = .unknownCard id ∨ ∃ card : Card, fault = .invalidCard card.registrantId := by
  cases hcard : rig.inventory.cards.find? id with
  | none =>
    rw [scan_of_missing hcard] at h
    exact Or.inl (Except.error.inj h).symm
  | some card =>
    rw [scan_of_found hcard, Station.scan_eq] at h
    by_cases hok : card.canCompete = true
    · simp [hok] at h
    · simp only [if_neg hok] at h
      exact Or.inr ⟨card, (Except.error.inj h).symm⟩

theorem error_of_bench_press {press : ButtonPress} (h : (b.press rig press).1 = .error fault) :
    fault = .unknownButton press.name ∨ ∃ reason, fault = .precondition reason := by
  cases ha : (Step.button press).action? rig with
  | none =>
    rw [press_of_unbound ha] at h
    exact Or.inl (Except.error.inj h).symm
  | some action =>
    rw [press_of_bound ha] at h
    cases hp : b.station.press action with
    | ok response => simp [hp] at h
    | error fault' =>
      simp only [hp] at h
      obtain rfl := Except.error.inj h
      exact Or.inr (Station.error_of_press hp)

theorem error_of_resolve {r : Resolution} (h : (b.resolve r).1 = .error fault) :
    fault = .precondition .noCardScanned := by
  rw [resolve_eq, Station.resolve_eq] at h
  by_cases hno : r.shouldScanCards = true ∧ b.station.scannedCard = none
  · simp only [if_pos hno] at h
    exact (Except.error.inj h).symm
  · simp [if_neg hno] at h

/-- A step that does not verify shows nothing when it fails. -/
theorem telling_of_not_verifies (hs : s.verifies = false)
    (h : (b.execute rig s).1 = .error fault) : fault.Telling := by
  cases s with
  | sleep | snapshot | resetState | solveTimeRng => cases h
  | solveTime ms => cases ms <;> cases h
  | scanCard id => rcases error_of_scan h with rfl | ⟨_, rfl⟩ <;> exact nofun
  | button press => rcases error_of_bench_press h with rfl | ⟨_, rfl⟩ <;> exact nofun
  | delegateResolve r =>
    obtain rfl := error_of_resolve h
    exact nofun
  | unsupported type =>
    obtain rfl := Except.error.inj h
    exact nofun
  | verifySolveTime | verifySend | verifyDelegateSent | verifySnapshot => cases hs

/-- **A step that fails shows only what differs.** -/
theorem telling_of_execute (hb : b.station.From .canonical) (hs : s.Denoted)
    (h : (b.execute rig s).1 = .error fault) : fault.Telling := by
  obtain ⟨_, _, hdenotes⟩ := hs
  cases hv : s.verifies with
  | false => exact telling_of_not_verifies hv h
  | true =>
    cases hdenotes with
    | verifySolveTime he =>
      exact Station.telling_of_verifySolveTime hb he.canonical (map_eq_error_iff.1 h)
    | verifySend he =>
      exact Station.telling_of_verifySend hb he.canonical (map_eq_error_iff.1 h)
    | verifyDelegateSent => exact Station.telling_of_verifyDelegateSent (map_eq_error_iff.1 h)
    | verifySnapshot => exact Station.telling_of_verifySnapshot hb (map_eq_error_iff.1 h)
    | _ => cases hv

end Bench

/-! ## Suites that were loaded -/

namespace Suite

variable {text : String} {suite : Suite} (hload : ofText text = .ok suite) {test : Test}
  (htest : test ∈ suite.tests)
include hload htest

/-- Every step of a loaded suite is executed at a station whose penalties are canonical. -/
theorem canonical_before {rig : Rig} {flow : Flow} {seed : UInt64} {t : Turn rig}
    (h : t ∈ Trace.turns rig flow 0 test.steps (.start rig seed)) :
    t.before.station.From .canonical := by
  obtain ⟨past, hpast⟩ := Trace.exists_prefix_of_mem h
  rw [Trace.station_before hpast]
  exact (canonical_benchAfter hload htest ((List.prefix_append past [t]).trans hpast)).station

/-- What a test of a loaded suite shows of its failures is telling. -/
theorem telling_of_mem_failures {settings : Settings} {seed : UInt64} {f : Failure}
    (h : f ∈ (suite.perform settings test seed).report.failures) : f.fault.Telling := by
  change f ∈ (Test.run test _ _ seed).failures at h
  rw [Test.run, Trace.run_eq_turns, Trace.failures] at h
  obtain ⟨e, he, hf⟩ := List.mem_filterMap.1 h
  obtain ⟨t, ht, rfl⟩ := List.mem_map.1 he
  obtain ⟨fault, hfault, rfl⟩ := Option.map_eq_some_iff.1 hf
  exact Bench.telling_of_execute (canonical_before hload htest ht)
    (denoted_of_ofText hload htest _ (Trace.step_mem_of_mem_turns ht))
    (Entry.fault?_eq_some_iff.1 hfault)

omit htest in
/-- **What the report of a run shows of failures is telling.** -/
theorem telling_of_reported {settings : Settings} {readings : Nat → Reading} {r : TestReport}
    (hr : r ∈ (suite.run settings readings).report.tests) {f : Failure} (h : f ∈ r.failures) :
    f.fault.Telling := by
  obtain ⟨test, htest, rfl | ⟨seed, rfl⟩⟩ := suite.report_cases settings readings hr
  · cases h
  · exact telling_of_mem_failures hload htest h

end Suite

end StationBench
