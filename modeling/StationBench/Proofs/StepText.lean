import StationBench.Proofs.CompactText
import StationBench.Proofs.Written
/-!
# Steps as texts

A step is written as an object of its type and its data, absent parts as null. A step that was read
is regular (`Step.Regular`): its penalty is canonical, and its type is not known only if nobody
knows it. The type and the data of a regular step denote the step (`Step.Regular.denotes`), so the
reader takes what was written for the step that was written
(`Step.written_steps_are_read_back`).
-/
namespace StationBench
open Json

/-! ## Data that are read back -/

theorem Json.Value.isInt64_ofInt64 (i : Int64) : (Value.ofInt64 i).IsInt64 i :=
  readInt64_eq_ok_iff.1 (Number.toInt64_ofInt64 i)

/-- What is optional is written as null or as what it is. -/
theorem Json.Value.optionally_ofOption {α : Type} {P : Value → α → Prop} {write : α → Value}
    {o : Option α} (h : ∀ a, o = some a → P (write a) a) :
    Optionally P (some (ofOption write o)) o := by
  cases o with
  | none => exact .null
  | some a => exact .present (h a rfl)

theorem Penalty.Canonical.writtenAs {p : Penalty} (h : p.Canonical) : p.WrittenAs p.toJson :=
  ⟨p.toInt64, Value.isInt64_ofInt64 _, (Penalty.ofInt64_toInt64 h).symm⟩

namespace Step

/-- The penalty that a step sets or asks for. -/
def penalty? : Step → Option Penalty
  | .delegateResolve r => r.penalty
  | .verifySolveTime e | .verifySend e => e.penalty
  | _ => none

/-- A step in the form in which it is read. -/
structure Regular (s : Step) : Prop where
  penalty : ∀ p, s.penalty? = some p → p.Canonical
  /-- A step is unsupported only under a type that nobody knows. -/
  type : ∀ t, s = .unsupported t → t ∉ types

variable {s s' : Step}

theorem Denotes.regular {t : String} {d : Value} (h : Denotes t d s) : s.Regular := by
  refine ⟨?_, ?_⟩
  · intro p hp
    cases h with
    | delegateResolve h =>
      obtain ⟨fields, -, -, hpenalty, -⟩ := h
      simp only [penalty?] at hp
      exact Penalty.canonical_of_optionally (hp ▸ hpenalty)
    | verifySolveTime h | verifySend h =>
      obtain ⟨fields, -, -, hpenalty, -⟩ := h
      simp only [penalty?] at hp
      exact Penalty.canonical_of_optionally (hp ▸ hpenalty)
    | _ => cases hp
  · rintro t' rfl
    cases h with
    | unsupported h => exact h

theorem writtenAs_press (press : ButtonPress) : press.WrittenAs press.toJson :=
  ⟨_, .object (by simp), rfl, Or.inl rfl⟩

theorem writtenAs_resolution {r : Resolution} (h : ∀ p, r.penalty = some p → p.Canonical) :
    r.WrittenAs r.toJson :=
  ⟨_, .object (by simp), rfl, Value.optionally_ofOption fun p hp => (h p hp).writtenAs,
    Value.optionally_ofOption fun _ _ => rfl⟩

theorem writtenAs_expectation {e : Expectation} (h : ∀ p, e.penalty = some p → p.Canonical) :
    e.WrittenAs e.toJson :=
  ⟨_, .object (by simp), Value.optionally_ofOption fun _ _ => rfl,
    Value.optionally_ofOption fun p hp => (h p hp).writtenAs,
    Value.optionally_ofOption fun _ _ => rfl⟩

/-- **What a regular step is written as denotes it.** -/
theorem Regular.denotes (h : s.Regular) : Denotes s.type s.data s := by
  cases s with
  | sleep n => exact .sleep n
  | scanCard n => exact .scanCard n
  | snapshot => exact .snapshot
  | resetState => exact .resetState
  | solveTime ms => exact .solveTime (Value.optionally_ofOption fun _ _ => rfl)
  | solveTimeRng => exact .solveTimeRng
  | button press => exact .button (writtenAs_press press)
  | delegateResolve r => exact .delegateResolve (writtenAs_resolution h.penalty)
  | verifySolveTime e => exact .verifySolveTime (writtenAs_expectation h.penalty)
  | verifySend e => exact .verifySend (writtenAs_expectation h.penalty)
  | verifyDelegateSent => exact .verifyDelegateSent
  | verifySnapshot fields => exact .verifySnapshot (Value.optionally_ofOption fun _ _ => rfl)
  | unsupported t => exact .unsupported (h.type t rfl)

theorem distinct_data (s : Step) : s.data.Distinct := by
  intro members h
  cases s with
  | button press | delegateResolve r | verifySolveTime e | verifySend e =>
    obtain rfl := Value.object.inj h
    simp
  | solveTime o | verifySnapshot o => cases o <;> cases h
  | _ => cases h

/-! ## Texts of steps -/

/-- A step is read from the type and the data that it is written with, wherever an object of them
stands in a document. -/
theorem Regular.read_written (h : s.Regular) {o : Outline} {members : List (String × Value)}
    (ho : o.written = .ok (.object members)) (hmembers : Members s.type s.data members) :
    read o = .ok s := by
  rw [read_eq_ofData ho hmembers, ofData_ordered_iff s.distinct_data,
    ofData_eq_ok_iff s.distinct_data]
  exact h.denotes

theorem fits_toJson (s : Step) : s.toJson.Fits deepestLevel := by
  refine ⟨by decide, trivial, ?_, trivial⟩
  have huint64 {room : Nat} (o : Option UInt64) : (Value.ofOption .ofUInt64 o).Fits room :=
    Value.fits_ofOption .ofUInt64 (fun _ => trivial) o
  have hpenalty {room : Nat} (o : Option Penalty) : (Value.ofOption Penalty.toJson o).Fits room :=
    Value.fits_ofOption Penalty.toJson (fun _ => Number.whole_ofInt64 _) o
  have hbool {room : Nat} (o : Option Bool) : (Value.ofOption .bool o).Fits room :=
    Value.fits_ofOption .bool (fun _ => trivial) o
  cases s with
  | solveTime ms => exact huint64 ms
  | button press => exact ⟨by decide, trivial, trivial, trivial⟩
  | delegateResolve r => exact ⟨by decide, trivial, hpenalty _, huint64 _, trivial⟩
  | verifySolveTime e | verifySend e =>
    exact ⟨by decide, huint64 _, hpenalty _, hbool _, trivial⟩
  | verifySnapshot fields =>
    exact Value.fits_ofOption (.ofList .string)
      (Value.fits_ofList .string (by decide) fun _ => trivial) fields
  | _ => trivial

theorem Regular.ofText_compact (h : s.Regular) : ofText s.toJson.compact = .ok s := by
  obtain ⟨hroot, hmore⟩ := read_eq_ok_iff.1 (Value.read_compact s.fits_toJson)
  exact read_eq_ok_iff.2 ⟨h.read_written hroot .typeFirst, hmore⟩

/-- A step that is read somewhere in a document. -/
def Accepted (s : Step) : Prop := ∃ o, read o = .ok s

/-- The steps that are read are the regular ones. -/
theorem accepted_iff : s.Accepted ↔ s.Regular := by
  constructor
  · rintro ⟨o, ho⟩
    obtain ⟨t, d, h⟩ := yields_read o s ho
    exact h.regular
  · intro h
    exact ⟨_, (read_eq_ok_iff.1 h.ofText_compact).1⟩

/-- **Reading undoes writing.** A step that was read is read again from its type and data: in
memory, in an object of them anywhere in a document, and from their compact text. So the type and
the data tell it from all other steps that were read. These are all steps with a penalty that some
integer stands for and, among the unsupported ones, those under a type that nobody knows; the data
of an unsupported step are not kept, whatever they are. -/
theorem written_steps_are_read_back :
    (∀ s : Step, s.Accepted →
      ofData s.type s.data = .ok s ∧
      (∀ o members, Outline.written o = .ok (.object members) → Members s.type s.data members →
        read o = .ok s) ∧
      ofText s.toJson.compact = .ok s) ∧
    (∀ s s' : Step, s.Accepted → s'.Accepted → s.type = s'.type → s.data = s'.data → s = s') ∧
    (∀ s : Step, s.Accepted ↔ (∀ p, s.penalty? = some p → ∃ i, p = .ofInt64 i) ∧
      ∀ t, s = .unsupported t → t ∉ types) ∧
    ∀ t ∉ types, (unsupported t).data = .null ∧ ∀ d,
      ofData t d = .ok (.unsupported t) ∧
      ∀ o members, Outline.written o = .ok (.object members) → Members t d members →
        read o = .ok (.unsupported t) := by
  refine ⟨?_, ?_, ?_, ?_⟩
  · intro s hs
    rw [accepted_iff] at hs
    exact ⟨(ofData_eq_ok_iff s.distinct_data).2 hs.denotes,
      fun _ _ ho hmembers => hs.read_written ho hmembers, hs.ofText_compact⟩
  · intro s s' hs hs' htype hdata
    rw [accepted_iff] at hs hs'
    have hread := (ofData_eq_ok_iff s.distinct_data).2 hs.denotes
    rw [htype, hdata, (ofData_eq_ok_iff s'.distinct_data).2 hs'.denotes] at hread
    exact (Except.ok.inj hread).symm
  · intro s
    rw [accepted_iff]
    constructor
    · intro hs
      exact ⟨fun p hp => ⟨p.toInt64, (Penalty.ofInt64_toInt64 (hs.penalty p hp)).symm⟩, hs.type⟩
    · rintro ⟨hpenalty, htype⟩
      refine ⟨fun p hp => ?_, htype⟩
      obtain ⟨i, rfl⟩ := hpenalty p hp
      exact Penalty.canonical_ofInt64 i
  · intro t ht
    refine ⟨rfl, fun d => ⟨ofData_of_not_mem_types ht d, ?_⟩⟩
    intro o members ho hmembers
    rw [read_eq_ofData ho hmembers, ofData_of_not_mem_types ht]

/-- A decision that was read from an array, and a step of a type that nobody knows. -/
theorem written_steps_are_read_back_decision :
    let decision : Step := .delegateResolve ⟨true, some .dns, none⟩
    let jump : Step := .unsupported "Jump"
    ofText "[\"DelegateResolve\", [true, -2]]" = .ok decision ∧ decision.Accepted ∧
      ofText decision.toJson.compact = .ok decision ∧
      ofText "\x7b\"type\": \"Jump\", \"data\": [3]\x7d" = .ok jump ∧ jump.Accepted ∧
      ofText jump.toJson.compact = .ok jump ∧ ofData "Jump" .null = .ok jump := by
  intro decision jump
  obtain ⟨hback, -, -, hunsupported⟩ := written_steps_are_read_back
  have hdecision : ofText "[\"DelegateResolve\", [true, -2]]" = .ok decision :=
    eq_ok_of_toOption (by decide +kernel)
  have hjump : ofText "\x7b\"type\": \"Jump\", \"data\": [3]\x7d" = .ok jump :=
    eq_ok_of_toOption (by decide +kernel)
  have haccepted : decision.Accepted := ⟨_, (read_eq_ok_iff.1 hdecision).1⟩
  have haccepted' : jump.Accepted := ⟨_, (read_eq_ok_iff.1 hjump).1⟩
  exact ⟨hdecision, haccepted, (hback decision haccepted).2.2, hjump, haccepted',
    (hback jump haccepted').2.2, ((hunsupported "Jump" (by decide)).2 .null).1⟩

end Step

end StationBench
