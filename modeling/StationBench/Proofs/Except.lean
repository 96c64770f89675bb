import Mathlib.Data.List.Forall2
/-!
# Computations that may fail

What is behind the success of a computation that is put together from others, and behind the failure
of one that goes through a list: it fails as it does for the first element that it fails for
(`failureOf?_mapM`).
-/
namespace StationBench

variable {ε α β : Type}

/-- A computation that succeeds has succeeded at its first part. -/
theorem ok_of_bind {x : Except ε α} {f : α → Except ε β} {b : β} (h : x >>= f = .ok b) :
    ∃ a, x = .ok a ∧ f a = .ok b := by
  cases x with
  | error e => cases h
  | ok a => exact ⟨a, rfl, h⟩

/-- A computation that fails has failed at its first part or after it. -/
theorem error_of_bind {x : Except ε α} {f : α → Except ε β} {e : ε} (h : x >>= f = .error e) :
    x = .error e ∨ ∃ a, x = .ok a ∧ f a = .error e := by
  cases x with
  | error e' => exact Or.inl (congrArg Except.error (Except.error.inj h))
  | ok a => exact Or.inr ⟨a, rfl, h⟩

theorem map_eq_error_iff {f : α → β} {x : Except ε α} {e : ε} :
    f <$> x = .error e ↔ x = .error e := by
  cases x with
  | error e' => exact ⟨fun h => congrArg Except.error (Except.error.inj h),
      fun h => congrArg Except.error (Except.error.inj h)⟩
  | ok a => exact ⟨nofun, nofun⟩

theorem isOk_map {f : α → β} {x : Except ε α} : (f <$> x).isOk = x.isOk := by
  cases x <;> rfl

theorem ok_of_map {f : α → β} {x : Except ε α} {b : β} (h : f <$> x = .ok b) :
    ∃ a, x = .ok a ∧ f a = b := by
  cases x with
  | error e => cases h
  | ok a => exact ⟨a, rfl, Except.ok.inj h⟩

theorem ok_of_mapError {ε' : Type} {f : ε → ε'} {x : Except ε α} {a : α}
    (h : x.mapError f = .ok a) : x = .ok a := by
  cases x with
  | error e => cases h
  | ok a' => exact congrArg Except.ok (Except.ok.inj h)

theorem eq_ok_of_toOption {x : Except ε α} {a : α} (h : x.toOption = some a) : x = .ok a := by
  cases x with
  | error e => cases h
  | ok a' => exact congrArg Except.ok (Option.some.inj h)

theorem toOption_eq_some_iff {x : Except ε α} {a : α} : x.toOption = some a ↔ x = .ok a := by
  constructor
  · exact eq_ok_of_toOption
  · rintro rfl
    rfl

theorem toOption_bind {x : Except ε α} {f : α → Except ε β} :
    (x >>= f).toOption = x.toOption.bind fun a => (f a).toOption := by
  cases x <;> rfl

theorem toOption_map {x : Except ε α} {f : α → β} :
    (f <$> x).toOption = x.toOption.map f := by
  cases x <;> rfl

theorem mapM_eq_ok_iff {f : α → Except ε β} {l : List α} {l' : List β} :
    l.mapM f = .ok l' ↔ List.Forall₂ (fun a b => f a = .ok b) l l' := by
  induction l generalizing l' with
  | nil =>
    rw [List.mapM_nil, List.forall₂_nil_left_iff]
    constructor
    · intro h
      exact (Except.ok.inj h).symm
    · rintro rfl
      rfl
  | cons a rest ih =>
    rw [List.mapM_cons, List.forall₂_cons_left_iff]
    constructor
    · intro h
      obtain ⟨b, hb, h⟩ := ok_of_bind h
      obtain ⟨rest', hrest, h⟩ := ok_of_bind h
      exact ⟨b, rest', hb, ih.1 hrest, (Except.ok.inj h).symm⟩
    · rintro ⟨b, rest', hb, hrest, rfl⟩
      rw [hb, ih.2 hrest]
      rfl

/-- Why a computation fails, if it does. -/
def failureOf? : Except ε α → Option ε
  | .ok _ => none
  | .error e => some e

theorem failureOf?_eq_some_iff {x : Except ε α} {e : ε} : failureOf? x = some e ↔ x = .error e := by
  cases x <;> simp [failureOf?]

theorem failureOf?_eq_none_iff {x : Except ε α} : failureOf? x = none ↔ ∃ a, x = .ok a := by
  cases x <;> simp [failureOf?]

/-- What comes after a part that cannot fail does not change why a computation fails. -/
theorem failureOf?_map {f : α → β} {x : Except ε α} : failureOf? (f <$> x) = failureOf? x := by
  cases x <;> rfl

theorem failureOf?_mapM {f : α → Except ε β} {l : List α} :
    failureOf? (l.mapM f) = l.findSome? fun a => failureOf? (f a) := by
  induction l with
  | nil => rfl
  | cons a rest ih =>
    rw [List.mapM_cons, List.findSome?_cons, ← ih]
    cases f a with
    | error e => rfl
    | ok b =>
      cases rest.mapM f <;> rfl

end StationBench
