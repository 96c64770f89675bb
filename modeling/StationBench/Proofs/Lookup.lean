import Mathlib.Data.List.Nodup
/-!
# Lookups in lists of entries

What stands under a key: the first entry that has it, be the list filtered by key, made of keys and
values that go side by side, or without a repeated key.
-/
namespace StationBench

variable {κ ν μ : Type} [BEq κ] [LawfulBEq κ] {k : κ}

theorem mem_of_lookup {l : List (κ × ν)} {v : ν} (h : l.lookup k = some v) : (k, v) ∈ l := by
  obtain ⟨before, after, rfl, -⟩ := List.lookup_eq_some_iff.1 h
  simp

theorem lookup_eq_some_iff_mem {l : List (κ × ν)} {v : ν} (h : (l.map Prod.fst).Nodup) :
    l.lookup k = some v ↔ (k, v) ∈ l := by
  refine ⟨mem_of_lookup, ?_⟩
  intro hmem
  obtain ⟨before, after, rfl⟩ := List.append_of_mem hmem
  refine List.lookup_eq_some_iff.2 ⟨before, after, rfl, ?_⟩
  intro e he
  rw [bne_iff_ne]
  rintro rfl
  rw [List.map_append, List.nodup_append] at h
  exact h.2.2 _ (List.mem_map_of_mem he) _ (by simp) rfl

theorem lookup_eq_none_iff_not_mem {l : List (κ × ν)} : l.lookup k = none ↔ k ∉ l.map Prod.fst := by
  rw [List.lookup_eq_none_iff, List.mem_map]
  constructor
  · rintro h ⟨e, he, rfl⟩
    simpa using h e he
  · intro h e he
    simpa using fun heq : k = e.1 => h ⟨e, he, heq.symm⟩

theorem lookup_cons_of_ne {l : List (κ × ν)} {k' : κ} {v : ν} (h : k ≠ k') :
    ((k', v) :: l).lookup k = l.lookup k := by
  have hne : (k == k') = false := by simpa using h
  simp only [List.lookup_cons, hne]

/-- All keys are among some if there is nothing under the others. -/
theorem forall_key_mem_iff {keys : List κ} {l : List (κ × ν)} :
    (∀ e ∈ l, e.1 ∈ keys) ↔ ∀ k ∉ keys, l.lookup k = none := by
  simp only [lookup_eq_none_iff_not_mem]
  constructor
  · intro h k hk hmem
    obtain ⟨e, he, rfl⟩ := List.mem_map.1 hmem
    exact hk (h e he)
  · intro h e he
    by_contra hk
    exact h e.1 hk (List.mem_map_of_mem he)

/-- Entries under other keys do not count. -/
theorem lookup_filter {p : κ → Bool} (h : p k = true) (l : List (κ × ν)) :
    (l.filter (p ·.1)).lookup k = l.lookup k := by
  induction l with
  | nil => rfl
  | cons e rest ih =>
    obtain ⟨k', v⟩ := e
    by_cases hk : k = k'
    · subst hk
      simp [h]
    · rw [List.filter_cons, lookup_cons_of_ne hk]
      split
      · rw [lookup_cons_of_ne hk, ih]
      · exact ih

theorem lookup_zip_append {l l' : List κ} (items : List ν) :
    ((l ++ l').zip items).lookup k =
      ((l.zip items).lookup k).or ((l'.zip (items.drop l.length)).lookup k) := by
  induction l generalizing items with
  | nil => rfl
  | cons k' rest ih =>
    cases items with
    | nil => simp
    | cons v later =>
      by_cases hk : k = k'
      · simp [hk]
      · simp only [List.cons_append, List.zip_cons_cons, lookup_cons_of_ne hk, ih,
          List.length_cons, List.drop_succ_cons]

theorem lookup_zip_eq_none {l : List κ} (h : k ∉ l) (items : List ν) :
    (l.zip items).lookup k = none := by
  rw [lookup_eq_none_iff_not_mem, List.mem_map]
  rintro ⟨e, he, rfl⟩
  exact h (List.of_mem_zip he).1

theorem lookup_zip_map {f : ν → μ} {l : List κ} {items : List ν} :
    (l.zip (items.map f)).lookup k = ((l.zip items).lookup k).map f := by
  rw [List.zip_map_right]
  induction l.zip items with
  | nil => rfl
  | cons e rest ih =>
    obtain ⟨k', v⟩ := e
    by_cases hk : k = k'
    · simp [hk]
    · rw [lookup_cons_of_ne hk, ← ih]
      exact lookup_cons_of_ne hk

end StationBench
