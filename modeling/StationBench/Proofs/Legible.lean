import StationBench.Proofs.Record
/-!
# Values that tell what they were written from

Two values are the same if they differ in nothing but the order of their members
(`Json.Value.Same`). A way to write things is legible if it writes no two of them the same
(`Json.Legible`). Scalars are written so; what is optional is if null is kept for what is absent,
lists are if their elements are, and a record is read off the values under its keys
(`Json.Value.Same.of_fields`).
-/
namespace StationBench.Json

variable {α : Type} {P Q : α → Prop} {write : α → Value}

/-- The same value, in whatever order the members of its objects stand. -/
def Value.Same (v w : Value) : Prop := v.ordered = w.ordered

instance (v w : Value) : Decidable (v.Same w) := inferInstanceAs (Decidable (_ = _))

/-- No two of the things with a property are written the same. -/
def Legible (P : α → Prop) (write : α → Value) : Prop :=
  ∀ ⦃a b : α⦄, P a → P b → (write a).Same (write b) → a = b

theorem Legible.mono (h : Legible P write) (hle : ∀ a, Q a → P a) : Legible Q write :=
  fun _ _ ha hb => h (hle _ ha) (hle _ hb)

/-! ## Scalars -/

theorem legible_bool : Legible (fun _ => True) Value.bool :=
  fun _ _ _ _ h => Value.bool.inj h

theorem legible_string : Legible (fun _ => True) Value.string :=
  fun _ _ _ _ h => Value.string.inj h

theorem legible_uint64 : Legible (fun _ => True) Value.ofUInt64 :=
  fun _ _ _ _ h => Number.natural.inj (Value.number.inj h)

theorem Number.ofInt64_injective : Function.Injective Number.ofInt64 := by
  intro i j h
  unfold Number.ofInt64 at h
  split at h <;> split at h
  · exact Number.negative.inj h
  · cases h
  · cases h
  · exact congrArg UInt64.toInt64 (Number.natural.inj h)

theorem legible_int64 : Legible (fun _ => True) Value.ofInt64 :=
  fun _ _ _ _ h => Number.ofInt64_injective (Value.number.inj h)

/-! ## Options and lists -/

/-- Nothing but null is the same as null. -/
theorem Value.same_null_iff {v : Value} : v.Same .null ↔ v = .null := by
  constructor
  · intro h
    cases v with
    | null => rfl
    | _ => cases h
  · rintro rfl
    rfl

theorem Value.null_same_iff {v : Value} : Value.null.Same v ↔ v = .null :=
  eq_comm.trans Value.same_null_iff

theorem Legible.ofOption (h : Legible P write) (hnull : ∀ a, write a ≠ .null) :
    Legible (fun o => ∀ a, o = some a → P a) (Value.ofOption write) := by
  intro o o' ho ho' hsame
  cases o with
  | none =>
    cases o' with
    | none => rfl
    | some b => exact absurd (Value.null_same_iff.1 hsame) (hnull b)
  | some a =>
    cases o' with
    | none => exact absurd (Value.same_null_iff.1 hsame) (hnull a)
    | some b => exact congrArg some (h (ho a rfl) (ho' b rfl) hsame)

/-- What is written of present things tells whether they are there. -/
theorem Legible.present (h : Legible P write) {o o' : Option α}
    (ho : ∀ a, o = some a → P a) (ho' : ∀ a, o' = some a → P a)
    (hsame : (o.map write).map Value.ordered = (o'.map write).map Value.ordered) : o = o' := by
  cases o with
  | none =>
    cases o' with
    | none => rfl
    | some b => cases hsame
  | some a =>
    cases o' with
    | none => cases hsame
    | some b => exact congrArg some (h (ho a rfl) (ho' b rfl) (Option.some.inj hsame))

/-- The same lists of written things are written element by element the same. -/
theorem Value.Same.of_list {l l' : List α} (h : (Value.ofList write l).Same (.ofList write l')) :
    List.Forall₂ (fun a b => (write a).Same (write b)) l l' := by
  have hitems : (l.map write).map Value.ordered = (l'.map write).map Value.ordered := by
    rw [← Value.orderedItems_eq_map, ← Value.orderedItems_eq_map]
    exact Value.array.inj h
  rwa [List.map_map, List.map_map, ← List.forall₂_eq_eq_eq, List.forall₂_map_left_iff,
    List.forall₂_map_right_iff] at hitems

theorem Legible.ofList (h : Legible P write) :
    Legible (fun l => ∀ a ∈ l, P a) (Value.ofList write) := by
  intro l l' hl hl' hsame
  have hwritten := hsame.of_list
  clear hsame
  induction hwritten with
  | nil => rfl
  | cons hhead _ ih =>
    obtain ⟨ha, hl⟩ := List.forall_mem_cons.1 hl
    obtain ⟨hb, hl'⟩ := List.forall_mem_cons.1 hl'
    rw [h ha hb hhead, ih hl hl']

/-! ## Values in key order -/

/-- An entry whose key is greater than all others comes last. -/
theorem Table.insertEntry_of_lt {κ ν : Type} [LT κ] [DecidableLT κ] [DecidableEq κ]
    [Std.Asymm (α := κ) (· < ·)] {k : κ} {v : ν} {l : List (κ × ν)} (h : ∀ e ∈ l, e.1 < k) :
    Table.insertEntry k v l = l ++ [(k, v)] := by
  induction l with
  | nil => rfl
  | cons e rest ih =>
    obtain ⟨hlt, hrest⟩ := List.forall_mem_cons.1 h
    have hne : k ≠ e.1 := by
      rintro rfl
      exact Std.lt_irrefl hlt
    rw [Table.insertEntry, if_neg hne, if_neg (Std.Asymm.asymm _ _ hlt), ih hrest, List.cons_append]

namespace Value

variable {members members' : List (String × Value)}

/-- Members that are in key order stay as they are. -/
theorem entries_orderedMembers {t : Table String Value}
    (h : (t.entries ++ members).Pairwise fun e e' => e.1 < e'.1)
    (hvalues : ∀ m ∈ members, m.2.ordered = m.2) :
    (orderedMembers members t).entries = t.entries ++ members := by
  induction members generalizing t with
  | nil => simp [orderedMembers]
  | cons m rest ih =>
    obtain ⟨key, v⟩ := m
    obtain ⟨hv, hrest⟩ := List.forall_mem_cons.1 hvalues
    have hlast : ∀ e ∈ t.entries, e.1 < key :=
      fun e he => (List.pairwise_append.1 h).2.2 e he _ List.mem_cons_self
    have hinsert : (t.insert key v.ordered).entries = t.entries ++ [(key, v)] := by
      rw [hv]
      exact Table.insertEntry_of_lt hlast
    rw [orderedMembers, ih (by rw [hinsert]; simpa using h) hrest, hinsert, List.append_assoc]
    rfl

theorem forall_mem_orderedMembers {P : Value → Prop} {t : Table String Value}
    (h : ∀ m ∈ members, P m.2.ordered) (ht : ∀ e ∈ t.entries, P e.2) :
    ∀ e ∈ (orderedMembers members t).entries, P e.2 := by
  induction members generalizing t with
  | nil => exact ht
  | cons m rest ih =>
    obtain ⟨key, v⟩ := m
    obtain ⟨hv, hrest⟩ := List.forall_mem_cons.1 h
    refine ih hrest fun e he => ?_
    rcases Table.mem_insertEntry he with rfl | he
    · exact hv
    · exact ht e he

mutual

/-- Bringing a value into key order twice is bringing it into key order. -/
@[simp] theorem ordered_ordered : ∀ v : Value, v.ordered.ordered = v.ordered
  | .null | .bool _ | .number _ | .string _ => rfl
  | .array items => congrArg array (orderedItems_orderedItems items)
  | .object members => by
    -- what was brought into key order is strictly ascending, so nothing is moved or replaced again
    have hvalues : ∀ e ∈ (orderedMembers members {}).entries, e.2.ordered = e.2 :=
      forall_mem_orderedMembers (P := fun v => v.ordered = v) (ordered_ordered_members members)
        fun e he => absurd he List.not_mem_nil
    exact congrArg object
      (entries_orderedMembers (ascending_orderedMembers members List.Pairwise.nil) hvalues)

theorem orderedItems_orderedItems : ∀ items : List Value,
    orderedItems (orderedItems items) = orderedItems items
  | [] => rfl
  | v :: rest => by
    rw [orderedItems, orderedItems, ordered_ordered v, orderedItems_orderedItems rest]

theorem ordered_ordered_members : ∀ members : List (String × Value),
    ∀ m ∈ members, m.2.ordered.ordered = m.2.ordered
  | [] => fun _ h => absurd h List.not_mem_nil
  | (_, v) :: rest => List.forall_mem_cons.2 ⟨ordered_ordered v, ordered_ordered_members rest⟩

end

/-- Members with the same keys and the same values are the same, if the values are in key order. -/
theorem Same.eq_of_ordered (hkeys : members.map Prod.fst = members'.map Prod.fst)
    (hvalues : List.Forall₂ Same (members.map Prod.snd) (members'.map Prod.snd))
    (h : ∀ m ∈ members, m.2.ordered = m.2) (h' : ∀ m ∈ members', m.2.ordered = m.2) :
    members = members' := by
  rw [List.forall₂_map_left_iff, List.forall₂_map_right_iff] at hvalues
  induction hvalues with
  | nil => rfl
  | cons hhead _ ih =>
    obtain ⟨hkey, hkeys⟩ := List.cons.inj hkeys
    obtain ⟨hm, h⟩ := List.forall_mem_cons.1 h
    obtain ⟨hm', h'⟩ := List.forall_mem_cons.1 h'
    rw [ih hkeys h h', Prod.ext hkey (hm.symm.trans (hhead.trans hm'))]

/-! ## Records -/

/-- The value of an object under a key, with its own members in key order. -/
theorem lookup_ordered (h : (members.map Prod.fst).Nodup) (key : String) :
    (object members).ordered.member? key = (members.lookup key).map ordered :=
  (find?_orderedMembers h {} key).trans Option.or_none

/-- The same objects have the same value under every key. -/
theorem Same.lookup (h : (object members).Same (object members'))
    (hnodup : (members.map Prod.fst).Nodup) (hnodup' : (members'.map Prod.fst).Nodup)
    (key : String) : (members.lookup key).map ordered = (members'.lookup key).map ordered := by
  rw [← lookup_ordered hnodup, ← lookup_ordered hnodup']
  exact congrArg (member? key) h

/-- The same objects with the same keys in the same order have the same values in that order. -/
theorem Same.of_fields (h : (object members).Same (object members'))
    (hnodup : (members.map Prod.fst).Nodup) (hkeys : members.map Prod.fst = members'.map Prod.fst) :
    List.Forall₂ Same (members.map Prod.snd) (members'.map Prod.snd) := by
  have hlookup := h.lookup hnodup (hkeys ▸ hnodup)
  clear h
  induction members generalizing members' with
  | nil =>
    cases members' with
    | nil => exact .nil
    | cons m rest => cases hkeys
  | cons m rest ih =>
    cases members' with
    | nil => cases hkeys
    | cons m' rest' =>
      obtain ⟨key, v⟩ := m
      obtain ⟨key', v'⟩ := m'
      obtain ⟨rfl, hrest⟩ := List.cons.inj hkeys
      obtain ⟨hfirst, hnodup'⟩ := List.nodup_cons.1 hnodup
      refine .cons ?_ (ih hnodup' hrest fun k => ?_)
      · have hhead : some v.ordered = some v'.ordered := by simpa using hlookup key
        exact Option.some.inj hhead
      · -- under the first key nothing is left, under any other the first member does not count
        by_cases hk : k = key
        · rw [hk, lookup_eq_none_iff_not_mem.2 hfirst,
            lookup_eq_none_iff_not_mem.2 (hrest ▸ hfirst)]
        · have hnext := hlookup k
          rwa [lookup_cons_of_ne hk, lookup_cons_of_ne hk] at hnext

end Value

end StationBench.Json
