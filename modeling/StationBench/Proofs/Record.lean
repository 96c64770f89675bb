import StationBench.Proofs.Ascending
import StationBench.Proofs.Lookup
/-!
# What closed records are read from

A record of a free-form value is read from an object of its fields in any order, or from an array of
its fields in their declared order (`Value.Fields`). What a reader makes of the fields is a function
of the value that stands under each name (`RecordReader.Gathers`), which is put together as the
reader is: `RecordReader.Gathers.closedValue_eq_ok_iff` says it of whole records.
-/
namespace StationBench

namespace Json

variable {σ α β : Type}

/-! ## Fields under names -/

/-- No key of an object stands in it twice. -/
def Value.Distinct (v : Value) : Prop :=
  ∀ members, v = .object members → (members.map Prod.fst).Nodup

/-- The fields of a record with the names they stand under. -/
inductive Value.Fields (names : List String) : Value → List (String × Value) → Prop
  /-- The members of an object that has no others. -/
  | object {members : List (String × Value)} (h : ∀ m ∈ members, m.1 ∈ names) :
    Fields names (.object members) members
  /-- The items of an array that has no more, under the names in their order. -/
  | array {items : List Value} (h : items.length ≤ names.length) :
    Fields names (.array items) (names.zip items)

/-- What stands under each name. -/
abbrev Lookup (σ : Type) := String → Option σ

namespace RecordReader

/-- What a field is made of, if its value is there or left out. -/
def fieldOf (read : σ → Except Fault β) (absent : Option β) : Option σ → Option β
  | some v => (read v).toOption
  | none => absent

/-- A reader makes of fields what `g` makes of the values under their names, or nothing. -/
structure Gathers (r : RecordReader σ α) (g : Lookup σ → Option α) : Prop where
  /-- The reader takes in what is under its names, and nothing else. -/
  put_eq_none_iff : ∀ key v draft, r.put key v draft = none ↔ key ∉ r.names
  /-- Nothing counts but what is under its names. -/
  congr : ∀ f f' : Lookup σ, (∀ name ∈ r.names, f name = f' name) → g f = g f'
  named : ∀ members : List (String × σ), (members.map Prod.fst).Nodup →
    (∀ m ∈ members, m.1 ∈ r.names) →
    (r.putMembers members r.blank >>= r.finish).toOption = g fun name => members.lookup name
  listed : ∀ expected index items, (r.take expected index ⟨items, .ok ()⟩).toOption =
    (g fun name => (r.names.zip items).lookup name).map
      fun a => (a, ⟨items.drop r.names.length, .ok ()⟩)

theorem gathers_field {name : String} {read : σ → Except Fault β} {absence : Absence β}
    {absent : Option β} (h : absence = .missing ∧ absent = none ∨
      ∃ b, absence = .default b ∧ absent = some b) :
    (field name read absence).Gathers fun f => fieldOf read absent (f name) := by
  refine ⟨?_, ?_, ?_, ?_⟩
  · intro key v draft
    by_cases hkey : key = name <;> simp [field, hkey]
  · intro f f' hagree
    rw [hagree name (by simp [field])]
  · intro members hnodup hnames
    cases members with
    | nil => rcases h with ⟨rfl, rfl⟩ | ⟨b, rfl, rfl⟩ <;> rfl
    | cons m rest =>
      obtain ⟨key, v⟩ := m
      obtain rfl : key = name := by simpa [field] using hnames (key, v) (by simp)
      cases rest with
      | nil =>
        cases hv : read v <;>
          simp [putMembers, field, fieldOf, hv, Except.toOption, bind, Except.bind]
      | cons m' rest =>
        obtain ⟨key', v'⟩ := m'
        obtain rfl : key' = key := by simpa [field] using hnames (key', v') (by simp)
        simp at hnodup
  · intro expected index items
    cases items with
    | nil =>
      rcases h with ⟨rfl, rfl⟩ | ⟨b, rfl, rfl⟩ <;> rfl
    | cons v rest =>
      cases hv : read v <;>
        simp [field, fieldOf, hv, Except.toOption, bind, Except.bind, pure, Except.pure]

theorem gathers_required {name : String} {read : σ → Except Fault β} :
    (required name read).Gathers fun f => fieldOf read none (f name) :=
  gathers_field (Or.inl ⟨rfl, rfl⟩)

theorem gathers_defaulted {name : String} {read : σ → Except Fault β} {b : β} :
    (defaulted name read b).Gathers fun f => fieldOf read (some b) (f name) :=
  gathers_field (Or.inr ⟨b, rfl, rfl⟩)

theorem putMembers_map (r : RecordReader σ α) (k : α → β) (members : List (String × σ))
    (draft : r.Draft) : (r.map k).putMembers members draft = r.putMembers members draft := by
  induction members generalizing draft with
  | nil => rfl
  | cons m rest ih =>
    obtain ⟨key, v⟩ := m
    simp only [putMembers]
    cases hput : r.put key v draft with
    | none => simp only [RecordReader.map, hput]
    | some next =>
      simp only [RecordReader.map, hput] at ih ⊢
      exact congrArg (next >>= ·) (funext ih)

theorem Gathers.map {r : RecordReader σ α} {g : Lookup σ → Option α} (h : r.Gathers g)
    (k : α → β) : (k <$> r).Gathers fun f => (g f).map k := by
  refine ⟨h.put_eq_none_iff, ?_, ?_, ?_⟩
  · intro f f' hagree
    rw [h.congr f f' hagree]
  · intro members hnodup hnames
    rw [← h.named members hnodup hnames, ← toOption_map]
    change ((r.map k).putMembers members r.blank >>= fun draft => k <$> r.finish draft).toOption = _
    rw [putMembers_map]
    cases r.putMembers members r.blank <;> rfl
  · intro expected index items
    change (r.take expected index ⟨items, .ok ()⟩ >>= fun p => pure (k p.1, p.2)).toOption = _
    rw [toOption_bind, h.listed]
    change _ = ((g fun name => (r.names.zip items).lookup name).map k).map _
    cases g fun name => (r.names.zip items).lookup name <;> rfl

theorem putMembers_seq_cons (r : RecordReader σ (α → β)) (s : RecordReader σ α)
    (key : String) (v : σ) (rest : List (String × σ)) (d : r.Draft) (e : s.Draft) :
    (r.seq s).putMembers ((key, v) :: rest) (d, e) = match r.put key v d with
      | some next => next >>= fun d' => (r.seq s).putMembers rest (d', e)
      | none => match s.put key v e with
        | some next => next >>= fun e' => (r.seq s).putMembers rest (d, e')
        | none => throwMismatch (.unknownField key (r.names ++ s.names)) := by
  simp only [putMembers, RecordReader.seq]
  cases r.put key v d with
  | some next => cases next <;> rfl
  | none =>
    cases s.put key v e with
    | none => rfl
    | some next => cases next <;> rfl

theorem mem_names_of_put {r : RecordReader σ α}
    (hr : ∀ key v draft, r.put key v draft = none ↔ key ∉ r.names) {key : String} {v : σ}
    {draft : r.Draft} {next : Except Fault r.Draft} (h : r.put key v draft = some next) :
    key ∈ r.names := by
  apply Decidable.byContradiction
  intro hkey
  rw [(hr key v draft).2 hkey] at h
  cases h

/-- Of two records after one another each takes in the members under its names. -/
theorem putMembers_seq {r : RecordReader σ (α → β)} {s : RecordReader σ α}
    (hr : ∀ key v draft, r.put key v draft = none ↔ key ∉ r.names)
    (members : List (String × σ)) (d : r.Draft) (e : s.Draft) :
    ((r.seq s).putMembers members (d, e)).toOption =
      (r.putMembers (members.filter (·.1 ∈ r.names)) d).toOption.bind fun d' =>
        (s.putMembers (members.filter (·.1 ∉ r.names)) e).toOption.map fun e' => (d', e') := by
  induction members generalizing d e with
  | nil => rfl
  | cons m rest ih =>
    obtain ⟨key, v⟩ := m
    rw [putMembers_seq_cons]
    cases hput : r.put key v d with
    | some next =>
      have hkey : key ∈ r.names := mem_names_of_put hr hput
      simp only [List.filter_cons, hkey, not_true_eq_false, decide_true, decide_false, if_true,
        Bool.false_eq_true, if_false, putMembers, hput]
      cases next with
      | error fault => rfl
      | ok d' => exact ih d' e
    | none =>
      have hkey : key ∉ r.names := (hr key v d).1 hput
      simp only [List.filter_cons, hkey, not_false_eq_true, decide_true, decide_false, if_true,
        Bool.false_eq_true, if_false, putMembers]
      cases s.put key v e with
      | none => exact (Option.bind_fun_none _).symm
      | some next =>
        cases next with
        | error fault => exact (Option.bind_fun_none _).symm
        | ok e' => exact ih d e'

/-- Members that could be taken in are under names of the record. -/
theorem names_of_putMembers {r : RecordReader σ α}
    (hr : ∀ key v draft, r.put key v draft = none ↔ key ∉ r.names) {members : List (String × σ)}
    {draft last : r.Draft} (h : r.putMembers members draft = .ok last) :
    ∀ m ∈ members, m.1 ∈ r.names := by
  induction members generalizing draft with
  | nil => simp
  | cons m rest ih =>
    obtain ⟨key, v⟩ := m
    simp only [putMembers] at h
    cases hput : r.put key v draft with
    | none =>
      rw [hput] at h
      cases h
    | some next =>
      rw [hput] at h
      obtain ⟨draft', -, hlast⟩ := ok_of_bind h
      exact List.forall_mem_cons.2 ⟨mem_names_of_put hr hput, ih hlast⟩

section
variable {r : RecordReader σ (α → β)} {s : RecordReader σ α} {g : Lookup σ → Option (α → β)}
  {g' : Lookup σ → Option α} (hr : r.Gathers g) (hs : s.Gathers g')
  (hnames : ∀ name ∈ s.names, name ∉ r.names)
include hr hs hnames

/-- Each of two records finds in an object what it would find among its own members alone. -/
theorem Gathers.named_seq {members : List (String × σ)} (hnodup : (members.map Prod.fst).Nodup)
    (hmembers : ∀ m ∈ members, m.1 ∈ r.names ++ s.names) :
    ((r.seq s).putMembers members (r.seq s).blank >>= (r.seq s).finish).toOption =
      (g fun name => members.lookup name).bind fun k =>
        (g' fun name => members.lookup name).map k := by
  have hfilter (p : String → Bool) : ((members.filter (p ·.1)).map Prod.fst).Nodup :=
    hnodup.sublist (List.filter_sublist.map _)
  have hothers : ∀ m ∈ members.filter (·.1 ∉ r.names), m.1 ∈ s.names := by
    intro m hm
    obtain ⟨hm, hnot⟩ := List.mem_filter.1 hm
    exact (List.mem_append.1 (hmembers m hm)).resolve_left (by simpa using hnot)
  have hleft : g (fun name => members.lookup name) =
      g fun name => (members.filter (·.1 ∈ r.names)).lookup name :=
    hr.congr _ _ fun name h =>
      (lookup_filter (p := (· ∈ r.names)) (by simpa using h) members).symm
  have hright : g' (fun name => members.lookup name) =
      g' fun name => (members.filter (·.1 ∉ r.names)).lookup name :=
    hs.congr _ _ fun name h =>
      (lookup_filter (p := (· ∉ r.names)) (by simpa using hnames name h) members).symm
  rw [hleft, hright, ← hr.named _ (hfilter (· ∈ r.names)) (by simp),
    ← hs.named _ (hfilter (· ∉ r.names)) hothers]
  change ((r.seq s).putMembers members (r.blank, s.blank) >>= fun draft =>
    r.finish draft.1 >>= fun k => s.finish draft.2 >>= fun a => pure (k a)).toOption = _
  simp only [toOption_bind, putMembers_seq hr.put_eq_none_iff]
  cases (r.putMembers (members.filter (·.1 ∈ r.names)) r.blank).toOption with
  | none => rfl
  | some d =>
    cases (s.putMembers (members.filter (·.1 ∉ r.names)) s.blank).toOption with
    | none => exact (Option.bind_fun_none _).symm
    | some e =>
      change ((r.finish d).toOption.bind fun k =>
        (s.finish e).toOption.bind fun a => some (k a)) = _
      simp only [Option.bind_some]
      cases r.finish d with
      | error fault => rfl
      | ok k => cases s.finish e <;> rfl

/-- Of two records the second one takes the items of an array that the first one leaves. -/
theorem Gathers.listed_seq (expected : String) (index : Nat) (items : List σ) :
    ((r.seq s).take expected index ⟨items, .ok ()⟩).toOption =
      ((g fun name => ((r.names ++ s.names).zip items).lookup name).bind fun k =>
        (g' fun name => ((r.names ++ s.names).zip items).lookup name).map k).map
          fun b => (b, ⟨items.drop (r.names ++ s.names).length, .ok ()⟩) := by
  have hleft : g (fun name => ((r.names ++ s.names).zip items).lookup name) =
      g fun name => (r.names.zip items).lookup name := by
    refine hr.congr _ _ fun name h => ?_
    rw [lookup_zip_append, lookup_zip_eq_none fun h' => hnames name h' h, Option.or_none]
  have hright : g' (fun name => ((r.names ++ s.names).zip items).lookup name) =
      g' fun name => (s.names.zip (items.drop r.names.length)).lookup name := by
    refine hs.congr _ _ fun name h => ?_
    rw [lookup_zip_append, lookup_zip_eq_none (hnames name h), Option.none_or]
  change (r.take expected index ⟨items, .ok ()⟩ >>= fun p =>
    s.take expected (index + r.names.length) p.2 >>= fun q => pure (p.1 q.1, q.2)).toOption = _
  rw [hleft, hright, toOption_bind, hr.listed, List.length_append, ← List.drop_drop]
  cases g fun name => (r.names.zip items).lookup name with
  | none => rfl
  | some k =>
    simp only [Option.map_some, Option.bind_some, toOption_bind, hs.listed]
    cases g' fun name => (s.names.zip (items.drop r.names.length)).lookup name <;> rfl

theorem Gathers.seq : (r <*> s).Gathers fun f => (g f).bind fun k => (g' f).map k := by
  refine ⟨?_, ?_, fun _ hnodup hmembers => hr.named_seq hs hnames hnodup hmembers,
    hr.listed_seq hs hnames⟩
  · rintro key v ⟨d, e⟩
    change (r.seq s).put key v (d, e) = none ↔ key ∉ r.names ++ s.names
    rw [List.mem_append, not_or, ← hr.put_eq_none_iff key v d, ← hs.put_eq_none_iff key v e]
    simp only [RecordReader.seq]
    cases r.put key v d <;> simp
  · intro f f' hagree
    have hagree' : ∀ name ∈ r.names ++ s.names, f name = f' name := hagree
    rw [hr.congr f f' fun name h => hagree' name (List.mem_append_left _ h),
      hs.congr f f' fun name h => hagree' name (List.mem_append_right _ h)]

end

/-- **A closed record is read from its fields**: from the members of an object without others or
from the items of an array without more. -/
theorem Gathers.closedValue_eq_ok_iff {r : RecordReader Value α} {g : Lookup Value → Option α}
    (h : r.Gathers g) {name : String} {v : Value} {a : α} (hv : v.Distinct) :
    r.closedValue name v = .ok a ↔
      ∃ fields, v.Fields r.names fields ∧ g (fun name => fields.lookup name) = some a := by
  rw [← toOption_eq_some_iff]
  cases v with
  | object members =>
    change (r.putMembers members r.blank >>= r.finish).toOption = some a ↔ _
    by_cases hnames : ∀ m ∈ members, m.1 ∈ r.names
    · rw [h.named members (hv members rfl) hnames]
      constructor
      · exact fun ha => ⟨members, .object hnames, ha⟩
      · rintro ⟨_, ⟨⟩, ha⟩
        exact ha
    · constructor
      · rw [toOption_eq_some_iff]
        intro ha
        obtain ⟨draft, hdraft, -⟩ := ok_of_bind ha
        exact absurd (names_of_putMembers h.put_eq_none_iff hdraft) hnames
      · rintro ⟨_, ⟨hnames'⟩, -⟩
        exact absurd hnames' hnames
  | array items =>
    change (r.take (r.expected name) 0 ⟨items, .ok ()⟩ >>= fun p =>
      if p.2.items.isEmpty then pure p.1 else throwMismatch
        (.invalidLength items.length "fewer elements in array")).toOption = some a ↔ _
    rw [toOption_bind, h.listed]
    constructor
    · intro ha
      obtain ⟨p, hp, ha⟩ := Option.bind_eq_some_iff.1 ha
      obtain ⟨a', ha', rfl⟩ := Option.map_eq_some_iff.1 hp
      split at ha
      · next hlen =>
        obtain rfl := Option.some.inj ha
        exact ⟨_, .array (by simpa using hlen), ha'⟩
      · cases ha
    · rintro ⟨_, hfields, ha⟩
      cases hfields with
      | array hlen =>
        simp only [ha, Option.map_some, Option.bind_some, List.drop_eq_nil_of_le hlen]
        rfl
  | _ =>
    constructor
    · rintro ⟨⟩
    · rintro ⟨_, ⟨⟩, -⟩

end RecordReader

/-! ## Fields in key order -/

namespace Value

theorem orderedItems_eq_map (items : List Value) : orderedItems items = items.map ordered := by
  induction items with
  | nil => rfl
  | cons v rest ih => rw [orderedItems, ih, List.map_cons]

theorem find?_orderedMembers {members : List (String × Value)} (h : (members.map Prod.fst).Nodup)
    (t : Table String Value) (key : String) :
    (orderedMembers members t).find? key = ((members.lookup key).map ordered).or (t.find? key) := by
  induction members generalizing t with
  | nil => rfl
  | cons m rest ih =>
    obtain ⟨k, v⟩ := m
    obtain ⟨hhead, hrest⟩ := List.nodup_cons.1 h
    rw [orderedMembers, ih hrest, Table.find?_insert]
    by_cases hkey : key = k
    · have hnone : rest.lookup k = none := lookup_eq_none_iff_not_mem.2 hhead
      simp [hkey, hnone]
    · rw [lookup_cons_of_ne hkey, if_neg hkey]

theorem ascending_orderedMembers (members : List (String × Value)) {t : Table String Value}
    (h : t.Ascending) : (orderedMembers members t).Ascending := by
  induction members generalizing t with
  | nil => exact h
  | cons m rest ih => exact ih (Table.pairwise_insertEntry h)

theorem distinct_ordered (v : Value) : v.ordered.Distinct := by
  rintro members hmembers
  cases v with
  | object members' =>
    obtain rfl := Value.object.inj hmembers
    refine List.pairwise_map.2 ((ascending_orderedMembers members' List.Pairwise.nil).imp ?_)
    rintro ⟨key, _⟩ ⟨_, _⟩ hlt rfl
    exact Std.lt_irrefl hlt
  | _ => cases hmembers

/-- The fields of a value in key order are those of the value, each in key order. -/
theorem exists_fields_ordered_iff {names : List String} {v : Value} (h : v.Distinct)
    {P : Lookup Value → Prop} :
    (∃ fields, v.ordered.Fields names fields ∧ P fun name => fields.lookup name) ↔
      ∃ fields, v.Fields names fields ∧ P fun name => (fields.lookup name).map ordered := by
  cases v with
  | object members =>
    have hlookup (key : String) : (orderedMembers members {}).entries.lookup key =
        (members.lookup key).map ordered :=
      (find?_orderedMembers (h members rfl) {} key).trans (Option.or_none)
    have hnames : (∀ m ∈ (orderedMembers members {}).entries, m.1 ∈ names) ↔
        ∀ m ∈ members, m.1 ∈ names := by
      simp only [forall_key_mem_iff, hlookup, Option.map_eq_none_iff]
    constructor
    · rintro ⟨_, ⟨hfields⟩, hp⟩
      exact ⟨members, .object (hnames.1 hfields), by simpa only [hlookup] using hp⟩
    · rintro ⟨_, ⟨hfields⟩, hp⟩
      exact ⟨_, .object (hnames.2 hfields), by simpa only [hlookup] using hp⟩
  | array items =>
    have hitems : (array items).ordered = array (items.map ordered) :=
      congrArg array (orderedItems_eq_map items)
    rw [hitems]
    constructor
    · rintro ⟨_, hfields, hp⟩
      cases hfields with
      | array hlen =>
        exact ⟨_, .array (by simpa using hlen), by simpa only [lookup_zip_map] using hp⟩
    · rintro ⟨_, hfields, hp⟩
      cases hfields with
      | array hlen =>
        exact ⟨_, .array (by simpa using hlen), by simpa only [lookup_zip_map] using hp⟩
  | _ =>
    constructor <;> rintro ⟨_, ⟨⟩, -⟩

end Value

/-- A reader for which the members of objects may be in any order. -/
def Value.Unordered {α : Type} (read : Value → Except Fault α) : Prop :=
  ∀ v, read v.ordered = read v

theorem RecordReader.Gathers.closedValue_ordered_iff {r : RecordReader Value α}
    {g : Lookup Value → Option α} (h : r.Gathers g)
    (hg : ∀ f : Lookup Value, (g fun name => (f name).map Value.ordered) = g f) {name : String}
    {v : Value} {a : α} (hv : v.Distinct) :
    r.closedValue name v.ordered = .ok a ↔ r.closedValue name v = .ok a := by
  rw [h.closedValue_eq_ok_iff v.distinct_ordered, h.closedValue_eq_ok_iff hv,
    Value.exists_fields_ordered_iff (P := fun f => g f = some a) hv]
  simp only [hg]

theorem RecordReader.fieldOf_map_ordered {read : Value → Except Fault β} (h : Value.Unordered read)
    (absent : Option β) (v : Option Value) :
    fieldOf read absent (v.map Value.ordered) = fieldOf read absent v := by
  cases v with
  | none => rfl
  | some v => exact congrArg Except.toOption (h v)

/-! ## Fields of objects in documents -/

theorem RecordReader.putFields_field {α : Type} {r : RecordReader Outline α} {key : Quotation}
    {name : String} {value : Outline} {rest : Fields} {draft next : r.Draft}
    (hkey : key.textKey = .ok name) (hput : r.put name value draft = some (.ok next)) :
    r.putFields (.field key value rest) draft = r.putFields rest next := by
  simp only [putFields, hkey, hput, bind, Except.bind]

theorem RecordReader.putFields_done {α : Type} {r : RecordReader Outline α} {ending : Ending}
    (h : ending.checkObject = .ok ()) (draft : r.Draft) :
    r.putFields (.done ending) draft = .ok draft := by
  simp only [putFields, h, bind, Except.bind, pure, Except.pure]

end Json

end StationBench
