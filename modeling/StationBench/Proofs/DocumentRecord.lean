import Mathlib.Data.List.Count
import StationBench.Proofs.Record
/-!
# What the records of a document are read from

A record of a document is read from an object of its fields in any order, among others that are
passed over, or from an array of its fields in their declared order (`Outline.Fields`). What its
reader makes of the fields is a function of what stands under each name, as it is for free-form
values: `RecordReader.GathersOnce.outline_eq_ok_iff`.
-/
namespace StationBench

namespace Json

variable {σ α β : Type}

/-! ## Fields under names -/

/-- The fields of an object under some names. The others have to be well formed. -/
inductive Fields.Under (names : List String) : Fields → List (String × Outline) → Prop
  | done {ending : Ending} (h : ending.checkObject = .ok ()) : Under names (.done ending) []
  | taken {key : Quotation} {name : String} {value : Outline} {rest : Fields}
    {members : List (String × Outline)} (hkey : key.textKey = .ok name) (hname : name ∈ names)
    (h : Under names rest members) : Under names (.field key value rest) ((name, value) :: members)
  | skipped {key : Quotation} {name : String} {value : Outline} {rest : Fields}
    {members : List (String × Outline)} (hkey : key.textKey = .ok name) (hname : name ∉ names)
    (hvalue : value.skip = .ok ()) (h : Under names rest members) :
    Under names (.field key value rest) members

/-- The fields of a record in a document with the names they stand under. -/
inductive Outline.Fields (names : List String) : Outline → List (String × Outline) → Prop
  /-- The fields of an object, each name once. -/
  | object {level : Nat} {fields : Json.Fields} {members : List (String × Outline)}
    (hlevel : checkLevel level = .ok ()) (h : fields.Under names members)
    (hnodup : (members.map Prod.fst).Nodup) : Fields names (.object level fields) members
  /-- The items of an array that has no more, under the names in their order. -/
  | array {level : Nat} {items : Items} (hlevel : checkLevel level = .ok ())
    (hclosed : items.ending = .closed) (h : items.toList.length ≤ names.length) :
    Fields names (.array level items) (names.zip items.toList)

theorem Fields.Under.mem_names {names : List String} {fields : Fields}
    {members : List (String × Outline)} (h : fields.Under names members) :
    ∀ m ∈ members, m.1 ∈ names := by
  induction h with
  | done h => simp
  | taken hkey hname _ ih => exact List.forall_mem_cons.2 ⟨hname, ih⟩
  | skipped _ _ _ _ ih => exact ih

theorem Fields.Under.unique {names : List String} {fields : Fields}
    {members members' : List (String × Outline)} (h : fields.Under names members)
    (h' : fields.Under names members') : members = members' := by
  induction h generalizing members' with
  | done h =>
    cases h'
    rfl
  | taken hkey hname _ ih =>
    cases h' with
    | taken hkey' _ hrest =>
      obtain rfl := Except.ok.inj (hkey.symm.trans hkey')
      rw [ih hrest]
    | skipped hkey' hname' =>
      obtain rfl := Except.ok.inj (hkey.symm.trans hkey')
      exact absurd hname hname'
  | skipped hkey hname _ _ ih =>
    cases h' with
    | taken hkey' hname' =>
      obtain rfl := Except.ok.inj (hkey.symm.trans hkey')
      exact absurd hname' hname
    | skipped _ _ _ hrest => exact ih hrest

/-- The fields are determined by the document. -/
theorem Outline.Fields.unique {names : List String} {o : Outline}
    {fields fields' : List (String × Outline)} (h : o.Fields names fields)
    (h' : o.Fields names fields') : fields = fields' := by
  cases h with
  | object _ h _ =>
    cases h' with
    | object _ h' _ => exact h.unique h'
  | array =>
    cases h'
    rfl

/-- The second document has an outline under a name and otherwise the fields of the first. -/
def Outline.Replaced (names : List String) (name : String) (o d d' : Outline) : Prop :=
  ∃ fields fields', d.Fields names fields ∧ d'.Fields names fields' ∧
    fields'.lookup name = some o ∧ ∀ k, k ≠ name → fields'.lookup k = fields.lookup k

/-! ## Each name once -/

namespace RecordReader

/-- A reader makes of fields what `g` makes of them, and takes in what is under a name once. -/
structure GathersOnce (r : RecordReader σ α) (g : Lookup σ → Option α) : Prop
    extends r.Gathers g where
  once : ∀ members last, r.putMembers members r.blank = .ok last → (members.map Prod.fst).Nodup

/-- Nothing is taken in after the value of a field. -/
theorem putMembers_field_some {name : String} {read : σ → Except Fault β} {absence : Absence β}
    {b : β} {m : String × σ} {rest : List (String × σ)} {last : Option β} :
    (field name read absence).putMembers (m :: rest) (some b) ≠ .ok last := by
  by_cases hkey : m.1 = name <;> simp [putMembers, field, hkey, throwMismatch, bind, Except.bind]

theorem once_field {name : String} {read : σ → Except Fault β} {absence : Absence β}
    {members : List (String × σ)} {last : Option β}
    (h : (field name read absence).putMembers members none = .ok last) :
    (members.map Prod.fst).Nodup := by
  match members, h with
  | [], _ => simp
  | [_], _ => simp
  | (key, v) :: m :: rest, h =>
    by_cases hkey : key = name
    · cases hv : read v with
      | error fault => simp [putMembers, field, hkey, hv, bind, Except.bind] at h
      | ok b =>
        simp only [putMembers.eq_2, field, hkey, if_true, hv] at h
        exact absurd h putMembers_field_some
    · simp [putMembers, field, hkey, throwMismatch] at h

theorem gathersOnce_required {name : String} {read : σ → Except Fault β} :
    (required name read).GathersOnce fun f => fieldOf read none (f name) :=
  ⟨gathers_required, fun _ _ => once_field⟩

theorem gathersOnce_defaulted {name : String} {read : σ → Except Fault β} {b : β} :
    (defaulted name read b).GathersOnce fun f => fieldOf read (some b) (f name) :=
  ⟨gathers_defaulted, fun _ _ => once_field⟩

theorem GathersOnce.map {r : RecordReader σ α} {g : Lookup σ → Option α} (h : r.GathersOnce g)
    (k : α → β) : (k <$> r).GathersOnce fun f => (g f).map k := by
  refine ⟨h.toGathers.map k, fun members last hlast => ?_⟩
  exact h.once members last ((putMembers_map r k members r.blank).symm.trans hlast)

/-- Keys are distinct if those with a property are and those without it. -/
theorem nodup_of_filter {keys : List String} {p : String → Bool} (h : (keys.filter p).Nodup)
    (h' : (keys.filter fun key => !p key).Nodup) : keys.Nodup := by
  rw [List.nodup_iff_count_le_one] at h h' ⊢
  intro key
  by_cases hp : p key = true
  · exact List.count_filter hp ▸ h key
  · exact List.count_filter (p := fun key => !p key) (by simpa using hp) ▸ h' key

theorem GathersOnce.seq {r : RecordReader σ (α → β)} {s : RecordReader σ α}
    {g : Lookup σ → Option (α → β)} {g' : Lookup σ → Option α} (hr : r.GathersOnce g)
    (hs : s.GathersOnce g') (hnames : ∀ name ∈ s.names, name ∉ r.names) :
    (r <*> s).GathersOnce fun f => (g f).bind fun k => (g' f).map k := by
  refine ⟨hr.toGathers.seq hs.toGathers hnames, fun members last hlast => ?_⟩
  have hsplit := putMembers_seq hr.put_eq_none_iff members r.blank s.blank (s := s)
  rw [show (r.seq s).putMembers members (r.blank, s.blank) = .ok last from hlast] at hsplit
  obtain ⟨d, hd, hsplit⟩ := Option.bind_eq_some_iff.1 hsplit.symm
  obtain ⟨e, he, -⟩ := Option.map_eq_some_iff.1 hsplit
  apply nodup_of_filter (p := (· ∈ r.names))
  · rw [List.filter_map]
    exact hr.once _ _ (eq_ok_of_toOption hd)
  · rw [List.filter_map]
    have hright := hs.once _ _ (eq_ok_of_toOption he)
    simpa [Function.comp_def] using hright

/-! ## Records of documents -/

/-- The fields of an object are taken in one by one, those under other names passed over. -/
theorem putFields_eq_ok_iff {r : RecordReader Outline α}
    (hr : ∀ key o draft, r.put key o draft = none ↔ key ∉ r.names) :
    ∀ {fields : Fields} {draft last : r.Draft}, r.putFields fields draft = .ok last ↔
      ∃ members, fields.Under r.names members ∧ r.putMembers members draft = .ok last
  | .done ending, draft, last => by
    constructor
    · intro h
      obtain ⟨⟨⟩, hending, h⟩ := ok_of_bind h
      exact ⟨[], .done hending, h⟩
    · rintro ⟨members, hunder, h⟩
      cases hunder with
      | done hending => exact (putFields_done hending draft).trans h
  | .field key value rest, draft, last => by
    constructor
    · intro h
      obtain ⟨name, hkey, h⟩ := ok_of_bind h
      cases hput : r.put name value draft with
      | some next =>
        rw [hput] at h
        obtain ⟨draft', hdraft, h⟩ := ok_of_bind h
        obtain ⟨members, hunder, hmembers⟩ := (putFields_eq_ok_iff hr).1 h
        refine ⟨_, .taken hkey (mem_names_of_put hr hput) hunder, ?_⟩
        simp only [putMembers, hput, hdraft]
        exact hmembers
      | none =>
        rw [hput] at h
        obtain ⟨⟨⟩, hvalue, h⟩ := ok_of_bind h
        obtain ⟨members, hunder, hmembers⟩ := (putFields_eq_ok_iff hr).1 h
        exact ⟨members, .skipped hkey ((hr name value draft).1 hput) hvalue hunder, hmembers⟩
    · rintro ⟨members, hunder, h⟩
      cases hunder with
      | @taken _ name _ _ members hkey hname hunder =>
        cases hput : r.put name value draft with
        | none => exact absurd hname ((hr name value draft).1 hput)
        | some next =>
          simp only [putMembers, hput] at h
          obtain ⟨draft', rfl, h⟩ := ok_of_bind h
          rw [putFields_field hkey hput]
          exact (putFields_eq_ok_iff hr).2 ⟨members, hunder, h⟩
      | skipped hkey hname hvalue hunder =>
        simp only [putFields, hkey, (hr _ _ _).2 hname, hvalue, bind, Except.bind]
        exact (putFields_eq_ok_iff hr).2 ⟨members, hunder, h⟩

/-- Of the items of an array those of the names of the reader are taken, and the others are left. -/
theorem Gathers.take_eq_ok_iff {r : RecordReader σ α} {g : Lookup σ → Option α} (h : r.Gathers g)
    {expected : String} {index : Nat} {items : List σ} {a : α} {feed : Feed σ} :
    r.take expected index ⟨items, .ok ()⟩ = .ok (a, feed) ↔
      (g fun name => (r.names.zip items).lookup name) = some a ∧
        feed = ⟨items.drop r.names.length, .ok ()⟩ := by
  rw [← toOption_eq_some_iff, h.listed, Option.map_eq_some_iff]
  constructor
  · rintro ⟨a', ha, heq⟩
    obtain ⟨rfl, rfl⟩ := Prod.mk.inj heq
    exact ⟨ha, rfl⟩
  · rintro ⟨ha, rfl⟩
    exact ⟨a, ha, rfl⟩

section
variable {r : RecordReader Outline α} {g : Lookup Outline → Option α} {name : String} {level : Nat}
  {a : α}

theorem GathersOnce.outline_object_eq_ok_iff (h : r.GathersOnce g) {fields : Json.Fields} :
    r.outline name (.object level fields) = .ok a ↔
      ∃ members, (Outline.object level fields).Fields r.names members ∧
        g (fun name => members.lookup name) = some a := by
  constructor
  · intro ha
    obtain ⟨⟨⟩, hlevel, ha⟩ := ok_of_bind ha
    obtain ⟨last, hlast, ha⟩ := ok_of_bind ha
    obtain ⟨members, hunder, hmembers⟩ := (putFields_eq_ok_iff h.put_eq_none_iff).1 hlast
    have hnodup := h.once members last hmembers
    refine ⟨members, .object hlevel hunder hnodup, ?_⟩
    rw [← h.named members hnodup hunder.mem_names, hmembers]
    exact toOption_eq_some_iff.2 ha
  · rintro ⟨members, hfields, ha⟩
    cases hfields with
    | object hlevel hunder hnodup =>
      rw [← h.named members hnodup hunder.mem_names, toOption_eq_some_iff] at ha
      obtain ⟨last, hlast, ha⟩ := ok_of_bind ha
      rw [outline, hlevel, (putFields_eq_ok_iff h.put_eq_none_iff).2 ⟨members, hunder, hlast⟩]
      exact ha

theorem Gathers.outline_array_eq_ok_iff (h : r.Gathers g) {items : Items} :
    r.outline name (.array level items) = .ok a ↔
      ∃ fields, (Outline.array level items).Fields r.names fields ∧
        g (fun name => fields.lookup name) = some a := by
  constructor
  · intro ha
    obtain ⟨⟨⟩, hlevel, ha⟩ := ok_of_bind ha
    obtain ⟨⟨a', feed⟩, htaken, ha⟩ := ok_of_bind ha
    dsimp only at ha
    split at ha
    · next hempty =>
      obtain ⟨⟨⟩, hend, ha⟩ := ok_of_bind ha
      obtain rfl : a' = a := Except.ok.inj ha
      have hclosed : items.ending = .closed := by
        cases hending : items.ending <;> rw [hending] at hend <;> first | rfl | cases hend
      rw [hclosed] at htaken
      obtain ⟨hg, rfl⟩ := h.take_eq_ok_iff.1 htaken
      exact ⟨_, .array hlevel hclosed (by simpa using hempty), hg⟩
    · cases ha
  · rintro ⟨fields, hfields, ha⟩
    cases hfields with
    | array hlevel hclosed hlength =>
      have htaken : r.take (r.expected name) 0 ⟨items.toList, .ok ()⟩ = .ok (a, ⟨[], .ok ()⟩) :=
        h.take_eq_ok_iff.2 ⟨ha, by rw [List.drop_eq_nil_of_le hlength]⟩
      rw [outline, hlevel, hclosed]
      change (r.take (r.expected name) 0 ⟨items.toList, .ok ()⟩ >>= _) = _
      rw [htaken]
      rfl

end

/-- **A record of a document is read from its fields**: from the fields of an object, whatever
others it has, or from the items of an array without more. -/
theorem GathersOnce.outline_eq_ok_iff {r : RecordReader Outline α} {g : Lookup Outline → Option α}
    (h : r.GathersOnce g) {name : String} {o : Outline} {a : α} :
    r.outline name o = .ok a ↔
      ∃ fields, o.Fields r.names fields ∧ g (fun name => fields.lookup name) = some a := by
  cases o with
  | object level fields => exact h.outline_object_eq_ok_iff
  | array level items => exact h.outline_array_eq_ok_iff
  | number lit | string q | bool b | null | broken flaw =>
    constructor
    · intro ha
      obtain ⟨_, -, ha⟩ := ok_of_bind ha
      cases ha
    · rintro ⟨_, ⟨⟩, -⟩

/-- What a record is read as, given its fields. -/
theorem GathersOnce.outline_of_fields {r : RecordReader Outline α} {g : Lookup Outline → Option α}
    (h : r.GathersOnce g) {name : String} {o : Outline} {fields : List (String × Outline)}
    (hfields : o.Fields r.names fields) {a : α} :
    r.outline name o = .ok a ↔ g (fun name => fields.lookup name) = some a := by
  rw [h.outline_eq_ok_iff]
  constructor
  · rintro ⟨fields', hfields', ha⟩
    rwa [hfields.unique hfields']
  · intro ha
    exact ⟨fields, hfields, ha⟩

end RecordReader

end Json

end StationBench
