import StationBench.Proofs.Except
import StationBench.Suite
/-!
# The order of fixtures that were read

Reading a fixture brings what it declares into order: cards are met by ascending number, buttons by
ascending name and the groups of a card by ascending identifier, each once, in whatever order the
document has them (`Fixture.yields_read`). For this a property is carried from the readers of
the fields to the reader of the record (`Json.RecordReader.Yields`).
-/
namespace StationBench

/-! ## The first and the least -/

/-- The first element of an ascending list with a property is the least one, by its key. -/
theorem exists_append_iff_of_ascending {α κ : Type} [LT κ] [Std.Asymm (α := κ) (· < ·)] {k : α → κ}
    {l : List α} {P Q : α → Prop} (h : l.Pairwise fun a b => k a < k b) :
    (∃ before a after, l = before ++ a :: after ∧ Q a ∧ ∀ x ∈ before, P x) ↔
      ∃ a ∈ l, Q a ∧ ∀ x ∈ l, k x < k a → P x := by
  constructor
  · rintro ⟨before, a, after, rfl, hq, hp⟩
    obtain ⟨hhead, -⟩ := List.pairwise_cons.1 (List.pairwise_append.1 h).2.1
    refine ⟨a, by simp, hq, ?_⟩
    intro x hx hlt
    rcases List.mem_append.1 hx with hx | hx
    · exact hp x hx
    · rcases List.mem_cons.1 hx with rfl | hx
      · exact absurd hlt Std.lt_irrefl
      · exact absurd hlt (Std.Asymm.asymm _ _ (hhead x hx))
  · rintro ⟨a, ha, hq, hp⟩
    obtain ⟨before, after, rfl⟩ := List.append_of_mem ha
    refine ⟨before, a, after, rfl, hq, ?_⟩
    intro x hx
    exact hp x (List.mem_append_left _ hx)
      ((List.pairwise_append.1 h).2.2 x hx a List.mem_cons_self)

/-- What is found in an ascending list is found of its least element that has it. -/
theorem findSome?_eq_some_iff_of_ascending {α β κ : Type} [LT κ] [Std.Asymm (α := κ) (· < ·)]
    {k : α → κ} {l : List α} {f : α → Option β} {b : β} (h : l.Pairwise fun a b => k a < k b) :
    l.findSome? f = some b ↔ ∃ a ∈ l, f a = some b ∧ ∀ x ∈ l, k x < k a → f x = none := by
  rw [List.findSome?_eq_some_iff, exists_append_iff_of_ascending h]

theorem find?_eq_some_iff_of_ascending {κ : Type} [LT κ] [Std.Asymm (α := κ) (· < ·)] {l : List κ}
    {p : κ → Bool} {a : κ} (h : l.Pairwise (· < ·)) :
    l.find? p = some a ↔ a ∈ l ∧ p a ∧ ∀ x ∈ l, x < a → p x = false := by
  rw [← List.findSome?_guard, findSome?_eq_some_iff_of_ascending (k := id) h]
  simp only [Option.guard_eq_some_iff, Option.guard_eq_none_iff, id, and_assoc]
  constructor
  · rintro ⟨_, hmem, rfl, hp, hleast⟩
    exact ⟨hmem, hp, by simpa using hleast⟩
  · rintro ⟨hmem, hp, hleast⟩
    exact ⟨a, hmem, rfl, hp, by simpa using hleast⟩

/-! ## Insertion -/

section
variable {κ ν : Type} [LT κ] [DecidableLT κ] [DecidableEq κ]

/-- Every key is less than the keys after it. -/
def Table.Ascending (t : Table κ ν) : Prop := t.entries.Pairwise fun e e' => e.1 < e'.1

theorem Table.mem_insertEntry {k : κ} {v : ν} {l : List (κ × ν)} {e : κ × ν}
    (h : e ∈ insertEntry k v l) : e = (k, v) ∨ e ∈ l := by
  induction l with
  | nil => simpa [insertEntry] using h
  | cons e' rest ih =>
    obtain ⟨k', v'⟩ := e'
    rw [insertEntry] at h
    split at h
    · rcases List.mem_cons.1 h with rfl | hr
      · exact Or.inl rfl
      · exact Or.inr (List.mem_cons_of_mem _ hr)
    · split at h
      · exact List.mem_cons.1 h
      · rcases List.mem_cons.1 h with rfl | hr
        · exact Or.inr List.mem_cons_self
        · exact (ih hr).imp_right (List.mem_cons_of_mem _)

/-- All entries of a table were put in. -/
theorem Table.mem_ofList {l : List (κ × ν)} {e : κ × ν} (h : e ∈ (ofList l).entries) : e ∈ l := by
  refine List.foldlRecOn (motive := fun t : Table κ ν => ∀ e ∈ t.entries, e ∈ l) l _
    (fun e he => absurd he List.not_mem_nil) ?_ e h
  intro t ht e' he' e he
  rcases mem_insertEntry he with rfl | hold
  · exact he'
  · exact ht e hold

variable [LE κ] [Std.IsLinearOrder κ] [Std.LawfulOrderLT κ]

omit [DecidableEq κ] in
/-- Of two keys that are not the same, one is the lesser. -/
theorem lt_of_ne_of_not_lt {a b : κ} (hne : a ≠ b) (h : ¬ a < b) : b < a := by
  apply Decidable.byContradiction
  intro hba
  exact hne (Std.Trichotomous.trichotomous a b h hba)

theorem Table.pairwise_insertEntry {k : κ} {v : ν} {l : List (κ × ν)}
    (h : l.Pairwise fun e e' => e.1 < e'.1) :
    (insertEntry k v l).Pairwise fun e e' => e.1 < e'.1 := by
  induction l with
  | nil => simp [insertEntry]
  | cons e' rest ih =>
    obtain ⟨k', v'⟩ := e'
    obtain ⟨hhead, hrest⟩ := List.pairwise_cons.1 h
    rw [insertEntry]
    split
    · next heq =>
      subst heq
      exact List.pairwise_cons.2 ⟨hhead, hrest⟩
    · next hne =>
      split
      · next hlt =>
        refine List.pairwise_cons.2 ⟨?_, h⟩
        intro e he
        rcases List.mem_cons.1 he with rfl | hr
        · exact hlt
        · exact Std.lt_trans hlt (hhead e hr)
      · next hnlt =>
        refine List.pairwise_cons.2 ⟨?_, ih hrest⟩
        intro e he
        rcases mem_insertEntry he with rfl | hr
        · exact lt_of_ne_of_not_lt hne hnlt
        · exact hhead e hr

theorem Table.ascending_ofList (l : List (κ × ν)) : (Table.ofList l).Ascending :=
  List.foldlRecOn (motive := Table.Ascending) l _ List.Pairwise.nil
    fun _ ht _ _ => pairwise_insertEntry ht

theorem pairwise_insertOrdered {a : κ} {l : List κ} (h : l.Pairwise (· < ·)) :
    (insertOrdered a l).Pairwise (· < ·) := by
  induction l with
  | nil => simp [insertOrdered]
  | cons b rest ih =>
    obtain ⟨hhead, hrest⟩ := List.pairwise_cons.1 h
    rw [insertOrdered]
    split
    · exact h
    · next hne =>
      split
      · next hlt =>
        refine List.pairwise_cons.2 ⟨?_, h⟩
        intro x hx
        rcases List.mem_cons.1 hx with rfl | hr
        · exact hlt
        · exact Std.lt_trans hlt (hhead x hr)
      · next hnlt =>
        refine List.pairwise_cons.2 ⟨?_, ih hrest⟩
        intro x hx
        rcases mem_insertOrdered.1 hx with rfl | hr
        · exact lt_of_ne_of_not_lt hne hnlt
        · exact hhead x hr

theorem pairwise_ordered (l : List κ) : (ordered l).Pairwise (· < ·) :=
  List.foldlRecOn (motive := fun acc : List κ => acc.Pairwise (· < ·)) l _ List.Pairwise.nil
    fun _ hacc _ _ => pairwise_insertOrdered hacc

end

/-! ## What readers yield -/

namespace Json

/-- Whatever is read has a property. -/
def Yields {σ α : Type} (read : σ → Except Fault α) (P : α → Prop) : Prop :=
  ∀ s a, read s = .ok a → P a

theorem read_eq_ok_iff {α : Type} {reader : Reader α} {text : String} {a : α} :
    Json.read reader text = .ok a ↔
      reader (Document.ofText text).root = .ok a ∧ (Document.ofText text).more = false := by
  unfold Json.read
  constructor
  · intro h
    obtain ⟨a', ha, h⟩ := ok_of_bind h
    split at h
    · cases h
    · next hmore => exact ⟨ha.trans h, by simpa using hmore⟩
  · rintro ⟨ha, hmore⟩
    simp only [ha, hmore]
    rfl

theorem Yields.of_read {α : Type} {reader : Reader α} {P : α → Prop} (h : Yields reader P)
    {text : String} {a : α} (ha : read reader text = .ok a) : P a :=
  h _ a (read_eq_ok_iff.1 ha).1

/-- What the items of a list have in common. -/
theorem Items.mem_of_read {α : Type} {read : Reader α} {P : α → Prop} (h : Yields read P) :
    ∀ {items : Items} {l : List α}, items.read read = .ok l → ∀ a ∈ l, P a
  | .done ending, l, hl => by
    obtain ⟨-, -, hnil⟩ := ok_of_bind hl
    obtain rfl := Except.ok.inj hnil
    simp
  | .item head rest, l, hl => by
    obtain ⟨a, ha, hl⟩ := ok_of_bind hl
    obtain ⟨l', hl', heq⟩ := ok_of_bind hl
    obtain rfl := Except.ok.inj heq
    intro x hx
    rcases List.mem_cons.1 hx with rfl | hx
    · exact h head x ha
    · exact mem_of_read h hl' x hx

theorem yields_list {α : Type} {read : Reader α} {P : α → Prop} (h : Yields read P) :
    Yields (Reader.list read) fun l => ∀ a ∈ l, P a := by
  intro o l hl
  cases o with
  | array level items =>
    obtain ⟨-, -, hl⟩ := ok_of_bind hl
    exact Items.mem_of_read h hl
  | _ =>
    obtain ⟨_, -, hno⟩ := ok_of_bind hl
    cases hno

/-- What the values of a map have in common. -/
theorem Fields.values_of_read {κ ν : Type} {readKey : Quotation → Except Fault κ} {read : Reader ν}
    {P : ν → Prop} (h : Yields read P) :
    ∀ {fields : Fields} {l : List (κ × ν)}, fields.read readKey read = .ok l → ∀ e ∈ l, P e.2
  | .done ending, l, hl => by
    obtain ⟨-, -, hnil⟩ := ok_of_bind hl
    obtain rfl := Except.ok.inj hnil
    simp
  | .field key value rest, l, hl => by
    obtain ⟨k, -, hl⟩ := ok_of_bind hl
    obtain ⟨v, hv, hl⟩ := ok_of_bind hl
    obtain ⟨l', hl', heq⟩ := ok_of_bind hl
    obtain rfl := Except.ok.inj heq
    intro e he
    rcases List.mem_cons.1 he with rfl | he
    · exact h value v hv
    · exact values_of_read h hl' e he

section
variable {κ ν : Type} [LT κ] [DecidableLT κ] [DecidableEq κ] [LE κ] [Std.IsLinearOrder κ]
  [Std.LawfulOrderLT κ]

theorem yields_table {readKey : Quotation → Except Fault κ} {read : Reader ν} {P : ν → Prop}
    (h : Yields read P) :
    Yields (Reader.table readKey read) fun t => t.Ascending ∧ ∀ e ∈ t.entries, P e.2 := by
  intro o t ht
  obtain ⟨l, hl, rfl⟩ := ok_of_map ht
  refine ⟨Table.ascending_ofList l, ?_⟩
  intro e he
  cases o with
  | object level fields =>
    obtain ⟨-, -, hfields⟩ := ok_of_bind hl
    exact Fields.values_of_read h hfields e (Table.mem_ofList he)
  | _ =>
    obtain ⟨_, -, hno⟩ := ok_of_bind hl
    cases hno

end

namespace RecordReader

variable {σ α β : Type}

/-- Whatever record is read has a property: so has the record of every draft that can be met, as
some property of drafts shows that every field keeps, and every record that is taken off an array. -/
structure Yields (r : RecordReader σ α) (P : α → Prop) : Prop where
  drafts : ∃ D : r.Draft → Prop, D r.blank ∧
    (∀ key s draft next, D draft → r.put key s draft = some (.ok next) → D next) ∧
    ∀ draft a, D draft → r.finish draft = .ok a → P a
  taken : ∀ expected index feed a rest, r.take expected index feed = .ok (a, rest) → P a

theorem yields_field {name : String} {read : σ → Except Fault β} {absence : Absence β}
    {P : β → Prop} (hread : Json.Yields read P)
    (habsent : ∀ b, absence = .unlessListed b ∨ absence = .default b → P b) :
    (field name read absence).Yields P := by
  refine ⟨⟨fun draft => ∀ b, draft = some b → P b, by rintro b ⟨⟩, ?_, ?_⟩, ?_⟩
  · intro key s draft next hd hput b hb
    subst hb
    simp only [field] at hput
    split at hput
    · cases draft with
      | some b' => cases hput
      | none =>
        obtain ⟨b', hb', heq⟩ := ok_of_map (Option.some.inj hput)
        obtain rfl := Option.some.inj heq
        exact hread s b' hb'
    · cases hput
  · intro draft b hd hb
    cases draft with
    | some b' =>
      obtain rfl := Except.ok.inj hb
      exact hd b' rfl
    | none =>
      cases absence with
      | missing => cases hb
      | unlessListed b' =>
        obtain rfl := Except.ok.inj hb
        exact habsent b' (Or.inl rfl)
      | default b' =>
        obtain rfl := Except.ok.inj hb
        exact habsent b' (Or.inr rfl)
  · intro expected index feed b rest htake
    obtain ⟨items, atEnd⟩ := feed
    cases items with
    | cons s later =>
      obtain ⟨b', hb', heq⟩ := ok_of_bind htake
      obtain ⟨rfl, -⟩ := Prod.mk.inj (Except.ok.inj heq)
      exact hread s b' hb'
    | nil =>
      obtain ⟨-, -, hdefault⟩ := ok_of_bind htake
      cases absence with
      | missing | unlessListed b' => cases hdefault
      | default b' =>
        obtain ⟨rfl, -⟩ := Prod.mk.inj (Except.ok.inj hdefault)
        exact habsent b' (Or.inr rfl)

theorem yields_required {name : String} {read : σ → Except Fault β} {P : β → Prop}
    (h : Json.Yields read P) : (required name read).Yields P :=
  yields_field h fun b hb => by rcases hb with hb | hb <;> cases hb

theorem yields_defaulted {name : String} {read : σ → Except Fault β} {b : β} {P : β → Prop}
    (h : Json.Yields read P) (hb : P b) : (defaulted name read b).Yields P :=
  yields_field h fun b' hb' => by
    rcases hb' with heq | heq
    · cases heq
    · obtain rfl := Absence.default.inj heq
      exact hb

theorem Yields.map {r : RecordReader σ α} {P : α → Prop} {Q : β → Prop} (h : r.Yields P) (f : α → β)
    (hf : ∀ a, P a → Q (f a)) : (f <$> r).Yields Q := by
  obtain ⟨D, hblank, hput, hfinish⟩ := h.drafts
  refine ⟨⟨D, hblank, hput, ?_⟩, ?_⟩
  · intro draft b hd hb
    obtain ⟨a, ha, rfl⟩ := ok_of_map hb
    exact hf a (hfinish draft a hd ha)
  · intro expected index feed b rest htake
    obtain ⟨⟨a, feed'⟩, ha, heq⟩ := ok_of_bind htake
    obtain ⟨rfl, -⟩ := Prod.mk.inj (Except.ok.inj heq)
    exact hf a (h.taken _ _ _ _ _ ha)

theorem Yields.seq {r : RecordReader σ (α → β)} {s : RecordReader σ α} {P : (α → β) → Prop}
    {Q : α → Prop} {R : β → Prop} (hr : r.Yields P) (hs : s.Yields Q)
    (h : ∀ f a, P f → Q a → R (f a)) : (r <*> s).Yields R := by
  obtain ⟨D, hblank, hput, hfinish⟩ := hr.drafts
  obtain ⟨E, hblank', hput', hfinish'⟩ := hs.drafts
  refine ⟨⟨fun draft => D draft.1 ∧ E draft.2, ⟨hblank, hblank'⟩, ?_, ?_⟩, ?_⟩
  · rintro key v ⟨d, e⟩ next ⟨hd, he⟩ hnext
    simp only [Seq.seq, RecordReader.seq] at hnext
    cases hp : r.put key v d with
    | some x =>
      simp only [hp] at hnext
      obtain ⟨d', hd', rfl⟩ := ok_of_map (Option.some.inj hnext)
      exact ⟨hput key v d d' hd (by rw [hp, hd']), he⟩
    | none =>
      simp only [hp] at hnext
      obtain ⟨x, hx, hmap⟩ := Option.map_eq_some_iff.1 hnext
      obtain ⟨e', he', rfl⟩ := ok_of_map hmap
      exact ⟨hd, hput' key v e e' he (by rw [hx, he'])⟩
  · rintro ⟨d, e⟩ b ⟨hd, he⟩ hb
    obtain ⟨f, hf, hb⟩ := ok_of_bind hb
    obtain ⟨a, ha, heq⟩ := ok_of_bind hb
    obtain rfl := Except.ok.inj heq
    exact h f a (hfinish d f hd hf) (hfinish' e a he ha)
  · intro expected index feed b rest htake
    obtain ⟨⟨f, feed'⟩, hf, htake⟩ := ok_of_bind htake
    obtain ⟨⟨a, feed''⟩, ha, heq⟩ := ok_of_bind htake
    obtain ⟨rfl, -⟩ := Prod.mk.inj (Except.ok.inj heq)
    exact h f a (hr.taken _ _ _ _ _ hf) (hs.taken _ _ _ _ _ ha)

/-- What every field keeps, the fields of an object keep. -/
theorem putFields_induction {r : RecordReader Outline α} {D : r.Draft → Prop}
    (hput : ∀ key s draft next, D draft → r.put key s draft = some (.ok next) → D next) :
    ∀ {fields : Fields} {draft last : r.Draft}, D draft → r.putFields fields draft = .ok last → D last
  | .done ending, draft, last, hd, hlast => by
    obtain ⟨-, -, heq⟩ := ok_of_bind hlast
    obtain rfl := Except.ok.inj heq
    exact hd
  | .field key value rest, draft, last, hd, hlast => by
    obtain ⟨name, -, hlast⟩ := ok_of_bind hlast
    cases hp : r.put name value draft with
    | some x =>
      simp only [hp] at hlast
      obtain ⟨next, hnext, hlast⟩ := ok_of_bind hlast
      exact putFields_induction hput (hput name value draft next hd (by rw [hp, hnext])) hlast
    | none =>
      simp only [hp] at hlast
      obtain ⟨-, -, hlast⟩ := ok_of_bind hlast
      exact putFields_induction hput hd hlast

theorem Yields.outline {r : RecordReader Outline α} {P : α → Prop} (h : r.Yields P)
    (name : String) : Json.Yields (r.outline name) P := by
  obtain ⟨D, hblank, hput, hfinish⟩ := h.drafts
  intro o a ha
  cases o with
  | array level items =>
    obtain ⟨-, -, ha⟩ := ok_of_bind ha
    obtain ⟨⟨a', feed⟩, htaken, ha⟩ := ok_of_bind ha
    -- whatever follows the fields in the array, the record is the one that was taken
    have heq : a' = a := by
      dsimp only at ha
      split at ha <;>
        · obtain ⟨-, -, heq⟩ := ok_of_bind ha
          exact Except.ok.inj heq
    exact heq ▸ h.taken _ _ _ _ _ htaken
  | object level fields =>
    obtain ⟨-, -, ha⟩ := ok_of_bind ha
    obtain ⟨last, hlast, ha⟩ := ok_of_bind ha
    exact hfinish last a (putFields_induction hput hblank hlast) ha
  | _ =>
    obtain ⟨_, -, hno⟩ := ok_of_bind ha
    cases hno

end RecordReader

end Json

/-! ## Fixtures -/

/-- What a fixture declares is in order: the cards, the groups of each card, and the buttons. -/
structure Fixture.Ascending (f : Fixture) : Prop where
  cards : f.cards.Ascending
  groups : ∀ e ∈ f.cards.entries, e.2.groups.Pairwise (· < ·)
  buttons : f.buttons.Ascending

section
open Json Json.RecordReader

/-- Nothing is asked of a part of a record. -/
theorem Json.yields_any {σ α : Type} (read : σ → Except Fault α) : Yields read fun _ => True :=
  fun _ _ _ => trivial

theorem Card.yields_read : Yields Card.read fun card => card.groups.Pairwise (· < ·) := by
  have hgroups : Yields (fun o => ordered <$> Reader.list Reader.string o)
      fun l : List String => l.Pairwise (· < ·) := by
    intro o l hl
    obtain ⟨l', -, rfl⟩ := ok_of_map hl
    exact pairwise_ordered l'
  refine RecordReader.Yields.outline (.seq (P := fun f => ∀ g, (f g).groups = g) ?_
    (yields_defaulted hgroups List.Pairwise.nil) fun f g hf hg => by rw [hf]; exact hg) "Card"
  refine .seq (P := fun f => ∀ w g, (f w g).groups = g) ?_ (yields_required (yields_any _))
    fun f w hf _ => hf w
  refine .seq (P := fun f => ∀ i w g, (f i w g).groups = g) ?_ (yields_required (yields_any _))
    fun f i hf _ => hf i
  refine .seq (P := fun f => ∀ n i w g, (f n i w g).groups = g) ?_ (yields_required (yields_any _))
    fun f n hf _ => hf n
  exact .map (yields_required (yields_any _)) _ fun _ _ _ _ _ _ => rfl

/-- **A fixture that was read is in order.** -/
theorem Fixture.yields_read : Yields Fixture.read Fixture.Ascending := by
  have hcards : Yields (Reader.table Quotation.numberKey Card.read) _ :=
    yields_table Card.yields_read
  have hbuttons : Yields (Reader.table Quotation.textKey DeclaredButton.read) _ :=
    yields_table (yields_any _)
  have hnone {κ ν : Type} [LT κ] : ({} : Table κ ν).Ascending := List.Pairwise.nil
  -- from the last field to the first, each one adds to what is known of the whole
  refine RecordReader.Yields.outline (.seq (P := fun f => ∀ t, (f t).Ascending) ?_
    (yields_required (yields_any _)) fun f t hf _ => hf t) "SuiteDocument"
  refine .seq (P := fun f => ∀ b t, b.Ascending → (f b t).Ascending) ?_
    (yields_defaulted hbuttons ⟨hnone, by simp⟩) fun f b hf hb t => hf b t hb.1
  refine .seq (P := fun f => ∀ c b t,
    (c.Ascending ∧ ∀ e ∈ c.entries, e.2.groups.Pairwise (· < ·)) → b.Ascending →
      (f c b t).Ascending) ?_
    (yields_defaulted hcards ⟨hnone, by simp⟩) fun f c hf hc b t hb => hf c b t hc hb
  refine .seq (P := fun f => ∀ g c b t,
    (c.Ascending ∧ ∀ e ∈ c.entries, e.2.groups.Pairwise (· < ·)) → b.Ascending →
      (f g c b t).Ascending) ?_
    (yields_defaulted (yields_any _) trivial) fun f g hf _ => hf g
  exact .map (yields_defaulted (yields_any _) trivial) _
    fun _ _ _ _ _ _ hc hb => ⟨hc.1, hc.2, hb⟩

end

end StationBench
