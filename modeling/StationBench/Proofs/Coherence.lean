import StationBench.Proofs.Ascending
import StationBench.Proofs.Lookup
import StationBench.Suite.Loading
/-!
# Fixtures that hold together

A fixture becomes a suite if and only if it holds together (`Fixture.Coherent`), and then the suite
has all that the fixture declares, with every button bound. Any other fixture is refused for its first
fault (`Fixture.FirstFault`): groups are looked at as they are declared, then cards by number and
buttons by name, and then what the tests compare (`validation_exact`).
-/
namespace StationBench

/-! ## What a button does -/

namespace ButtonAction

/-- The names that imply an action, in lower case. -/
def conventional : ButtonAction → List String
  | .submit => ["submit", "ok", "confirm"]
  | .penalty => ["penalty"]
  | .delegate => ["delegate"]
  | .inspection => ["inspection"]
  | .clear => ["clear", "reset"]

/-- A name with its ASCII letters in lower case. -/
def lowered (name : String) : String := String.ofList (name.toList.map Char.toLower)

theorem ofName_eq_some_iff {name : String} {action : ButtonAction} :
    ofName name = some action ↔ lowered name ∈ action.conventional := by
  rw [ofName, lookup_eq_some_iff_mem (by decide)]
  cases action <;> simp [conventional, lowered]

end ButtonAction

namespace DeclaredButton

/-- A button does what it is declared to do; if nothing is declared, what its name implies. -/
def Does (name : String) (b : DeclaredButton) (action : ButtonAction) : Prop :=
  b.action = some action ∨ b.action = none ∧ ButtonAction.lowered name ∈ action.conventional

variable {name : String} {b : DeclaredButton}

theorem does_iff {action : ButtonAction} :
    b.Does name action ↔ b.action.or (ButtonAction.ofName name) = some action := by
  rw [Option.or_eq_some_iff, ButtonAction.ofName_eq_some_iff]
  rfl

theorem bind_eq_ok_iff {binding : ButtonBinding} :
    b.bind name = .ok binding ↔ binding.pins = b.pins ∧ b.Does name binding.action := by
  rw [does_iff, bind]
  cases b.action.or (ButtonAction.ofName name) with
  | none => simp
  | some action =>
    constructor
    · rintro ⟨⟩
      exact ⟨rfl, rfl⟩
    · rintro ⟨hpins, ⟨⟩⟩
      rw [← hpins]

theorem failureOf?_bind_eq_some_iff {fault : SuiteFault} :
    failureOf? (b.bind name) = some fault ↔
      (∀ action, ¬ b.Does name action) ∧ fault = .idleButton name := by
  simp only [does_iff]
  rw [bind]
  cases b.action.or (ButtonAction.ofName name) with
  | none => simp [failureOf?, eq_comm (b := fault)]
  | some action => simp [failureOf?]

theorem failureOf?_bind_eq_none_iff :
    failureOf? (b.bind name) = none ↔ ∃ action, b.Does name action := by
  simp only [does_iff]
  rw [bind]
  cases b.action.or (ButtonAction.ofName name) <;> simp [failureOf?]

end DeclaredButton

/-! ## Fixtures that hold together, and those that do not -/

/-- A snapshot has every field that the step compares. -/
def Step.KnowsFields (s : Step) : Prop :=
  ∀ fields, s = .verifySnapshot (some fields) → ∀ field ∈ fields, field ∈ Snapshot.fieldNames

namespace Fixture

/-- A group of this identifier is declared. -/
def Declares (f : Fixture) (groupId : String) : Prop := groupId ∈ f.groups.map Group.groupId

/-- No two groups have the same identifier. -/
def DistinctGroups (f : Fixture) : Prop := (f.groups.map Group.groupId).Nodup

/-- The card is filed under its competitor's number and belongs to declared groups only. -/
structure Fits (f : Fixture) (key : UInt64) (card : Card) : Prop where
  filed : key = card.registrantId
  declared : ∀ groupId ∈ card.groups, f.Declares groupId

def CardsFit (f : Fixture) : Prop := ∀ e ∈ f.cards.entries, f.Fits e.1 e.2

def ButtonsAct (f : Fixture) : Prop := ∀ e ∈ f.buttons.entries, ∃ action, e.2.Does e.1 action

/-- A fixture that holds together. -/
structure Coherent (f : Fixture) : Prop where
  groups : f.DistinctGroups
  cards : f.CardsFit
  buttons : f.ButtonsAct
  fields : ∀ t ∈ f.tests, ∀ s ∈ t.steps, s.KnowsFields

/-- **The first fault of a fixture**: what is looked at before it is as it should be. -/
inductive FirstFault (f : Fixture) : SuiteFault → Prop
  /-- The first group, as they are declared, whose identifier one before it has. -/
  | repeatedGroup {before after : List String} {groupId : String}
      (order : f.groups.map Group.groupId = before ++ groupId :: after)
      (distinct : before.Nodup) (again : groupId ∈ before) :
    FirstFault f (.repeatedGroup groupId)
  /-- The card of the least number, of those that do not fit, under another number than its own. -/
  | misfiledCard {key : UInt64} {card : Card} (groups : f.DistinctGroups)
      (declared : (key, card) ∈ f.cards.entries)
      (first : ∀ e ∈ f.cards.entries, e.1 < key → f.Fits e.1 e.2)
      (misfiled : key ≠ card.registrantId) :
    FirstFault f (.misfiledCard key card.registrantId)
  /-- The card of the least number, of those that do not fit, with its least undeclared group. -/
  | undeclaredGroup {key : UInt64} {card : Card} {groupId : String} (groups : f.DistinctGroups)
      (declared : (key, card) ∈ f.cards.entries)
      (first : ∀ e ∈ f.cards.entries, e.1 < key → f.Fits e.1 e.2)
      (filed : key = card.registrantId) (listed : groupId ∈ card.groups)
      (undeclared : ¬ f.Declares groupId)
      (least : ∀ groupId' ∈ card.groups, groupId' < groupId → f.Declares groupId') :
    FirstFault f (.undeclaredGroup key groupId)
  /-- The button of the least name, of those that do nothing. -/
  | idleButton {name : String} {b : DeclaredButton} (groups : f.DistinctGroups) (cards : f.CardsFit)
      (declared : (name, b) ∈ f.buttons.entries)
      (first : ∀ e ∈ f.buttons.entries, e.1 < name → ∃ action, e.2.Does e.1 action)
      (idle : ∀ action, ¬ b.Does name action) :
    FirstFault f (.idleButton name)
  /-- The first field, in the order of tests, steps and fields, that no snapshot has. -/
  | unknownSnapshotField {testsBefore testsAfter : List Test} {t : Test}
      {stepsBefore stepsAfter : List Step} {fieldsBefore fieldsAfter : List String} {field : String}
      (groups : f.DistinctGroups) (cards : f.CardsFit) (buttons : f.ButtonsAct)
      (tests : f.tests = testsBefore ++ t :: testsAfter)
      (earlierTests : ∀ t' ∈ testsBefore, ∀ s ∈ t'.steps, s.KnowsFields)
      (steps : t.steps = stepsBefore ++
        .verifySnapshot (some (fieldsBefore ++ field :: fieldsAfter)) :: stepsAfter)
      (earlierSteps : ∀ s ∈ stepsBefore, s.KnowsFields)
      (earlierFields : ∀ field' ∈ fieldsBefore, field' ∈ Snapshot.fieldNames)
      (unknown : field ∉ Snapshot.fieldNames) :
    FirstFault f (.unknownSnapshotField t.name field)

end Fixture

/-- The suite has what the fixture declares, and one binding for each button: with the button's
pins and with what the button does. -/
structure Suite.MadeFrom (s : Suite) (f : Fixture) : Prop where
  dumps : s.dumpStateAfterTest = f.dumpStateAfterTest
  groups : s.groups = f.groups
  cards : s.cards = f.cards
  tests : s.tests = f.tests
  bindings : List.Forall₂
    (fun b e => e.1 = b.1 ∧ e.2.pins = b.2.pins ∧ b.2.Does b.1 e.2.action)
    f.buttons.entries s.buttons.entries
  names : (s.buttons.entries.map Prod.fst).Nodup

/-! ## The four checks -/

namespace Fixture

variable {f : Fixture}

/-- The fault of the groups, if they have any. -/
def groupFault? (f : Fixture) : Option SuiteFault :=
  (firstRepeated [] (f.groups.map Group.groupId)).map .repeatedGroup

/-- The fault of the cards. -/
def cardFault? (f : Fixture) : Option SuiteFault :=
  f.cards.entries.findSome? fun e => e.2.fault? (f.groups.map Group.groupId) e.1

/-- The bindings of the buttons. -/
def bindings (f : Fixture) : Except SuiteFault (List (String × ButtonBinding)) :=
  f.buttons.entries.mapM fun e => do return (e.1, ← e.2.bind e.1)

/-- The fault of what the tests compare. -/
def fieldFault? (f : Fixture) : Option SuiteFault := f.tests.findSome? Test.fault?

/-- The suite of a fixture, once its buttons are bound. -/
def suiteOf (f : Fixture) (buttons : List (String × ButtonBinding)) : Suite where
  dumpStateAfterTest := f.dumpStateAfterTest
  groups := f.groups
  cards := f.cards
  buttons := ⟨buttons⟩
  tests := f.tests

theorem ofFixture_eq : Suite.ofFixture f = (do
    refuse f.groupFault?
    refuse f.cardFault?
    let buttons ← f.bindings
    refuse f.fieldFault?
    return f.suiteOf buttons) := rfl

/-- The first of the four checks that finds a fault decides. -/
theorem failureOf?_ofFixture :
    failureOf? (Suite.ofFixture f) =
      f.groupFault?.or (f.cardFault?.or ((failureOf? f.bindings).or f.fieldFault?)) := by
  rw [ofFixture_eq]
  cases f.groupFault? with
  | some fault => rfl
  | none =>
    cases f.cardFault? with
    | some fault => rfl
    | none =>
      cases f.bindings with
      | error fault => rfl
      | ok buttons => cases f.fieldFault? <;> rfl

theorem suiteOf_of_ofFixture {s : Suite} (h : Suite.ofFixture f = .ok s) :
    ∃ buttons, f.bindings = .ok buttons ∧ s = f.suiteOf buttons := by
  rw [ofFixture_eq] at h
  obtain ⟨-, -, h⟩ := ok_of_bind h
  obtain ⟨-, -, h⟩ := ok_of_bind h
  obtain ⟨buttons, hbuttons, h⟩ := ok_of_bind h
  obtain ⟨-, -, h⟩ := ok_of_bind h
  exact ⟨buttons, hbuttons, (Except.ok.inj h).symm⟩

/-! ### Groups -/

theorem firstRepeated_cons_of_mem {seen rest : List String} {a : String} (h : a ∈ seen) :
    firstRepeated seen (a :: rest) = some a := by
  rw [firstRepeated, if_pos (List.contains_iff_mem.2 h)]

theorem firstRepeated_cons_of_not_mem {seen rest : List String} {a : String} (h : a ∉ seen) :
    firstRepeated seen (a :: rest) = firstRepeated (a :: seen) rest := by
  rw [firstRepeated, if_neg (mt List.contains_iff_mem.1 h)]

/-- Elements that are new, each once, are passed over. -/
theorem firstRepeated_append {seen before rest : List String} (hnodup : before.Nodup)
    (hnew : ∀ x ∈ before, x ∉ seen) :
    firstRepeated seen (before ++ rest) = firstRepeated (before.reverse ++ seen) rest := by
  induction before generalizing seen with
  | nil => rfl
  | cons b before ih =>
    obtain ⟨hfresh, hnodup⟩ := List.nodup_cons.1 hnodup
    rw [List.cons_append, firstRepeated_cons_of_not_mem (hnew b List.mem_cons_self), ih hnodup,
      List.reverse_cons, List.append_assoc, List.singleton_append]
    intro x hx hseen
    rcases List.mem_cons.1 hseen with rfl | hseen
    · exact hfresh hx
    · exact hnew x (List.mem_cons_of_mem _ hx) hseen

theorem exists_append_of_firstRepeated {seen l : List String} {a : String}
    (h : firstRepeated seen l = some a) :
    ∃ before after, l = before ++ a :: after ∧ before.Nodup ∧ (∀ x ∈ before, x ∉ seen) ∧
      (a ∈ seen ∨ a ∈ before) := by
  induction l generalizing seen with
  | nil => cases h
  | cons b rest ih =>
    by_cases hb : b ∈ seen
    · rw [firstRepeated_cons_of_mem hb] at h
      obtain rfl := Option.some.inj h
      exact ⟨[], rest, rfl, List.nodup_nil, by simp, Or.inl hb⟩
    · rw [firstRepeated_cons_of_not_mem hb] at h
      obtain ⟨before, after, rfl, hnodup, hnew, hagain⟩ := ih h
      simp only [List.mem_cons, not_or] at hnew hagain
      refine ⟨b :: before, after, rfl, List.nodup_cons.2 ⟨?_, hnodup⟩, ?_, ?_⟩
      · intro hmem
        exact (hnew b hmem).1 rfl
      · rw [List.forall_mem_cons]
        exact ⟨hb, fun x hx => (hnew x hx).2⟩
      · rw [List.mem_cons]
        tauto

theorem firstRepeated_nil_eq_some_iff {l : List String} {a : String} :
    firstRepeated [] l = some a ↔
      ∃ before after, l = before ++ a :: after ∧ before.Nodup ∧ a ∈ before := by
  constructor
  · intro h
    obtain ⟨before, after, horder, hnodup, -, hagain⟩ := exists_append_of_firstRepeated h
    exact ⟨before, after, horder, hnodup, hagain.resolve_left List.not_mem_nil⟩
  · rintro ⟨before, after, rfl, hnodup, hagain⟩
    rw [firstRepeated_append hnodup fun x _ => List.not_mem_nil]
    exact firstRepeated_cons_of_mem (by simpa using hagain)

theorem nodup_of_firstRepeated {seen l : List String} (h : firstRepeated seen l = none) :
    l.Nodup ∧ ∀ a ∈ l, a ∉ seen := by
  induction l generalizing seen with
  | nil => exact ⟨List.nodup_nil, by simp⟩
  | cons b rest ih =>
    by_cases hb : b ∈ seen
    · rw [firstRepeated_cons_of_mem hb] at h
      cases h
    · rw [firstRepeated_cons_of_not_mem hb] at h
      obtain ⟨hnodup, hnew⟩ := ih h
      simp only [List.mem_cons, not_or] at hnew
      rw [List.nodup_cons, List.forall_mem_cons]
      exact ⟨⟨fun hmem => (hnew b hmem).1 rfl, hnodup⟩, hb, fun x hx => (hnew x hx).2⟩

theorem firstRepeated_nil_eq_none_iff {l : List String} : firstRepeated [] l = none ↔ l.Nodup := by
  refine ⟨fun h => (nodup_of_firstRepeated h).1, ?_⟩
  intro hnodup
  rw [← l.append_nil, firstRepeated_append hnodup fun x _ => List.not_mem_nil]
  rfl

theorem groupFault?_eq_none_iff : f.groupFault? = none ↔ f.DistinctGroups := by
  rw [groupFault?, Option.map_eq_none_iff, firstRepeated_nil_eq_none_iff, DistinctGroups]

theorem groupFault?_eq_some_iff {fault : SuiteFault} :
    f.groupFault? = some fault ↔
      ∃ before groupId after, f.groups.map Group.groupId = before ++ groupId :: after ∧
        before.Nodup ∧ groupId ∈ before ∧ fault = .repeatedGroup groupId := by
  simp only [groupFault?, Option.map_eq_some_iff, firstRepeated_nil_eq_some_iff]
  constructor
  · rintro ⟨groupId, ⟨before, after, horder, hnodup, hagain⟩, rfl⟩
    exact ⟨before, groupId, after, horder, hnodup, hagain, rfl⟩
  · rintro ⟨before, groupId, after, horder, hnodup, hagain, rfl⟩
    exact ⟨groupId, ⟨before, after, horder, hnodup, hagain⟩, rfl⟩

/-! ### Cards -/

theorem not_contains_iff {groupId : String} :
    (!(f.groups.map Group.groupId).contains groupId) = true ↔ ¬ f.Declares groupId := by
  simp [Declares]

theorem card_fault?_eq_none_iff {key : UInt64} {card : Card} :
    card.fault? (f.groups.map Group.groupId) key = none ↔ f.Fits key card := by
  rw [Card.fault?]
  split
  · next hne => exact ⟨by rintro ⟨⟩, fun h => absurd h.filed hne⟩
  · next heq =>
    simp only [Option.map_eq_none_iff, List.find?_eq_none, not_contains_iff, not_not]
    exact ⟨fun h => ⟨not_not.1 heq, h⟩, Fits.declared⟩

theorem card_fault?_eq_some_iff {key : UInt64} {card : Card}
    (hasc : card.groups.Pairwise (· < ·)) {fault : SuiteFault} :
    card.fault? (f.groups.map Group.groupId) key = some fault ↔
      (key ≠ card.registrantId ∧ fault = .misfiledCard key card.registrantId) ∨
      (key = card.registrantId ∧ ∃ groupId ∈ card.groups, ¬ f.Declares groupId ∧
        (∀ groupId' ∈ card.groups, groupId' < groupId → f.Declares groupId') ∧
        fault = .undeclaredGroup key groupId) := by
  rw [Card.fault?]
  split
  · next hne =>
    constructor
    · rintro ⟨⟩
      exact Or.inl ⟨hne, rfl⟩
    · rintro (⟨-, rfl⟩ | ⟨heq, -⟩)
      · rfl
      · exact absurd heq hne
  · next heq =>
    simp only [Option.map_eq_some_iff, find?_eq_some_iff_of_ascending hasc, not_contains_iff,
      ← Bool.not_eq_true, not_not, not_not.1 heq]
    grind

theorem cardFault?_eq_none_iff : f.cardFault? = none ↔ f.CardsFit := by
  simp only [cardFault?, List.findSome?_eq_none_iff, card_fault?_eq_none_iff, CardsFit]

theorem cardFault?_eq_some_iff (h : f.cards.Ascending) {fault : SuiteFault} :
    f.cardFault? = some fault ↔
      ∃ e ∈ f.cards.entries, e.2.fault? (f.groups.map Group.groupId) e.1 = some fault ∧
        ∀ e' ∈ f.cards.entries, e'.1 < e.1 → f.Fits e'.1 e'.2 := by
  simp only [cardFault?, findSome?_eq_some_iff_of_ascending h, card_fault?_eq_none_iff]

/-! ### Buttons -/

theorem entry_eq_ok_iff {b : String × DeclaredButton} {e : String × ButtonBinding} :
    (do return (b.1, ← b.2.bind b.1) : Except SuiteFault (String × ButtonBinding)) = .ok e ↔
      e.1 = b.1 ∧ e.2.pins = b.2.pins ∧ b.2.Does b.1 e.2.action := by
  rw [← DeclaredButton.bind_eq_ok_iff]
  constructor
  · intro h
    obtain ⟨binding, hbinding, heq⟩ := ok_of_bind h
    obtain rfl := Except.ok.inj heq
    exact ⟨rfl, hbinding⟩
  · rintro ⟨hname, hbinding⟩
    rw [hbinding]
    exact congrArg Except.ok (Prod.ext hname.symm rfl)

theorem bindings_eq_ok_iff {l : List (String × ButtonBinding)} :
    f.bindings = .ok l ↔
      List.Forall₂ (fun b e => e.1 = b.1 ∧ e.2.pins = b.2.pins ∧ b.2.Does b.1 e.2.action)
        f.buttons.entries l := by
  simp only [bindings, mapM_eq_ok_iff, entry_eq_ok_iff]

theorem failureOf?_bindings_eq_none_iff : failureOf? f.bindings = none ↔ f.ButtonsAct := by
  simp only [bindings, failureOf?_mapM, bind_pure_comp, failureOf?_map, List.findSome?_eq_none_iff,
    DeclaredButton.failureOf?_bind_eq_none_iff, ButtonsAct]

theorem failureOf?_bindings_eq_some_iff (h : f.buttons.Ascending) {fault : SuiteFault} :
    failureOf? f.bindings = some fault ↔
      ∃ e ∈ f.buttons.entries,
        ((∀ action, ¬ e.2.Does e.1 action) ∧ fault = .idleButton e.1) ∧
        ∀ e' ∈ f.buttons.entries, e'.1 < e.1 → ∃ action, e'.2.Does e'.1 action := by
  simp only [bindings, failureOf?_mapM, bind_pure_comp, failureOf?_map,
    findSome?_eq_some_iff_of_ascending h, DeclaredButton.failureOf?_bind_eq_none_iff,
    DeclaredButton.failureOf?_bind_eq_some_iff]

/-! ### Compared fields -/

theorem step_unknownField?_eq_none_iff {s : Step} :
    s.unknownField? = none ↔ s.KnowsFields := by
  rw [Step.KnowsFields]
  unfold Step.unknownField?
  split
  · next fields => simp
  · next h =>
    simp only [true_iff]
    rintro fields rfl
    exact absurd rfl (h fields)

theorem step_unknownField?_eq_some_iff {s : Step} {field : String} :
    s.unknownField? = some field ↔
      ∃ before after, s = .verifySnapshot (some (before ++ field :: after)) ∧
        (∀ x ∈ before, x ∈ Snapshot.fieldNames) ∧ field ∉ Snapshot.fieldNames := by
  unfold Step.unknownField?
  split
  · next fields =>
    simp only [List.find?_eq_some_iff_append, Step.verifySnapshot.injEq, Option.some.injEq,
      List.contains_eq_mem, Bool.not_eq_true', decide_eq_false_iff_not, Bool.not_not,
      decide_eq_true_eq]
    grind
  · next h =>
    constructor
    · rintro ⟨⟩
    · rintro ⟨before, after, rfl, -⟩
      exact absurd rfl (h _)

theorem test_fault?_eq_none_iff {t : Test} : t.fault? = none ↔ ∀ s ∈ t.steps, s.KnowsFields := by
  simp only [Test.fault?, Option.map_eq_none_iff, List.findSome?_eq_none_iff,
    step_unknownField?_eq_none_iff]

theorem fieldFault?_eq_none_iff :
    f.fieldFault? = none ↔ ∀ t ∈ f.tests, ∀ s ∈ t.steps, s.KnowsFields := by
  simp only [fieldFault?, List.findSome?_eq_none_iff, test_fault?_eq_none_iff]

theorem fieldFault?_eq_some_iff {fault : SuiteFault} :
    f.fieldFault? = some fault ↔
      ∃ testsBefore t testsAfter, f.tests = testsBefore ++ t :: testsAfter ∧
        (∀ t' ∈ testsBefore, ∀ s ∈ t'.steps, s.KnowsFields) ∧
        ∃ stepsBefore before field after stepsAfter,
          t.steps = stepsBefore ++ .verifySnapshot (some (before ++ field :: after)) :: stepsAfter ∧
          (∀ s ∈ stepsBefore, s.KnowsFields) ∧ (∀ x ∈ before, x ∈ Snapshot.fieldNames) ∧
          field ∉ Snapshot.fieldNames ∧ fault = .unknownSnapshotField t.name field := by
  simp only [fieldFault?, List.findSome?_eq_some_iff, test_fault?_eq_none_iff]
  constructor
  · rintro ⟨testsBefore, t, testsAfter, hl, hfault, hbefore⟩
    obtain ⟨field, hfield, rfl⟩ := Option.map_eq_some_iff.1 hfault
    obtain ⟨stepsBefore, s, stepsAfter, hsteps, hs, hstepsBefore⟩ :=
      List.findSome?_eq_some_iff.1 hfield
    obtain ⟨before, after, rfl, hknown, hunknown⟩ := step_unknownField?_eq_some_iff.1 hs
    refine ⟨testsBefore, t, testsAfter, hl, hbefore, stepsBefore, before, field, after, stepsAfter,
      hsteps, ?_, hknown, hunknown, rfl⟩
    intro s hs
    exact step_unknownField?_eq_none_iff.1 (hstepsBefore s hs)
  · rintro ⟨testsBefore, t, testsAfter, hl, hbefore, stepsBefore, before, field, after, stepsAfter,
      hsteps, hstepsBefore, hknown, hunknown, rfl⟩
    refine ⟨testsBefore, t, testsAfter, hl, Option.map_eq_some_iff.2 ⟨field, ?_, rfl⟩, hbefore⟩
    refine List.findSome?_eq_some_iff.2 ⟨stepsBefore, _, stepsAfter, hsteps,
      step_unknownField?_eq_some_iff.2 ⟨before, after, rfl, hknown, hunknown⟩, ?_⟩
    intro s hs
    exact step_unknownField?_eq_none_iff.2 (hstepsBefore s hs)

/-! ## Validation -/

/-- A fixture becomes a suite if and only if it holds together. -/
theorem exists_ofFixture_iff : (∃ s, Suite.ofFixture f = .ok s) ↔ f.Coherent := by
  rw [← failureOf?_eq_none_iff, failureOf?_ofFixture]
  simp only [Option.or_eq_none_iff, groupFault?_eq_none_iff, cardFault?_eq_none_iff,
    failureOf?_bindings_eq_none_iff, fieldFault?_eq_none_iff]
  constructor
  · rintro ⟨groups, cards, buttons, fields⟩
    exact ⟨groups, cards, buttons, fields⟩
  · rintro ⟨groups, cards, buttons, fields⟩
    exact ⟨groups, cards, buttons, fields⟩

/-- A fixture that is in order is refused for its first fault. -/
theorem ofFixture_eq_error_iff (h : f.Ascending) {fault : SuiteFault} :
    Suite.ofFixture f = .error fault ↔ f.FirstFault fault := by
  rw [← failureOf?_eq_some_iff, failureOf?_ofFixture]
  simp only [Option.or_eq_some_iff, groupFault?_eq_none_iff, cardFault?_eq_none_iff,
    failureOf?_bindings_eq_none_iff, groupFault?_eq_some_iff, cardFault?_eq_some_iff h.cards,
    failureOf?_bindings_eq_some_iff h.buttons, fieldFault?_eq_some_iff]
  -- one constructor for each way in which a check finds a fault when those before it found none
  constructor
  · rintro (⟨before, groupId, after, order, distinct, again, rfl⟩ |
      ⟨groups, hcards | ⟨cards, hrest⟩⟩)
    · exact .repeatedGroup order distinct again
    · obtain ⟨e, declared, hfault, first⟩ := hcards
      rcases (card_fault?_eq_some_iff (h.groups e declared)).1 hfault with
        ⟨misfiled, rfl⟩ | ⟨filed, groupId, listed, undeclared, least, rfl⟩
      · exact .misfiledCard groups declared first misfiled
      · exact .undeclaredGroup groups declared first filed listed undeclared least
    · rcases hrest with ⟨e, declared, ⟨idle, rfl⟩, first⟩ | ⟨buttons, testsBefore, t, testsAfter,
        tests, earlierTests, stepsBefore, before, field, after, stepsAfter, steps, earlierSteps,
        earlierFields, unknown, rfl⟩
      · exact .idleButton groups cards declared first idle
      · exact .unknownSnapshotField groups cards buttons tests earlierTests steps earlierSteps
          earlierFields unknown
  · intro hfirst
    cases hfirst with
    | repeatedGroup order distinct again => exact Or.inl ⟨_, _, _, order, distinct, again, rfl⟩
    | misfiledCard groups declared first misfiled =>
      refine Or.inr ⟨groups, Or.inl ⟨_, declared, ?_, first⟩⟩
      exact (card_fault?_eq_some_iff (h.groups _ declared)).2 (Or.inl ⟨misfiled, rfl⟩)
    | undeclaredGroup groups declared first filed listed undeclared least =>
      refine Or.inr ⟨groups, Or.inl ⟨_, declared, ?_, first⟩⟩
      exact (card_fault?_eq_some_iff (h.groups _ declared)).2
        (Or.inr ⟨filed, _, listed, undeclared, least, rfl⟩)
    | idleButton groups cards declared first idle =>
      exact Or.inr ⟨groups, Or.inr ⟨cards, Or.inl ⟨_, declared, ⟨idle, rfl⟩, first⟩⟩⟩
    | unknownSnapshotField groups cards buttons tests earlierTests steps earlierSteps earlierFields
        unknown =>
      exact Or.inr ⟨groups, Or.inr ⟨cards, Or.inr ⟨buttons, _, _, _, tests, earlierTests,
        _, _, _, _, _, steps, earlierSteps, earlierFields, unknown, rfl⟩⟩⟩

/-- A suite has what its fixture declares. -/
theorem madeFrom_of_ofFixture (h : f.Ascending) {s : Suite} (hs : Suite.ofFixture f = .ok s) :
    s.MadeFrom f := by
  obtain ⟨buttons, hbuttons, rfl⟩ := suiteOf_of_ofFixture hs
  have hbound := bindings_eq_ok_iff.1 hbuttons
  refine ⟨rfl, rfl, rfl, rfl, hbound, ?_⟩
  have hnames : f.buttons.entries.map Prod.fst = buttons.map Prod.fst := by
    rw [← List.forall₂_eq_eq_eq, List.forall₂_map_left_iff, List.forall₂_map_right_iff]
    exact hbound.imp fun _ _ hb => hb.1.symm
  rw [suiteOf, ← hnames]
  refine (List.pairwise_map.2 h.buttons).imp ?_
  rintro name name' hlt rfl
  exact Std.lt_irrefl hlt

end Fixture

theorem Suite.ofText_of_read {text : String} {f : Fixture}
    (h : Json.read Fixture.read text = .ok f) : ofText text = (ofFixture f).mapError .invalid := by
  rw [ofText, h]
  rfl

/-- A fixture that was read is in order, however its text arranges it. -/
theorem Fixture.ascending_of_read {text : String} {f : Fixture}
    (h : Json.read Fixture.read text = .ok f) : f.Ascending :=
  yields_read.of_read h

/-- **Validation is exact**: for every text that is a fixture's, the fixture becomes a suite if and
only if it holds together; the suite then has what the fixture declares; and any other fixture is
refused for its first fault, which is what the loader of the text reports. -/
theorem validation_exact {text : String} {f : Fixture} (h : Json.read Fixture.read text = .ok f) :
    ((∃ s, Suite.ofFixture f = .ok s) ↔ f.Coherent) ∧
    (∀ s, Suite.ofFixture f = .ok s → s.MadeFrom f) ∧
    (∀ fault, Suite.ofFixture f = .error fault ↔ f.FirstFault fault) ∧
    Suite.ofText text = (Suite.ofFixture f).mapError .invalid := by
  have hasc := Fixture.ascending_of_read h
  exact ⟨Fixture.exists_ofFixture_iff, fun s => Fixture.madeFrom_of_ofFixture hasc,
    fun fault => Fixture.ofFixture_eq_error_iff hasc, Suite.ofText_of_read h⟩

/-- Of two cards under other numbers than their own, the one that stands later has the lesser
number. -/
theorem validation_exact_misfiled :
    let text : String :=
      "\x7b\"cards\":\x7b\"9\":[true,\"\",1,\"\"],\"7\":[true,\"\",8,\"\"]\x7d,\"tests\":[]\x7d"
    let f : Fixture :=
      { dumpStateAfterTest := false, groups := []
        cards := ⟨[(7, ⟨true, "", 8, "", []⟩), (9, ⟨true, "", 1, "", []⟩)]⟩
        buttons := {}, tests := [] }
    Json.read Fixture.read text = .ok f ∧
      Suite.ofText text = .error (.invalid (.misfiledCard 7 8)) := by
  intro text f
  have hread : Json.read Fixture.read text = .ok f := eq_ok_of_toOption (by decide +kernel)
  obtain ⟨-, -, hrefused, htext⟩ := validation_exact hread
  have first : ∀ e ∈ f.cards.entries, e.1 < 7 → f.Fits e.1 e.2 := by
    intro e he hlt
    rcases List.mem_pair.1 he with rfl | rfl <;> exact absurd hlt (by decide)
  have groups : f.DistinctGroups := List.nodup_nil
  have hfault : f.FirstFault (.misfiledCard 7 8) :=
    .misfiledCard groups List.mem_cons_self first (by decide)
  rw [htext, (hrefused _).2 hfault]
  exact ⟨hread, rfl⟩

end StationBench
