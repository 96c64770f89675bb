import StationBench.Proofs.Coherence
import StationBench.Proofs.History
import StationBench.Run
/-!
# Competitors and their groups

Whatever is done at a station, it shows a card of the suite that may compete, with the first declared
group that the card belongs to, or no card and no group (`competitor_consistent`). The same is true of
the snapshots that it keeps. The suite has no card that belongs to a group it does not declare, so
that a card without a group shown belongs to none.
-/
namespace StationBench

/-! ## Cards and groups of a suite -/

namespace Suite

/-- The first declared group that a card belongs to, in whatever order the card lists its groups. -/
def Calls (suite : Suite) (card : Card) (g : Group) : Prop :=
  ∃ before after, suite.groups = before ++ g :: after ∧ g.groupId ∈ card.groups ∧
    ∀ g' ∈ before, g'.groupId ∉ card.groups

/-- Cards are filed under their own numbers and belong to declared groups only. -/
structure Filed (suite : Suite) : Prop where
  own : ∀ id card, suite.cards.find? id = some card → id = card.registrantId
  declared : ∀ id card, suite.cards.find? id = some card →
    ∀ groupId ∈ card.groups, ∃ g ∈ suite.groups, g.groupId = groupId

variable {suite : Suite}

theorem filed_of_ofFixture {f : Fixture} (h : ofFixture f = .ok suite) : suite.Filed := by
  have hcards : f.CardsFit := (Fixture.exists_ofFixture_iff.1 ⟨suite, h⟩).cards
  obtain ⟨buttons, -, rfl⟩ := Fixture.suiteOf_of_ofFixture h
  refine ⟨?_, ?_⟩
  · intro id card hfound
    exact (hcards _ (mem_of_lookup hfound)).filed
  · intro id card hfound groupId hmem
    exact List.mem_map.1 ((hcards _ (mem_of_lookup hfound)).declared groupId hmem)

theorem groupFor_eq_some_iff {card : Card} {g : Group} :
    groupFor suite.groups card = some g ↔ suite.Calls card g := by
  simp only [groupFor, Calls, List.find?_eq_some_iff_append, List.contains_eq_mem,
    decide_eq_true_eq, Bool.not_eq_true', decide_eq_false_iff_not]
  grind

/-- A card of a suite has a group unless it belongs to none. -/
theorem Filed.groupFor_eq_none_iff (h : suite.Filed) {id : UInt64} {card : Card}
    (hfound : suite.cards.find? id = some card) :
    groupFor suite.groups card = none ↔ card.groups = [] := by
  rw [groupFor, List.find?_eq_none]
  constructor
  · intro hnone
    refine List.eq_nil_iff_forall_not_mem.2 ?_
    intro groupId hmem
    obtain ⟨g, hg, rfl⟩ := h.declared id card hfound groupId hmem
    exact hnone g hg (List.contains_iff_mem.2 hmem)
  · intro hnil g _
    simp [hnil]

end Suite

/-! ## What a station shows -/

/-- What is shown of the competitor of a card. -/
structure Snapshot.Shows (suite : Suite) (s : Snapshot) (card : Card) : Prop where
  known : suite.cards.find? card.registrantId = some card
  admitted : card.canCompete = true
  grouped : card.groups ≠ [] →
    ∃ g, suite.Calls card g ∧ s.groupId = some g.groupId ∧ s.secondaryText = some g.secondaryText
  groupId_eq_none_iff : s.groupId = none ↔ card.groups = []
  secondaryText_eq_none_iff : s.secondaryText = none ↔ card.groups = []

/-- A snapshot shows a competitor as the suite has it, or no competitor and no group. -/
structure Snapshot.Consistent (suite : Suite) (s : Snapshot) : Prop where
  scanned : ∀ card, s.scannedCard = some card → s.Shows suite card
  unscanned : s.scannedCard = none → s.groupId = none ∧ s.secondaryText = none

/-- A station at which competitors of the suite sign on. -/
structure Station.Signed (suite : Suite) (s : Station) : Prop where
  known : ∀ card, s.scannedCard = some card → suite.cards.find? card.registrantId = some card
  admitted : ∀ card, s.scannedCard = some card → card.canCompete = true
  group : s.activeGroup = s.scannedCard.bind (groupFor suite.groups)
  kept : ∀ kept, s.lastSnapshot = some kept → kept.Consistent suite

namespace Station

variable {suite : Suite} {s : Station}

theorem signed_idle : Station.idle.Signed suite :=
  ⟨by rintro _ ⟨⟩, by rintro _ ⟨⟩, rfl, by rintro _ ⟨⟩⟩

/-- What a station shows comes from the card it has. -/
theorem Signed.consistent_snapshot (hfiled : suite.Filed) (h : s.Signed suite) :
    s.snapshot.Consistent suite := by
  refine ⟨?_, ?_⟩
  · intro card hcard
    have hknown := h.known card hcard
    have hgroup : s.activeGroup = groupFor suite.groups card := by
      rw [h.group, show s.scannedCard = some card from hcard]
      rfl
    have hnone : s.activeGroup = none ↔ card.groups = [] := by
      rw [hgroup]
      exact hfiled.groupFor_eq_none_iff hknown
    refine ⟨hknown, h.admitted card hcard, ?_, ?_, ?_⟩
    · intro hne
      obtain ⟨g, hg⟩ := Option.ne_none_iff_exists'.1 (mt hnone.1 hne)
      exact ⟨g, Suite.groupFor_eq_some_iff.1 (hgroup ▸ hg), congrArg (Option.map _) hg,
        congrArg (Option.map _) hg⟩
    · rw [← hnone]
      exact Option.map_eq_none_iff
    · rw [← hnone]
      exact Option.map_eq_none_iff
  · intro hcard
    have hgroup : s.activeGroup = none := by
      rw [h.group, show s.scannedCard = none from hcard]
      rfl
    exact ⟨congrArg (Option.map _) hgroup, congrArg (Option.map _) hgroup⟩

/-- What leaves the card, its group and the kept snapshot alone does not matter. -/
theorem Signed.of_same {s' : Station} (h : s.Signed suite) (hcard : s'.scannedCard = s.scannedCard)
    (hgroup : s'.activeGroup = s.activeGroup) (hkept : s'.lastSnapshot = s.lastSnapshot) :
    s'.Signed suite := by
  obtain ⟨known, admitted, group, kept⟩ := h
  exact ⟨hcard ▸ known, hcard ▸ admitted, by rw [hgroup, hcard, group], hkept ▸ kept⟩

/-- **No move parts a competitor from its group.** -/
theorem Move.signed {settings : Settings} {draws : Draws} {step : Step} {ok : Bool} {s' : Station}
    {sent : List Message} (hfiled : suite.Filed)
    (hmove : Move (suite.rig settings) draws s step ok s' sent) (h : s.Signed suite) :
    s'.Signed suite := by
  cases hmove with
  | scan found admitted =>
    obtain rfl := hfiled.own _ _ found
    refine ⟨?_, ?_, rfl, h.kept⟩
    · rintro _ ⟨⟩
      exact found
    · rintro _ ⟨⟩
      exact admitted
  | snapshot =>
    refine ⟨h.known, h.admitted, h.group, ?_⟩
    rintro _ ⟨⟩
    exact h.consistent_snapshot hfiled
  | reset => exact signed_idle
  -- only a scan, a snapshot and a reset touch the card, its group or the kept snapshot
  | _ => exact h.of_same rfl rfl rfl

end Station

/-! ## Runs -/

/-- **Competitor and group stay consistent**: whatever is done from an idle station on, at every
point a snapshot of the station, and the one that it keeps, shows the suite's card of a competitor
with its first declared group. -/
theorem competitor_consistent {f : Fixture} {suite : Suite} (h : Suite.ofFixture f = .ok suite)
    (settings : Settings) (flow : Flow) (i : Nat) (steps : List Step) {b : Bench}
    (hb : b.station = .idle) {past : List (Turn (suite.rig settings))}
    (hpast : past <+: Trace.turns (suite.rig settings) flow i steps b) :
    (Trace.benchAfter b past).station.snapshot.Consistent suite ∧
      ∀ kept, (Trace.benchAfter b past).station.lastSnapshot = some kept → kept.Consistent suite := by
  have hfiled := Suite.filed_of_ofFixture h
  have hsigned : (Trace.benchAfter b past).station.Signed suite :=
    Trace.turns_induction (P := fun _ b' => b'.station.Signed suite) (hb ▸ Station.signed_idle)
      (fun _ _ _ hs => hs) (fun _ t hs => t.move.2.signed hfiled hs) hpast
  exact ⟨hsigned.consistent_snapshot hfiled, hsigned.kept⟩

/-- A card of two groups shows the one that is declared first, though it lists it last. -/
theorem competitor_consistent_two_groups :
    let card : Card := ⟨true, "Ada", 42, "2019LOVE01", ["A", "B"]⟩
    let f : Fixture :=
      { dumpStateAfterTest := false, groups := [⟨"B", false, "later"⟩, ⟨"A", true, "sooner"⟩]
        cards := ⟨[(42, card)]⟩, buttons := {}, tests := [] }
    let suite : Suite := f.suiteOf []
    let rig : Rig := suite.rig {}
    let b : Bench := .start rig 7
    let turns : List (Turn rig) := Trace.turns rig ⟨10, true⟩ 0 [.scanCard 42, .snapshot] b
    Suite.ofFixture f = .ok suite ∧ b.station = .idle ∧ turns <+: turns ∧
      ∃ kept, (Trace.benchAfter b turns).station.lastSnapshot = some kept ∧
        kept.groupId = some "B" ∧ kept.Consistent suite := by
  intro card f suite rig b turns
  have hsuite : Suite.ofFixture f = .ok suite := rfl
  have hidle : b.station = .idle := rfl
  have hall : turns <+: turns := List.prefix_rfl
  obtain ⟨-, hkept⟩ := competitor_consistent hsuite {} ⟨10, true⟩ 0 _ hidle hall
  exact ⟨hsuite, hidle, hall, _, rfl, rfl, hkept _ rfl⟩

end StationBench
