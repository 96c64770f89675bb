import StationBench.Proofs.Legible
import StationBench.Proofs.Provenance
/-!
# What a dump is read off

The parts of a dump are legible, as far as penalties are concerned those that are canonical
(`Message.legible`, `Snapshot.legible`, `StateDump.legible`). At every point of a test of a suite
that was loaded they are (`Suite.canonical_benchAfter`). A snapshot is compared field by field
(`Snapshot.Field`), and two snapshots write the same in a field if and only if they agree in it
(`Snapshot.agrees_iff_same`).
-/
namespace StationBench
open Json

/-- Any times, and the penalties that are canonical. -/
def Sources.canonical : Sources := ⟨fun _ => True, Penalty.Canonical⟩

structure StateDump.From (d : StateDump) (S : Sources) : Prop where
  snapshot : d.snapshot.From S
  lastSnapshot : ∀ s, d.lastSnapshot = some s → s.From S
  sent : ∀ m ∈ d.sent, m.From S

/-! ## Scalars -/

namespace Penalty

variable {p q : Penalty}

theorem ofInt64_toInt64 (h : p.Canonical) : ofInt64 p.toInt64 = p := by
  cases p with
  | other n =>
    obtain ⟨h0, h2, h1, h3⟩ := h n rfl
    simp [toInt64, ofInt64, h0, h2, h1, h3]
  | none | plusTwo | dnf | dns => rfl

/-- Canonical penalties are told apart by their integers. -/
theorem toInt64_inj (hp : p.Canonical) (hq : q.Canonical) : p.toInt64 = q.toInt64 ↔ p = q := by
  constructor
  · intro h
    rw [← ofInt64_toInt64 hp, h, ofInt64_toInt64 hq]
  · rintro rfl
    rfl

theorem legible : Legible Canonical toJson :=
  fun _ _ hp hq h => (toInt64_inj hp hq).1 (legible_int64 trivial trivial h)

end Penalty

theorem ButtonAction.legible : Legible (fun _ => True) ButtonAction.toJson := by
  intro a b _ _ h
  have hname : a.name = b.name := Value.string.inj h
  cases a <;> cases b <;> first | rfl | exact absurd hname (by decide)

theorem Precondition.name_injective : Function.Injective Precondition.name := by
  intro a b h
  cases a <;> cases b <;> first | rfl | exact absurd h (by decide)

/-! ## Records -/

theorem legible_optionalString : Legible (fun _ => True) (Value.ofOption .string) :=
  (legible_string.ofOption nofun).mono fun _ _ _ _ => trivial

theorem legible_optionalUInt64 : Legible (fun _ => True) (Value.ofOption .ofUInt64) :=
  (legible_uint64.ofOption nofun).mono fun _ _ _ _ => trivial

theorem Message.legible : Legible (·.From .canonical) Message.toJson := by
  intro m m' hm hm' h
  have hfields := h.of_fields (by simp) rfl
  simp only [List.map_cons, List.map_nil, List.forall₂_cons] at hfields
  obtain ⟨htime, hpenalty, hdelegate, -⟩ := hfields
  rw [Message.mk.injEq]
  exact ⟨legible_optionalUInt64 trivial trivial htime,
    Penalty.legible hm.penalty hm'.penalty hpenalty, legible_bool trivial trivial hdelegate⟩

theorem Card.legible : Legible (fun _ => True) Card.toJson := by
  intro c c' _ _ h
  have hfields := h.of_fields (by simp) rfl
  simp only [List.map_cons, List.map_nil, List.forall₂_cons] at hfields
  obtain ⟨hcanCompete, hname, hid, hwcaId, hgroups, -⟩ := hfields
  have hstrings := legible_string.ofList
  rw [Card.mk.injEq]
  exact ⟨legible_bool trivial trivial hcanCompete, legible_string trivial trivial hname,
    legible_uint64 trivial trivial hid, legible_string trivial trivial hwcaId,
    hstrings (fun _ _ => trivial) (fun _ _ => trivial) hgroups⟩

theorem PressEvent.legible : Legible (fun _ => True) PressEvent.toJson := by
  intro p p' _ _ h
  have hfields := h.of_fields (by simp) rfl
  simp only [List.map_cons, List.map_nil, List.forall₂_cons] at hfields
  obtain ⟨hname, haction, hpressedAt, hheldFor, -⟩ := hfields
  rw [PressEvent.mk.injEq]
  exact ⟨legible_string trivial trivial hname, ButtonAction.legible trivial trivial haction,
    legible_uint64 trivial trivial hpressedAt, legible_uint64 trivial trivial hheldFor⟩

/-! ## Snapshots field by field -/

namespace Snapshot

/-- The fields of a snapshot. -/
inductive Field
  | scannedCard
  | groupId
  | secondaryText
  | inspectionActive
  | solveTime
  | penalty
  | delegatePending
  | lastSent
deriving DecidableEq, Repr

namespace Field

/-- The fields in the order in which they are compared. -/
def all : List Field :=
  [scannedCard, groupId, secondaryText, inspectionActive, solveTime, penalty, delegatePending,
    lastSent]

def name : Field → String
  | .scannedCard => "scannedCard"
  | .groupId => "groupId"
  | .secondaryText => "secondaryText"
  | .inspectionActive => "inspectionActive"
  | .solveTime => "solveTime"
  | .penalty => "penalty"
  | .delegatePending => "delegatePending"
  | .lastSent => "lastSent"

theorem mem_all (f : Field) : f ∈ all := by
  cases f <;> decide

theorem map_name_all : all.map name = fieldNames := rfl

theorem nodup_fieldNames : fieldNames.Nodup := by decide

end Field

/-- The two snapshots have the same in a field. -/
def Agrees (s s' : Snapshot) : Field → Prop
  | .scannedCard => s.scannedCard = s'.scannedCard
  | .groupId => s.groupId = s'.groupId
  | .secondaryText => s.secondaryText = s'.secondaryText
  | .inspectionActive => s.inspectionActive = s'.inspectionActive
  | .solveTime => s.solveTime = s'.solveTime
  | .penalty => s.penalty = s'.penalty
  | .delegatePending => s.delegatePending = s'.delegatePending
  | .lastSent => s.lastSent = s'.lastSent

instance (s s' : Snapshot) (f : Field) : Decidable (s.Agrees s' f) := by
  cases f <;> exact inferInstanceAs (Decidable (_ = _))

/-- What a snapshot writes in a field. -/
def written (s : Snapshot) : Field → Value
  | .scannedCard => .ofOption Card.toJson s.scannedCard
  | .groupId => .ofOption .string s.groupId
  | .secondaryText => .ofOption .string s.secondaryText
  | .inspectionActive => .bool s.inspectionActive
  | .solveTime => .ofOption .ofUInt64 s.solveTime
  | .penalty => s.penalty.toJson
  | .delegatePending => .bool s.delegatePending
  | .lastSent => .ofOption Message.toJson s.lastSent

/-- A snapshot is written as its fields under their names. -/
theorem toJson_eq (s : Snapshot) :
    s.toJson = .object (Field.all.map fun f => (f.name, s.written f)) := rfl

variable {s s' : Snapshot}

/-- Snapshots that agree in every field are the same. -/
theorem eq_of_agrees (h : ∀ f, s.Agrees s' f) : s = s' := by
  obtain ⟨card, groupId, secondaryText, inspectionActive, solveTime, penalty, delegatePending,
    lastSent⟩ := s
  rw [Snapshot.mk.injEq]
  exact ⟨h .scannedCard, h .groupId, h .secondaryText, h .inspectionActive, h .solveTime,
    h .penalty, h .delegatePending, h .lastSent⟩

/-- **What two snapshots write in a field tells whether they agree in it.** -/
theorem agrees_iff_same (hs : s.From .canonical) (hs' : s'.From .canonical) (f : Field) :
    s.Agrees s' f ↔ (s.written f).Same (s'.written f) := by
  constructor
  · intro h
    have hwritten : s.written f = s'.written f := by
      cases f <;> simp only [Agrees] at h <;> simp only [written, h]
    rw [Value.Same, hwritten]
  · intro h
    cases f with
    | scannedCard =>
      have hcard := Card.legible.ofOption nofun
      exact hcard (fun _ _ => trivial) (fun _ _ => trivial) h
    | groupId | secondaryText => exact legible_optionalString trivial trivial h
    | inspectionActive | delegatePending => exact legible_bool trivial trivial h
    | solveTime => exact legible_optionalUInt64 trivial trivial h
    | penalty => exact Penalty.legible hs.penalty hs'.penalty h
    | lastSent => exact Message.legible.ofOption nofun hs.lastSent hs'.lastSent h

theorem legible : Legible (·.From .canonical) Snapshot.toJson := by
  intro s s' hs hs' h
  refine eq_of_agrees fun f => (agrees_iff_same hs hs' f).2 ?_
  have hfields := h.of_fields Field.nodup_fieldNames rfl
  change List.Forall₂ Value.Same (Field.all.map s.written) (Field.all.map s'.written) at hfields
  rw [List.forall₂_map_left_iff, List.forall₂_map_right_iff, List.forall₂_same] at hfields
  exact hfields f f.mem_all

end Snapshot

theorem StateDump.legible : Legible (·.From .canonical) StateDump.toJson := by
  intro d d' hd hd' h
  have hfields := h.of_fields (by simp) rfl
  simp only [List.map_cons, List.map_nil, List.forall₂_cons] at hfields
  obtain ⟨hsnapshot, hlast, hclock, hpresses, hsent, hdraws, -⟩ := hfields
  have hkept := Snapshot.legible.ofOption (fun _ => Value.noConfusion) hd.lastSnapshot
    hd'.lastSnapshot hlast
  have hevents := PressEvent.legible.ofList (fun _ _ => trivial) (fun _ _ => trivial) hpresses
  have hmessages := Message.legible.ofList hd.sent hd'.sent hsent
  have htimes := legible_uint64.ofList (fun _ _ => trivial) (fun _ _ => trivial) hdraws
  have hnow := legible_uint64 trivial trivial hclock
  have hseen := Snapshot.legible hd.snapshot hd'.snapshot hsnapshot
  rw [StateDump.mk.injEq]
  exact ⟨hseen, hkept, hnow, hevents, hmessages, htimes⟩

/-! ## Suites that were loaded -/

theorem Trace.sources_within_canonical {rig : Rig} (past : List (Turn rig)) :
    (sources past).Within .canonical :=
  ⟨fun _ _ => trivial, fun _ h => h.1⟩

theorem Station.From.snapshot {s : Station} {S : Sources} (h : s.From S) : s.snapshot.From S :=
  ⟨h.time, h.penalty, h.lastSent⟩

theorem Bench.From.dump {b : Bench} {S : Sources} (h : b.From S) : b.dump.From S :=
  ⟨h.station.snapshot, h.station.lastSnapshot, h.outbox⟩

theorem Bench.From.mono {b : Bench} {S S' : Sources} (h : S.Within S') (hb : b.From S) :
    b.From S' :=
  ⟨hb.station.mono h, fun m hm => (hb.outbox m hm).mono h⟩

/-- At every point of a test of a suite that was loaded penalties are canonical. -/
theorem Suite.canonical_benchAfter {text : String} {suite : Suite} (hload : ofText text = .ok suite)
    {test : Test} (htest : test ∈ suite.tests) {rig : Rig} {flow : Flow} {seed : UInt64}
    {past : List (Turn rig)} (h : past <+: Trace.turns rig flow 0 test.steps (.start rig seed)) :
    (Trace.benchAfter (.start rig seed) past).From .canonical := by
  have hnone : (Trace.sources ([] : List (Turn rig))).penalty .none :=
    ⟨Penalty.Plain.canonical (Or.inl rfl), Or.inl (Or.inl rfl)⟩
  exact .mono (Trace.sources_within_canonical past)
    (Trace.from_sources_benchAfter (canonical_of_ofText hload htest)
      ⟨Station.from_idle hnone, fun _ hm => absurd hm List.not_mem_nil⟩ h)

end StationBench
