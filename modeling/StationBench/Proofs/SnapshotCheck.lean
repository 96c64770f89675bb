import Mathlib.Data.List.Dedup
import StationBench.Proofs.Delivery
import StationBench.Proofs.Verification
/-!
# Checks against snapshots

The snapshot that a station keeps is the last one that was taken since its reset
(`Trace.lastSnapshot_benchAfter`). A check against it compares the fields that are selected, by what
they hold and not by how they are written, and reports the first one that differs
(`snapshot_check_exact`). A capture cannot go wrong on the way (`Station.run_checkSnapshot`).
-/
namespace StationBench

/-! ## The snapshot that is kept -/

/-- The snapshot that is taken at a turn, if one is. -/
def Turn.taken? {rig : Rig} (t : Turn rig) : Option Snapshot :=
  if t.step = .snapshot then some t.before.station.snapshot else none

/-- A snapshot can always be taken. -/
theorem Turn.ok_of_snapshot {rig : Rig} {t : Turn rig} (h : t.step = .snapshot) : t.ok = true := by
  unfold Turn.ok result
  rw [h]
  rfl

/-- The snapshots that were taken since the station was reset for the last time, or since the
start. -/
def Trace.takenSinceReset {rig : Rig} (past : List (Turn rig)) : List Snapshot :=
  (past.rtakeWhile fun t => !t.resets).filterMap Turn.taken?

/-- A snapshot is kept until the next one is taken or the station is reset. -/
theorem Station.Move.lastSnapshot_eq {rig : Rig} {draws : Draws} {s s' : Station} {step : Step}
    {ok : Bool} {sent : List Message} (h : Move rig draws s step ok s' sent) :
    s'.lastSnapshot =
      if (ok && step = .resetState) = true then none
      else if (ok && step = .snapshot) = true then some s.snapshot else s.lastSnapshot := by
  cases h with
  | verify hv => cases step <;> first | rfl | cases hv
  | time ht => cases step <;> first | rfl | cases ht
  | _ => rfl

namespace Trace

variable {rig : Rig} {flow : Flow} {i : Nat} {steps : List Step} {b : Bench}

theorem takenSinceReset_append_singleton (past : List (Turn rig)) (t : Turn rig) :
    takenSinceReset (past ++ [t]) =
      if t.resets = true then [] else takenSinceReset past ++ t.taken?.toList := by
  unfold takenSinceReset
  rw [List.rtakeWhile_concat]
  cases hr : t.resets <;> cases ht : t.taken? <;> simp [ht]

/-- At every point of a run the station keeps the last snapshot since its last reset. -/
theorem lastSnapshot_benchAfter (hb : b.station.lastSnapshot = none) {past : List (Turn rig)}
    (h : past <+: turns rig flow i steps b) :
    (benchAfter b past).station.lastSnapshot = (takenSinceReset past).getLast? := by
  refine turns_induction
    (P := fun past b' => b'.station.lastSnapshot = (takenSinceReset past).getLast?)
    hb (fun past b' ms hp => hp) ?_ h
  intro past t hp
  rw [t.move.2.lastSnapshot_eq, hp, takenSinceReset_append_singleton]
  unfold Turn.resets Turn.taken?
  by_cases hs : t.step = .snapshot
  · simp [hs, Turn.ok_of_snapshot hs]
  · by_cases hr : (t.ok && t.step = .resetState) = true <;> simp [hs, hr]

end Trace

/-! ## The fields that are compared -/

namespace Snapshot

/-- The number of fields that are asked for, each counted once, or of all. -/
def count (fields : Option (List String)) : Nat :=
  match fields with
  | some l => l.dedup.length
  | none => Field.all.length

theorem length_selected {fields : Option (List String)}
    (h : (Step.verifySnapshot fields).KnowsFields) : (selected fields).length = count fields := by
  cases fields with
  | none => rfl
  | some l =>
    have hperm : (selected (some l)).Perm l.dedup := by
      refine (List.perm_ext_iff_of_nodup (Field.nodup_fieldNames.filter _) l.nodup_dedup).2 ?_
      intro name
      have hknown : name ∈ l → name ∈ fieldNames := h l rfl name
      simpa [selected] using hknown
    exact hperm.length_eq

/-- Neither the order of the names counts nor how often each is given. -/
theorem selected_congr {l l' : List String} (h : ∀ name, name ∈ l ↔ name ∈ l') :
    selected (some l) = selected (some l') := by
  have hcontains (name : String) : l.contains name = l'.contains name := by
    rw [Bool.eq_iff_iff]
    simpa using h name
  simp only [selected, Option.all_some, hcontains]

end Snapshot

/-! ## Captures -/

/-- What is done beside a log that grows. -/
abbrev Logged := StateM (List LogRecord)

def Logged.tell (r : LogRecord) : Logged Unit := modify (· ++ [r])

namespace Snapshot

/-- A snapshot that cannot be captured: the step fails, and the log is told. -/
def uncaptured {α : Type} (reason : String) : ExceptT StepFault Logged α := do
  Logged.tell ⟨.error, "Failed to capture snapshot: " ++ reason⟩
  throw (.capture reason)

/-- The fields of a snapshot that was turned into a value, if that came out as it should. -/
def fieldsOf : Except String Json.Value →
    ExceptT StepFault Logged (List (String × Json.Value))
  | .ok (.object fields) => pure fields
  | .ok other => uncaptured ("snapshot is not an object: " ++ other.compact)
  | .error reason => uncaptured reason

/-- Compares captured fields one by one and counts them. -/
def compare (stored current : List (String × Json.Value)) :
    List String → (compared : Nat) → ExceptT StepFault Logged Nat
  | [], compared => pure compared
  | field :: rest, compared =>
    match stored.lookup field, current.lookup field with
    | some expected, some actual =>
      if expected = actual then compare stored current rest (compared + 1)
      else throw (.verification field expected actual)
    | _, _ => throw (.capture ("snapshot has no field '" ++ field ++ "'"))

end Snapshot

/-- `Station.verifySnapshot` with all that may go wrong with the captures. -/
def Station.checkSnapshot (s : Station) (fields : Option (List String)) :
    ExceptT StepFault Logged Nat := do
  match s.lastSnapshot with
  | some stored =>
    let expected ← Snapshot.fieldsOf (.ok stored.capture)
    let actual ← Snapshot.fieldsOf (.ok s.snapshot.capture)
    Snapshot.compare expected actual (Snapshot.selected fields) 0
  | none => throw (.precondition .noSnapshot)

namespace Snapshot

/-- Comparing one by one comes to the first mismatch, or to the number of the fields. -/
theorem run_compare {stored current : Snapshot} {expected actual : List (String × Json.Value)}
    (hs : stored.capture = .object expected) (hc : current.capture = .object actual)
    (names : List String) (compared : Nat) (log : List LogRecord) :
    (compare expected actual names compared).run.run log =
      (Station.verdict (names.findSome? (stored.fieldMismatch? current))
        (compared + names.length), log) := by
  induction names generalizing compared with
  | nil => rfl
  | cons field rest ih =>
    rw [List.findSome?_cons, fieldMismatch?, compare, hs, hc, Json.Value.member?,
      Json.Value.member?]
    cases expected.lookup field with
    | none => rfl
    | some e =>
      cases actual.lookup field with
      | none => rfl
      | some a =>
        by_cases h : e = a
        · simp only [if_pos h, ih, List.length_cons, Nat.add_right_comm compared 1, Nat.add_assoc]
        · simp only [if_neg h]
          rfl

end Snapshot

/-- **Nothing goes wrong with the captures**: the check comes to the same without them, and the log
is not told anything. -/
theorem Station.run_checkSnapshot (s : Station) (fields : Option (List String))
    (log : List LogRecord) :
    (s.checkSnapshot fields).run.run log = (s.verifySnapshot fields, log) := by
  unfold checkSnapshot verifySnapshot
  cases s.lastSnapshot with
  | none => rfl
  | some stored =>
    rw [← Nat.zero_add (Snapshot.selected fields).length]
    exact Snapshot.run_compare rfl rfl (Snapshot.selected fields) 0 log

/-! ## Checks -/

namespace Station

variable {s : Station} {fields : Option (List String)} {stored : Snapshot}

theorem verifySnapshot_of_none (h : s.lastSnapshot = none) :
    s.verifySnapshot fields = .error (.precondition .noSnapshot) := by
  simp only [verifySnapshot, h]

theorem verifySnapshot_of_some (h : s.lastSnapshot = some stored) :
    s.verifySnapshot fields =
      verdict ((Snapshot.selected fields).findSome? (stored.fieldMismatch? s.snapshot))
        (Snapshot.selected fields).length := by
  simp only [verifySnapshot, h]

theorem verifySnapshot_congr {l l' : List String} (h : ∀ name, name ∈ l ↔ name ∈ l') :
    s.verifySnapshot (some l) = s.verifySnapshot (some l') := by
  simp only [verifySnapshot, Snapshot.selected_congr h]

end Station

/-- What comes of a check of the bench `b` against its last snapshot, if `taken` are the snapshots
since the last reset. -/
structure SnapshotCheck (rig : Rig) (b : Bench) (taken : List Snapshot)
    (fields : Option (List String)) : Prop where
  /-- Only if there is no snapshot it says so. -/
  missing : (b.execute rig (.verifySnapshot fields)).1 = .error (.precondition .noSnapshot) ↔
    taken = []
  /-- It passes if what is selected is as it was in the last snapshot, and only then. -/
  passes : (b.execute rig (.verifySnapshot fields)).1.isOk = true ↔
    ∃ stored, taken.getLast? = some stored ∧
      ∀ f : Snapshot.Field, f.Selected fields → stored.Agrees b.station.snapshot f
  /-- Otherwise the fault is about the first selected field that differs, as it was and as it is. -/
  differs : ∀ stored fault, taken.getLast? = some stored →
    ((b.execute rig (.verifySnapshot fields)).1 = .error fault ↔
      ∃ f, IsFirst Snapshot.Field.all
          (fun f => f.Selected fields ∧ ¬ stored.Agrees b.station.snapshot f) f ∧
        fault = .verification f.name (stored.written f).ordered
          (b.station.snapshot.written f).ordered)
  captures : ∀ reason, (b.execute rig (.verifySnapshot fields)).1 ≠ .error (.capture reason)
  /-- If it passes, it tells how many fields were compared. -/
  counts : ∀ note, (b.execute rig (.verifySnapshot fields)).1 = .ok note →
    note.text = Decimal.text (Snapshot.count fields) ++ " snapshot fields match"

namespace SnapshotCheck

variable {rig : Rig} {b : Bench} {fields : Option (List String)}

theorem result_eq (rig : Rig) (b : Bench) (fields : Option (List String)) :
    (b.execute rig (.verifySnapshot fields)).1 =
      .snapshotMatches <$> b.station.verifySnapshot fields := rfl

/-- A check at a station that keeps no snapshot. -/
theorem of_none (hkept : b.station.lastSnapshot = none) : SnapshotCheck rig b [] fields := by
  have hresult : (b.execute rig (.verifySnapshot fields)).1 =
      .error (.precondition .noSnapshot) := by
    rw [result_eq, Station.verifySnapshot_of_none hkept]
    rfl
  refine ⟨?_, ?_, ?_, ?_, ?_⟩ <;> rw [hresult]
  · simp
  · simp [Except.isOk, Except.toBool]
  · simp
  · simp
  · simp

/-- A check at a station that keeps a snapshot. -/
theorem of_some {taken : List Snapshot} {stored : Snapshot} (hb : b.station.From .canonical)
    (hkept : b.station.lastSnapshot = some stored) (htaken : taken.getLast? = some stored)
    (hfields : (Step.verifySnapshot fields).KnowsFields) : SnapshotCheck rig b taken fields := by
  have hstored : stored.From .canonical := hb.lastSnapshot stored hkept
  have herror (fault : StepFault) :
      (b.execute rig (.verifySnapshot fields)).1 = .error fault ↔
        ∃ f, IsFirst Snapshot.Field.all
            (fun f => f.Selected fields ∧ ¬ stored.Agrees b.station.snapshot f) f ∧
          fault = stored.fault b.station.snapshot f := by
    rw [result_eq, map_eq_error_iff, Station.verifySnapshot_of_some hkept,
      Station.verdict_eq_error_iff, Snapshot.mismatch?_eq_some_iff hstored hb.snapshot]
  refine ⟨?_, ?_, ?_, ?_, ?_⟩
  · have hne : taken ≠ [] := by
      rintro rfl
      cases htaken
    simp [herror, hne, Snapshot.fault]
  · rw [result_eq, isOk_map, Station.verifySnapshot_of_some hkept, Station.isOk_verdict_iff,
      Snapshot.mismatch?_eq_none_iff hstored hb.snapshot]
    simp [htaken]
  · intro stored' fault hlast
    obtain rfl := Option.some.inj (htaken.symm.trans hlast)
    exact herror fault
  · intro reason h
    obtain ⟨f, -, hf⟩ := (herror _).1 h
    cases hf
  · intro note h
    rw [result_eq, Station.verifySnapshot_of_some hkept] at h
    obtain ⟨n, hn, rfl⟩ := ok_of_map h
    obtain ⟨-, rfl⟩ := Station.verdict_eq_ok_iff.1 hn
    rw [Snapshot.length_selected hfields]
    rfl

end SnapshotCheck

/-- **Checks against snapshots are exact.** At every point of a test of a suite that was loaded, a
check says that there is no snapshot if none was taken since the last reset. It passes if every
selected field holds what it held in the last one, and is about the first field that does not if it
fails. It does not matter in which order the fields are given, or how often, and nothing goes wrong
with the captures. -/
theorem snapshot_check_exact {text : String} {suite : Suite} (hload : Suite.ofText text = .ok suite)
    (settings : Settings) {test : Test} (htest : test ∈ suite.tests) (seed : UInt64)
    {past : List (Turn (suite.rig settings))}
    (h : past <+: Trace.turns (suite.rig settings)
      ⟨test.sleepBetween, settings.continueOnFailure⟩ 0 test.steps
      (.start (suite.rig settings) seed))
    {b : Bench}
    (hb : b.station = (Trace.benchAfter (.start (suite.rig settings) seed) past).station) :
    (∀ fields, (Step.verifySnapshot fields).KnowsFields →
      SnapshotCheck (suite.rig settings) b (Trace.takenSinceReset past) fields) ∧
    (∀ l l' : List String, (∀ name, name ∈ l ↔ name ∈ l') →
      b.execute (suite.rig settings) (.verifySnapshot (some l)) =
        b.execute (suite.rig settings) (.verifySnapshot (some l'))) ∧
    ∀ fields log, (b.station.checkSnapshot fields).run.run log =
      (b.station.verifySnapshot fields, log) := by
  have hkept : b.station.lastSnapshot = (Trace.takenSinceReset past).getLast? := by
    rw [hb]
    exact Trace.lastSnapshot_benchAfter rfl h
  have hcanonical : b.station.From .canonical := by
    rw [hb]
    exact (Suite.canonical_benchAfter hload htest h).station
  refine ⟨fun fields hfields => ?_, fun l l' hsame => ?_, b.station.run_checkSnapshot⟩
  · cases hlast : (Trace.takenSinceReset past).getLast? with
    | none =>
      rw [List.getLast?_eq_none_iff.1 hlast]
      exact .of_none (hkept.trans hlast)
    | some stored => exact .of_some hcanonical (hkept.trans hlast) hlast hfields
  · simp only [Bench.execute, Station.verifySnapshot_congr hsame]

/-- A delegate changes time and penalty after the snapshot: the check stops at the time, though the
penalty is given before it. -/
theorem snapshot_check_exact_decision :
    let text := "\x7b\"tests\":[\x7b\"name\":\"t\",\"steps\":[[\"SolveTime\",3000]," ++
      "[\"Snapshot\"],[\"DelegateResolve\",[false,2,900]]]\x7d]\x7d"
    let test : Test :=
      ⟨"t", 0, none,
        [.solveTime (some 3000), .snapshot, .delegateResolve ⟨false, some .plusTwo, some 900⟩]⟩
    let suite : Suite :=
      { groups := [], cards := {}, buttons := {}, dumpStateAfterTest := false, tests := [test] }
    let rig := suite.rig {}
    let turns := Trace.turns rig ⟨0, false⟩ 0 test.steps (.start rig 7)
    let b := Trace.benchAfter (.start rig 7) turns
    let fields := some ["penalty", "solveTime", "penalty"]
    Suite.ofText text = .ok suite ∧ test ∈ suite.tests ∧ (Step.verifySnapshot fields).KnowsFields ∧
      SnapshotCheck rig b (Trace.takenSinceReset turns) fields ∧
      (b.execute rig (.verifySnapshot fields)).1 =
        .error (.verification "solveTime" (.ofUInt64 3000) (.ofUInt64 900)) := by
  intro text test suite rig turns b fields
  have hload : Suite.ofText text = .ok suite := eq_ok_of_toOption (by decide +kernel)
  have htest : test ∈ suite.tests := List.mem_cons_self
  have hfields : (Step.verifySnapshot fields).KnowsFields := by
    intro l hl
    obtain rfl : ["penalty", "solveTime", "penalty"] = l :=
      Option.some.inj (Step.verifySnapshot.inj hl)
    decide
  obtain ⟨hcheck, -⟩ := snapshot_check_exact hload {} htest 7 List.prefix_rfl (b := b) rfl
  exact ⟨hload, htest, hfields, hcheck fields hfields, by decide +kernel⟩

end StationBench
