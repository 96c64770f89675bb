import StationBench.Proofs.Story
import StationBench.Report.Json
/-!
# Reports that can be read back

What is written of a report leaves nothing out that the rest does not tell: two runs whose reports
are written the same have the same reports (`written_reports_are_faithful`). Faults are told apart
by their kinds and what they name (`StepFault.legible`), records by their places and failures by
those of the records that are not ok (`TestReport.legible`), and the counters count the tests
(`RunReport.legible`). What a test report has nothing to say about is left out, and only that
(`TestReport.written_toJson`).
-/
namespace StationBench
open Json

/-! ## Faults -/

/-- What a fault shows is in key order. -/
def StepFault.Ordered (f : StepFault) : Prop :=
  ∀ field expected actual, f = .verification field expected actual →
    expected.ordered = expected ∧ actual.ordered = actual

namespace StepFault

variable {f g : StepFault}

theorem Telling.ordered (h : f.Telling) : f.Ordered := by
  intro field expected actual hf
  obtain ⟨hexpected, hactual, -⟩ := h field expected actual hf
  exact ⟨hexpected, hactual⟩

/-- The tag that a fault is written under names its kind. -/
theorem tag_eq_kind (f : StepFault) : f.tag = f.kind := by
  cases f <;> rfl

theorem toJson_eq (f : StepFault) :
    f.toJson = .object (("kind", .string f.kind) :: f.context) := by
  rw [toJson, tag_eq_kind]

theorem member?_kind (f : StepFault) : f.toJson.member? "kind" = some (.string f.kind) := by
  rw [toJson_eq]
  rfl

/-- What a fault of a kind names stands under the same keys. -/
theorem keys_context (h : f.kind = g.kind) :
    f.context.map Prod.fst = g.context.map Prod.fst := by
  cases f <;> cases g <;> first | rfl | simp [kind] at h

theorem nodup_keys (f : StepFault) :
    ((("kind", .string f.kind) :: f.context).map Prod.fst).Nodup := by
  cases f <;> simp [context]

/-- A fault is made of its kind and what it names. -/
theorem eq_of_context (hkind : f.kind = g.kind) (hcontext : f.context = g.context) : f = g := by
  cases f <;> cases g <;>
    simp_all [kind, context, Value.ofUInt64, Precondition.name_injective.eq_iff]

theorem toJson_injective : Function.Injective toJson := by
  intro f g h
  rw [toJson_eq, toJson_eq] at h
  obtain ⟨hkind, hcontext⟩ := List.cons.inj (Value.object.inj h)
  exact eq_of_context (Value.string.inj (Prod.mk.inj hkind).2) hcontext

theorem ordered_context (h : f.Ordered) : ∀ m ∈ f.context, m.2.ordered = m.2 := by
  cases f with
  | verification field expected actual =>
    obtain ⟨hexpected, hactual⟩ := h field expected actual rfl
    simp [context, hexpected, hactual, Value.ordered]
  | _ => exact List.forall_mem_singleton.2 rfl

/-- **Faults that are written the same are the same**, if what they show is in key order. -/
theorem legible : Legible Ordered toJson := by
  intro f g hf hg h
  rw [toJson_eq, toJson_eq] at h
  have hkind : f.kind = g.kind := by
    have hmember := h.lookup f.nodup_keys g.nodup_keys "kind"
    exact Value.string.inj (Option.some.inj hmember)
  -- only faults of one kind name things under the same keys, so the kind has to be read first
  have hkeys := keys_context hkind
  have hfields := h.of_fields f.nodup_keys (by rw [List.map_cons, List.map_cons, hkeys])
  obtain ⟨-, hvalues⟩ := List.forall₂_cons.1 hfields
  exact eq_of_context hkind
    (Value.Same.eq_of_ordered hkeys hvalues (ordered_context hf) (ordered_context hg))

end StepFault

/-! ## Records and failures -/

/-- Lists whose elements are related one by one are the same if their elements are as soon as a key
of them is. -/
theorem eq_of_forall₂_of_map {α κ : Type} {R : α → α → Prop} {key : α → κ} {l l' : List α}
    (h : List.Forall₂ R l l') (hkeys : l.map key = l'.map key)
    (heq : ∀ a ∈ l, ∀ b ∈ l', key a = key b → R a b → a = b) : l = l' := by
  induction h with
  | nil => rfl
  | cons hab _ ih =>
    obtain ⟨hkey, hkeys⟩ := List.cons.inj hkeys
    have hrest := ih hkeys fun a ha b hb =>
      heq a (List.mem_cons_of_mem _ ha) b (List.mem_cons_of_mem _ hb)
    rw [heq _ List.mem_cons_self _ List.mem_cons_self hkey hab, hrest]

/-- A record is told by what is written of it and its place. -/
theorem StepRecord.eq_of_same {r r' : StepRecord} (hindex : r.index = r'.index)
    (h : r.toJson.Same r'.toJson) : r = r' := by
  have hfields := h.of_fields (by simp) rfl
  simp only [List.map_cons, List.map_nil, List.forall₂_cons] at hfields
  obtain ⟨-, htype, hok, hmessage, -⟩ := hfields
  rw [StepRecord.mk.injEq]
  exact ⟨hindex, legible_string trivial trivial htype, legible_bool trivial trivial hok,
    legible_string trivial trivial hmessage⟩

theorem Failure.eq_of_same {f f' : Failure} (hf : f.fault.Ordered) (hf' : f'.fault.Ordered)
    (hindex : f.index = f'.index) (h : f.toJson.Same f'.toJson) : f = f' := by
  have hfields := h.of_fields (by simp) rfl
  simp only [List.map_cons, List.map_nil, List.forall₂_cons] at hfields
  obtain ⟨-, htype, hfault, -⟩ := hfields
  rw [Failure.mk.injEq]
  exact ⟨hindex, legible_string trivial trivial htype, StepFault.legible hf hf' hfault⟩

/-! ## What is left out -/

/-- A list that is written if it is not empty. -/
def filled? {α : Type} (write : α → Value) (l : List α) : Option Value :=
  if l = [] then none else some (.ofList write l)

section
variable {α : Type} {write : α → Value}

theorem lookup_presentMember {key k : String} {o : Option α} :
    (presentMember key write o).lookup k = if k = key then o.map write else none := by
  cases o with
  | none => simp [presentMember]
  | some a =>
    by_cases h : k = key
    · simp [presentMember, h]
    · rw [presentMember, lookup_cons_of_ne h, if_neg h]
      rfl

theorem lookup_filledMember {key k : String} {l : List α} :
    (filledMember key write l).lookup k = if k = key then filled? write l else none := by
  cases l with
  | nil => simp [filledMember, filled?]
  | cons a rest =>
    by_cases h : k = key
    · simp [filledMember, filled?, h]
    · have hmember : filledMember key write (a :: rest) = [(key, .ofList write (a :: rest))] := rfl
      rw [hmember, lookup_cons_of_ne h, if_neg h]
      rfl

theorem filled?_eq_none_iff {l : List α} : filled? write l = none ↔ l = [] := by
  simp [filled?]

/-- What is written of a list, if anything is, tells its elements. -/
theorem forall₂_of_filled? {l l' : List α}
    (h : (filled? write l).map Value.ordered = (filled? write l').map Value.ordered) :
    List.Forall₂ (fun a b => (write a).Same (write b)) l l' := by
  unfold filled? at h
  by_cases hl : l = [] <;> by_cases hl' : l' = []
  · rw [hl, hl']
    exact .nil
  · simp [hl, hl'] at h
  · simp [hl, hl'] at h
  · rw [if_neg hl, if_neg hl'] at h
    exact Value.Same.of_list (Option.some.inj h)

end

/-! ## Tests -/

theorem Status.name_injective : Function.Injective Status.name := by
  intro s s' h
  cases s <;> cases s' <;> first | rfl | exact absurd h (by decide)

namespace TestReport

/-- The members that are written of a report. -/
def members (t : TestReport) : List (String × Value) :=
  [("name", .string t.name), ("status", .string t.status.name)] ++
    presentMember "seed" .ofUInt64 t.seed ++ [("clockMs", .ofUInt64 t.clock)] ++
    filledMember "steps" StepRecord.toJson t.steps ++
    filledMember "failures" Failure.toJson t.failures ++
    presentMember "dump" StateDump.toJson t.dump

theorem toJson_eq (t : TestReport) : t.toJson = .object t.members := rfl

theorem nodup_members (t : TestReport) : (t.members.map Prod.fst).Nodup := by
  obtain ⟨name, status, seed, clock, steps, failures, dump⟩ := t
  cases seed <;> cases steps <;> cases failures <;> cases dump <;>
    simp [members, presentMember, filledMember]

/-- What stands under each name in what is written of a report, if anything does. -/
structure Written (t : TestReport) (at? : String → Option Value) : Prop where
  name : at? "name" = some (.string t.name)
  status : at? "status" = some (.string t.status.name)
  seed : at? "seed" = t.seed.map .ofUInt64
  clock : at? "clockMs" = some (.ofUInt64 t.clock)
  steps : at? "steps" = filled? StepRecord.toJson t.steps
  failures : at? "failures" = filled? Failure.toJson t.failures
  dump : at? "dump" = t.dump.map StateDump.toJson

theorem written_toJson (t : TestReport) : t.Written fun key => t.toJson.member? key := by
  constructor <;>
    simp [toJson_eq, Value.member?, members, List.lookup_append, List.lookup_cons,
      lookup_presentMember, lookup_filledMember]

/-- A report as runs of loaded suites make them. -/
structure Regular (t : TestReport) : Prop where
  numbered : t.steps.map StepRecord.index = List.range t.steps.length
  failed : t.failures.map Failure.index = (t.steps.filter (!·.ok)).map StepRecord.index
  ordered : ∀ f ∈ t.failures, f.fault.Ordered
  dumped : ∀ d, t.dump = some d → d.From .canonical

/-- **The report of a test is told by what is written of it.** -/
theorem legible : Legible Regular toJson := by
  intro t t' ht ht' h
  have hsame (key : String) :
      (t.toJson.member? key).map Value.ordered = (t'.toJson.member? key).map Value.ordered :=
    h.lookup t.nodup_members t'.nodup_members key
  have hw := t.written_toJson
  have hw' := t'.written_toJson
  have hname := hsame "name"
  have hstatus := hsame "status"
  have hseed := hsame "seed"
  have hclock := hsame "clockMs"
  have hsteps := hsame "steps"
  have hfailures := hsame "failures"
  have hdump := hsame "dump"
  rw [hw.name, hw'.name] at hname
  rw [hw.status, hw'.status] at hstatus
  rw [hw.seed, hw'.seed] at hseed
  rw [hw.clock, hw'.clock] at hclock
  rw [hw.steps, hw'.steps] at hsteps
  rw [hw.failures, hw'.failures] at hfailures
  rw [hw.dump, hw'.dump] at hdump
  -- the places of the records follow from the list, those of the failures from the records
  have hrecords : t.steps = t'.steps := by
    have hwritten := forall₂_of_filled? hsteps
    refine eq_of_forall₂_of_map hwritten ?_ fun _ _ _ _ => StepRecord.eq_of_same
    rw [ht.numbered, ht'.numbered, hwritten.length_eq]
  have hfaults : t.failures = t'.failures := by
    refine eq_of_forall₂_of_map (forall₂_of_filled? hfailures) ?_
      fun f hf f' hf' => Failure.eq_of_same (ht.ordered f hf) (ht'.ordered f' hf')
    rw [ht.failed, ht'.failed, hrecords]
  rw [TestReport.mk.injEq]
  exact ⟨legible_string trivial trivial (Option.some.inj hname),
    Status.name_injective (legible_string trivial trivial (Option.some.inj hstatus)),
    legible_uint64.present (fun _ _ => trivial) (fun _ _ => trivial) hseed,
    legible_uint64 trivial trivial (Option.some.inj hclock), hrecords, hfaults,
    StateDump.legible.present ht.dumped ht'.dumped hdump⟩

end TestReport

/-! ## Runs -/

/-- A report as runs of loaded suites make them. -/
structure RunReport.Regular (r : RunReport) : Prop where
  passed : r.passed = r.tests.countP (·.status = .passed)
  failed : r.failed = r.tests.countP (·.status = .failed)
  skipped : r.skipped = r.tests.countP (·.status = .skipped)
  tests : ∀ t ∈ r.tests, t.Regular

/-- **The report of a run is told by what is written of it.** -/
theorem RunReport.legible : Legible RunReport.Regular RunReport.toJson := by
  intro r r' hr hr' h
  have hfields := h.of_fields (by simp [RunReport.members]) rfl
  simp only [RunReport.members, List.map_cons, List.map_nil, List.forall₂_cons] at hfields
  obtain ⟨hseed, hinterrupted, -, -, -, hwritten, -⟩ := hfields
  have htests : r.tests = r'.tests := TestReport.legible.ofList hr.tests hr'.tests hwritten
  rw [RunReport.mk.injEq]
  refine ⟨legible_uint64 trivial trivial hseed, legible_bool trivial trivial hinterrupted, ?_, ?_,
    ?_, htests⟩
  · rw [hr.passed, hr'.passed, htests]
  · rw [hr.failed, hr'.failed, htests]
  · rw [hr.skipped, hr'.skipped, htests]

namespace Suite

variable {text : String} {suite : Suite} (hload : ofText text = .ok suite) (settings : Settings)
include hload

/-- A loaded suite makes regular reports of its tests. -/
theorem regular_perform {test : Test} (htest : test ∈ suite.tests) (seed : UInt64) :
    (suite.perform settings test seed).report.Regular := by
  have htells := TestReport.tells_ran suite settings test seed
  refine ⟨?_, ?_, fun f hf => (telling_of_mem_failures hload htest hf).ordered, ?_⟩
  · have hindex := Trace.index_entries (suite.rig settings)
      ⟨test.sleepBetween, settings.continueOnFailure⟩ 0 test.steps (.start (suite.rig settings) seed)
    change ((test.run _ _ seed).entries.map Entry.record).map StepRecord.index =
      List.range ((test.run _ _ seed).entries.map Entry.record).length
    rw [List.map_map, List.length_map, List.range_eq_range']
    exact hindex
  · have hindex := htells.failures.imp fun _ _ h => h.index
    rwa [← List.forall₂_map_right_iff, ← List.forall₂_map_left_iff, List.forall₂_eq_eq_eq]
      at hindex
  · intro d hd
    have hbench : (test.run (suite.rig settings) settings.continueOnFailure seed).bench.From
        .canonical := by
      rw [Test.run, Trace.run_eq_turns]
      exact canonical_benchAfter hload htest List.prefix_rfl
    change (if suite.dumpStateAfterTest then _ else none) = some d at hd
    by_cases hdump : suite.dumpStateAfterTest = true
    · rw [if_pos hdump] at hd
      obtain rfl := Option.some.inj hd
      exact hbench.dump
    · simp [hdump] at hd

theorem regular_run (readings : Nat → Reading) :
    (suite.run settings readings).report.Regular := by
  obtain ⟨hpassed, hfailed, hskipped⟩ := suite.report_counters settings readings
  refine ⟨hpassed, hfailed, hskipped, fun t ht => ?_⟩
  obtain ⟨test, htest, rfl | ⟨seed, rfl⟩⟩ := suite.report_cases settings readings ht
  · exact ⟨rfl, rfl, by rintro _ ⟨⟩, by rintro _ ⟨⟩⟩
  · exact regular_perform hload settings htest seed

end Suite

/-- **Written reports are faithful.** If the reports of two runs are written the same, be it of
different suites under different settings, they are the same. What is not written of a test report
is absent or empty. A fault is written under its kind, and no two faults are written the same; those
that show what is in key order are not even if the order of members does not count. -/
theorem written_reports_are_faithful {text text' : String} {suite suite' : Suite}
    (hload : Suite.ofText text = .ok suite) (hload' : Suite.ofText text' = .ok suite')
    (settings settings' : Settings) (readings readings' : Nat → Reading) :
    ((suite.run settings readings).report.toJson.Same
        (suite'.run settings' readings').report.toJson →
      (suite.run settings readings).report = (suite'.run settings' readings').report) ∧
    (∀ t : TestReport,
      (t.toJson.member? "seed" = none ↔ t.seed = none) ∧
      (t.toJson.member? "steps" = none ↔ t.steps = []) ∧
      (t.toJson.member? "failures" = none ↔ t.failures = []) ∧
      (t.toJson.member? "dump" = none ↔ t.dump = none)) ∧
    (∀ f : StepFault, f.toJson.member? "kind" = some (.string f.kind)) ∧
    (∀ f g : StepFault, f.toJson = g.toJson → f = g) ∧
    ∀ f g : StepFault, f.Ordered → g.Ordered → f.toJson.Same g.toJson → f = g := by
  refine ⟨?_, fun t => ?_, StepFault.member?_kind, fun _ _ h => StepFault.toJson_injective h,
    fun _ _ hf hg h => StepFault.legible hf hg h⟩
  · exact RunReport.legible (Suite.regular_run hload settings readings)
      (Suite.regular_run hload' settings' readings')
  · have hw := t.written_toJson
    simp only [hw.seed, hw.steps, hw.failures, hw.dump, Option.map_eq_none_iff,
      filled?_eq_none_iff, and_self]

/-- A group that no card belongs to and a timeout that does not come make no difference. -/
theorem written_reports_are_faithful_unused_group :
    let text := "\x7b\"tests\":[\x7b\"name\":\"t\",\"steps\":[[\"VerifySend\",[5,2]]]\x7d]\x7d"
    let text' := "\x7b\"groups\":[\x7b\"groupId\":\"A\"\x7d]," ++
      "\"tests\":[\x7b\"name\":\"t\",\"steps\":[[\"VerifySend\",[5,2]]]\x7d]\x7d"
    let test : Test := ⟨"t", 0, none, [.verifySend ⟨some 5, some .plusTwo, none⟩]⟩
    let suite : Suite :=
      { groups := [], cards := {}, buttons := {}, dumpStateAfterTest := false, tests := [test] }
    let suite' : Suite := { suite with groups := [⟨"A", false, ""⟩] }
    let readings : Nat → Reading := fun _ => ⟨false, 0⟩
    let report := (suite.run {} readings).report
    let report' := (suite'.run { timeout := some 1000 } readings).report
    Suite.ofText text = .ok suite ∧ Suite.ofText text' = .ok suite' ∧ suite ≠ suite' ∧
      report.toJson.Same report'.toJson ∧ report = report' := by
  intro text text' test suite suite' readings report report'
  have hload : Suite.ofText text = .ok suite := eq_ok_of_toOption (by decide +kernel)
  have hload' : Suite.ofText text' = .ok suite' := eq_ok_of_toOption (by decide +kernel)
  have hsame : report.toJson.Same report'.toJson := by decide +kernel
  obtain ⟨hfaithful, -⟩ := written_reports_are_faithful hload hload' {} { timeout := some 1000 }
    readings readings
  exact ⟨hload, hload', by decide, hsame, hfaithful hsame⟩

end StationBench
