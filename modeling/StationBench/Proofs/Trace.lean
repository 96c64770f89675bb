import StationBench.Run
/-!
# What a trace lists

The entries of a trace are about the first steps of the test, one after the other, and about all of
them unless an entry stops the test (`steps_entries_prefix`, `steps_entries_of_not_stopped`). Every
entry holds what its step came to on some bench (`result_of_mem_entries`). A test that stops at its
first failure and the same test going on have the same entries up to there (`run_stopping_cases`).
-/
namespace StationBench

namespace Entry

@[simp] theorem record_type (e : Entry) : e.record.type = e.step.type := rfl

@[simp] theorem record_ok (e : Entry) : e.record.ok = e.fault?.isNone := rfl

theorem fault?_eq_some_iff {e : Entry} {f : StepFault} :
    e.fault? = some f ↔ e.result = .error f := by
  cases h : e.result <;> simp [fault?, h]

theorem failure?_eq_none_iff {e : Entry} : e.failure? = none ↔ e.fault? = none := by
  simp [failure?]

end Entry

namespace Flow

theorem not_stops_of_continue {flow : Flow} (h : flow.continueOnFailure = true) (e : Entry) :
    ¬ flow.stops e = true := by
  simp [stops, h]

theorem not_stops_of_ok (flow : Flow) {e : Entry} (h : e.fault? = none) :
    ¬ flow.stops e = true := by
  simp [stops, h]

/-- Waiting for its turn does not change the station. -/
theorem station_ready (flow : Flow) (i : Nat) (b : Bench) :
    (flow.ready i b).station = b.station := by
  unfold ready
  split <;> rfl

end Flow

namespace Trace

@[simp] theorem entries_cons (e : Entry) (t : Trace) : (t.cons e).entries = e :: t.entries := rfl

/-! ## Failures -/

theorem failed_eq_false_iff {t : Trace} : t.failed = false ↔ ∀ e ∈ t.entries, e.fault? = none := by
  simp [failed]

theorem failed_cons (e : Entry) (t : Trace) :
    (t.cons e).failed = (e.fault?.isSome || t.failed) := by
  simp [failed]

theorem failures_cons (e : Entry) (t : Trace) :
    (t.cons e).failures = e.failure?.toList ++ t.failures := by
  cases h : e.failure? <;> simp [failures, h]

theorem failures_eq_nil_iff {t : Trace} : t.failures = [] ↔ t.failed = false := by
  rw [failed_eq_false_iff, failures, List.filterMap_eq_nil_iff]
  simp only [Entry.failure?_eq_none_iff]

theorem status_eq (t : Trace) :
    (if t.failures.isEmpty then Status.passed else .failed) = t.status := by
  cases h : t.failed with
  | false => simp [failures_eq_nil_iff.2 h, status, h]
  | true =>
    have hne : t.failures ≠ [] := by simp [failures_eq_nil_iff, h]
    simp [hne, status, h]

theorem status_eq_passed_iff {t : Trace} : t.status = .passed ↔ t.failed = false := by
  unfold status
  by_cases h : t.failed = true <;> simp [h]

theorem status_eq_failed_iff {t : Trace} : t.status = .failed ↔ t.failed = true := by
  unfold status
  by_cases h : t.failed = true <;> simp [h]

theorem status_ne_skipped (t : Trace) : t.status ≠ .skipped := by
  unfold status
  by_cases h : t.failed = true <;> simp [h]

/-! ## One turn after the other -/

section
variable (rig : Rig) (flow : Flow)

variable (i : Nat) (s : Step) (rest : List Step) (b : Bench)

@[simp] theorem turn_index : (turn rig flow i s b).1.index = i := rfl

@[simp] theorem turn_step : (turn rig flow i s b).1.step = s := rfl

@[simp] theorem turn_result :
    (turn rig flow i s b).1.result = ((flow.ready i b).execute rig s).1 := rfl

@[simp] theorem run_nil : run rig flow i [] b = ⟨[], b⟩ := rfl

theorem run_cons :
    run rig flow i (s :: rest) b =
      if flow.stops (turn rig flow i s b).1 then
        ⟨[(turn rig flow i s b).1], (turn rig flow i s b).2⟩
      else (run rig flow (i + 1) rest (turn rig flow i s b).2).cons (turn rig flow i s b).1 := rfl

variable {rig flow i s rest b}

theorem run_cons_of_stops (h : flow.stops (turn rig flow i s b).1 = true) :
    run rig flow i (s :: rest) b = ⟨[(turn rig flow i s b).1], (turn rig flow i s b).2⟩ := by
  rw [run_cons, if_pos h]

theorem run_cons_of_not_stops (h : ¬ flow.stops (turn rig flow i s b).1 = true) :
    run rig flow i (s :: rest) b =
      (run rig flow (i + 1) rest (turn rig flow i s b).2).cons (turn rig flow i s b).1 := by
  rw [run_cons, if_neg h]

end

variable (rig : Rig) (flow : Flow) (i : Nat) (steps : List Step) (b : Bench)

theorem steps_entries_prefix : (run rig flow i steps b).entries.map Entry.step <+: steps := by
  induction steps generalizing i b with
  | nil => simp
  | cons s rest ih =>
    by_cases h : flow.stops (turn rig flow i s b).1 = true
    · rw [run_cons_of_stops h]
      simp
    · rw [run_cons_of_not_stops h]
      simpa using ih (i + 1) (turn rig flow i s b).2

theorem index_entries :
    (run rig flow i steps b).entries.map Entry.index =
      List.range' i (run rig flow i steps b).entries.length := by
  induction steps generalizing i b with
  | nil => simp
  | cons s rest ih =>
    by_cases h : flow.stops (turn rig flow i s b).1 = true
    · rw [run_cons_of_stops h]
      simp
    · rw [run_cons_of_not_stops h]
      simp [ih (i + 1), List.range'_succ]

variable {rig flow i steps b}

/-- Only an entry that stops the test keeps the steps after it from being executed. -/
theorem steps_entries_of_not_stopped
    (h : ∀ e ∈ (run rig flow i steps b).entries, ¬ flow.stops e = true) :
    (run rig flow i steps b).entries.map Entry.step = steps := by
  induction steps generalizing i b with
  | nil => simp
  | cons s rest ih =>
    by_cases hs : flow.stops (turn rig flow i s b).1 = true
    · rw [run_cons_of_stops hs] at h
      exact absurd hs (h _ (by simp))
    · rw [run_cons_of_not_stops hs] at h ⊢
      simpa using ih fun e he => h e (List.mem_cons_of_mem _ he)

theorem steps_entries_of_not_failed (h : (run rig flow i steps b).failed = false) :
    (run rig flow i steps b).entries.map Entry.step = steps :=
  steps_entries_of_not_stopped fun _ he => flow.not_stops_of_ok (failed_eq_false_iff.1 h _ he)

theorem steps_entries_of_continue (h : flow.continueOnFailure = true) :
    (run rig flow i steps b).entries.map Entry.step = steps :=
  steps_entries_of_not_stopped fun e _ => Flow.not_stops_of_continue h e

/-- Every entry comes of executing its step on some bench. -/
theorem result_of_mem_entries {e : Entry} (he : e ∈ (run rig flow i steps b).entries) :
    ∃ b' : Bench, e.result = (b'.execute rig e.step).1 := by
  induction steps generalizing i b with
  | nil => simp at he
  | cons s rest ih =>
    have here : ∃ b' : Bench, (turn rig flow i s b).1.result =
        (b'.execute rig (turn rig flow i s b).1.step).1 :=
      ⟨flow.ready i b, turn_result rig flow i s b⟩
    by_cases h : flow.stops (turn rig flow i s b).1 = true
    · rw [run_cons_of_stops h] at he
      obtain rfl := List.mem_singleton.1 he
      exact here
    · rw [run_cons_of_not_stops h] at he
      rcases List.mem_cons.1 he with rfl | he
      · exact here
      · exact ih he

/-- A test that goes on after failures executes its later steps on the bench that the earlier ones
leave. -/
theorem run_append (h : flow.continueOnFailure = true) (later : List Step) :
    run rig flow i (steps ++ later) b =
      ⟨(run rig flow i steps b).entries ++
          (run rig flow (i + steps.length) later (run rig flow i steps b).bench).entries,
        (run rig flow (i + steps.length) later (run rig flow i steps b).bench).bench⟩ := by
  induction steps generalizing i b with
  | nil => rfl
  | cons s rest ih =>
    have hgo := Flow.not_stops_of_continue h (turn rig flow i s b).1
    rw [List.cons_append, run_cons_of_not_stops hgo, run_cons_of_not_stops hgo, ih]
    simp [cons, Nat.add_assoc, Nat.add_comm 1]

/-! ## Stopping and going on -/

/-- **Stopping at the first failure**: either nothing fails and it makes no difference, or the test
has the entries of the test that goes on, up to and including the first that failed. -/
theorem run_stopping_cases (rig : Rig) (ms : Millis) (i : Nat) (steps : List Step) (b : Bench) :
    ((run rig ⟨ms, true⟩ i steps b).failed = false ∧
      run rig ⟨ms, false⟩ i steps b = run rig ⟨ms, true⟩ i steps b) ∨
    ∃ before e after, (run rig ⟨ms, true⟩ i steps b).entries = before ++ e :: after ∧
      (∀ x ∈ before, x.fault? = none) ∧ e.fault?.isSome = true ∧
      (run rig ⟨ms, false⟩ i steps b).entries = before ++ [e] := by
  induction steps generalizing i b with
  | nil => exact Or.inl ⟨rfl, rfl⟩
  | cons s rest ih =>
    -- the two tests take the same turn, as it only looks at the time between steps
    have same : turn rig ⟨ms, false⟩ i s b = turn rig ⟨ms, true⟩ i s b := rfl
    have going : run rig ⟨ms, true⟩ i (s :: rest) b = Trace.cons _ _ :=
      run_cons_of_not_stops (Flow.not_stops_of_continue rfl _)
    rw [going]
    cases hf : (turn rig ⟨ms, true⟩ i s b).1.fault? with
    | some f =>
      have stopped : run rig ⟨ms, false⟩ i (s :: rest) b = ⟨[_], _⟩ :=
        run_cons_of_stops (by rw [same]; simp [Flow.stops, hf])
      refine Or.inr ⟨[], (turn rig ⟨ms, true⟩ i s b).1, _, rfl, by simp, by simp [hf], ?_⟩
      rw [stopped, same]
      rfl
    | none =>
      have went : run rig ⟨ms, false⟩ i (s :: rest) b = Trace.cons _ _ :=
        run_cons_of_not_stops (by rw [same]; exact Flow.not_stops_of_ok _ hf)
      rw [went, same]
      rcases ih (i + 1) (turn rig ⟨ms, true⟩ i s b).2 with
        ⟨hok, heq⟩ | ⟨before, e, after, hc, hb, he, hs⟩
      · exact Or.inl ⟨by simp [failed_cons, hf, hok], by rw [heq]⟩
      · refine Or.inr ⟨(turn rig ⟨ms, true⟩ i s b).1 :: before, e, after, ?_, ?_, he, ?_⟩
        · simp [hc]
        · simpa [hf] using hb
        · simp [hs]

end Trace

/-- The state that is reported after a test, if it is, is that of its bench. -/
theorem Suite.dump_perform {suite : Suite} {settings : Settings} {test : Test} {seed : UInt64}
    {dump : StateDump} (h : (suite.perform settings test seed).report.dump = some dump) :
    dump = (test.run (suite.rig settings) settings.continueOnFailure seed).bench.dump := by
  change (if suite.dumpStateAfterTest then some _ else none) = some dump at h
  split at h
  · exact (Option.some.inj h).symm
  · cases h

end StationBench
