import StationBench.Proofs.Record
/-!
# The language of steps

Which steps can be written: what data each type asks for (`Step.Denotes`), data in objects under the
names of their fields or in arrays in the order of the fields. The main result,
`Step.reads_iff_denotes`, is that the reader of steps takes these and no others, and reads
them as the steps they denote.
-/
namespace StationBench

/-! ## Data -/

namespace Json

/-- The whole number that a number is. -/
def Number.whole? : Number → Option Int
  | .natural n => some n.toNat
  | .negative n => some n.toInt
  | .real _ => none

/-- A value that is a whole number of 64 bits with a sign. -/
def Value.IsInt64 (v : Value) (i : Int64) : Prop := ∃ n, v = .number n ∧ n.whole? = some i.toInt

/-- What a value says that may be null or left out. -/
inductive Value.Optionally {α : Type} (P : Value → α → Prop) : Option Value → Option α → Prop
  | absent : Optionally P none none
  | null : Optionally P (some .null) none
  | present {v : Value} {a : α} (h : P v a) : Optionally P (some v) (some a)

end Json

open Json

/-- The data of a press: a name and the time for which the button is held, none if left out. -/
def ButtonPress.WrittenAs (press : ButtonPress) (d : Value) : Prop :=
  ∃ fields, d.Fields ["name", "time"] fields ∧
    fields.lookup "name" = some (.string press.name) ∧
    (fields.lookup "time" = some (.ofUInt64 press.time) ∨
      fields.lookup "time" = none ∧ press.time = 0)

/-- An integer that stands for a penalty. -/
def Penalty.WrittenAs (v : Value) (p : Penalty) : Prop := ∃ i, v.IsInt64 i ∧ p = .ofInt64 i

/-- The data of a delegate's decision. -/
def Resolution.WrittenAs (r : Resolution) (d : Value) : Prop :=
  ∃ fields, d.Fields ["shouldScanCards", "penalty", "value"] fields ∧
    fields.lookup "shouldScanCards" = some (.bool r.shouldScanCards) ∧
    Value.Optionally Penalty.WrittenAs (fields.lookup "penalty") r.penalty ∧
    Value.Optionally (fun v n => v = .ofUInt64 n) (fields.lookup "value") r.value

/-- The data of a verification of results. -/
def Expectation.WrittenAs (e : Expectation) (d : Value) : Prop :=
  ∃ fields, d.Fields ["time", "penalty", "delegate"] fields ∧
    Value.Optionally (fun v n => v = .ofUInt64 n) (fields.lookup "time") e.time ∧
    Value.Optionally Penalty.WrittenAs (fields.lookup "penalty") e.penalty ∧
    Value.Optionally (fun v b => v = .bool b) (fields.lookup "delegate") e.delegate

/-- The types that are known. -/
def Step.types : List String :=
  ["Sleep", "ScanCard", "Snapshot", "ResetState", "SolveTime", "SolveTimeRng", "Button",
    "DelegateResolve", "VerifySolveTime", "VerifySend", "VerifyDelegateSent", "VerifySnapshot"]

/-- The step that a type and its data denote, if they denote one. -/
inductive Step.Denotes : String → Value → Step → Prop
  | sleep (n : UInt64) : Denotes "Sleep" (.ofUInt64 n) (.sleep n)
  | scanCard (n : UInt64) : Denotes "ScanCard" (.ofUInt64 n) (.scanCard n)
  | snapshot : Denotes "Snapshot" .null .snapshot
  | resetState : Denotes "ResetState" .null .resetState
  | solveTime {d : Value} {ms : Option Millis}
    (h : Value.Optionally (fun v n => v = .ofUInt64 n) (some d) ms) :
    Denotes "SolveTime" d (.solveTime ms)
  | solveTimeRng : Denotes "SolveTimeRng" .null .solveTimeRng
  | button {d : Value} {press : ButtonPress} (h : press.WrittenAs d) :
    Denotes "Button" d (.button press)
  | delegateResolve {d : Value} {r : Resolution} (h : r.WrittenAs d) :
    Denotes "DelegateResolve" d (.delegateResolve r)
  | verifySolveTime {d : Value} {e : Expectation} (h : e.WrittenAs d) :
    Denotes "VerifySolveTime" d (.verifySolveTime e)
  | verifySend {d : Value} {e : Expectation} (h : e.WrittenAs d) :
    Denotes "VerifySend" d (.verifySend e)
  | verifyDelegateSent : Denotes "VerifyDelegateSent" .null .verifyDelegateSent
  | verifySnapshot {d : Value} {fields : Option (List String)}
    (h : Value.Optionally (fun v l => v = .ofList .string l) (some d) fields) :
    Denotes "VerifySnapshot" d (.verifySnapshot fields)
  | unsupported {t : String} {d : Value} (h : t ∉ types) : Denotes t d (.unsupported t)

/-! ## Readers of scalars, options and lists -/

namespace Json.Value

variable {α : Type}

theorem readUInt64_eq_ok_iff {v : Value} {n : UInt64} :
    v.readUInt64 = .ok n ↔ v = .ofUInt64 n := by
  constructor
  · intro h
    match v, h with
    | .number (.natural m), h => exact congrArg ofUInt64 (Except.ok.inj h)
  · rintro rfl
    rfl

theorem readBool_eq_ok_iff {v : Value} {b : Bool} : v.readBool = .ok b ↔ v = .bool b := by
  constructor
  · intro h
    match v, h with
    | .bool b', h => exact congrArg bool (Except.ok.inj h)
  · rintro rfl
    rfl

theorem readString_eq_ok_iff {v : Value} {s : String} : v.readString = .ok s ↔ v = .string s := by
  constructor
  · intro h
    match v, h with
    | .string s', h => exact congrArg string (Except.ok.inj h)
  · rintro rfl
    rfl

theorem toInt_toInt64 {n : UInt64} (h : n.toNat < Decimal.signedBound) :
    n.toInt64.toInt = n.toNat :=
  BitVec.toInt_eq_toNat_of_lt (by simp [Decimal.signedBound] at h ⊢; omega)

theorem readInt64_eq_ok_iff {v : Value} {i : Int64} : v.readInt64 = .ok i ↔ v.IsInt64 i := by
  constructor
  · intro h
    match v, h with
    | .number (.natural n), h =>
      rw [readInt64, Number.toInt64] at h
      split at h
      · next hn =>
        obtain rfl := Except.ok.inj h
        exact ⟨.natural n, rfl, congrArg some (toInt_toInt64 hn).symm⟩
      · cases h
    | .number (.negative n), h =>
      obtain rfl := Except.ok.inj h
      exact ⟨.negative n, rfl, rfl⟩
  · rintro ⟨n | n | x, rfl, hn⟩
    · have hn : (n.toNat : Int) = i.toInt := Option.some.inj hn
      have hlt : n.toNat < Decimal.signedBound := by
        have := i.toInt_lt
        simp only [Decimal.signedBound]
        omega
      rw [readInt64, Number.toInt64, if_pos hlt]
      exact congrArg Except.ok (Int64.toInt_inj.1 ((toInt_toInt64 hlt).trans hn))
    · exact congrArg Except.ok (Int64.toInt_inj.1 (Option.some.inj hn))
    · cases hn

/-- What an optional value reads as, given what the value reads as and that null is none of it. -/
theorem readOptional_eq_ok_iff {read : Value → Except Fault α} {P : Value → α → Prop}
    (h : ∀ v a, read v = .ok a ↔ P v a) (hnull : ∀ a, ¬ P .null a) {v : Value} {o : Option α} :
    readOptional read v = .ok o ↔ Optionally P (some v) o := by
  cases v with
  | null =>
    constructor
    · intro ho
      obtain rfl := Except.ok.inj ho
      exact .null
    · intro ho
      cases ho with
      | null => rfl
      | present ha => exact absurd ha (hnull _)
  | _ =>
    constructor
    · intro ho
      obtain ⟨a, ha, rfl⟩ := ok_of_map ho
      exact .present ((h _ a).1 ha)
    · intro ho
      cases ho with
      | present ha => exact congrArg (some <$> ·) ((h _ _).2 ha)

theorem readList_eq_ok_iff {read : Value → Except Fault α} {write : α → Value}
    (h : ∀ v a, read v = .ok a ↔ v = write a) {v : Value} {l : List α} :
    readList read v = .ok l ↔ v = .ofList write l := by
  cases v with
  | array items =>
    rw [readList, mapM_eq_ok_iff]
    simp only [h, ofList, array.injEq]
    rw [← List.forall₂_eq_eq_eq, List.forall₂_map_right_iff]
  | _ => constructor <;> rintro ⟨⟩

/-! ## For readers the members of objects are in no order -/

theorem unordered_readUInt64 : Unordered readUInt64 := fun v => by cases v <;> rfl

theorem unordered_readBool : Unordered readBool := fun v => by cases v <;> rfl

theorem unordered_readString : Unordered readString := fun v => by cases v <;> rfl

theorem unordered_readInt64 : Unordered readInt64 := fun v => by cases v <;> rfl

theorem Unordered.readOptional {read : Value → Except Fault α} (h : Unordered read) :
    Unordered (readOptional read) := fun v => by
  cases v with
  | null => rfl
  | _ => exact congrArg (some <$> ·) (h _)

theorem Unordered.readList {read : Value → Except Fault α} (h : Unordered read) :
    Unordered (readList read) := fun v => by
  cases v with
  | array items =>
    change (orderedItems items).mapM read = items.mapM read
    rw [orderedItems_eq_map, List.mapM_map]
    exact congrArg (items.mapM ·) (funext h)
  | _ => rfl

end Json.Value

/-! ## Fields -/

namespace Json.RecordReader

variable {α : Type} {read : Value → Except Fault α} {P : Value → α → Prop}

theorem fieldOf_none_eq_some_iff {v : Option Value} {a : α} :
    fieldOf read none v = some a ↔ ∃ w, v = some w ∧ read w = .ok a := by
  cases v <;> simp [fieldOf, toOption_eq_some_iff]

theorem fieldOf_some_eq_some_iff {v : Option Value} {a b : α} :
    fieldOf read (some b) v = some a ↔ (∃ w, v = some w ∧ read w = .ok a) ∨ v = none ∧ a = b := by
  cases v <;> simp [fieldOf, toOption_eq_some_iff, eq_comm]

theorem fieldOf_optional_eq_some_iff (h : ∀ v a, read v = .ok a ↔ P v a) (hnull : ∀ a, ¬ P .null a)
    {v : Option Value} {o : Option α} :
    fieldOf (Value.readOptional read) (some none) v = some o ↔ Value.Optionally P v o := by
  cases v with
  | none =>
    constructor
    · intro ho
      obtain rfl := Option.some.inj ho
      exact .absent
    · rintro ⟨⟩
      rfl
  | some w => exact toOption_eq_some_iff.trans (Value.readOptional_eq_ok_iff h hnull)

end Json.RecordReader

/-! ## Records -/

section
open Json.Value Json.RecordReader

theorem Penalty.ofValue_eq_ok_iff {v : Value} {p : Penalty} :
    Penalty.ofValue v = .ok p ↔ p.WrittenAs v := by
  constructor
  · intro h
    obtain ⟨i, hi, rfl⟩ := ok_of_map h
    exact ⟨i, readInt64_eq_ok_iff.1 hi, rfl⟩
  · rintro ⟨i, hi, rfl⟩
    exact congrArg (ofInt64 <$> ·) (readInt64_eq_ok_iff.2 hi)

theorem Penalty.not_writtenAs_null (p : Penalty) : ¬ p.WrittenAs .null := by
  rintro ⟨i, ⟨n, ⟨⟩, -⟩, -⟩

theorem Penalty.unordered_ofValue : Unordered Penalty.ofValue :=
  fun v => congrArg (ofInt64 <$> ·) (unordered_readInt64 v)

theorem readOptional_readUInt64_eq_ok_iff {v : Value} {o : Option UInt64} :
    readOptional readUInt64 v = .ok o ↔ Optionally (fun v n => v = .ofUInt64 n) (some v) o :=
  readOptional_eq_ok_iff (P := fun v n => v = .ofUInt64 n) (fun _ _ => readUInt64_eq_ok_iff) nofun

theorem readOptional_readStrings_eq_ok_iff {v : Value} {o : Option (List String)} :
    readOptional (readList readString) v = .ok o ↔
      Optionally (fun v l => v = .ofList .string l) (some v) o :=
  readOptional_eq_ok_iff (P := fun v l => v = .ofList .string l)
    (fun _ _ => readList_eq_ok_iff fun _ _ => readString_eq_ok_iff) nofun

theorem fieldOf_penalty_eq_some_iff {v : Option Value} {o : Option Penalty} :
    fieldOf (readOptional Penalty.ofValue) (some none) v = some o ↔
      Optionally Penalty.WrittenAs v o :=
  fieldOf_optional_eq_some_iff (P := Penalty.WrittenAs) (fun _ _ => Penalty.ofValue_eq_ok_iff)
    Penalty.not_writtenAs_null

theorem fieldOf_uint64_eq_some_iff {v : Option Value} {o : Option UInt64} :
    fieldOf (readOptional readUInt64) (some none) v = some o ↔
      Optionally (fun v n => v = .ofUInt64 n) v o :=
  fieldOf_optional_eq_some_iff (P := fun v n => v = .ofUInt64 n) (fun _ _ => readUInt64_eq_ok_iff)
    nofun

theorem fieldOf_bool_eq_some_iff {v : Option Value} {o : Option Bool} :
    fieldOf (readOptional readBool) (some none) v = some o ↔
      Optionally (fun v b => v = .bool b) v o :=
  fieldOf_optional_eq_some_iff (P := fun v b => v = .bool b) (fun _ _ => readBool_eq_ok_iff) nofun

/-- What the reader of presses makes of the fields. -/
theorem ButtonPress.gathers :
    (ButtonPress.mk <$> .required "name" readString <*> .defaulted "time" readUInt64 0
      : RecordReader Value ButtonPress).Gathers fun f =>
        ((fieldOf readString none (f "name")).map ButtonPress.mk).bind fun make =>
          (fieldOf readUInt64 (some 0) (f "time")).map make :=
  (gathers_required.map ButtonPress.mk).seq gathers_defaulted (by decide)

theorem ButtonPress.ofValue_eq_ok_iff {d : Value} (hd : d.Distinct) {press : ButtonPress} :
    ofValue d = .ok press ↔ press.WrittenAs d := by
  rw [ofValue, gathers.closedValue_eq_ok_iff hd]
  refine exists_congr fun fields => and_congr Iff.rfl ?_
  simp only [Option.bind_eq_some_iff, Option.map_eq_some_iff, fieldOf_none_eq_some_iff,
    fieldOf_some_eq_some_iff, readString_eq_ok_iff, readUInt64_eq_ok_iff, exists_eq_right]
  constructor
  · rintro ⟨_, ⟨name, hname, rfl⟩, time, htime, rfl⟩
    exact ⟨hname, htime⟩
  · rintro ⟨hname, htime⟩
    exact ⟨_, ⟨press.name, hname, rfl⟩, press.time, htime, rfl⟩

theorem ButtonPress.ofValue_ordered_iff {d : Value} (hd : d.Distinct) {press : ButtonPress} :
    ofValue d.ordered = .ok press ↔ ofValue d = .ok press :=
  gathers.closedValue_ordered_iff (fun f => by
    simp only [fieldOf_map_ordered unordered_readString,
      fieldOf_map_ordered unordered_readUInt64]) hd

theorem Resolution.gathers :
    (Resolution.mk <$> .required "shouldScanCards" readBool
      <*> .defaulted "penalty" (readOptional Penalty.ofValue) none
      <*> .defaulted "value" (readOptional readUInt64) none
      : RecordReader Value Resolution).Gathers fun f =>
        (((fieldOf readBool none (f "shouldScanCards")).map Resolution.mk).bind fun make =>
          (fieldOf (readOptional Penalty.ofValue) (some none) (f "penalty")).map make).bind
            fun make => (fieldOf (readOptional readUInt64) (some none) (f "value")).map make :=
  ((gathers_required.map Resolution.mk).seq gathers_defaulted (by decide)).seq gathers_defaulted
    (by decide)

theorem Resolution.ofValue_eq_ok_iff {d : Value} (hd : d.Distinct) {r : Resolution} :
    ofValue d = .ok r ↔ r.WrittenAs d := by
  rw [ofValue, gathers.closedValue_eq_ok_iff hd]
  refine exists_congr fun fields => and_congr Iff.rfl ?_
  simp only [Option.bind_eq_some_iff, Option.map_eq_some_iff, fieldOf_none_eq_some_iff,
    readBool_eq_ok_iff, exists_eq_right, fieldOf_penalty_eq_some_iff, fieldOf_uint64_eq_some_iff]
  constructor
  · rintro ⟨_, ⟨_, ⟨scan, hscan, rfl⟩, penalty, hpenalty, rfl⟩, value, hvalue, rfl⟩
    exact ⟨hscan, hpenalty, hvalue⟩
  · rintro ⟨hscan, hpenalty, hvalue⟩
    exact ⟨_, ⟨_, ⟨_, hscan, rfl⟩, _, hpenalty, rfl⟩, _, hvalue, rfl⟩

theorem Resolution.ofValue_ordered_iff {d : Value} (hd : d.Distinct) {r : Resolution} :
    ofValue d.ordered = .ok r ↔ ofValue d = .ok r :=
  gathers.closedValue_ordered_iff (fun f => by
    simp only [fieldOf_map_ordered unordered_readBool,
      fieldOf_map_ordered Penalty.unordered_ofValue.readOptional,
      fieldOf_map_ordered unordered_readUInt64.readOptional]) hd

theorem Expectation.gathers :
    (Expectation.mk <$> .defaulted "time" (readOptional readUInt64) none
      <*> .defaulted "penalty" (readOptional Penalty.ofValue) none
      <*> .defaulted "delegate" (readOptional readBool) none
      : RecordReader Value Expectation).Gathers fun f =>
        (((fieldOf (readOptional readUInt64) (some none) (f "time")).map Expectation.mk).bind
          fun make => (fieldOf (readOptional Penalty.ofValue) (some none) (f "penalty")).map
            make).bind fun make =>
              (fieldOf (readOptional readBool) (some none) (f "delegate")).map make :=
  ((gathers_defaulted.map Expectation.mk).seq gathers_defaulted (by decide)).seq gathers_defaulted
    (by decide)

theorem Expectation.ofValue_eq_ok_iff {d : Value} (hd : d.Distinct) {e : Expectation} :
    ofValue d = .ok e ↔ e.WrittenAs d := by
  rw [ofValue, gathers.closedValue_eq_ok_iff hd]
  refine exists_congr fun fields => and_congr Iff.rfl ?_
  simp only [Option.bind_eq_some_iff, Option.map_eq_some_iff, fieldOf_uint64_eq_some_iff,
    fieldOf_penalty_eq_some_iff, fieldOf_bool_eq_some_iff]
  constructor
  · rintro ⟨_, ⟨_, ⟨time, htime, rfl⟩, penalty, hpenalty, rfl⟩, delegate, hdelegate, rfl⟩
    exact ⟨htime, hpenalty, hdelegate⟩
  · rintro ⟨htime, hpenalty, hdelegate⟩
    exact ⟨_, ⟨_, ⟨_, htime, rfl⟩, _, hpenalty, rfl⟩, _, hdelegate, rfl⟩

theorem Expectation.ofValue_ordered_iff {d : Value} (hd : d.Distinct) {e : Expectation} :
    ofValue d.ordered = .ok e ↔ ofValue d = .ok e :=
  gathers.closedValue_ordered_iff (fun f => by
    simp only [fieldOf_map_ordered unordered_readUInt64.readOptional,
      fieldOf_map_ordered Penalty.unordered_ofValue.readOptional,
      fieldOf_map_ordered unordered_readBool.readOptional]) hd

end

/-! ## Steps -/

namespace Step
open Json.Value

theorem withData_eq_ok_iff {α : Type} {type : String} {read : Value → Except Fault α}
    {make : α → Step} {d : Value} {s : Step} :
    withData type read make d = .ok s ↔ ∃ a, read d = .ok a ∧ make a = s := by
  unfold withData
  cases read d with
  | error fault => simp [throwBroken, throwMismatch]
  | ok a => simp

theorem withoutData_eq_ok_iff {d : Value} {step s : Step} :
    withoutData step d = .ok s ↔ d = .null ∧ step = s := by
  unfold withoutData
  split
  · simp
  · next hd => simpa [throwBroken, throwMismatch] using fun h => absurd h hd

theorem ofData_of_not_mem_types {t : String} (h : t ∉ types) (d : Value) :
    ofData t d = .ok (unsupported t) := by
  simp only [types, List.mem_cons, List.not_mem_nil, or_false, not_or] at h
  obtain ⟨h₁, h₂, h₃, h₄, h₅, h₆, h₇, h₈, h₉, h₁₀, h₁₁, h₁₂⟩ := h
  simp only [ofData]

/-- **Type and data are read as the step that they denote.** -/
theorem ofData_eq_ok_iff {t : String} {d : Value} (hd : d.Distinct) {s : Step} :
    ofData t d = .ok s ↔ Denotes t d s := by
  constructor
  · intro h
    unfold ofData at h
    split at h
    case h_1 | h_2 =>
      obtain ⟨n, hn, rfl⟩ := withData_eq_ok_iff.1 h
      obtain rfl := readUInt64_eq_ok_iff.1 hn
      constructor
    case h_3 | h_4 | h_6 | h_11 =>
      obtain ⟨rfl, rfl⟩ := withoutData_eq_ok_iff.1 h
      constructor
    case h_5 =>
      obtain ⟨ms, hms, rfl⟩ := withData_eq_ok_iff.1 h
      exact .solveTime (readOptional_readUInt64_eq_ok_iff.1 hms)
    case h_7 =>
      obtain ⟨press, hpress, rfl⟩ := withData_eq_ok_iff.1 h
      exact .button ((ButtonPress.ofValue_eq_ok_iff hd).1 hpress)
    case h_8 =>
      obtain ⟨r, hr, rfl⟩ := withData_eq_ok_iff.1 h
      exact .delegateResolve ((Resolution.ofValue_eq_ok_iff hd).1 hr)
    case h_9 =>
      obtain ⟨e, he, rfl⟩ := withData_eq_ok_iff.1 h
      exact .verifySolveTime ((Expectation.ofValue_eq_ok_iff hd).1 he)
    case h_10 =>
      obtain ⟨e, he, rfl⟩ := withData_eq_ok_iff.1 h
      exact .verifySend ((Expectation.ofValue_eq_ok_iff hd).1 he)
    case h_12 =>
      obtain ⟨fields, hfields, rfl⟩ := withData_eq_ok_iff.1 h
      exact .verifySnapshot (readOptional_readStrings_eq_ok_iff.1 hfields)
    case h_13 =>
      obtain rfl := Except.ok.inj h
      exact .unsupported (by simp [types]; grind)
  · intro h
    cases h with
    | sleep n | scanCard n => rfl
    | snapshot | resetState | solveTimeRng | verifyDelegateSent => rfl
    | solveTime h =>
      exact withData_eq_ok_iff.2 ⟨_, readOptional_readUInt64_eq_ok_iff.2 h, rfl⟩
    | button h =>
      exact withData_eq_ok_iff.2 ⟨_, (ButtonPress.ofValue_eq_ok_iff hd).2 h, rfl⟩
    | delegateResolve h =>
      exact withData_eq_ok_iff.2 ⟨_, (Resolution.ofValue_eq_ok_iff hd).2 h, rfl⟩
    | verifySolveTime h | verifySend h =>
      exact withData_eq_ok_iff.2 ⟨_, (Expectation.ofValue_eq_ok_iff hd).2 h, rfl⟩
    | verifySnapshot h =>
      exact withData_eq_ok_iff.2 ⟨_, readOptional_readStrings_eq_ok_iff.2 h, rfl⟩
    | unsupported h => exact ofData_of_not_mem_types h d

theorem withData_congr {α : Type} {type : String} {read : Value → Except Fault α}
    {make : α → Step} {d d' : Value} {s : Step} (h : ∀ a, read d' = .ok a ↔ read d = .ok a) :
    withData type read make d' = .ok s ↔ withData type read make d = .ok s := by
  simp only [withData_eq_ok_iff, h]

/-- For the step that they make the members of the data may be in any order. -/
theorem ofData_ordered_iff {t : String} {d : Value} (hd : d.Distinct) {s : Step} :
    ofData t d.ordered = .ok s ↔ ofData t d = .ok s := by
  have hnull : d.ordered = .null ↔ d = .null := by cases d <;> simp [Value.ordered]
  have hnone (step : Step) : withoutData step d.ordered = .ok s ↔ withoutData step d = .ok s := by
    simp only [withoutData_eq_ok_iff, hnull]
  have hblind {α : Type} {read : Value → Except Fault α} (h : Unordered read) (make : α → Step) :
      withData t read make d.ordered = .ok s ↔ withData t read make d = .ok s :=
    withData_congr fun a => by rw [h d]
  by_cases ht : t ∈ types
  · simp only [types, List.mem_cons, List.not_mem_nil, or_false] at ht
    rcases ht with rfl | rfl | rfl | rfl | rfl | rfl | rfl | rfl | rfl | rfl | rfl | rfl
    · exact hblind unordered_readUInt64 sleep
    · exact hblind unordered_readUInt64 scanCard
    · exact hnone snapshot
    · exact hnone resetState
    · exact hblind unordered_readUInt64.readOptional solveTime
    · exact hnone solveTimeRng
    · exact withData_congr fun _ => ButtonPress.ofValue_ordered_iff hd
    · exact withData_congr fun _ => Resolution.ofValue_ordered_iff hd
    · exact withData_congr fun _ => Expectation.ofValue_ordered_iff hd
    · exact withData_congr fun _ => Expectation.ofValue_ordered_iff hd
    · exact hnone verifyDelegateSent
    · exact hblind unordered_readString.readList.readOptional verifySnapshot
  · rw [ofData_of_not_mem_types ht, ofData_of_not_mem_types ht]

/-! ## Texts -/

/-- The members of a step: its type and its data in either order, where null may be left out. -/
inductive Members (t : String) (d : Value) : List (String × Value) → Prop
  | typeFirst : Members t d [("type", .string t), ("data", d)]
  | dataFirst : Members t d [("data", d), ("type", .string t)]
  | typeOnly (h : d = .null) : Members t d [("type", .string t)]

/-- A text of a step of a type with data. -/
def Spells (text t : String) (d : Value) : Prop :=
  ∃ members, Json.read Outline.written text = .ok (.object members) ∧ Members t d members

end Step

namespace Json

theorem Outline.of_written_object {o : Outline} {members : List (String × Value)}
    (h : o.written = .ok (.object members)) :
    ∃ level fields, o = .object level fields ∧ checkLevel level = .ok () ∧
      fields.written = .ok members := by
  cases o with
  | object level fields =>
    obtain ⟨⟨⟩, hlevel, h⟩ := ok_of_bind h
    obtain ⟨members', hmembers, h⟩ := ok_of_bind h
    obtain rfl := Value.object.inj (Except.ok.inj h)
    exact ⟨level, fields, rfl, hlevel, hmembers⟩
  | number lit | string q =>
    obtain ⟨_, -, h⟩ := ok_of_bind h
    cases h
  | array level items =>
    obtain ⟨-, -, h⟩ := ok_of_bind h
    obtain ⟨_, -, h⟩ := ok_of_bind h
    cases h
  | _ => cases h

theorem Outline.string_of_written {o : Outline} {s : String} (h : o.written = .ok (.string s)) :
    Reader.string o = .ok s := by
  cases o with
  | string q =>
    obtain ⟨s', hs, h⟩ := ok_of_bind h
    obtain rfl := Value.string.inj (Except.ok.inj h)
    exact hs
  | number lit =>
    obtain ⟨_, -, h⟩ := ok_of_bind h
    cases h
  | array level items | object level fields =>
    obtain ⟨-, -, h⟩ := ok_of_bind h
    obtain ⟨_, -, h⟩ := ok_of_bind h
    cases h
  | _ => cases h

theorem Fields.of_written_cons {fields : Fields} {name : String} {v : Value}
    {members : List (String × Value)} (h : fields.written = .ok ((name, v) :: members)) :
    ∃ key value rest, fields = .field key value rest ∧ key.textKey = .ok name ∧
      value.written = .ok v ∧ rest.written = .ok members := by
  cases fields with
  | done ending =>
    obtain ⟨-, -, h⟩ := ok_of_bind h
    cases h
  | field key value rest =>
    obtain ⟨name', hname, h⟩ := ok_of_bind h
    obtain ⟨v', hv, h⟩ := ok_of_bind h
    obtain ⟨members', hmembers, h⟩ := ok_of_bind h
    obtain ⟨heq, rfl⟩ := List.cons.inj (Except.ok.inj h)
    obtain ⟨rfl, rfl⟩ := Prod.mk.inj heq
    exact ⟨key, value, rest, rfl, hname, hv, hmembers⟩

theorem Fields.of_written_nil {fields : Fields} (h : fields.written = .ok []) :
    ∃ ending, fields = .done ending ∧ ending.checkObject = .ok () := by
  cases fields with
  | done ending =>
    obtain ⟨⟨⟩, hending, -⟩ := ok_of_bind h
    exact ⟨ending, rfl, hending⟩
  | field key value rest =>
    obtain ⟨_, -, h⟩ := ok_of_bind h
    obtain ⟨_, -, h⟩ := ok_of_bind h
    obtain ⟨_, -, h⟩ := ok_of_bind h
    cases h

end Json

namespace Step
open Json.Value Json.RecordReader

/-- The type and the data of a step. -/
def parts : RecordReader Outline (String × Value) :=
  Prod.mk <$> .required "type" Reader.string <*> .defaulted "data" Reader.value .null

theorem parts_put_type {o : Outline} {t : String} (h : Reader.string o = .ok t)
    (data : Option Value) :
    parts.put "type" o ((none, data) : Option String × Option Value) =
      some (.ok (some t, data)) := by
  change some ((fun x : Option String => (x, data)) <$> some <$> Reader.string o) = _
  rw [h]
  rfl

theorem parts_put_data {o : Outline} {d : Value} (h : Reader.value o = .ok d)
    (type : Option String) :
    parts.put "data" o ((type, none) : Option String × Option Value) =
      some (.ok (type, some d)) := by
  change some ((fun x : Option Value => (type, x)) <$> some <$> Reader.value o) = _
  rw [h]
  rfl

/-- A step that is spelled out in an object is made of its type and its data. -/
theorem read_eq_ofData {o : Outline} {t : String} {d : Value} {members : List (String × Value)}
    (ho : o.written = .ok (.object members)) (h : Members t d members) :
    read o = ofData t d.ordered := by
  obtain ⟨level, fields, rfl, hlevel, hfields⟩ := Outline.of_written_object ho
  have hread {type : Option String} {data : Option Value}
      (hput : parts.putFields fields parts.blank = .ok (type, data))
      (hfinish : parts.finish (type, data) = .ok (t, d.ordered)) :
      read (.object level fields) = ofData t d.ordered := by
    have hparts : parts.outline "RawStep" (.object level fields) = .ok (t, d.ordered) := by
      simp only [RecordReader.outline, hlevel, hput, bind, Except.bind]
      exact hfinish
    change (parts.outline "RawStep" (.object level fields) >>= fun p => ofData p.1 p.2) = _
    rw [hparts]
    rfl
  cases h with
  | typeFirst =>
    obtain ⟨key, value, rest, rfl, hkey, hvalue, hfields⟩ := Fields.of_written_cons hfields
    obtain ⟨key', value', rest, rfl, hkey', hvalue', hfields⟩ := Fields.of_written_cons hfields
    obtain ⟨ending, rfl, hending⟩ := Fields.of_written_nil hfields
    have hdata : Reader.value value' = .ok d.ordered := congrArg (Value.ordered <$> ·) hvalue'
    exact hread
      ((putFields_field hkey (parts_put_type (Outline.string_of_written hvalue) none)).trans
        ((putFields_field hkey' (parts_put_data hdata (some t))).trans (putFields_done hending _)))
      rfl
  | dataFirst =>
    obtain ⟨key, value, rest, rfl, hkey, hvalue, hfields⟩ := Fields.of_written_cons hfields
    obtain ⟨key', value', rest, rfl, hkey', hvalue', hfields⟩ := Fields.of_written_cons hfields
    obtain ⟨ending, rfl, hending⟩ := Fields.of_written_nil hfields
    have hdata : Reader.value value = .ok d.ordered := congrArg (Value.ordered <$> ·) hvalue
    exact hread
      ((putFields_field hkey (parts_put_data hdata none)).trans
        ((putFields_field hkey'
          (parts_put_type (Outline.string_of_written hvalue') (some d.ordered))).trans
            (putFields_done hending _)))
      rfl
  | typeOnly hd =>
    subst hd
    obtain ⟨key, value, rest, rfl, hkey, hvalue, hfields⟩ := Fields.of_written_cons hfields
    obtain ⟨ending, rfl, hending⟩ := Fields.of_written_nil hfields
    exact hread
      ((putFields_field hkey (parts_put_type (Outline.string_of_written hvalue) none)).trans
        (putFields_done hending _))
      rfl

/-- **The reader of steps accepts the language of steps**: a type and data without a repeated key
are a step if they denote one, and then that step, be they in memory or spelled out in a text. -/
theorem reads_iff_denotes (t : String) {d : Value} (hd : d.Distinct) :
    (∀ s, ofData t d = .ok s ↔ Denotes t d s) ∧
      ∀ text, Spells text t d → ∀ s, ofText text = .ok s ↔ Denotes t d s := by
  refine ⟨fun s => ofData_eq_ok_iff hd, ?_⟩
  rintro text ⟨members, hwritten, hmembers⟩ s
  obtain ⟨hroot, hmore⟩ := read_eq_ok_iff.1 hwritten
  rw [ofText, read_eq_ok_iff, read_eq_ofData hroot hmembers, and_iff_left hmore,
    ofData_ordered_iff hd, ofData_eq_ok_iff hd]

/-- A button is held for five milliseconds. -/
theorem reads_press :
    let d : Value := .object [("time", .ofUInt64 5), ("name", .string "start")]
    let text := "\x7b\"data\": \x7b\"time\": 5, \"name\": \"start\"\x7d, \"type\": \"Button\"\x7d"
    d.Distinct ∧ ofData "Button" d = .ok (.button ⟨"start", 5⟩) ∧ Spells text "Button" d ∧
      ofText text = .ok (.button ⟨"start", 5⟩) := by
  intro d text
  have hd : d.Distinct := by
    intro members h
    obtain rfl := Value.object.inj h
    decide
  have hspells : Spells text "Button" d :=
    ⟨_, eq_ok_of_toOption (by decide +kernel), .dataFirst⟩
  have hdenotes : Denotes "Button" d (.button ⟨"start", 5⟩) :=
    .button ⟨_, .object (by decide), rfl, Or.inl rfl⟩
  obtain ⟨hdata, htext⟩ := reads_iff_denotes "Button" hd
  exact ⟨hd, (hdata _).2 hdenotes, hspells, (htext text hspells _).2 hdenotes⟩

end Step

end StationBench
