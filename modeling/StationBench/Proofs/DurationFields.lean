import StationBench.Proofs.CompactText
import StationBench.Proofs.DocumentRecord
import StationBench.Proofs.DurationGrammar
import StationBench.Proofs.Lookup
import StationBench.Settings.Loading
import StationBench.Suite
/-!
# Durations in documents

Tests and settings give durations in the same way, as a number or as a text
(`Duration.WrittenAs`). A test keeps the number of milliseconds of the span that is meant, which is
the number that was written (`Span.toMillis_ofMillis`), so whatever is put in the place of the one
field or of the other is taken under the same condition and for the same time
(`Duration.fields_agree`).
-/
namespace StationBench
open Json

/-! ## Spans -/

namespace Span

theorem millis_ofMillis (ms : Millis) : (ofMillis ms).millis = ms.toNat := by
  have hseconds : (ms / 1000).toNat = ms.toNat / 1000 := UInt64.toNat_div ms 1000
  simp only [millis, ofMillis, hseconds]
  omega

/-- **A span that was made of milliseconds never has too many of them.** -/
theorem toMillis_ofMillis (ms : Millis) : (ofMillis ms).toMillis = .ok ms := by
  rw [toMillis, millis_ofMillis, if_pos ms.toNat_lt]
  exact congrArg Except.ok UInt64.ofNat_toNat

end Span

/-- Nothing is null but null. -/
theorem Json.Outline.eq_null_of_written {o : Outline} (h : o.written = .ok .null) : o = .null := by
  cases o with
  | null => rfl
  | bool b | broken flaw => cases h
  | number lit | string q =>
    obtain ⟨_, -, h⟩ := ok_of_bind h
    cases h
  | array level items | object level fields =>
    obtain ⟨-, -, h⟩ := ok_of_bind h
    obtain ⟨_, -, h⟩ := ok_of_bind h
    cases h

namespace Duration

/-! ## One value -/

/-- A value that stands for so many milliseconds: their number, or the text of a duration. -/
def WrittenAs (v : Value) (ms : Millis) : Prop :=
  v = .ofUInt64 ms ∨ ∃ s, v = .string s ∧ ofText s = .ok ms

theorem ofValue_eq_ok_iff {v : Value} {ms : Millis} : ofValue v = .ok ms ↔ WrittenAs v ms := by
  constructor
  · intro h
    match v, h with
    | .number (.natural n), h =>
      obtain rfl := Except.ok.inj h
      exact Or.inl rfl
    | .string s, h => exact Or.inr ⟨s, rfl, ok_of_mapError h⟩
  · rintro (rfl | ⟨s, rfl, hs⟩)
    · rfl
    · rw [ofValue, hs]
      rfl

theorem WrittenAs.unique {v : Value} {ms ms' : Millis} (h : WrittenAs v ms)
    (h' : WrittenAs v ms') : ms = ms' :=
  Except.ok.inj ((ofValue_eq_ok_iff.2 h).symm.trans (ofValue_eq_ok_iff.2 h'))

theorem writtenAs_string_iff {s : String} {ms : Millis} :
    WrittenAs (.string s) ms ↔ ofText s = .ok ms := by
  constructor
  · rintro (h | ⟨s', h, hs⟩)
    · cases h
    · rwa [Value.string.inj h]
  · exact fun h => Or.inr ⟨s, rfl, h⟩

theorem not_writtenAs_null (ms : Millis) : ¬ WrittenAs .null ms := by
  rintro (h | ⟨s, h, -⟩) <;> cases h

/-- Going through a span of time changes nothing. -/
theorem readMillis_eq_read (o : Outline) : readMillis o = read o := by
  unfold readMillis
  simp only [Span.toMillis_ofMillis]
  cases read o <;> rfl

section
variable {o : Outline} {v : Value} (h : o.written = .ok v)
include h

theorem read_eq_ok_iff_writtenAs {ms : Millis} : read o = .ok ms ↔ WrittenAs v ms := by
  rw [← ofValue_eq_ok_iff, read, h]
  rfl

theorem readMillis_eq_ok_iff {ms : Millis} : readMillis o = .ok ms ↔ WrittenAs v ms := by
  rw [readMillis_eq_read, read_eq_ok_iff_writtenAs h]

theorem readOptional_eq_ok_iff {t : Option Millis} :
    Reader.optional read o = .ok t ↔
      v = .null ∧ t = none ∨ ∃ ms, WrittenAs v ms ∧ t = some ms := by
  by_cases ho : o = .null
  · subst ho
    obtain rfl := Except.ok.inj h
    constructor
    · intro ht
      exact Or.inl ⟨rfl, (Except.ok.inj ht).symm⟩
    · rintro (⟨-, rfl⟩ | ⟨ms, hms, -⟩)
      · rfl
      · exact absurd hms (not_writtenAs_null ms)
  · have hread : Reader.optional read o = some <$> read o := by
      cases o <;> first | rfl | exact absurd rfl ho
    rw [hread]
    constructor
    · intro ht
      obtain ⟨ms, hms, rfl⟩ := ok_of_map ht
      exact Or.inr ⟨ms, (read_eq_ok_iff_writtenAs h).1 hms, rfl⟩
    · rintro (⟨rfl, -⟩ | ⟨ms, hms, rfl⟩)
      · exact absurd (Outline.eq_null_of_written h) ho
      · rw [(read_eq_ok_iff_writtenAs h).2 hms]
        rfl

end

/-! ## Numbers with a unit -/

theorem letters_of_lookup_factors {unit : String} {factor : Nat}
    (h : factors.lookup unit = some factor) : ∀ c ∈ unit.toList, 'a' ≤ c ∧ c ≤ 'z' := by
  have hall : (factors.all fun p => p.1.toList.all isUnitLetter) = true := by decide +kernel
  have hword := List.all_eq_true.1 hall _ (mem_of_lookup h)
  exact fun c hc => (isUnitLetter_iff c).1 (List.all_eq_true.1 hword c hc)

/-- A number and the word of a unit are a duration if the number has 64 bits at most. -/
theorem ofText_number {unit : String} {factor : Nat} (hunit : factors.lookup unit = some factor)
    (n : Nat) (ms : Millis) :
    ofText (Decimal.text n ++ unit) = .ok ms ↔
      n < UInt64.size ∧ ms.toNat = min (UInt64.size - 1) (n * factor) := by
  have hcount : count (Decimal.digits n) = n := by rw [← value_eq_count, Decimal.value_digits]
  have hshaped : Shaped (Decimal.text n ++ unit).toList (Decimal.digits n) unit.toList := by
    refine ⟨⟨[], [], [], ?_, by simp⟩, Decimal.digits_ne_nil n, ?_,
      letters_of_lookup_factors hunit⟩
    · simp [Decimal.text]
    · exact fun c hc => (isDigit_iff c).1 (Decimal.all_isDigit_digits n c hc)
  by_cases hn : n < UInt64.size
  · have hle : count (Decimal.digits n) ≤ UInt64.size - 1 := by rw [hcount]; omega
    rcases ofText_of_shaped hshaped hle with ⟨factor', ms', hfactor, hread, hms⟩ | ⟨-, hnone, -⟩
    · rw [String.ofList_toList, hunit] at hfactor
      obtain rfl := Option.some.inj hfactor
      rw [hread, and_iff_right hn, ← hcount, ← hms, Except.ok.injEq, UInt64.toNat_inj, eq_comm]
    · rw [String.ofList_toList, hunit] at hnone
      cases hnone
  · have hnot : ¬ ∃ number word, Shaped (Decimal.text n ++ unit).toList number word ∧
        count number ≤ UInt64.size - 1 := by
      rintro ⟨number, word, hs, hle⟩
      obtain ⟨rfl, -⟩ := hs.unique hshaped
      rw [hcount] at hle
      exact hn (Nat.lt_of_le_of_lt hle (by decide))
    simp [ofText_of_not_shaped hnot, hn]

/-- A number of 64 bits with a unit of one millisecond stands for itself. -/
theorem writtenAs_millis {unit : String} (hunit : factors.lookup unit = some 1) (n ms : UInt64) :
    WrittenAs (.string (Decimal.text n.toNat ++ unit)) ms ↔ ms = n := by
  have hlt : n.toNat < UInt64.size := n.toNat_lt
  rw [writtenAs_string_iff, ofText_number hunit, and_iff_right hlt, Nat.mul_one,
    Nat.min_eq_right (by omega), UInt64.toNat_inj]

end Duration

/-! ## Tests and settings -/

section
open RecordReader

/-- The fields of a test. -/
def Test.fields : RecordReader Outline Test :=
  Test.mk <$> .required "name" Reader.string <*> .defaulted "sleepBetween" Duration.readMillis 0
    <*> .defaulted "seed" (Reader.optional Reader.uint64) none
    <*> .defaulted "steps" (Reader.list Step.read) []

theorem Test.read_eq : Test.read = fields.outline "Test" := rfl

theorem Test.read_of_fields {o : Outline} {fields : List (String × Outline)}
    (h : o.Fields Test.fields.names fields) {test : Test} :
    Test.read o = .ok test ↔
      fieldOf Reader.string none (fields.lookup "name") = some test.name ∧
      fieldOf Duration.readMillis (some 0) (fields.lookup "sleepBetween") =
        some test.sleepBetween ∧
      fieldOf (Reader.optional Reader.uint64) (some none) (fields.lookup "seed") =
        some test.seed ∧
      fieldOf (Reader.list Step.read) (some []) (fields.lookup "steps") = some test.steps := by
  have hgathers : Test.fields.GathersOnce _ :=
    (((gathersOnce_required.map Test.mk).seq gathersOnce_defaulted (by decide)).seq
      gathersOnce_defaulted (by decide)).seq gathersOnce_defaulted (by decide)
  rw [read_eq, hgathers.outline_of_fields h]
  simp only [Option.bind_eq_some_iff, Option.map_eq_some_iff]
  constructor
  · rintro ⟨_, ⟨_, ⟨_, ⟨name, hname, rfl⟩, sleep, hsleep, rfl⟩, seed, hseed, rfl⟩, steps, hsteps,
      rfl⟩
    exact ⟨hname, hsleep, hseed, hsteps⟩
  · rintro ⟨hname, hsleep, hseed, hsteps⟩
    exact ⟨_, ⟨_, ⟨_, ⟨_, hname, rfl⟩, _, hsleep, rfl⟩, _, hseed, rfl⟩, _, hsteps, rfl⟩

/-- **What is put in the place of the pause of a test** is taken if it is a duration. -/
theorem Test.read_replaced {d d' o : Outline} {v : Value} {test : Test}
    (h : Outline.Replaced fields.names "sleepBetween" o d d') (hd : Test.read d = .ok test)
    (ho : o.written = .ok v) (test' : Test) :
    Test.read d' = .ok test' ↔
      ∃ ms, Duration.WrittenAs v ms ∧ test' = { test with sleepBetween := ms } := by
  obtain ⟨fields, fields', hfields, hfields', hsleep, hothers⟩ := h
  obtain ⟨hname, -, hseed, hsteps⟩ := (Test.read_of_fields hfields).1 hd
  rw [Test.read_of_fields hfields', hothers "name" (by decide), hothers "seed" (by decide),
    hothers "steps" (by decide), hsleep, hname, hseed, hsteps, fieldOf, toOption_eq_some_iff,
    Duration.readMillis_eq_ok_iff ho]
  constructor
  · rintro ⟨hname, hms, hseed, hsteps⟩
    refine ⟨test'.sleepBetween, hms, ?_⟩
    rw [Test.mk.injEq]
    exact ⟨(Option.some.inj hname).symm, rfl, (Option.some.inj hseed).symm,
      (Option.some.inj hsteps).symm⟩
  · rintro ⟨ms, hms, rfl⟩
    exact ⟨rfl, hms, rfl, rfl⟩

theorem Settings.read_of_fields {o : Outline} {fields : List (String × Outline)}
    (h : o.Fields reader.names fields) {s : Settings} :
    Settings.read o = .ok s ↔
      fieldOf Reader.uint64 (some ({} : Settings).seed) (fields.lookup "seed") = some s.seed ∧
      fieldOf Reader.bool (some ({} : Settings).perTestSeed) (fields.lookup "per_test_seed") =
        some s.perTestSeed ∧
      fieldOf Reader.bool (some ({} : Settings).continueOnFailure)
        (fields.lookup "continue_on_failure") = some s.continueOnFailure ∧
      fieldOf Reader.bool (some ({} : Settings).realtime) (fields.lookup "realtime") =
        some s.realtime ∧
      fieldOf (Reader.optional Duration.read) (some ({} : Settings).timeout)
        (fields.lookup "timeout") = some s.timeout ∧
      fieldOf Reader.uint64 (some ({} : Settings).rngMin) (fields.lookup "rng_min_ms") =
        some s.rngMin ∧
      fieldOf Reader.uint64 (some ({} : Settings).rngMax) (fields.lookup "rng_max_ms") =
        some s.rngMax ∧
      fieldOf (Reader.optional (Reader.text "path string")) (some ({} : Settings).report)
        (fields.lookup "report") = some s.report ∧
      fieldOf (Reader.list Reader.string) (some ({} : Settings).only) (fields.lookup "only") =
        some s.only := by
  have hgathers : reader.GathersOnce _ :=
    ((((((((gathersOnce_defaulted.map Settings.mk).seq gathersOnce_defaulted (by decide)).seq
      gathersOnce_defaulted (by decide)).seq gathersOnce_defaulted (by decide)).seq
      gathersOnce_defaulted (by decide)).seq gathersOnce_defaulted (by decide)).seq
      gathersOnce_defaulted (by decide)).seq gathersOnce_defaulted (by decide)).seq
      gathersOnce_defaulted (by decide)
  rw [Settings.read, hgathers.outline_of_fields h]
  simp only [Option.bind_eq_some_iff, Option.map_eq_some_iff]
  constructor
  · rintro ⟨_, ⟨_, ⟨_, ⟨_, ⟨_, ⟨_, ⟨_, ⟨_, ⟨_, h1, rfl⟩, _, h2, rfl⟩, _, h3, rfl⟩, _, h4, rfl⟩,
      _, h5, rfl⟩, _, h6, rfl⟩, _, h7, rfl⟩, _, h8, rfl⟩, _, h9, rfl⟩
    exact ⟨h1, h2, h3, h4, h5, h6, h7, h8, h9⟩
  · rintro ⟨h1, h2, h3, h4, h5, h6, h7, h8, h9⟩
    exact ⟨_, ⟨_, ⟨_, ⟨_, ⟨_, ⟨_, ⟨_, ⟨_, ⟨_, h1, rfl⟩, _, h2, rfl⟩, _, h3, rfl⟩, _, h4, rfl⟩,
      _, h5, rfl⟩, _, h6, rfl⟩, _, h7, rfl⟩, _, h8, rfl⟩, _, h9, rfl⟩

/-- **What is put in the place of the timeout** is taken if it is a duration, or null for none. -/
theorem Settings.read_replaced {d d' o : Outline} {v : Value} {s : Settings}
    (h : Outline.Replaced reader.names "timeout" o d d') (hd : Settings.read d = .ok s)
    (ho : o.written = .ok v) (s' : Settings) :
    Settings.read d' = .ok s' ↔
      v = .null ∧ s' = { s with timeout := none } ∨
        ∃ ms, Duration.WrittenAs v ms ∧ s' = { s with timeout := some ms } := by
  obtain ⟨fields, fields', hfields, hfields', htimeout, hothers⟩ := h
  obtain ⟨h1, h2, h3, h4, -, h6, h7, h8, h9⟩ := (Settings.read_of_fields hfields).1 hd
  rw [Settings.read_of_fields hfields', hothers "seed" (by decide),
    hothers "per_test_seed" (by decide), hothers "continue_on_failure" (by decide),
    hothers "realtime" (by decide), hothers "rng_min_ms" (by decide),
    hothers "rng_max_ms" (by decide), hothers "report" (by decide), hothers "only" (by decide),
    htimeout, h1, h2, h3, h4, h6, h7, h8, h9, fieldOf, toOption_eq_some_iff,
    Duration.readOptional_eq_ok_iff ho]
  constructor
  · rintro ⟨h1, h2, h3, h4, ht, h6, h7, h8, h9⟩
    have heq : s' = { s with timeout := s'.timeout } := by
      rw [Settings.mk.injEq]
      exact ⟨(Option.some.inj h1).symm, (Option.some.inj h2).symm, (Option.some.inj h3).symm,
        (Option.some.inj h4).symm, rfl, (Option.some.inj h6).symm, (Option.some.inj h7).symm,
        (Option.some.inj h8).symm, (Option.some.inj h9).symm⟩
    rcases ht with ⟨hv, ht⟩ | ⟨ms, hms, ht⟩
    · exact Or.inl ⟨hv, by rw [heq, ht]⟩
    · exact Or.inr ⟨ms, hms, by rw [heq, ht]⟩
  · rintro (⟨hv, rfl⟩ | ⟨ms, hms, rfl⟩)
    · exact ⟨rfl, rfl, rfl, rfl, Or.inl ⟨hv, rfl⟩, rfl, rfl, rfl, rfl⟩
    · exact ⟨rfl, rfl, rfl, rfl, Or.inr ⟨ms, hms, rfl⟩, rfl, rfl, rfl, rfl⟩

end

/-! ## In layers -/

/-- Where settings come in layers, whole numbers have 63 bits: a greater one is a real there, and no
duration. -/
theorem Given.readDuration_eq_ok_iff {origin : Origin} {v : Value} {ms : Millis} :
    readDuration (ofValue origin v) = .ok ms ↔
      Duration.WrittenAs v ms ∧ (v = .ofUInt64 ms → ms.toNat < Decimal.signedBound) := by
  match v with
  | .number (.natural n) =>
    by_cases hn : n.toNat < Decimal.signedBound
    · have hread : readDuration (ofValue origin (.number (.natural n))) = .ok n := by
        rw [ofValue, signed, if_pos hn]
        rfl
      rw [hread]
      constructor
      · rintro ⟨rfl⟩
        exact ⟨Or.inl rfl, fun _ => hn⟩
      · rintro ⟨h, -⟩
        rw [h.unique (Or.inl rfl)]
    · constructor
      · intro h
        rw [ofValue, signed, if_neg hn] at h
        cases h
      · rintro ⟨h, hlt⟩
        obtain rfl := h.unique (Or.inl rfl)
        exact absurd (hlt rfl) hn
  | .string s =>
    have hread : readDuration (ofValue origin (.string s)) = .ok ms ↔
        Duration.ofValue (.string s) = .ok ms := by
      constructor
      · exact ok_of_mapError
      · intro h
        exact congrArg (Except.mapError SettingsFault.duration) h
    rw [hread, Duration.ofValue_eq_ok_iff, and_iff_left (fun h => by cases h)]
  | .null | .bool _ | .array _ | .object _ | .number (.negative _) | .number (.real _) =>
    constructor
    · rintro ⟨⟩
    · rintro ⟨h | ⟨_, h, -⟩, -⟩ <;> cases h

/-! ## Both fields -/

namespace Duration

/-- **A test and settings give durations alike.** Whatever value is put in the place of the pause of
a test or of the timeout of settings, each of them is read with it if and only if it stands for some
milliseconds, and then has these as its pause or timeout; null stands for no timeout. The value
tells the number of milliseconds, and a span of that many gives them back. Numbers, their texts and
their texts with the unit `ms` stand for themselves, and with the unit `s` for a thousand times as
much, up to the greatest duration. A timeout in a layer of settings is read alike, but that whole
numbers have 63 bits there. -/
theorem fields_agree :
    (∀ d d' o v test, Outline.Replaced Test.fields.names "sleepBetween" o d d' →
      Test.read d = .ok test → Outline.written o = .ok v → ∀ test',
        (Test.read d' = .ok test' ↔
          ∃ ms, WrittenAs v ms ∧ test' = { test with sleepBetween := ms })) ∧
    (∀ d d' o v s, Outline.Replaced Settings.reader.names "timeout" o d d' →
      Settings.read d = .ok s → Outline.written o = .ok v → ∀ s',
        (Settings.read d' = .ok s' ↔
          v = .null ∧ s' = { s with timeout := none } ∨
            ∃ ms, WrittenAs v ms ∧ s' = { s with timeout := some ms })) ∧
    (∀ v ms ms', WrittenAs v ms → WrittenAs v ms' → ms = ms') ∧
    (∀ ms, (Span.ofMillis ms).millis = ms.toNat ∧ (Span.ofMillis ms).toMillis = .ok ms) ∧
    (∀ n ms : UInt64, (WrittenAs (.ofUInt64 n) ms ↔ ms = n) ∧
      (WrittenAs (.string (Decimal.text n.toNat)) ms ↔ ms = n) ∧
      (WrittenAs (.string (Decimal.text n.toNat ++ "ms")) ms ↔ ms = n)) ∧
    (∀ (n : Nat) (ms : UInt64), WrittenAs (.string (Decimal.text n ++ "s")) ms ↔
      n < UInt64.size ∧ ms.toNat = min (UInt64.size - 1) (1000 * n)) ∧
    ∀ origin v ms, Given.readDuration (Given.ofValue origin v) = .ok ms ↔
      WrittenAs v ms ∧ (v = .ofUInt64 ms → ms.toNat < Decimal.signedBound) := by
  refine ⟨fun d d' o v test h hd ho => Test.read_replaced h hd ho,
    fun d d' o v s h hd ho => Settings.read_replaced h hd ho, fun v ms ms' => WrittenAs.unique,
    fun ms => ⟨Span.millis_ofMillis ms, Span.toMillis_ofMillis ms⟩, ?_, ?_,
    fun origin v ms => Given.readDuration_eq_ok_iff⟩
  · intro n ms
    refine ⟨⟨?_, ?_⟩, ?_, writtenAs_millis rfl n ms⟩
    · exact fun h => h.unique (Or.inl rfl)
    · rintro rfl
      exact Or.inl rfl
    · rw [← writtenAs_millis (rfl : factors.lookup "" = some 1) n ms, String.append_empty]
  · intro n ms
    rw [writtenAs_string_iff, ofText_number (rfl : factors.lookup "s" = some 1000), Nat.mul_comm]

/-- A text in the place of a number, in a test and in settings. -/
theorem fields_agree_two_seconds :
    let testWith (v : Value) : Outline :=
      (Value.object [("name", .string "t"), ("sleepBetween", v)]).outline 0
    let settingsWith (v : Value) : Outline := (Value.object [("timeout", v)]).outline 0
    let text : Value := .string " 2 s"
    Test.read (testWith (.ofUInt64 5)) = .ok ⟨"t", 5, none, []⟩ ∧
      Settings.read (settingsWith (.ofUInt64 5)) = .ok { timeout := some 5 } ∧
      WrittenAs text 2000 ∧ Test.read (testWith text) = .ok ⟨"t", 2000, none, []⟩ ∧
      Settings.read (settingsWith text) = .ok { timeout := some 2000 } ∧
      Settings.read (settingsWith .null) = .ok {} := by
  intro testWith settingsWith text
  have htest (v : Value) : (testWith v).Fields Test.fields.names
      [("name", (Value.string "t").outline 1), ("sleepBetween", v.outline 1)] :=
    .object rfl (.taken (textKey_ofString _) (by decide)
      (.taken (textKey_ofString _) (by decide) (.done rfl))) (by simp)
  have hsettings (v : Value) : (settingsWith v).Fields Settings.reader.names
      [("timeout", v.outline 1)] :=
    .object rfl (.taken (textKey_ofString _) (by decide) (.done rfl)) (by simp)
  have htestReplaced (v v' : Value) : Outline.Replaced Test.fields.names "sleepBetween"
      (v'.outline 1) (testWith v) (testWith v') := by
    refine ⟨_, _, htest v, htest v', rfl, fun k hk => ?_⟩
    by_cases hname : k = "name"
    · simp [hname]
    · rw [lookup_cons_of_ne hname, lookup_cons_of_ne hk, lookup_cons_of_ne hname,
        lookup_cons_of_ne hk]
  have hsettingsReplaced (v v' : Value) : Outline.Replaced Settings.reader.names "timeout"
      (v'.outline 1) (settingsWith v) (settingsWith v') :=
    ⟨_, _, hsettings v, hsettings v', rfl, fun k hk => by
      rw [lookup_cons_of_ne hk, lookup_cons_of_ne hk]⟩
  have hnumber : Test.read (testWith (.ofUInt64 5)) = .ok ⟨"t", 5, none, []⟩ :=
    eq_ok_of_toOption (by decide +kernel)
  have hnumber' : Settings.read (settingsWith (.ofUInt64 5)) = .ok { timeout := some 5 } :=
    eq_ok_of_toOption (by decide +kernel)
  have htext : WrittenAs text 2000 := Or.inr ⟨_, rfl, by decide +kernel⟩
  have hwritten : (text.outline 1).written = .ok text := eq_ok_of_toOption (by decide +kernel)
  obtain ⟨hpause, htimeout, -⟩ := fields_agree
  exact ⟨hnumber, hnumber', htext,
    (hpause _ _ _ _ _ (htestReplaced _ _) hnumber hwritten _).2 ⟨2000, htext, rfl⟩,
    (htimeout _ _ _ _ _ (hsettingsReplaced _ _) hnumber' hwritten _).2
      (Or.inr ⟨2000, htext, rfl⟩),
    (htimeout _ _ _ _ _ (hsettingsReplaced _ .null) hnumber' rfl _).2 (Or.inl ⟨rfl, rfl⟩)⟩

end Duration

end StationBench
