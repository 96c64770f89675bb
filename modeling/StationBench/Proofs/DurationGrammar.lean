import Mathlib.Data.Nat.Digits.Defs
import Mathlib.Data.List.Induction
import StationBench.Duration
import StationBench.Proofs.Numerals
/-!
# The grammar of durations

A text is a duration if it is a number and a unit, with white space around either
(`Duration.Shaped`). The number is a run of ASCII digits and the unit one of the words that have a
factor (`Duration.factors`), or no word at all. Reading goes by this grammar in all cases, the
faults included (`Duration.ofText_exact`).
-/
namespace StationBench

/-! ## The grammar -/

/-- The code points of white space. -/
def Text.whiteSpace : List Nat :=
  [0x9, 0xa, 0xb, 0xc, 0xd, 0x20, 0x85, 0xa0, 0x1680, 0x2000, 0x2001, 0x2002, 0x2003, 0x2004,
    0x2005, 0x2006, 0x2007, 0x2008, 0x2009, 0x200a, 0x2028, 0x2029, 0x202f, 0x205f, 0x3000]

namespace Duration

/-- A number and a word, as they stand in a text with white space around either. -/
structure Shaped (cs number word : List Char) : Prop where
  spaced : ∃ before between behind : List Char,
    cs = before ++ number ++ between ++ word ++ behind ∧
      ∀ c ∈ before ++ between ++ behind, c.toNat ∈ Text.whiteSpace
  number_ne_nil : number ≠ []
  digits : ∀ c ∈ number, '0' ≤ c ∧ c ≤ '9'
  letters : ∀ c ∈ word, 'a' ≤ c ∧ c ≤ 'z'

/-- The number that a run of digits denotes, the last digit counting ones. -/
def count (number : List Char) : Nat :=
  Nat.ofDigits 10 (number.reverse.map fun c => c.toNat - '0'.toNat)

/-- The milliseconds that a word behind a number stands for. -/
def factors : List (String × Nat) :=
  [("", 1), ("ms", 1), ("millisecond", 1), ("millis", 1), ("milliseconds", 1),
    ("s", 1000), ("second", 1000), ("secs", 1000), ("seconds", 1000),
    ("m", 60000), ("minute", 60000), ("mins", 60000), ("minutes", 60000),
    ("h", 3600000), ("hour", 3600000), ("hours", 3600000)]

end Duration

/-! ## Characters -/

theorem Text.isSpace_iff (c : Char) : isSpace c = true ↔ c.toNat ∈ whiteSpace := by
  simp only [isSpace, whiteSpace, List.mem_cons, List.not_mem_nil, or_false, Bool.or_eq_true,
    Bool.and_eq_true, decide_eq_true_eq, beq_iff_eq]
  omega

namespace Duration

theorem isDigit_iff (c : Char) : c.isDigit = true ↔ '0' ≤ c ∧ c ≤ '9' := by
  simp [Char.isDigit, Char.le_def]

theorem isUnitLetter_iff (c : Char) : isUnitLetter c = true ↔ 'a' ≤ c ∧ c ≤ 'z' := by
  simp [isUnitLetter]

/-- White space, digits and letters have nothing in common. -/
theorem kinds_disjoint (c : Char) :
    (Text.isSpace c = true → c.isDigit = false ∧ isUnitLetter c = false) ∧
      (c.isDigit = true → Text.isSpace c = false) ∧
      (isUnitLetter c = true → Text.isSpace c = false ∧ c.isDigit = false) := by
  have hspace : Text.isSpace c = true → c.toNat < 48 ∨ 122 < c.toNat := by
    simp only [Text.isSpace, Bool.or_eq_true, Bool.and_eq_true, decide_eq_true_eq, beq_iff_eq]
    omega
  have hdigit : c.isDigit = true → 48 ≤ c.toNat ∧ c.toNat ≤ 57 := by
    simp [Char.isDigit, UInt32.le_iff_toNat_le]
  have hletter : isUnitLetter c = true → 97 ≤ c.toNat ∧ c.toNat ≤ 122 := by
    simp [isUnitLetter, Char.le_def, UInt32.le_iff_toNat_le]
  simp only [← Bool.not_eq_true]
  grind

/-! ## Splitting a text -/

theorem shaped_of_split {cs number word : List Char} (h : split cs = some (number, word)) :
    Shaped cs number word := by
  unfold split at h
  dsimp only at h
  generalize htail : cs.dropWhile Text.isSpace = tail at h
  generalize hrest : (tail.dropWhile Char.isDigit).dropWhile Text.isSpace = rest at h
  split at h
  · cases h
  next hcond =>
    obtain ⟨rfl, rfl⟩ := Prod.mk.inj (Option.some.inj h)
    simp only [Bool.or_eq_true, List.isEmpty_iff, Bool.not_eq_true', not_or, Bool.not_eq_false,
      List.dropWhile_eq_nil_iff] at hcond
    obtain ⟨hne, hbehind⟩ := hcond
    refine ⟨⟨cs.takeWhile Text.isSpace, (tail.dropWhile Char.isDigit).takeWhile Text.isSpace,
      rest.dropWhile isUnitLetter, ?_, ?_⟩, hne, ?_, ?_⟩
    · rw [List.append_assoc, List.takeWhile_append_dropWhile, ← hrest, List.append_assoc,
        List.takeWhile_append_dropWhile, List.append_assoc, List.takeWhile_append_dropWhile,
        ← htail, List.takeWhile_append_dropWhile]
    · intro c hc
      rw [← Text.isSpace_iff]
      simp only [List.mem_append] at hc
      rcases hc with (hc | hc) | hc
      · exact List.mem_takeWhile_imp hc
      · exact List.mem_takeWhile_imp hc
      · exact hbehind c hc
    · exact fun c hc => (isDigit_iff c).1 (List.mem_takeWhile_imp hc)
    · exact fun c hc => (isUnitLetter_iff c).1 (List.mem_takeWhile_imp hc)

/-- White space before a word is skipped, and all of it if there is no word. -/
theorem dropWhile_isSpace_append {between word behind : List Char}
    (hbetween : ∀ c ∈ between, Text.isSpace c = true)
    (hbehind : ∀ c ∈ behind, Text.isSpace c = true) (hword : ∀ c ∈ word, Text.isSpace c = false) :
    ∃ behind' : List Char, (∀ c ∈ behind', Text.isSpace c = true) ∧
      (between ++ (word ++ behind)).dropWhile Text.isSpace = word ++ behind' := by
  cases word with
  | nil =>
    refine ⟨[], by simp, List.dropWhile_eq_nil_iff.2 ?_⟩
    intro c hc
    exact (List.mem_append.1 hc).elim (hbetween c) (hbehind c)
  | cons a word =>
    refine ⟨behind, hbehind, (Text.cut_append hbetween ?_).2⟩
    rintro c ⟨rfl⟩
    exact hword a List.mem_cons_self

theorem split_of_shaped {cs number word : List Char} (h : Shaped cs number word) :
    split cs = some (number, word) := by
  obtain ⟨⟨before, between, behind, rfl, hblank⟩, hne, hdigits, hletters⟩ := h
  simp only [← Text.isSpace_iff, List.mem_append] at hblank
  simp only [← isDigit_iff] at hdigits
  simp only [← isUnitLetter_iff] at hletters
  have hbefore : ∀ c ∈ before, Text.isSpace c = true := fun c hc => hblank c (.inl (.inl hc))
  have hbetween : ∀ c ∈ between, Text.isSpace c = true := fun c hc => hblank c (.inl (.inr hc))
  have hbehind : ∀ c ∈ behind, Text.isSpace c = true := fun c hc => hblank c (.inr hc)
  -- each run of characters ends where the next begins, as the next is of another kind
  have hskip : ∀ c, (number ++ (between ++ (word ++ behind))).head? = some c →
      Text.isSpace c = false := by
    cases number with
    | nil => exact absurd rfl hne
    | cons a number =>
      rintro c ⟨rfl⟩
      exact (kinds_disjoint a).2.1 (hdigits a List.mem_cons_self)
  have hnumber : ∀ c, (between ++ (word ++ behind)).head? = some c → c.isDigit = false := by
    intro c hc
    obtain ⟨hspace, -, hletter⟩ := kinds_disjoint c
    rcases List.mem_append.1 (List.mem_of_head? hc) with hc | hc
    · exact (hspace (hbetween c hc)).1
    rcases List.mem_append.1 hc with hc | hc
    · exact (hletter (hletters c hc)).2
    · exact (hspace (hbehind c hc)).1
  obtain ⟨behind', hbehind', hword⟩ := dropWhile_isSpace_append hbetween hbehind
    fun c hc => ((kinds_disjoint c).2.2 (hletters c hc)).1
  have hend : ∀ c, behind'.head? = some c → isUnitLetter c = false := fun c hc =>
    ((kinds_disjoint c).1 (hbehind' c (List.mem_of_head? hc))).2
  obtain ⟨-, htail⟩ := Text.cut_append hbefore hskip
  obtain ⟨hdigitRun, hdigitRest⟩ := Text.cut_append hdigits hnumber
  obtain ⟨hletterRun, hletterRest⟩ := Text.cut_append hletters hend
  simp only [split, List.append_assoc, htail, hdigitRun, hdigitRest, hword, hletterRun,
    hletterRest, List.dropWhile_eq_nil_iff.2 hbehind', List.isEmpty_nil, Bool.not_true,
    Bool.or_false, List.isEmpty_iff, hne, if_false]

theorem shaped_iff {cs number word : List Char} :
    Shaped cs number word ↔ split cs = some (number, word) :=
  ⟨split_of_shaped, shaped_of_split⟩

/-! ## Numbers and units -/

theorem value_eq_count (number : List Char) : Decimal.value number = count number := by
  induction number using List.reverseRecOn with
  | nil => rfl
  | append_singleton number c ih =>
    have hcount : count (number ++ [c]) = (c.toNat - '0'.toNat) + 10 * count number := by
      rw [count, List.reverse_append, List.map_append]
      exact Nat.ofDigits_cons
    rw [Decimal.value_append_singleton, ih, hcount]
    exact Nat.add_comm _ _

/-- A word behind a number has a factor if and only if it names a unit. -/
theorem lookup_factors {word : String} (h : word ≠ "") :
    factors.lookup word = (TimeUnit.ofText? word).map TimeUnit.millis := by
  cases hunit : TimeUnit.ofText? word with
  | some unit =>
    have hmem : word ∈ unit.spellings := by simpa using List.find?_some hunit
    have hall : ∀ unit : TimeUnit, ∀ w ∈ unit.spellings, factors.lookup w = some unit.millis := by
      intro unit
      cases unit <;> decide
    exact hall unit word hmem
  | none =>
    have hnone := List.find?_eq_none.1 hunit
    have hspelt : ∀ p ∈ factors, p.1 = "" ∨
        ∃ unit ∈ [TimeUnit.millisecond, .second, .minute, .hour], p.1 ∈ unit.spellings := by
      decide
    refine List.lookup_eq_none_iff.2 ?_
    rintro ⟨w, factor⟩ hw
    rw [bne_iff_ne]
    rintro rfl
    rcases hspelt _ hw with hempty | ⟨unit, hunit, hmem⟩
    · exact h hempty
    · exact hnone unit hunit (by simpa using hmem)

theorem toNat_scale (n : Nat) (unit : TimeUnit) :
    (scale n unit).toNat = min (UInt64.size - 1) (n * unit.millis) := by
  have hlt : min (n * unit.millis) greatest < UInt64.size :=
    Nat.lt_of_le_of_lt (Nat.min_le_right _ _) (by decide)
  rw [scale, UInt64.toNat_ofNat_of_lt' hlt, Nat.min_comm]
  rfl

/-! ## Reading -/

/-- A text that is shaped like a duration, with a number in range, is one or names its unit. -/
theorem ofText_of_shaped {s : String} {number word : List Char}
    (hs : Shaped s.toList number word) (hn : count number ≤ UInt64.size - 1) :
    (∃ factor ms, factors.lookup (String.ofList word) = some factor ∧ ofText s = .ok ms ∧
        ms.toNat = min (UInt64.size - 1) (count number * factor)) ∨
      (word ≠ [] ∧ factors.lookup (String.ofList word) = none ∧
        ofText s = .error (.unit (String.ofList word))) := by
  have hrange : ¬ greatest < count number := Nat.not_lt.2 hn
  cases word with
  | nil =>
    refine Or.inl ⟨1, _, rfl, ?_, toNat_scale (count number) .millisecond⟩
    simp [ofText, shaped_iff.1 hs, value_eq_count, hrange]
  | cons c word =>
    have hne : String.ofList (c :: word) ≠ "" := by simp
    have hread : ofText s =
        (do return scale (count number) (← TimeUnit.ofText (String.ofList (c :: word)))) := by
      simp [ofText, shaped_iff.1 hs, value_eq_count, hrange]
    rw [hread, TimeUnit.ofText, lookup_factors hne]
    cases TimeUnit.ofText? (String.ofList (c :: word)) with
    | some unit => exact Or.inl ⟨unit.millis, _, rfl, rfl, toNat_scale (count number) unit⟩
    | none => exact Or.inr ⟨by simp, rfl, rfl⟩

/-- Any other text is no duration. -/
theorem ofText_of_not_shaped {s : String}
    (h : ¬ ∃ number word, Shaped s.toList number word ∧ count number ≤ UInt64.size - 1) :
    ofText s = .error (.shape s) := by
  unfold ofText
  cases hs : split s.toList with
  | none => rfl
  | some parts =>
    obtain ⟨number, word⟩ := parts
    have hrange : greatest < Decimal.value number := by
      rw [value_eq_count, ← Nat.not_le]
      exact fun hn => h ⟨number, word, shaped_iff.2 hs, hn⟩
    exact if_pos hrange

theorem exists_shaped_of_ne {s : String} (h : ofText s ≠ .error (.shape s)) :
    ∃ number word, Shaped s.toList number word ∧ count number ≤ UInt64.size - 1 :=
  not_imp_comm.1 ofText_of_not_shaped h

/-- Number and word are determined by the text. -/
theorem Shaped.unique {cs number word number' word' : List Char} (h : Shaped cs number word)
    (h' : Shaped cs number' word') : number = number' ∧ word = word' :=
  Prod.mk.inj (Option.some.inj ((shaped_iff.1 h).symm.trans (shaped_iff.1 h')))

/-- **Durations are read exactly by their grammar.** A text is read if and only if it is a number of
at most 64 bits and a word with a factor, or none, with white space around either; it stands for the
product, up to the greatest duration. If the word has no factor, the fault names it, and any other
text is faulted as it is. The number and the word are determined by the text. -/
theorem ofText_exact (s : String) :
    (∀ ms, ofText s = .ok ms ↔
      ∃ number word factor, Shaped s.toList number word ∧ count number ≤ UInt64.size - 1 ∧
        factors.lookup (String.ofList word) = some factor ∧
        ms.toNat = min (UInt64.size - 1) (count number * factor)) ∧
    (∀ unit, ofText s = .error (.unit unit) ↔
      ∃ number word, Shaped s.toList number word ∧ count number ≤ UInt64.size - 1 ∧ word ≠ [] ∧
        factors.lookup (String.ofList word) = none ∧ unit = String.ofList word) ∧
    (∀ text, ofText s = .error (.shape text) ↔
      text = s ∧ ¬ ∃ number word, Shaped s.toList number word ∧ count number ≤ UInt64.size - 1) ∧
    ∀ number word number' word', Shaped s.toList number word → Shaped s.toList number' word' →
      number = number' ∧ word = word' := by
  refine ⟨fun ms => ⟨?_, ?_⟩, fun unit => ⟨?_, ?_⟩, fun text => ⟨?_, ?_⟩,
    fun _ _ _ _ => Shaped.unique⟩
  · intro hok
    obtain ⟨number, word, hs, hn⟩ := exists_shaped_of_ne (s := s) (by simp [hok])
    rcases ofText_of_shaped hs hn with ⟨factor, ms', hfactor, hread, hms⟩ | ⟨-, -, hread⟩
    · obtain rfl := Except.ok.inj (hok.symm.trans hread)
      exact ⟨number, word, factor, hs, hn, hfactor, hms⟩
    · rw [hok] at hread
      cases hread
  · rintro ⟨number, word, factor, hs, hn, hfactor, hms⟩
    rcases ofText_of_shaped hs hn with ⟨factor', ms', hfactor', hread, hms'⟩ | ⟨-, hnone, -⟩
    · obtain rfl := Option.some.inj (hfactor.symm.trans hfactor')
      rw [hread, UInt64.toNat_inj.1 (hms'.trans hms.symm)]
    · rw [hfactor] at hnone
      cases hnone
  · intro herror
    obtain ⟨number, word, hs, hn⟩ := exists_shaped_of_ne (s := s) (by simp [herror])
    rcases ofText_of_shaped hs hn with ⟨_, _, -, hread, -⟩ | ⟨hne, hnone, hread⟩
    · rw [herror] at hread
      cases hread
    · have hunit := herror.symm.trans hread
      exact ⟨number, word, hs, hn, hne, hnone, by simpa using hunit⟩
  · rintro ⟨number, word, hs, hn, -, hnone, rfl⟩
    rcases ofText_of_shaped hs hn with ⟨factor, _, hfactor, -, -⟩ | ⟨-, -, hread⟩
    · rw [hnone] at hfactor
      cases hfactor
    · exact hread
  · intro herror
    by_cases h : ∃ number word, Shaped s.toList number word ∧ count number ≤ UInt64.size - 1
    · obtain ⟨number, word, hs, hn⟩ := h
      rcases ofText_of_shaped hs hn with ⟨_, _, -, hread, -⟩ | ⟨-, -, hread⟩ <;>
        · rw [herror] at hread
          cases hread
    · have htext := herror.symm.trans (ofText_of_not_shaped h)
      exact ⟨by simpa using htext, h⟩
  · rintro ⟨rfl, h⟩
    exact ofText_of_not_shaped h

/-- White space need not be ASCII, but digits must be; a number out of range is faulted before its
unit is. -/
example : ofText " 2\u00a0m\u2003" = .ok 120000 ∧ ofText "007" = .ok 7 ∧
    ofText "99999999999999999 h" = .ok 18446744073709551615 ∧
    ofText "3 days" = .error (.unit "days") ∧
    ofText "18446744073709551616 days" = .error (.shape "18446744073709551616 days") ∧
    ofText "٣s" = .error (.shape "٣s") := by
  decide +kernel

end Duration
end StationBench
