import StationBench.Proofs.CompactText
import StationBench.Proofs.Written
/-!
# Messages as texts

A message is written in two ways: as a JSON text, in which it is sent, and as a line of a log. The
first is read back (`Message.ofText_compact`) and the second is read by people, who can tell any two
messages apart by it (`Message.text_inj`). Both hold of messages with a canonical penalty, and there
are no others (`Message.occurs_iff`): so no two messages that are ever met are written alike
(`Message.texts_tell_apart`).
-/
namespace StationBench
open Json

/-! ## Scalars that are read back -/

namespace Json

namespace Value

variable (level : Nat)

theorem read_outline_uint64 (n : UInt64) : Reader.uint64 ((ofUInt64 n).outline level) = .ok n := by
  rw [ofUInt64, outline, Reader.uint64, value_literal (n := .natural n) trivial]
  rfl

theorem read_outline_int64 (i : Int64) : Reader.int64 ((ofInt64 i).outline level) = .ok i := by
  rw [ofInt64, outline, Reader.int64, value_literal (Number.whole_ofInt64 i)]
  exact Number.toInt64_ofInt64 i

theorem read_outline_optional_uint64 (o : Option UInt64) :
    Reader.optional Reader.uint64 ((ofOption ofUInt64 o).outline level) = .ok o := by
  cases o with
  | none => rfl
  | some n => exact congrArg (some <$> ·) (read_outline_uint64 level n)

end Value

end Json

theorem Penalty.read_outline {p : Penalty} (h : p.Canonical) (level : Nat) :
    Penalty.read (p.toJson.outline level) = .ok p := by
  rw [Penalty.read, Penalty.toJson, Value.read_outline_int64]
  exact congrArg Except.ok (Penalty.ofInt64_toInt64 h)

/-! ## The text that is sent -/

namespace Message

variable {m m' : Message}

theorem fits_toJson (m : Message) : m.toJson.Fits deepestLevel := by
  exact ⟨by decide, Value.fits_ofOption .ofUInt64 (fun _ => trivial) m.time,
    Number.whole_ofInt64 _, trivial, trivial⟩

theorem put_time {o : Outline} {time : Option Millis}
    (h : Reader.optional Reader.uint64 o = .ok time) (rest : Option Penalty) (last : Option Bool) :
    reader.put "time" o ((none, rest), last) = some (.ok ((some time, rest), last)) := by
  change some ((·, last) <$> (·, rest) <$> some <$> Reader.optional Reader.uint64 o) = _
  rw [h]
  rfl

theorem put_penalty {o : Outline} {penalty : Penalty} (h : Penalty.read o = .ok penalty)
    (first : Option (Option Millis)) (last : Option Bool) :
    reader.put "penalty" o ((first, none), last) = some (.ok ((first, some penalty), last)) := by
  change some ((·, last) <$> (first, ·) <$> some <$> Penalty.read o) = _
  rw [h]
  rfl

/-- Each field of a message is read back from its place in the outline. -/
theorem read_outline (h : m.penalty.Canonical) : Message.read (m.toJson.outline 0) = .ok m := by
  have hfields : reader.putFields (Value.outlineFields 1
      [("time", .ofOption .ofUInt64 m.time), ("penalty", m.penalty.toJson),
        ("delegate", .bool m.delegate)]) reader.blank =
      .ok ((some m.time, some m.penalty), some m.delegate) :=
    (RecordReader.putFields_field (textKey_ofString "time")
      (put_time (Value.read_outline_optional_uint64 1 m.time) none none)).trans
      ((RecordReader.putFields_field (textKey_ofString "penalty")
        (put_penalty (Penalty.read_outline h 1) (some m.time) none)).trans
        ((RecordReader.putFields_field (textKey_ofString "delegate") rfl).trans
          (RecordReader.putFields_done rfl _)))
  change (reader.putFields _ reader.blank >>= reader.finish) = _
  rw [hfields]
  rfl

theorem ofText_compact (h : m.penalty.Canonical) : ofText m.toJson.compact = .ok m := by
  rw [ofText, read_eq_ok_iff, Value.ofText_compact m.fits_toJson]
  exact ⟨read_outline h, rfl⟩

/-! ## The line of the log -/

end Message

namespace Penalty

variable {p q : Penalty}

/-- Any other integer is shown with its sign. -/
theorem toList_text_other (i : Int64) :
    (other i).text.toList =
      if 0 < i then '+' :: Decimal.digits i.toInt.natAbs else Decimal.signedDigits i.toInt := by
  simp only [text, String.toList_append, Decimal.signedText, String.toList_ofList]
  split
  · next h =>
    have hpos : 0 < i.toInt := Int64.lt_iff_toInt_lt.1 h
    rw [Decimal.signedDigits, if_neg (by omega)]
    rfl
  · rfl

theorem not_mem_text_other {c : Char} (h : c.isDigit = false) (hplus : c ≠ '+') (hminus : c ≠ '-')
    (i : Int64) : c ∉ (other i).text.toList := by
  rw [toList_text_other]
  split
  · rw [List.mem_cons, not_or]
    exact ⟨hplus, Decimal.not_mem_digits h _⟩
  · exact Decimal.not_mem_signedDigits h hminus _

theorem text_other_injective {i j : Int64} (h : (other i).text = (other j).text) : i = j := by
  have hplus (k : Int) : '+' ∉ Decimal.signedDigits k :=
    Decimal.not_mem_signedDigits rfl (by decide) k
  have hlist := congrArg String.toList h
  rw [toList_text_other, toList_text_other] at hlist
  apply Int64.toInt_inj.1
  split at hlist <;> split at hlist
  · next hi hj =>
    have hi : 0 < i.toInt := Int64.lt_iff_toInt_lt.1 hi
    have hj : 0 < j.toInt := Int64.lt_iff_toInt_lt.1 hj
    have habs := Decimal.digits_injective (List.cons.inj hlist).2
    omega
  · exact absurd (hlist ▸ List.mem_cons_self) (hplus j.toInt)
  · exact absurd (hlist ▸ List.mem_cons_self) (hplus i.toInt)
  · exact Decimal.signedDigits_injective hlist

theorem text_two : (other 2).text = plusTwo.text := by decide +kernel

/-- A penalty with the text of an integer is the penalty of that integer. -/
theorem toInt64_of_text {i : Int64} (h : p.text = (other i).text) : p.toInt64 = i := by
  have hword {c : Char} (hc : c ∈ p.text.toList) : c.isDigit = true ∨ c = '+' ∨ c = '-' := by
    by_contra hnot
    simp only [not_or, Bool.not_eq_true] at hnot
    exact not_mem_text_other hnot.1 hnot.2.1 hnot.2.2 i (h ▸ hc)
  cases p with
  | none => exact absurd (hword (c := 'n') (by decide)) (by decide)
  | plusTwo => exact text_other_injective (text_two.trans h)
  | dnf | dns => exact absurd (hword (c := 'D') (by decide)) (by decide)
  | other j => exact text_other_injective h

/-- Canonical penalties are told apart by their texts. -/
theorem text_inj (hp : p.Canonical) (hq : q.Canonical) : p.text = q.text ↔ p = q := by
  constructor
  · intro h
    rw [← toInt64_inj hp hq]
    cases q with
    | other j => exact toInt64_of_text h
    | _ =>
      cases p with
      | other i => exact (toInt64_of_text h.symm).symm
      | _ => first | rfl | exact absurd h (by decide)
  · rintro rfl
    rfl

theorem comma_not_mem_text (p : Penalty) : ',' ∉ p.text.toList := by
  cases p with
  | other i => exact not_mem_text_other rfl (by decide) (by decide) i
  | _ => decide

end Penalty

namespace Message

variable {m m' : Message}

/-- The time of a message in a line of the log. -/
def timeText : Option Millis → String
  | some t => Decimal.text t.toNat ++ " ms"
  | none => "no time"

/-- What a line of the log has at its end. -/
def delegateText (delegate : Bool) : String := if delegate then ", delegate" else ""

theorem delegateText_injective : Function.Injective delegateText := by
  intro d d' h
  cases d <;> cases d' <;> first | rfl | exact absurd h (by decide)

theorem toList_text (m : Message) :
    m.text.toList = (timeText m.time).toList ++
      (", penalty ".toList ++ (m.penalty.text.toList ++ (delegateText m.delegate).toList)) := by
  rw [← String.toList_append, ← String.toList_append, ← String.toList_append,
    ← String.append_assoc, ← String.append_assoc]
  rfl

theorem comma_not_mem_timeText (time : Option Millis) : ',' ∉ (timeText time).toList := by
  cases time with
  | none => decide
  | some t =>
    rw [timeText, String.toList_append, Decimal.text, String.toList_ofList, List.mem_append, not_or]
    exact ⟨Decimal.not_mem_digits rfl _, by decide⟩

theorem timeText_injective : Function.Injective timeText := by
  have hn (t : Millis) : timeText (some t) ≠ timeText none := by
    intro h
    have hmem : 'n' ∈ (timeText (some t)).toList := h ▸ (by decide)
    rw [timeText, String.toList_append, Decimal.text, String.toList_ofList, List.mem_append] at hmem
    rcases hmem with hmem | hmem
    · exact Decimal.not_mem_digits rfl _ hmem
    · exact absurd hmem (by decide)
  intro time time' h
  cases time with
  | none =>
    cases time' with
    | none => rfl
    | some t' => exact absurd h.symm (hn t')
  | some t =>
    cases time' with
    | none => exact absurd h (hn t)
    | some t' =>
      have hdigits := String.ofList_injective (String.append_left_inj " ms" |>.1 h)
      exact congrArg some (UInt64.toNat_inj.1 (Decimal.digits_injective hdigits))

/-- **Messages are told apart by their lines of the log**, if their penalties are canonical. -/
theorem text_inj (h : m.penalty.Canonical) (h' : m'.penalty.Canonical) :
    m.text = m'.text ↔ m = m' := by
  -- the first comma ends the time, and the next one the penalty
  have hrun {cs : List Char} (hcs : ',' ∉ cs) : ∀ c ∈ cs, (c != ',') = true := by
    rintro c hc
    simp only [bne_iff_ne]
    rintro rfl
    exact hcs hc
  have hend (delegate : Bool) (c : Char) (hc : (delegateText delegate).toList.head? = some c) :
      (c != ',') = false := by
    cases delegate with
    | true =>
      obtain rfl := Option.some.inj hc
      rfl
    | false => cases hc
  constructor
  · intro heq
    have hlist := congrArg String.toList heq
    rw [toList_text, toList_text] at hlist
    obtain ⟨htime, hlist⟩ := Text.append_inj_of_cut (hrun (comma_not_mem_timeText _))
      (hrun (comma_not_mem_timeText _)) (by rintro _ ⟨rfl⟩; rfl) (by rintro _ ⟨rfl⟩; rfl) hlist
    obtain ⟨hpenalty, hdelegate⟩ := Text.append_inj_of_cut (hrun m.penalty.comma_not_mem_text)
      (hrun m'.penalty.comma_not_mem_text) (hend _) (hend _) (List.append_cancel_left hlist)
    rw [Message.mk.injEq]
    exact ⟨timeText_injective (String.toList_injective htime),
      (Penalty.text_inj h h').1 (String.toList_injective hpenalty),
      delegateText_injective (String.toList_injective hdelegate)⟩
  · rintro rfl
    rfl

/-! ## The messages that are met -/

/-- The messages that are met: those that were read, and those that a station has sent by some
point of a test of a suite that was loaded. -/
inductive Occurs : Message → Prop
  | read {text : String} {m : Message} (h : ofText text = .ok m) : Occurs m
  | sent {text : String} {suite : Suite} (hload : Suite.ofText text = .ok suite)
    {settings : Settings} {test : Test} (htest : test ∈ suite.tests) {seed : UInt64}
    {past : List (Turn (suite.rig settings))}
    (hpast : past <+: Trace.turns (suite.rig settings)
      ⟨test.sleepBetween, settings.continueOnFailure⟩ 0 test.steps
      (.start (suite.rig settings) seed))
    {m : Message} (h : m ∈ (Trace.benchAfter (.start (suite.rig settings) seed) past).outbox) :
    Occurs m

/-- A message that was read has a canonical penalty. -/
theorem yields_read : Yields Message.read fun m => m.penalty.Canonical := by
  have hpenalty : Yields Penalty.read Penalty.Canonical := by
    intro o p hp
    obtain ⟨i, -, rfl⟩ := ok_of_map hp
    exact Penalty.canonical_ofInt64 i
  refine RecordReader.Yields.outline (.seq (P := fun f => ∀ d, (f d).penalty.Canonical) ?_
    (RecordReader.yields_required (yields_any _)) fun f d hf _ => hf d) "SolveMessage"
  exact .seq (P := fun f => ∀ p d, (f p d).penalty = p)
    (.map (RecordReader.yields_field (yields_any _) fun _ _ => trivial) _ fun _ _ _ _ => rfl)
    (RecordReader.yields_required hpenalty) fun f p hf hp d => by rw [hf]; exact hp

/-- The messages that are met are those with a canonical penalty. -/
theorem occurs_iff : m.Occurs ↔ m.penalty.Canonical := by
  constructor
  · intro h
    cases h with
    | read h => exact yields_read.of_read h
    | sent hload htest hpast h =>
      exact ((Suite.canonical_benchAfter hload htest hpast).outbox m h).penalty
  · intro h
    exact .read (ofText_compact h)

/-- **Messages are read back and told apart.** A message that was read or sent is read back from
its compact text, and no two of them have the same compact text or the same line in the log; they
may have any time or none, and the penalty of any integer, which gives the integer back. -/
theorem texts_tell_apart :
    (∀ m : Message, m.Occurs → ofText m.toJson.compact = .ok m) ∧
      (∀ m m' : Message, m.Occurs → m'.Occurs →
        m.toJson.compact = m'.toJson.compact ∨ m.text = m'.text → m = m') ∧
      (∀ time i delegate, Occurs ⟨time, .ofInt64 i, delegate⟩) ∧
      ∀ i, (Penalty.ofInt64 i).toInt64 = i := by
  refine ⟨?_, ?_, ?_, Penalty.toInt64_ofInt64⟩
  · intro m hm
    exact ofText_compact (occurs_iff.1 hm)
  · rintro m m' hm hm' (hcompact | htext)
    · have hread := ofText_compact (occurs_iff.1 hm)
      rw [hcompact, ofText_compact (occurs_iff.1 hm')] at hread
      exact (Except.ok.inj hread).symm
    · exact (text_inj (occurs_iff.1 hm) (occurs_iff.1 hm')).1 htext
  · intro time i delegate
    exact occurs_iff.2 (Penalty.canonical_ofInt64 i)

/-- A message that was read without a time, and one that a delegate has sent. -/
theorem texts_tell_apart_decision :
    let read : Message := ⟨none, .dns, true⟩
    let sent : Message := ⟨some 3000, .other 5, true⟩
    ofText "[null, -2, true]" = .ok read ∧ read.Occurs ∧ sent.Occurs ∧
      ofText sent.toJson.compact = .ok sent ∧ read.text ≠ sent.text := by
  intro read sent
  let text := "\x7b\"tests\":[\x7b\"name\":\"t\",\"steps\":[[\"SolveTime\",3000]," ++
    "[\"DelegateResolve\",[false,5]]]\x7d]\x7d"
  let test : Test :=
    ⟨"t", 0, none, [.solveTime (some 3000), .delegateResolve ⟨false, some (.other 5), none⟩]⟩
  let suite : Suite :=
    { groups := [], cards := {}, buttons := {}, dumpStateAfterTest := false, tests := [test] }
  let settings : Settings := {}
  let turns := Trace.turns (suite.rig settings) ⟨test.sleepBetween, settings.continueOnFailure⟩ 0
    test.steps (.start (suite.rig settings) 7)
  have hload : Suite.ofText text = .ok suite := eq_ok_of_toOption (by decide +kernel)
  have hpast : turns <+: turns := List.prefix_rfl
  have hmem : sent ∈ (Trace.benchAfter (.start (suite.rig settings) 7) turns).outbox := by
    decide +kernel
  have hread : ofText "[null, -2, true]" = .ok read := eq_ok_of_toOption (by decide +kernel)
  have hsent : sent.Occurs := .sent hload List.mem_cons_self hpast hmem
  obtain ⟨hback, hapart, -, -⟩ := texts_tell_apart
  refine ⟨hread, .read hread, hsent, hback sent hsent, ?_⟩
  intro heq
  exact absurd (hapart read sent (.read hread) hsent (Or.inr heq)) (by decide)

end Message

end StationBench
