import Mathlib.Algebra.BigOperators.Group.Finset.Basic
import Mathlib.Algebra.Order.Floor.Div
import Mathlib.Data.FinEnum
import Mathlib.Order.Interval.Finset.Nat
import StationBench.Proofs.DrawOrder
/-!
# Random times are uniform

A word makes a time of a range or is refused. Equally many words make each time, at least half of
all words make one, and a draw is what the first word of its keystream makes that is not refused,
in the blocks that are looked at (`times_uniform`).

The words whose products with the width of the range have a given high half are the multiples of
the width in a stretch of 2⁶⁴ numbers. The zone is the beginning of the stretch whose length is a
power of two times the width, so that it has the same number of multiples wherever it begins.
-/
namespace StationBench

/-! ## Words -/

/-- The number of zeros before the highest one of a word. -/
def leadingZeros (w : UInt64) : Nat := w.toBitVec.clz.toNat

/-- The product of two words as two words, the high one first. -/
def wideProduct (v w : UInt64) : UInt64 × UInt64 :=
  let product := v.toBitVec.setWidth 128 * w.toBitVec.setWidth 128
  (.ofBitVec (product.extractLsb' 64 64), .ofBitVec (product.extractLsb' 0 64))

section
variable {w : UInt64} (h : w ≠ 0)
include h

theorem leadingZeros_lt : leadingZeros w < 64 :=
  BitVec.lt_def.1 (BitVec.clz_lt_iff_ne_zero.2 fun h0 => h (UInt64.toBitVec_inj.1 h0))

theorem log2_eq_sub_leadingZeros : w.toNat.log2 = 63 - leadingZeros w := by
  have hne : w.toBitVec ≠ 0#64 := fun h0 => h (UInt64.toBitVec_inj.1 h0)
  have hlt := leadingZeros_lt h
  refine (Nat.log2_eq_iff fun h0 => h (UInt64.toNat_inj.1 h0)).2 ⟨?_, ?_⟩
  · exact BitVec.two_pow_sub_clz_le_toNat_of_ne_zero (by decide) hne
  · rw [← Nat.sub_add_comm (Nat.le_of_lt_succ hlt)]
    exact BitVec.toNat_lt_two_pow_sub_clz

/-- Shifted by its leading zeros, a word keeps its ones, and the highest one comes first. -/
theorem scaled_bounds : w.toNat * 2 ^ leadingZeros w < UInt64.size ∧
    UInt64.size ≤ 2 * (w.toNat * 2 ^ leadingZeros w) := by
  have hle := Nat.le_of_lt_succ (leadingZeros_lt h)
  have hne : w.toNat ≠ 0 := fun h0 => h (UInt64.toNat_inj.1 h0)
  obtain ⟨habove, hbelow⟩ := (Nat.log2_eq_iff hne).1 (log2_eq_sub_leadingZeros h)
  constructor
  · calc w.toNat * 2 ^ leadingZeros w
        < 2 ^ (63 - leadingZeros w + 1) * 2 ^ leadingZeros w :=
          Nat.mul_lt_mul_of_pos_right hbelow (Nat.two_pow_pos _)
      _ = UInt64.size := by
          rw [← Nat.pow_add, Nat.add_right_comm, Nat.sub_add_cancel hle]
  · calc UInt64.size
        = 2 * (2 ^ (63 - leadingZeros w) * 2 ^ leadingZeros w) := by
          rw [← Nat.pow_add, Nat.sub_add_cancel hle]
      _ ≤ 2 * (w.toNat * 2 ^ leadingZeros w) :=
          Nat.mul_le_mul_left _ (Nat.mul_le_mul_right _ habove)

theorem toNat_shiftLeft_leadingZeros :
    (w <<< .ofNat (leadingZeros w)).toNat = w.toNat * 2 ^ leadingZeros w := by
  have hlt := leadingZeros_lt h
  have hshift : (UInt64.ofNat (leadingZeros w)).toNat % 64 = leadingZeros w := by
    rw [UInt64.toNat_ofNat_of_lt' (Nat.lt_trans hlt (by decide)), Nat.mod_eq_of_lt hlt]
  rw [UInt64.toNat_shiftLeft, hshift, Nat.shiftLeft_eq]
  exact Nat.mod_eq_of_lt (scaled_bounds h).1

/-- The leading zeros are what is left beside the position of the highest one. -/
theorem sub_log2_eq : 63 - w.log2 = .ofNat (leadingZeros w) := by
  have hlt := leadingZeros_lt h
  have hlog : w.log2.toNat = 63 - leadingZeros w := log2_eq_sub_leadingZeros h
  have hle : w.log2 ≤ 63 := by
    rw [UInt64.le_iff_toNat_le, hlog]
    exact Nat.sub_le _ _
  apply UInt64.toNat_inj.1
  rw [UInt64.toNat_sub_of_le _ _ hle, hlog,
    UInt64.toNat_ofNat_of_lt' (Nat.lt_trans hlt (by decide))]
  exact Nat.sub_sub_self (Nat.le_of_lt_succ hlt)

end

theorem toNat_wideProduct (v w : UInt64) :
    (wideProduct v w).1.toNat = v.toNat * w.toNat / UInt64.size ∧
      (wideProduct v w).2.toNat = v.toNat * w.toNat % UInt64.size := by
  have hlt : v.toNat * w.toNat < 2 ^ 64 * 2 ^ 64 := Nat.mul_lt_mul'' v.toNat_lt w.toNat_lt
  have hproduct : (v.toBitVec.setWidth 128 * w.toBitVec.setWidth 128).toNat =
      v.toNat * w.toNat := by
    rw [BitVec.toNat_mul, BitVec.toNat_setWidth_of_le (by decide),
      BitVec.toNat_setWidth_of_le (by decide)]
    exact Nat.mod_eq_of_lt hlt
  refine ⟨?_, ?_⟩
  · have hquotient : v.toNat * w.toNat / UInt64.size < UInt64.size := Nat.div_lt_of_lt_mul hlt
    rw [wideProduct, UInt64.toNat_ofBitVec, BitVec.extractLsb'_toNat, hproduct,
      Nat.shiftRight_eq_div_pow]
    exact Nat.mod_eq_of_lt hquotient
  · rw [wideProduct, UInt64.toNat_ofBitVec, BitVec.extractLsb'_toNat, hproduct]
    rfl

/-! ## Multiples in a window -/

/-- A window as long as some multiples of a number holds that many of them, wherever it begins. -/
theorem mem_window_iff {n : Nat} (hn : 0 < n) (start count v : Nat) :
    start ≤ v * n ∧ v * n < start + count * n ↔
      v ∈ Finset.Ico (start ⌈/⌉ n) (start ⌈/⌉ n + count) := by
  have hfirst (u : Nat) : start ⌈/⌉ n ≤ u ↔ start ≤ u * n := by
    rw [ceilDiv_le_iff_le_mul hn, Nat.mul_comm]
  have hlast : v < start ⌈/⌉ n + count ↔ v * n < start + count * n := by
    rcases Nat.lt_or_ge v count with hlt | hge
    · have hmul := Nat.mul_lt_mul_of_pos_right hlt hn
      omega
    · obtain ⟨u, rfl⟩ := Nat.exists_eq_add_of_le hge
      have hu := hfirst u
      rw [Nat.add_mul]
      omega
  rw [Finset.mem_Ico, hfirst, hlast]

/-! ## The words of a time -/

namespace TimeRange

variable (r : TimeRange)

/-- The number of words that make each time of a range. -/
def share : Nat := if r.width = 0 then 1 else 2 ^ leadingZeros r.width

/-- The words that make a time. -/
def wordsOf (t : Millis) : Finset UInt64 := {word | r.pick word = some t}

/-- The words that are not refused. -/
def taken : Finset UInt64 := {word | (r.pick word).isSome}

theorem mem_wordsOf {t : Millis} {word : UInt64} : word ∈ r.wordsOf t ↔ r.pick word = some t := by
  simp [wordsOf]

theorem mem_taken {word : UInt64} : word ∈ r.taken ↔ ∃ t, r.pick word = some t := by
  simp [taken, Option.isSome_iff_exists]

section
variable {r} (h : r.width ≠ 0)
include h

theorem share_eq : r.share = 2 ^ leadingZeros r.width := if_neg h

theorem share_mul_width_bounds : r.share * r.width.toNat < UInt64.size ∧
    UInt64.size ≤ 2 * (r.share * r.width.toNat) := by
  rw [Nat.mul_comm, share_eq h]
  exact scaled_bounds h

theorem zone_eq : r.zone = (r.width <<< .ofNat (leadingZeros r.width)) - 1 := by
  rw [zone, sub_log2_eq h]

/-- The low halves for which a word is taken. -/
theorem toNat_zone : r.zone.toNat + 1 = r.share * r.width.toNat := by
  have hshift := toNat_shiftLeft_leadingZeros h
  have hhalf := (scaled_bounds h).2
  have hone : (1 : UInt64) ≤ r.width <<< .ofNat (leadingZeros r.width) := by
    rw [UInt64.le_iff_toNat_le, hshift]
    unfold UInt64.size at hhalf
    exact Nat.pos_of_ne_zero (by omega)
  rw [zone_eq h, UInt64.toNat_sub_of_le _ _ hone, share_eq h, Nat.mul_comm, ← hshift]
  exact Nat.sub_add_cancel (UInt64.le_iff_toNat_le.1 hone)

theorem toNat_width_of_ne_zero : r.width.toNat = r.greatest.toNat - r.least.toNat + 1 := by
  have hgreatest := r.greatest.toNat_lt
  have hwidth := r.toNat_width
  have hne : r.width.toNat ≠ 0 := fun h0 => h (UInt64.toNat_inj.1 h0)
  unfold UInt64.size at hwidth
  omega

/-- The words of the time `n` after the least one are those whose product with the width is in the
window at the beginning of the stretch `n`. -/
theorem pick_eq_some_iff {n : Nat} (hn : n < r.width.toNat) (word : UInt64) :
    r.pick word = some (r.least + .ofNat n) ↔
      n * UInt64.size ≤ word.toNat * r.width.toNat ∧
        word.toNat * r.width.toNat < n * UInt64.size + r.share * r.width.toNat := by
  have hzone := toNat_zone h
  have hfits := (share_mul_width_bounds h).1
  have htime : r.least + .ofNat (word.toNat * r.width.toNat / UInt64.size) =
      r.least + .ofNat n ↔ word.toNat * r.width.toNat / UInt64.size = n := by
    rw [← UInt64.toNat_inj, r.toNat_least_add (r.high_lt_width h word), r.toNat_least_add hn]
    exact Nat.add_left_cancel_iff
  rw [pick, if_neg h]
  dsimp only
  -- the zone is no longer than a stretch, so that the high half tells the stretches apart
  rw [Option.ite_none_right_eq_some, Option.some.injEq, htime]
  unfold UInt64.size at hfits ⊢
  omega

/-- The window ends with its stretch, and only the products of words are in the last stretch or one
before it. -/
theorem lt_size_of_window {n v : Nat} (hn : n < r.width.toNat)
    (hv : v * r.width.toNat < n * UInt64.size + r.share * r.width.toNat) : v < UInt64.size := by
  refine Nat.lt_of_mul_lt_mul_right (a := r.width.toNat) ?_
  calc v * r.width.toNat
      < n * UInt64.size + r.share * r.width.toNat := hv
    _ ≤ (n + 1) * UInt64.size := by
        rw [Nat.succ_mul]
        exact Nat.add_le_add_left (share_mul_width_bounds h).1.le _
    _ ≤ r.width.toNat * UInt64.size := Nat.mul_le_mul_right _ hn
    _ = UInt64.size * r.width.toNat := Nat.mul_comm _ _

theorem card_wordsOf_of_lt {n : Nat} (hn : n < r.width.toNat) :
    (r.wordsOf (r.least + .ofNat n)).card = r.share := by
  have hpos : 0 < r.width.toNat := Nat.zero_lt_of_lt hn
  have hwindow := mem_window_iff hpos (n * UInt64.size) r.share
  generalize n * UInt64.size ⌈/⌉ r.width.toNat = first at hwindow
  have hmem (word : UInt64) : word ∈ r.wordsOf (r.least + .ofNat n) ↔
      word.toNat ∈ Finset.Ico first (first + r.share) := by
    rw [mem_wordsOf, pick_eq_some_iff h hn, hwindow]
  have hword {v : Nat} (hv : v ∈ Finset.Ico first (first + r.share)) : v < UInt64.size :=
    lt_size_of_window h hn ((hwindow v).2 hv).2
  calc (r.wordsOf (r.least + .ofNat n)).card
      = (Finset.Ico first (first + r.share)).card := by
        refine Finset.card_nbij' UInt64.toNat UInt64.ofNat ?_ ?_ ?_ ?_
        · intro word hmember
          exact (hmem word).1 hmember
        · intro v hv
          refine (hmem _).2 ?_
          rwa [UInt64.toNat_ofNat_of_lt' (hword hv)]
        · intro word _
          exact UInt64.ofNat_toNat
        · intro v hv
          exact UInt64.toNat_ofNat_of_lt' (hword hv)
    _ = r.share := by rw [Nat.card_Ico, Nat.add_sub_cancel_left]

/-- A word that is taken makes the time that its product gives. -/
theorem pick_eq_some_of_taken {word : UInt64} (htaken : word ∈ r.taken) :
    r.pick word = some (r.least + .ofNat (word.toNat * r.width.toNat / UInt64.size)) := by
  obtain ⟨t, hpick⟩ := r.mem_taken.1 htaken
  rw [pick, if_neg h] at hpick ⊢
  dsimp only at hpick ⊢
  exact if_pos (Option.ite_none_right_eq_some.1 hpick).1

/-- The words that are taken, told apart by the high half of their product. -/
theorem filter_taken_eq {n : Nat} (hn : n < r.width.toNat) :
    (r.taken.filter fun word => word.toNat * r.width.toNat / UInt64.size = n) =
      r.wordsOf (r.least + .ofNat n) := by
  ext word
  rw [Finset.mem_filter, mem_wordsOf]
  constructor
  · rintro ⟨htaken, rfl⟩
    exact pick_eq_some_of_taken h htaken
  · intro hpick
    have htaken : word ∈ r.taken := r.mem_taken.2 ⟨_, hpick⟩
    have htime := Option.some.inj ((pick_eq_some_of_taken h htaken).symm.trans hpick)
    rw [← UInt64.toNat_inj, r.toNat_least_add (r.high_lt_width h word),
      r.toNat_least_add hn] at htime
    exact ⟨htaken, Nat.add_left_cancel htime⟩

theorem card_taken : r.taken.card = r.share * r.width.toNat := by
  have hfiber (n : Nat) (hn : n ∈ Finset.range r.width.toNat) :
      (r.taken.filter fun word => word.toNat * r.width.toNat / UInt64.size = n).card =
        r.share := by
    rw [Finset.mem_range] at hn
    rw [filter_taken_eq h hn, card_wordsOf_of_lt h hn]
  calc r.taken.card
      = ∑ n ∈ Finset.range r.width.toNat,
          (r.taken.filter fun word => word.toNat * r.width.toNat / UInt64.size = n).card :=
        Finset.card_eq_sum_card_fiberwise fun word _ =>
          Finset.mem_coe.2 (Finset.mem_range.2 (r.high_lt_width h word))
    _ = r.share * r.width.toNat := by
        rw [Finset.sum_const_nat hfiber, Finset.card_range, Nat.mul_comm]

end

/-- Equally many words make each time of the range. -/
theorem card_wordsOf {t : Millis} (hleast : r.least ≤ t) (hgreatest : t ≤ r.greatest) :
    (r.wordsOf t).card = r.share := by
  by_cases h : r.width = 0
  · have hsingle : r.wordsOf t = {t} := by
      ext word
      rw [mem_wordsOf, Finset.mem_singleton, pick, if_pos h, Option.some.injEq]
    rw [hsingle, Finset.card_singleton, share, if_pos h]
  · rw [UInt64.le_iff_toNat_le] at hleast hgreatest
    have hn : t.toNat - r.least.toNat < r.width.toNat := by
      rw [toNat_width_of_ne_zero h]
      omega
    have ht : t = r.least + .ofNat (t.toNat - r.least.toNat) := by
      rw [← UInt64.toNat_inj, r.toNat_least_add hn]
      omega
    rw [ht]
    exact card_wordsOf_of_lt h hn

/-- At least half of all words are taken. -/
theorem size_le_card_taken : UInt64.size ≤ 2 * r.taken.card := by
  by_cases h : r.width = 0
  · have hall : r.taken = Finset.univ := by
      ext word
      simp [mem_taken, pick, h]
    have hcard : r.taken.card = UInt64.size := by
      rw [hall, Finset.card_univ, ← FinEnum.card_eq_fintypeCard]
      exact FinEnum.card_UInt64
    omega
  · rw [card_taken h]
    exact (share_mul_width_bounds h).2

end TimeRange

/-! ## Picking a time by operations on words -/

/-- The time that a word makes of a least and a greatest one by operations on words, which wrap
around. The product of the word and the width has a high half, which counts from the least time,
and a low half, which is compared with the width shifted by its leading zeros. -/
def pickByWords (least greatest word : UInt64) : Option UInt64 :=
  let width := greatest - least + 1
  let product := wideProduct word width
  if width = 0 then some word
  else if product.2 ≤ (width <<< .ofNat (leadingZeros width)) - 1 then some (least + product.1)
  else none

namespace TimeRange

variable (r : TimeRange)

theorem wideProduct_width (word : UInt64) :
    (wideProduct word r.width).1 = .ofNat (word.toNat * r.width.toNat / UInt64.size) := by
  rw [← (toNat_wideProduct word r.width).1, UInt64.ofNat_toNat]

theorem pick_eq_pickByWords (word : UInt64) :
    r.pick word = pickByWords r.least r.greatest word := by
  unfold pick pickByWords
  rw [show r.greatest - r.least + 1 = r.width from rfl]
  by_cases h : r.width = 0
  · rw [if_pos h]
    exact (if_pos h).symm
  · have hlow : (wideProduct word r.width).2 ≤ r.zone ↔
        word.toNat * r.width.toNat % UInt64.size ≤ r.zone.toNat := by
      rw [UInt64.le_iff_toNat_le, (toNat_wideProduct word r.width).2]
    rw [if_neg h]
    dsimp only
    rw [if_neg h, ← zone_eq h, wideProduct_width]
    simp only [hlow]

/-- The high half of a product is added to the least time without wrapping around. -/
theorem toNat_of_pick (h : r.width ≠ 0) {word : UInt64} {t : Millis}
    (hpick : r.pick word = some t) :
    r.least.toNat + (wideProduct word r.width).1.toNat = t.toNat := by
  have htaken : word ∈ r.taken := r.mem_taken.2 ⟨_, hpick⟩
  obtain rfl := Option.some.inj (hpick.symm.trans (pick_eq_some_of_taken h htaken))
  rw [r.toNat_least_add (r.high_lt_width h word), (toNat_wideProduct word r.width).1]

end TimeRange

/-! ## Draws -/

/-- The words of some blocks, one after another. -/
def Keystream.wordsFrom (seed stream : UInt64) : (count : Nat) → (counter : UInt64) → List UInt64
  | 0, _ => []
  | count + 1, counter =>
    words seed stream counter ++ wordsFrom seed stream count (counter + 1)

/-- Looking block by block is looking at one word after another. -/
theorem TimeRange.firstPick_eq (r : TimeRange) (seed stream : UInt64) (count : Nat)
    (counter : UInt64) :
    r.firstPick seed stream count counter =
      ((Keystream.wordsFrom seed stream count counter).findSome? r.pick).getD r.least := by
  induction count generalizing counter with
  | zero => rfl
  | succ count ih =>
    rw [firstPick, Keystream.wordsFrom, List.findSome?_append, ih]
    cases (Keystream.words seed stream counter).findSome? r.pick <;> rfl

theorem Keystream.wordsFrom_add (seed stream : UInt64) (count more : Nat) (counter : UInt64) :
    wordsFrom seed stream (count + more) counter =
      wordsFrom seed stream count counter ++
        wordsFrom seed stream more (counter + .ofNat count) := by
  induction count generalizing counter with
  | zero => simp [wordsFrom]
  | succ count ih =>
    have hcounter : counter + 1 + .ofNat count = counter + .ofNat (count + 1) := by
      rw [UInt64.ofNat_add, UInt64.add_assoc, UInt64.add_comm 1]
      rfl
    rw [Nat.succ_add, wordsFrom, wordsFrom, ih, hcounter, List.append_assoc]

namespace TimeRange

variable {r : TimeRange} {seed stream counter : UInt64} {count : Nat}

/-- Blocks in which a word is taken make the same time however many are looked at after them. -/
theorem firstPick_add
    (h : ∃ word ∈ Keystream.wordsFrom seed stream count counter, word ∈ r.taken) (more : Nat) :
    r.firstPick seed stream (count + more) counter = r.firstPick seed stream count counter := by
  obtain ⟨word, hword, htaken⟩ := h
  obtain ⟨t, ht⟩ := r.mem_taken.1 htaken
  rw [firstPick_eq, firstPick_eq, Keystream.wordsFrom_add, List.findSome?_append]
  cases hfirst : (Keystream.wordsFrom seed stream count counter).findSome? r.pick with
  | some first => rfl
  | none =>
    have hrefused := List.findSome?_eq_none_iff.1 hfirst word hword
    cases hrefused.symm.trans ht

/-- Blocks in which no word is taken make the least time. -/
theorem firstPick_of_refused
    (h : ∀ word ∈ Keystream.wordsFrom seed stream count counter, word ∉ r.taken) :
    r.firstPick seed stream count counter = r.least := by
  have hnone : (Keystream.wordsFrom seed stream count counter).findSome? r.pick = none := by
    refine List.findSome?_eq_none_iff.2 fun word hword => ?_
    rw [Option.eq_none_iff_forall_ne_some]
    exact fun t ht => h word hword (r.mem_taken.2 ⟨t, ht⟩)
  rw [firstPick_eq, hnone]
  rfl

end TimeRange

/-- **Random times are uniform** in the range between two times, given in either order. A word
makes a time by operations on words, and the sum among these does not wrap around. Every time of
the range is made by the same number of words, two to the power of the leading zeros of the width,
and at least half of all words make one. A draw is the time of the first word that makes one among
those of the first 1024 blocks of its keystream, which is the first of the whole keystream. Only if
there is none is it the least time for want of more blocks. -/
theorem times_uniform (a b : Millis) :
    let range := TimeRange.between a b
    let width := max a b - min a b + 1
    (∀ word, range.pick word = pickByWords (min a b) (max a b) word) ∧
    (∀ word t, range.pick word = some t →
      min a b ≤ t ∧ t ≤ max a b ∧
        (width ≠ 0 → (min a b).toNat + (wideProduct word width).1.toNat = t.toNat)) ∧
    (∀ t, min a b ≤ t → t ≤ max a b →
      (range.wordsOf t).card = if width = 0 then 1 else 2 ^ leadingZeros width) ∧
    UInt64.size ≤ 2 * range.taken.card ∧
    ∀ seed call, min a b ≤ range.draw seed call ∧ range.draw seed call ≤ max a b ∧
      range.draw seed call =
        ((Keystream.wordsFrom seed call 1024 0).findSome? range.pick).getD (min a b) ∧
      ((∃ word ∈ Keystream.wordsFrom seed call 1024 0, word ∈ range.taken) →
        ∀ more, range.firstPick seed call (1024 + more) 0 = range.draw seed call) ∧
      ((∀ word ∈ Keystream.wordsFrom seed call 1024 0, word ∉ range.taken) →
        range.draw seed call = min a b) := by
  intro range width
  obtain ⟨hleast, hgreatest⟩ := TimeRange.between_eq a b
  have hwidth : range.width = width := by
    show range.greatest - range.least + 1 = max a b - min a b + 1
    rw [hleast, hgreatest]
  rw [← hleast, ← hgreatest, ← hwidth]
  refine ⟨range.pick_eq_pickByWords, ?_, fun t => range.card_wordsOf, range.size_le_card_taken, ?_⟩
  · intro word t hpick
    obtain ⟨habove, hbelow⟩ := range.bounds_of_pick hpick
    exact ⟨habove, hbelow, fun hne => range.toNat_of_pick hne hpick⟩
  · intro seed call
    obtain ⟨habove, hbelow⟩ := range.bounds_draw seed call
    exact ⟨habove, hbelow, range.firstPick_eq seed call 1024 0, TimeRange.firstPick_add,
      TimeRange.firstPick_of_refused⟩

/-- An eighth of all words make seven out of five times, and not all words make a time. -/
theorem times_uniform_five :
    let range := TimeRange.between 9 5
    range.pick 0x8000000000000000 = some 7 ∧ range.pick 0xc000000000000000 = none ∧
      (range.wordsOf 7).card = 2 ^ 61 := by
  intro range
  obtain ⟨hwords, -, hcard, -, -⟩ := times_uniform 9 5
  exact ⟨(hwords 0x8000000000000000).trans (by decide), by decide, hcard 7 (by decide) (by decide)⟩

/-- One word makes each of all times. -/
example : (TimeRange.between 0xffffffffffffffff 0).share = 1 := by
  decide

end StationBench
