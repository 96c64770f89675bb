import Mathlib.Data.List.TakeWhile
import StationBench.Decimal.Natural
/-!
# Numbers as they are written

No two numbers are written alike (`Decimal.digits_injective`, `Decimal.signedDigits_injective`), no
number but zero starts with a zero (`Decimal.digits_eq`), and where a run of digits stops, the
number stops (`Text.cut_append`).
-/
namespace StationBench

/-- A run of a kind of characters ends where the next character is of another kind. -/
theorem Text.cut_append {p : Char → Bool} {run rest : List Char} (hrun : ∀ c ∈ run, p c = true)
    (hrest : ∀ c, rest.head? = some c → p c = false) :
    (run ++ rest).takeWhile p = run ∧ (run ++ rest).dropWhile p = rest := by
  rw [List.takeWhile_append_of_pos hrun, List.dropWhile_append_of_pos hrun]
  cases rest with
  | nil => simp
  | cons c rest => simp [hrest c rfl]

/-- Of the same text the same run is cut off, and the same is left. -/
theorem Text.append_inj_of_cut {p : Char → Bool} {run run' rest rest' : List Char}
    (hrun : ∀ c ∈ run, p c = true) (hrun' : ∀ c ∈ run', p c = true)
    (hrest : ∀ c, rest.head? = some c → p c = false)
    (hrest' : ∀ c, rest'.head? = some c → p c = false) (h : run ++ rest = run' ++ rest') :
    run = run' ∧ rest = rest' := by
  obtain ⟨htake, hdrop⟩ := Text.cut_append hrun hrest
  obtain ⟨htake', hdrop'⟩ := Text.cut_append hrun' hrest'
  rw [h] at htake hdrop
  exact ⟨htake.symm.trans htake', hdrop.symm.trans hdrop'⟩

namespace Decimal

theorem digits_injective : Function.Injective digits := by
  intro m n h
  rw [← value_digits m, h, value_digits]

/-- Zero is a zero, and any other number starts with another digit. -/
theorem digits_eq (n : Nat) :
    n = 0 ∧ digits n = ['0'] ∨ 0 < n ∧ ∃ d ds, digits n = d :: ds ∧ d ≠ '0' := by
  induction n using Nat.strongRecOn with
  | ind n ih =>
    rw [digits]
    split
    · next h =>
      rcases Nat.eq_zero_or_pos n with rfl | hpos
      · exact Or.inl ⟨rfl, rfl⟩
      · refine Or.inr ⟨hpos, digitChar n, [], rfl, ?_⟩
        intro hzero
        have hvalue := digitValue_digitChar h
        rw [hzero] at hvalue
        exact absurd hvalue (Nat.ne_of_lt hpos)
    · next h =>
      rcases ih (n / 10) (by omega) with ⟨hzero, -⟩ | ⟨-, d, ds, hds, hd⟩
      · omega
      · exact Or.inr ⟨by omega, d, ds ++ [digitChar (n % 10)], by rw [hds]; rfl, hd⟩

theorem not_mem_digits {c : Char} (h : c.isDigit = false) (n : Nat) : c ∉ digits n := by
  intro hmem
  exact absurd (all_isDigit_digits n c hmem) (by simp [h])

theorem not_mem_signedDigits {c : Char} (h : c.isDigit = false) (hminus : c ≠ '-') (i : Int) :
    c ∉ signedDigits i := by
  unfold signedDigits
  split
  · rw [List.mem_cons, not_or]
    exact ⟨hminus, not_mem_digits h _⟩
  · exact not_mem_digits h _

theorem signedDigits_injective : Function.Injective signedDigits := by
  intro i j h
  unfold signedDigits at h
  split at h <;> split at h
  · have habs := digits_injective (List.cons.inj h).2
    omega
  · exact absurd (h ▸ List.mem_cons_self) (not_mem_digits rfl _)
  · exact absurd (h ▸ List.mem_cons_self) (not_mem_digits rfl _)
  · have habs := digits_injective h
    omega

end Decimal

end StationBench
