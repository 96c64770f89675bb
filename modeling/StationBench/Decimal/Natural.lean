/-!
# Whole numbers in decimal digits

`digits` writes a number without leading zeros and `value` reads a run of digits, leading zeros
and all; `value_digits` says that reading undoes writing. `readUnsigned` and `readSigned` are the
forms that settings and command lines accept: an optional sign, at least one digit, and a number
that fits 64 bits.
-/
namespace StationBench.Decimal

/-- The first whole number that 64 bits with a sign cannot hold, 2⁶³. -/
def signedBound : Nat := 0x8000000000000000

def digitChar (d : Nat) : Char := Char.ofNat (48 + d)

def digitValue (c : Char) : Nat := c.toNat - 48

/-- The decimal digits of a number, the leading one not zero unless the number is. -/
def digits (n : Nat) : List Char :=
  if n < 10 then [digitChar n] else digits (n / 10) ++ [digitChar (n % 10)]

/-- The number that a run of digits denotes. -/
def value (ds : List Char) : Nat :=
  ds.foldl (fun n c => 10 * n + digitValue c) 0

/-- A number as text. -/
def text (n : Nat) : String := String.ofList (digits n)

/-- The digits of an integer, after a minus sign if it is negative. -/
def signedDigits (i : Int) : List Char :=
  if i < 0 then '-' :: digits i.natAbs else digits i.natAbs

/-- An integer as text. -/
def signedText (i : Int) : String := String.ofList (signedDigits i)

/-- An unsigned number of at most 64 bits, with an optional plus sign. -/
def readUnsigned (cs : List Char) : Option UInt64 :=
  let ds := match cs with
    | '+' :: rest => rest
    | _ => cs
  if !ds.isEmpty && ds.all Char.isDigit && value ds < UInt64.size then some (.ofNat (value ds))
  else none

/-- A signed number of 64 bits, with an optional sign. -/
def readSigned (cs : List Char) : Option Int64 :=
  let (negative, ds) := match cs with
    | '+' :: rest => (false, rest)
    | '-' :: rest => (true, rest)
    | _ => (false, cs)
  if !ds.isEmpty && ds.all Char.isDigit then
    let n : Int := if negative then -(value ds : Int) else value ds
    if -(signedBound : Int) ≤ n ∧ n < signedBound then some (.ofInt n) else none
  else none

/-! ## Reading back -/

theorem digitValue_digitChar {d : Nat} (h : d < 10) : digitValue (digitChar d) = d := by
  rcases (by omega : d = 0 ∨ d = 1 ∨ d = 2 ∨ d = 3 ∨ d = 4 ∨ d = 5 ∨ d = 6 ∨ d = 7 ∨ d = 8 ∨ d = 9)
    with rfl | rfl | rfl | rfl | rfl | rfl | rfl | rfl | rfl | rfl <;> decide

theorem isDigit_digitChar {d : Nat} (h : d < 10) : (digitChar d).isDigit = true := by
  rcases (by omega : d = 0 ∨ d = 1 ∨ d = 2 ∨ d = 3 ∨ d = 4 ∨ d = 5 ∨ d = 6 ∨ d = 7 ∨ d = 8 ∨ d = 9)
    with rfl | rfl | rfl | rfl | rfl | rfl | rfl | rfl | rfl | rfl <;> decide

theorem value_append_singleton (ds : List Char) (c : Char) :
    value (ds ++ [c]) = 10 * value ds + digitValue c := by
  simp [value, List.foldl_append]

theorem value_digits (n : Nat) : value (digits n) = n := by
  induction n using Nat.strongRecOn with
  | ind n ih =>
    rw [digits]
    split
    · next h => simp [value, digitValue_digitChar h]
    · next h =>
      rw [value_append_singleton, ih (n / 10) (by omega),
        digitValue_digitChar (Nat.mod_lt _ (by omega))]
      omega

theorem all_isDigit_digits (n : Nat) : ∀ c ∈ digits n, c.isDigit = true := by
  induction n using Nat.strongRecOn with
  | ind n ih =>
    rw [digits]
    split
    · next h => simpa using isDigit_digitChar h
    · next h =>
      intro c hc
      rcases List.mem_append.1 hc with hc | hc
      · exact ih (n / 10) (by omega) c hc
      · rw [List.mem_singleton.1 hc]
        exact isDigit_digitChar (Nat.mod_lt _ (by omega))

theorem digits_ne_nil (n : Nat) : digits n ≠ [] := by
  rw [digits]; split <;> simp

end StationBench.Decimal
