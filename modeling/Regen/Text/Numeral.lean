/-!
# Decimal numerals

The numerals that stand for 32-bit line numbers, read and written.

* `digitValue`   the value of a decimal digit;
* `decimal`      the value of a digit string;
* `u32?`         the value of a 32-bit numeral: an optional plus, one or more digits, below 2^32;
* `digits`       the shortest digit string of a number.

Main statement: `u32?_digits` (a 32-bit number is read back from its digits).
-/

namespace Regen.Text

/-- whether a character is one of the ten ASCII digits. -/
def isDigit (c : Char) : Bool := '0' ≤ c && c ≤ '9'

def digitValue (c : Char) : Nat := c.toNat - '0'.toNat

/-- the value of a digit string, read on from a value. -/
def decimalFrom (n : Nat) (cs : List Char) : Nat := cs.foldl (fun n c => 10 * n + digitValue c) n

def decimal (cs : List Char) : Nat := decimalFrom 0 cs

def dropPlus : List Char → List Char
  | '+' :: cs => cs
  | cs => cs

def u32? (cs : List Char) : Option UInt32 :=
  let ds := dropPlus cs
  if ds ≠ [] ∧ ds.all isDigit ∧ decimal ds < UInt32.size then some (UInt32.ofNat (decimal ds)) else none

def digits (n : Nat) : List Char := Nat.toDigits 10 n

/-! ## reading what was written -/

theorem digits_ne_nil (n : Nat) : digits n ≠ [] := Nat.toDigits_ne_nil

theorem isDigit_of_mem_digits {n : Nat} {c : Char} (h : c ∈ digits n) : isDigit c := by
  have hc : c.isDigit = true := Nat.isDigit_of_mem_toDigits (by omega) (by omega) h
  simpa [isDigit, Char.isDigit, Char.le_def] using hc

theorem not_mem_digits {c : Char} (hc : isDigit c = false) (n : Nat) : c ∉ digits n := by
  intro h
  rw [isDigit_of_mem_digits h] at hc
  cases hc

theorem decimal_digits (n : Nat) : decimal (digits n) = n :=
  Nat.ofDigitChars_toDigits (by omega) (by omega)

theorem dropPlus_digits (n : Nat) : dropPlus (digits n) = digits n := by
  unfold dropPlus
  split
  next cs h =>
    have hplus : '+' ∉ digits n := not_mem_digits rfl n
    exact absurd (h ▸ List.mem_cons_self) hplus
  next => rfl

theorem u32?_digits (n : UInt32) : u32? (digits n.toNat) = some n := by
  have hall : (digits n.toNat).all isDigit := List.all_eq_true.2 fun c hc => isDigit_of_mem_digits hc
  have hsize : n.toNat < UInt32.size := n.toNat_lt_size
  simp only [u32?, dropPlus_digits, decimal_digits]
  rw [if_pos ⟨digits_ne_nil _, hall, hsize⟩, UInt32.ofNat_toNat]

end Regen.Text
