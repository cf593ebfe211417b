import Mathlib.Data.List.Induction
import Mathlib.Data.List.TakeWhile
import Regen.Text.Blank
import Regen.Text.Numeral

/-!
# What numerals and trimmed texts are

The readers of `Regen.Text` in the words of a grammar, which say what is read and not how.

* `Text.Digits`    a string of decimal digits, and its value;
* `Text.Numeral`   a 32-bit numeral, and its value;
* `Text.Trimmed`   a text, and what is left of it between the blanks.

Main statements: `u32?_eq_some_iff` and `trim_eq_iff`.
-/

namespace Regen.Text

/-! ## numerals -/

inductive Digits : List Char → Nat → Prop where
  | one {d : Char} : isDigit d → Digits [d] (digitValue d)
  | more {ds : List Char} {n : Nat} {d : Char} :
    Digits ds n → isDigit d → Digits (ds ++ [d]) (10 * n + digitValue d)

/-- digits, perhaps after a plus, whose value is a word of 32 bits. -/
inductive Numeral : List Char → UInt32 → Prop where
  | plain {ds : List Char} {n : UInt32} : Digits ds n.toNat → Numeral ds n
  | signed {ds : List Char} {n : UInt32} : Digits ds n.toNat → Numeral ('+' :: ds) n

theorem decimal_append (ds : List Char) (d : Char) :
    decimal (ds ++ [d]) = 10 * decimal ds + digitValue d :=
  List.foldl_append

theorem digits_iff {ds : List Char} {n : Nat} :
    Digits ds n ↔ ds ≠ [] ∧ ds.all isDigit ∧ decimal ds = n := by
  constructor
  · intro h
    induction h with
    | @one d hd =>
      have hvalue : decimal [d] = digitValue d := by
        show 10 * 0 + digitValue d = _
        omega
      exact ⟨List.cons_ne_nil _ _, by simpa using hd, hvalue⟩
    | @more ds n d _ hd ih =>
      obtain ⟨-, hall, hvalue⟩ := ih
      refine ⟨by simp, ?_, by rw [decimal_append, hvalue]⟩
      rw [List.all_append, hall]
      simpa using hd
  · rintro ⟨hne, hall, rfl⟩
    induction ds using List.reverseRecOn with
    | nil => exact absurd rfl hne
    | append_singleton ds d ih =>
      rw [List.all_append, Bool.and_eq_true] at hall
      have hd : isDigit d := by simpa using hall.2
      by_cases hds : ds = []
      · subst hds
        have hvalue : decimal ([] ++ [d]) = digitValue d := by
          show 10 * 0 + digitValue d = _
          omega
        rw [hvalue]
        exact .one hd
      · rw [decimal_append]
        exact (ih hds hall.1).more hd

theorem Digits.isDigit {ds : List Char} {n : Nat} (h : Digits ds n) {c : Char} (hc : c ∈ ds) :
    isDigit c :=
  List.all_eq_true.1 (digits_iff.1 h).2.1 c hc

/-- the reader looks for a plus before anything else; no digit is one. -/
theorem numeral_iff {cs : List Char} {n : UInt32} :
    Numeral cs n ↔ Digits (dropPlus cs) n.toNat := by
  constructor
  · intro h
    cases h with
    | signed hd => exact hd
    | plain hd =>
      have hplus : dropPlus cs = cs := by
        unfold dropPlus
        split
        next ds => exact absurd (hd.isDigit List.mem_cons_self) (by decide)
        next => rfl
      rwa [hplus]
  · unfold dropPlus
    split
    · exact .signed
    · exact .plain

/-- **A 32-bit numeral is read** as its value, and nothing else is read. -/
theorem u32?_eq_some_iff {cs : List Char} {n : UInt32} : u32? cs = some n ↔ Numeral cs n := by
  rw [numeral_iff, digits_iff, u32?]
  constructor
  · intro h
    by_cases hc : dropPlus cs ≠ [] ∧ (dropPlus cs).all Text.isDigit ∧
        decimal (dropPlus cs) < UInt32.size
    · rw [if_pos hc] at h
      obtain ⟨hne, hall, hlt⟩ := hc
      obtain rfl := Option.some.inj h
      exact ⟨hne, hall, (UInt32.toNat_ofNat_of_lt' hlt).symm⟩
    · rw [if_neg hc] at h
      cases h
  · rintro ⟨hne, hall, hvalue⟩
    have hlt : decimal (dropPlus cs) < UInt32.size := hvalue ▸ n.toNat_lt_size
    rw [if_pos ⟨hne, hall, hlt⟩, hvalue, UInt32.ofNat_toNat]

theorem u32?_eq_none_iff {cs : List Char} : u32? cs = none ↔ ∀ n, ¬ Numeral cs n := by
  rw [Option.eq_none_iff_forall_ne_some]
  exact forall_congr' fun n => not_congr u32?_eq_some_iff

theorem Numeral.not_mem_colon {cs : List Char} {n : UInt32} (h : Numeral cs n) : ':' ∉ cs := by
  intro hc
  have hcolon : isDigit ':' = false := rfl
  cases h with
  | plain hd => exact absurd (hd.isDigit hc) (by rw [hcolon]; decide)
  | signed hd =>
    rcases List.mem_cons.1 hc with he | hc
    · exact absurd he (by decide)
    · exact absurd (hd.isDigit hc) (by rw [hcolon]; decide)

/-! ## blanks -/

structure Trimmed (cs kept : List Char) : Prop where
  around : ∃ l r, cs = l ++ kept ++ r ∧ (∀ c ∈ l, isBlank c) ∧ ∀ c ∈ r, isBlank c
  head : ∀ c, kept.head? = some c → isBlank c = false
  last : ∀ c, kept.getLast? = some c → isBlank c = false

theorem exists_trim (cs : List Char) :
    ∃ l r, cs = l ++ trim cs ++ r ∧ (∀ c ∈ l, isBlank c) ∧ ∀ c ∈ r, isBlank c := by
  refine ⟨cs.takeWhile isBlank, ((trimLeft cs).reverse.takeWhile isBlank).reverse, ?_,
    fun c hc => List.mem_takeWhile_imp hc,
    fun c hc => List.mem_takeWhile_imp (List.mem_reverse.1 hc)⟩
  have hright : trim cs ++ ((trimLeft cs).reverse.takeWhile isBlank).reverse = trimLeft cs := by
    rw [trim, trimRight, ← List.reverse_append, List.takeWhile_append_dropWhile,
      List.reverse_reverse]
  rw [List.append_assoc, hright]
  exact List.takeWhile_append_dropWhile.symm

theorem trim_around {l kept r : List Char} (hl : ∀ c ∈ l, isBlank c) (hr : ∀ c ∈ r, isBlank c) :
    trim (l ++ kept ++ r) = trim kept := by
  rw [trim_append _ hr]
  exact congrArg trimRight (trimLeft_append hl kept)

/-- **Trimming leaves** the part of a text that has nothing but blanks around it and neither starts
nor ends with one. -/
theorem trim_eq_iff {cs kept : List Char} : trim cs = kept ↔ Trimmed cs kept := by
  constructor
  · rintro rfl
    obtain ⟨l, r, hcs, hl, hr⟩ := exists_trim cs
    have htwice : trim (trim cs) = trim cs := by
      rw [← trim_around hl hr, ← hcs]
    obtain ⟨hhead, hlast⟩ := (trim_eq_self_iff (trim cs)).1 htwice
    exact ⟨⟨l, r, hcs, hl, hr⟩, hhead, hlast⟩
  · rintro ⟨⟨l, r, rfl, hl, hr⟩, hhead, hlast⟩
    rw [trim_around hl hr]
    exact (trim_eq_self_iff kept).2 ⟨hhead, hlast⟩

end Regen.Text
