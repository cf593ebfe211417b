import Regen.Text.Utf8

/-!
# Reading what was encoded

The reader gives back the text whose bytes it reads, whatever comes after them. And a line feed comes
of a line feed alone: no bytes of a longer character, and no bytes that are no character, are read as
one.

* `Utf8.Wide`   what a character half read is going to be lies beyond ASCII.

Main statements: `lossy_encode_append` and `newline_mem_lossy`.
-/

namespace Regen.Utf8

/-! ## one character -/

theorem first_two : ∀ x < 32, 2 ≤ x → first (UInt8.ofNat (x + 192)) = ([], .owed 0 0x80 0xBF x) := by
  decide

/-- the first byte of three; it bounds the second so that no shorter spelling and no surrogate is
read. -/
theorem first_three : ∀ x < 16, first (UInt8.ofNat (x + 224)) =
    ([], .owed 1 (if x = 0 then 0xA0 else 0x80) (if x = 13 then 0x9F else 0xBF) x) := by
  decide

/-- the first byte of four; it bounds the second so that no shorter spelling and nothing above
U+10FFFF is read. -/
theorem first_four : ∀ x < 5, first (UInt8.ofNat (x + 240)) =
    ([], .owed 2 (if x = 0 then 0x90 else 0x80) (if x = 4 then 0x8F else 0xBF) x) := by
  decide

section
variable {low high : UInt8} {bits y : Nat} (hy : y < 64) (hl : low.toNat ≤ y + 128)
  (hh : y + 128 ≤ high.toNat)
include hy hl hh

theorem mem_bounds : low ≤ UInt8.ofNat (y + 128) ∧ UInt8.ofNat (y + 128) ≤ high ∧
    (UInt8.ofNat (y + 128)).toNat - 0x80 = y := by
  have hb : (UInt8.ofNat (y + 128)).toNat = y + 128 := by
    rw [UInt8.toNat_ofNat']
    omega
  rw [UInt8.le_iff_toNat_le, UInt8.le_iff_toNat_le, hb]
  exact ⟨hl, hh, by omega⟩

theorem step_more (more : Nat) : step (.owed (more + 1) low high bits) (UInt8.ofNat (y + 128)) =
    ([], .owed more 0x80 0xBF (bits * 64 + y)) := by
  obtain ⟨h1, h2, h3⟩ := mem_bounds hy hl hh
  simp only [step, h1, h2, h3, and_self, if_true]

end

theorem step_last {bits y : Nat} (hy : y < 64) :
    step (.owed 0 0x80 0xBF bits) (UInt8.ofNat (y + 128)) = ([Char.ofNat (bits * 64 + y)], .start) := by
  have hl : (0x80 : UInt8).toNat ≤ y + 128 := Nat.le_add_left 128 y
  have hh : y + 128 ≤ (0xBF : UInt8).toNat := by
    show y + 128 ≤ 191
    omega
  obtain ⟨h1, h2, h3⟩ := mem_bounds hy hl hh
  simp only [step, h1, h2, h3, and_self, if_true]

theorem readInto_encodeChar (c : Char) (bs : Bytes) :
    readInto [] .start (String.utf8EncodeChar c ++ bs) = c :: readInto [] .start bs := by
  have hvalid : c.toNat < 0xD800 ∨ 0xDFFF < c.toNat ∧ c.toNat < 0x110000 := c.valid
  have hc : Char.ofNat c.toNat = c := Char.ofNat_toNat c
  have hv : c.val.toNat = c.toNat := rfl
  unfold String.utf8EncodeChar
  simp only [hv]
  generalize c.toNat = v at hvalid hc
  by_cases h1 : v ≤ 127
  · have hb : (UInt8.ofNat v).toNat = v := by
      rw [UInt8.toNat_ofNat']
      omega
    have hfirst : step .start (UInt8.ofNat v) = ([c], .start) := by
      have hlt : UInt8.ofNat v < 0x80 := by
        rw [UInt8.lt_iff_toNat_lt, hb]
        exact Nat.lt_succ_of_le h1
      show first _ = _
      rw [first, if_pos hlt, hb, hc]
    rw [if_pos h1, List.singleton_append, readInto_cons, hfirst]
    rfl
  rw [if_neg h1]
  by_cases h2 : v ≤ 2047
  · have hfirst : step .start (UInt8.ofNat (v / 64 % 32 + 192)) =
        ([], .owed 0 0x80 0xBF (v / 64 % 32)) :=
      first_two _ (by omega) (by omega)
    have hlast : step (.owed 0 0x80 0xBF (v / 64 % 32)) (UInt8.ofNat (v % 64 + 128)) =
        ([c], .start) := by
      have hbits : v / 64 % 32 * 64 + v % 64 = v := by omega
      rw [step_last (by omega), hbits, hc]
    rw [if_pos h2, List.cons_append, List.singleton_append, readInto_cons, hfirst, readInto_cons,
      hlast]
    rfl
  rw [if_neg h2]
  by_cases h3 : v ≤ 65535
  · have hfirst : step .start (UInt8.ofNat (v / 4096 % 16 + 224)) = _ := first_three _ (by omega)
    have hmore : step (.owed 1 (if v / 4096 % 16 = 0 then 0xA0 else 0x80)
        (if v / 4096 % 16 = 13 then 0x9F else 0xBF) (v / 4096 % 16)) (UInt8.ofNat (v / 64 % 64 + 128))
        = ([], .owed 0 0x80 0xBF (v / 4096 % 16 * 64 + v / 64 % 64)) := by
      refine step_more (by omega) ?_ ?_ 0
      · rw [apply_ite UInt8.toNat]
        show (if _ then 160 else 128) ≤ _
        split <;> omega
      · rw [apply_ite UInt8.toNat]
        show _ ≤ (if _ then 159 else 191)
        split <;> omega
    have hlast : step (.owed 0 0x80 0xBF (v / 4096 % 16 * 64 + v / 64 % 64))
        (UInt8.ofNat (v % 64 + 128)) = ([c], .start) := by
      have hbits : (v / 4096 % 16 * 64 + v / 64 % 64) * 64 + v % 64 = v := by omega
      rw [step_last (by omega), hbits, hc]
    rw [if_pos h3]
    simp only [List.cons_append, List.nil_append]
    rw [readInto_cons, hfirst, readInto_cons, hmore, readInto_cons, hlast]
    rfl
  · have hfirst : step .start (UInt8.ofNat (v / 262144 % 8 + 240)) = _ := first_four _ (by omega)
    have hsecond : step (.owed 2 (if v / 262144 % 8 = 0 then 0x90 else 0x80)
        (if v / 262144 % 8 = 4 then 0x8F else 0xBF) (v / 262144 % 8))
        (UInt8.ofNat (v / 4096 % 64 + 128))
        = ([], .owed 1 0x80 0xBF (v / 262144 % 8 * 64 + v / 4096 % 64)) := by
      refine step_more (by omega) ?_ ?_ 1
      · rw [apply_ite UInt8.toNat]
        show (if _ then 144 else 128) ≤ _
        split <;> omega
      · rw [apply_ite UInt8.toNat]
        show _ ≤ (if _ then 143 else 191)
        split <;> omega
    have hthird : step (.owed 1 0x80 0xBF (v / 262144 % 8 * 64 + v / 4096 % 64))
        (UInt8.ofNat (v / 64 % 64 + 128))
        = ([], .owed 0 0x80 0xBF ((v / 262144 % 8 * 64 + v / 4096 % 64) * 64 + v / 64 % 64)) :=
      step_more (by omega) (Nat.le_add_left 128 _) (by show _ ≤ 191; omega) 0
    have hlast : step (.owed 0 0x80 0xBF
        ((v / 262144 % 8 * 64 + v / 4096 % 64) * 64 + v / 64 % 64)) (UInt8.ofNat (v % 64 + 128))
        = ([c], .start) := by
      have hbits : ((v / 262144 % 8 * 64 + v / 4096 % 64) * 64 + v / 64 % 64) * 64 + v % 64 = v := by
        omega
      rw [step_last (by omega), hbits, hc]
    rw [if_neg h3]
    simp only [List.cons_append, List.nil_append]
    rw [readInto_cons, hfirst, readInto_cons, hsecond, readInto_cons, hthird, readInto_cons, hlast]
    rfl

/-! ## texts -/

/-- **The bytes of a text** are read as that text, and what follows is read as if it stood alone. -/
theorem lossy_encode_append (cs : List Char) (bs : Bytes) :
    lossy (encode cs ++ bs) = cs ++ lossy bs := by
  induction cs with
  | nil => rfl
  | cons c cs ih =>
    have he : encode (c :: cs) ++ bs = String.utf8EncodeChar c ++ (encode cs ++ bs) := by
      rw [encode, List.flatMap_cons, List.append_assoc]
      rfl
    rw [he, lossy, readInto_encodeChar, List.cons_append]
    exact congrArg (c :: ·) ih

theorem lossy_encode (cs : List Char) : lossy (encode cs) = cs := by
  have h := lossy_encode_append cs []
  rwa [List.append_nil, show lossy [] = [] from rfl, List.append_nil] at h

theorem ofText_inj {s t : String} (h : Bytes.ofText s = Bytes.ofText t) : s = t := by
  have hs : lossy (Bytes.ofText s) = s.toList := lossy_encode s.toList
  have ht : lossy (Bytes.ofText t) = t.toList := lossy_encode t.toList
  rw [h, ht] at hs
  exact String.toList_inj.1 hs.symm

/-! ## line feeds -/

/-- what a character half read is going to be lies beyond ASCII: the bits so far say so, or those that
the next byte has to bring, if it is not the last. -/
def Wide : State → Prop
  | .start => True
  | .owed more low _ bits => 128 ≤ low.toNat ∧ (2 ≤ bits ∨ 0 < more ∧ 130 ≤ bits * 64 + low.toNat)

instance : DecidablePred Wide
  | .start => inferInstanceAs (Decidable True)
  | .owed more low _ bits =>
    inferInstanceAs (Decidable (128 ≤ low.toNat ∧ (2 ≤ bits ∨ 0 < more ∧ 130 ≤ bits * 64 + low.toNat)))

theorem ofNat_ne_newline {n : Nat} (h : n ≠ 10) : Char.ofNat n ≠ '\n' := by
  intro he
  unfold Char.ofNat at he
  by_cases hv : n.isValidChar
  · rw [dif_pos hv] at he
    have hn : n = 10 := congrArg Char.toNat he
    exact h hn
  · rw [dif_neg hv] at he
    exact absurd he (by decide)

theorem wide_first_ofNat : ∀ x < 256, x ≠ 10 →
    '\n' ∉ (first (UInt8.ofNat x)).1 ∧ Wide (first (UInt8.ofNat x)).2 := by
  decide +kernel

theorem wide_first {b : UInt8} (hb : b ≠ 10) : '\n' ∉ (first b).1 ∧ Wide (first b).2 := by
  have hx : b.toNat ≠ 10 := fun h => hb (UInt8.toNat_inj.1 h)
  have hwide := wide_first_ofNat b.toNat b.toNat_lt hx
  rwa [UInt8.ofNat_toNat] at hwide

theorem wide_step {st : State} {b : UInt8} (hst : Wide st) (hb : b ≠ 10) :
    '\n' ∉ (step st b).1 ∧ Wide (step st b).2 := by
  cases st with
  | start => exact wide_first hb
  | owed more low high bits =>
    obtain ⟨hlow, hbits⟩ := hst
    simp only [step]
    split
    next hin =>
      have hle : low.toNat ≤ b.toNat := UInt8.le_iff_toNat_le.1 hin.1
      cases more with
      | zero =>
        refine ⟨?_, trivial⟩
        rw [List.mem_singleton]
        exact (ofNat_ne_newline (by omega)).symm
      | succ more =>
        have hlong : 2 ≤ bits * 64 + (b.toNat - 128) := by omega
        exact ⟨List.not_mem_nil, Nat.le_refl 128, .inl hlong⟩
    next =>
      obtain ⟨hnew, hwide⟩ := wide_first hb
      refine ⟨?_, hwide⟩
      rw [List.mem_cons]
      rintro (h | h)
      · exact absurd h (by decide)
      · exact hnew h

theorem newline_not_mem_readInto {st : State} {bs : Bytes} (hst : Wide st) (hbs : 10 ∉ bs) :
    '\n' ∉ readInto [] st bs := by
  induction bs generalizing st with
  | nil =>
    cases st with
    | start => exact List.not_mem_nil
    | owed =>
      show '\n' ∉ [replacement]
      decide
  | cons b bs ih =>
    rw [List.mem_cons, not_or] at hbs
    obtain ⟨hnew, hwide⟩ := wide_step hst (Ne.symm hbs.1)
    rw [readInto_cons, List.mem_append, not_or]
    exact ⟨hnew, ih hwide hbs.2⟩

/-- **Line feeds stand for themselves**: a text has one exactly if its bytes do. -/
theorem newline_mem_lossy {bs : Bytes} : '\n' ∈ lossy bs ↔ 10 ∈ bs := by
  constructor
  · intro h
    by_cases hbs : 10 ∈ bs
    · exact hbs
    · exact absurd h (newline_not_mem_readInto trivial hbs)
  · intro h
    obtain ⟨a, b, rfl⟩ := List.append_of_mem h
    rw [lossy_append_newline]
    exact List.mem_append_right _ List.mem_cons_self

end Regen.Utf8
