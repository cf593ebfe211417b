/-!
# Byte strings

File contents, paths, environment names and values are plain byte strings: nothing here asks
whether they are valid text.

* `Bytes`            a list of bytes;
* `Bytes.ofText`     the UTF-8 bytes of a literal;
* `Bytes.segments`   the pieces of a byte string between separators (always one more piece than
                     there are separators);
* `Bytes.join`       the pieces written back with the separator between them;
* `Bytes.upperAscii` the letters a to z raised, every other byte kept.

Main statements: `join_segments` (cutting and joining gives the text back), `segments_no_sep` (no
piece holds the separator) and `segments_append` (a separator keeps the pieces apart).
-/

namespace Regen

abbrev Bytes := List UInt8

namespace Bytes

def ofText (s : String) : Bytes := s.toList.flatMap String.utf8EncodeChar

/-! ## separators -/

/-- the pieces between the separators; a byte string with none is one piece. -/
def segments (sep : UInt8) : Bytes → List Bytes
  | [] => [[]]
  | b :: bs =>
    match segments sep bs with
    | [] => []
    | p :: ps => if b = sep then [] :: p :: ps else (b :: p) :: ps

def join (sep : UInt8) : List Bytes → Bytes
  | [] => []
  | [p] => p
  | p :: q :: ps => p ++ sep :: join sep (q :: ps)

theorem segments_ne_nil (sep : UInt8) (bs : Bytes) : segments sep bs ≠ [] := by
  induction bs with
  | nil => simp [segments]
  | cons b bs ih =>
    unfold segments
    split
    · contradiction
    · split <;> simp

theorem join_cons_cons (sep b : UInt8) (p : Bytes) (ps : List Bytes) :
    join sep ((b :: p) :: ps) = b :: join sep (p :: ps) := by
  cases ps <;> simp [join]

theorem join_segments (sep : UInt8) (bs : Bytes) : join sep (segments sep bs) = bs := by
  induction bs with
  | nil => rfl
  | cons b bs ih =>
    have hne := segments_ne_nil sep bs
    unfold segments
    split
    · contradiction
    next p ps hp =>
      rw [hp] at ih
      split
      next h => simp [join, ih, h]
      next => rw [join_cons_cons, ih]

theorem segments_no_sep (sep : UInt8) (bs : Bytes) : ∀ p ∈ segments sep bs, sep ∉ p := by
  induction bs with
  | nil => simp [segments]
  | cons b bs ih =>
    unfold segments
    split
    · simp
    next p ps hp =>
      rw [hp] at ih
      split
      next h =>
        intro q hq
        rcases List.mem_cons.1 hq with rfl | hq
        · simp
        · exact ih q hq
      next h =>
        intro q hq
        rcases List.mem_cons.1 hq with rfl | hq
        · have := ih p (by simp)
          simp [this, Ne.symm h]
        · exact ih q (by simp [hq])

/-- a separator between two byte strings keeps their pieces apart. -/
theorem segments_append (sep : UInt8) (a b : Bytes) :
    segments sep (a ++ sep :: b) = segments sep a ++ segments sep b := by
  induction a with
  | nil =>
    cases hb : segments sep b with
    | nil => exact absurd hb (segments_ne_nil sep b)
    | cons p ps => simp [segments, hb]
  | cons x a ih =>
    cases ha : segments sep a with
    | nil => exact absurd ha (segments_ne_nil sep a)
    | cons p ps =>
      rw [ha] at ih
      by_cases hx : x = sep <;> simp [segments, ih, ha, hx]

theorem segments_of_not_mem {sep : UInt8} {bs : Bytes} (h : sep ∉ bs) : segments sep bs = [bs] := by
  induction bs with
  | nil => rfl
  | cons b bs ih =>
    rw [List.mem_cons, not_or] at h
    simp [segments, ih h.2, Ne.symm h.1]

/-! ## letters -/

/-- the ASCII letters a to z raised; every other byte kept, also inside longer characters. -/
def upperAscii (bs : Bytes) : Bytes :=
  bs.map fun b => if 97 ≤ b ∧ b ≤ 122 then b - 32 else b

end Bytes
end Regen
