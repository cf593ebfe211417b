/-!
# White space

The characters with the Unicode property White_Space, and trimming them from both ends.

* `isBlank`    the property;
* `trim`       a text without the blanks at its two ends.

Main statements: `trim_eq_self_iff` (nothing is cut from a text that neither starts nor ends
with a blank) and `trim_append` (blanks after a text do not matter).
-/

namespace Regen.Text

def blankRanges : List (Nat × Nat) :=
  [(0x9, 0xD), (0x20, 0x20), (0x85, 0x85), (0xA0, 0xA0), (0x1680, 0x1680), (0x2000, 0x200A),
   (0x2028, 0x2029), (0x202F, 0x202F), (0x205F, 0x205F), (0x3000, 0x3000)]

def isBlank (c : Char) : Bool :=
  blankRanges.any fun r => r.1 ≤ c.toNat && c.toNat ≤ r.2

/-- a text without its leading blanks. -/
def trimLeft (cs : List Char) : List Char := cs.dropWhile isBlank

/-- a text without its trailing blanks. -/
def trimRight (cs : List Char) : List Char := (cs.reverse.dropWhile isBlank).reverse

def trim (cs : List Char) : List Char := trimRight (trimLeft cs)

/-! ## what is left alone -/

theorem trimLeft_eq_self_iff (cs : List Char) :
    trimLeft cs = cs ↔ ∀ c, cs.head? = some c → isBlank c = false := by
  cases cs with
  | nil => simp [trimLeft]
  | cons c cs =>
    by_cases h : isBlank c = true
    · simp only [trimLeft, List.dropWhile_cons, h, if_true, List.head?_cons]
      constructor
      · intro he
        have := congrArg List.length he
        have hl := (List.dropWhile_suffix (l := cs) isBlank).length_le
        simp at this
        omega
      · intro hc
        simp [hc c rfl] at h
    · simp [trimLeft, h]

theorem trimRight_eq_self_iff (cs : List Char) :
    trimRight cs = cs ↔ ∀ c, cs.getLast? = some c → isBlank c = false := by
  rw [trimRight, List.reverse_eq_iff]
  have h := trimLeft_eq_self_iff cs.reverse
  rw [List.head?_reverse] at h
  exact h

/-- nothing is cut from a text that neither starts nor ends with a blank. -/
theorem trim_eq_self_iff (cs : List Char) :
    trim cs = cs ↔ (∀ c, cs.head? = some c → isBlank c = false) ∧
      ∀ c, cs.getLast? = some c → isBlank c = false := by
  constructor
  · intro h
    have hl : (trimLeft cs).length ≤ cs.length :=
      (List.dropWhile_suffix (l := cs) isBlank).length_le
    have hr : (trimRight (trimLeft cs)).length ≤ (trimLeft cs).length := by
      have := (List.dropWhile_suffix (l := (trimLeft cs).reverse) isBlank).length_le
      simpa [trimRight] using this
    have he : trimLeft cs = cs := by
      apply List.IsSuffix.eq_of_length (List.dropWhile_suffix isBlank)
      have := congrArg List.length h
      rw [trim] at this
      show (trimLeft cs).length = cs.length
      omega
    refine ⟨(trimLeft_eq_self_iff cs).1 he, (trimRight_eq_self_iff cs).1 ?_⟩
    rw [trim, he] at h
    exact h
  · rintro ⟨hl, hr⟩
    rw [trim, (trimLeft_eq_self_iff cs).2 hl, (trimRight_eq_self_iff cs).2 hr]

/-! ## blanks around a text -/

theorem trimLeft_append {bs : List Char} (h : ∀ c ∈ bs, isBlank c) (cs : List Char) :
    trimLeft (bs ++ cs) = trimLeft cs :=
  List.dropWhile_append_of_pos h

theorem trimRight_append {bs : List Char} (cs : List Char) (h : ∀ c ∈ bs, isBlank c) :
    trimRight (cs ++ bs) = trimRight cs := by
  have hb : ∀ c ∈ bs.reverse, isBlank c := fun c hc => h c (List.mem_reverse.1 hc)
  rw [trimRight, List.reverse_append, List.dropWhile_append_of_pos hb]
  rfl

theorem trim_append {bs : List Char} (cs : List Char) (h : ∀ c ∈ bs, isBlank c) :
    trim (cs ++ bs) = trim cs := by
  show trimRight ((cs ++ bs).dropWhile isBlank) = trimRight (trimLeft cs)
  rw [List.dropWhile_append]
  split
  next he =>
    have hcs : trimLeft cs = [] := List.isEmpty_iff.1 he
    have hbs : trimLeft (bs ++ []) = [] := trimLeft_append h []
    rw [List.append_nil] at hbs
    rw [hcs]
    exact congrArg trimRight hbs
  next => exact trimRight_append _ h

end Regen.Text
