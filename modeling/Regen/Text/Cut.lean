/-!
# Cutting text

Three ways to take a text apart: into lines, at the first occurrence of a mark, and at the last
occurrence of a character.

* `lines`       the lines of a text: each ends with a line feed, or at the end of the text; one
                carriage return before the line feed belongs to the line end;
* `cutAt`       the text before and after the first occurrence of a mark;
* `cutLast`     the text before and after the last occurrence of a character.

Main statements: `lines_append_newline` (the lines of two texts put together with a line feed),
`cutAt_eq_some_iff` and `cutLast_eq_some` (the parts and the mark between them are the text),
`cutAt_append_append` (no mark reaches into characters it does not have), `cutAt_append_right` (what
follows does not move the cut).
-/

namespace Regen.Text

/-! ## lines -/

/-- the text up to the line feed that ends it, in reverse, without the line end. -/
def closeLine : List Char → List Char
  | '\r' :: cs => cs.reverse
  | cs => cs.reverse

/-- the lines of a text, given the line being read in reverse. -/
def linesFrom (cur : List Char) : List Char → List (List Char)
  | [] => if cur.isEmpty then [] else [cur.reverse]
  | c :: cs => if c = '\n' then closeLine cur :: linesFrom [] cs else linesFrom (c :: cur) cs

def lines (cs : List Char) : List (List Char) := linesFrom [] cs

def closedLines (cur : List Char) : List Char → List (List Char)
  | [] => [closeLine cur]
  | c :: cs => if c = '\n' then closeLine cur :: closedLines [] cs else closedLines (c :: cur) cs

theorem linesFrom_append_newline (cur a b : List Char) :
    linesFrom cur (a ++ '\n' :: b) = closedLines cur a ++ lines b := by
  induction a generalizing cur with
  | nil => simp [linesFrom, closedLines, lines]
  | cons c a ih =>
    simp only [List.cons_append, linesFrom, closedLines]
    split <;> simp [ih]

theorem lines_append_newline (a b : List Char) :
    lines (a ++ '\n' :: b) = closedLines [] a ++ lines b :=
  linesFrom_append_newline [] a b

theorem linesFrom_of_not_mem {cur cs : List Char} (h : '\n' ∉ cs) (hne : cur ++ cs ≠ []) :
    linesFrom cur cs = [cur.reverse ++ cs] := by
  induction cs generalizing cur with
  | nil =>
    rw [List.append_nil] at hne
    rw [linesFrom, if_neg (by simp [hne]), List.append_nil]
  | cons c cs ih =>
    rw [List.mem_cons, not_or] at h
    rw [linesFrom, if_neg (Ne.symm h.1), ih h.2 (by simp)]
    simp

theorem lines_of_not_mem {cs : List Char} (h : '\n' ∉ cs) (hne : cs ≠ []) : lines cs = [cs] :=
  linesFrom_of_not_mem h hne

/-! ## the first occurrence of a mark -/

/-- the text before and after the first occurrence of a mark, none if it does not occur. -/
def cutAt (mark : List Char) : List Char → Option (List Char × List Char)
  | [] => if mark = [] then some ([], []) else none
  | c :: cs =>
    if mark.isPrefixOf (c :: cs) then some ([], (c :: cs).drop mark.length)
    else (cutAt mark cs).map fun p => (c :: p.1, p.2)

theorem cutAt_eq_some {mark cs before after : List Char} (h : cutAt mark cs = some (before, after)) :
    cs = before ++ mark ++ after := by
  induction cs generalizing before after with
  | nil =>
    simp only [cutAt] at h
    split at h
    · cases h; simp_all
    · cases h
  | cons c cs ih =>
    simp only [cutAt] at h
    split at h
    next hp =>
      cases h
      obtain ⟨t, ht⟩ := List.isPrefixOf_iff_prefix.1 hp
      rw [← ht]
      simp
    next hp =>
      obtain ⟨⟨b, a⟩, hb, he⟩ := Option.map_eq_some_iff.1 h
      cases he
      simp [ih hb]

theorem length_le_of_cutAt {mark cs before after b a : List Char}
    (h : cutAt mark cs = some (before, after)) (hcs : cs = b ++ mark ++ a) :
    before.length ≤ b.length := by
  induction cs generalizing before after b with
  | nil =>
    rw [cutAt] at h
    split at h
    next =>
      cases h
      exact Nat.zero_le _
    next => cases h
  | cons c cs ih =>
    rw [cutAt] at h
    split at h
    next =>
      cases h
      exact Nat.zero_le _
    next hp =>
      obtain ⟨⟨b', a'⟩, hb, he⟩ := Option.map_eq_some_iff.1 h
      cases he
      cases b with
      | nil =>
        have hpre : mark <+: c :: cs := ⟨a, hcs.symm⟩
        exact absurd (List.isPrefixOf_iff_prefix.2 hpre) hp
      | cons x b =>
        have hlen := ih hb (List.cons.inj hcs).2
        simp only [List.length_cons]
        omega

theorem cutAt_eq_none {mark cs : List Char} : cutAt mark cs = none ↔ ¬ mark <:+: cs := by
  induction cs with
  | nil => simp [cutAt]
  | cons c cs ih =>
    rw [cutAt, List.infix_cons_iff]
    by_cases hp : mark.isPrefixOf (c :: cs)
    · have hpre : mark <+: c :: cs := List.isPrefixOf_iff_prefix.1 hp
      simp [hp, hpre]
    · have hpre : ¬ mark <+: c :: cs := fun h => hp (List.isPrefixOf_iff_prefix.2 h)
      simp [hp, hpre, ih]

theorem cutAt_eq_some_iff {mark cs before after : List Char} :
    cutAt mark cs = some (before, after) ↔
      cs = before ++ mark ++ after ∧
        ∀ b a, cs = b ++ mark ++ a → before.length ≤ b.length := by
  constructor
  · exact fun h => ⟨cutAt_eq_some h, fun b a hcs => length_le_of_cutAt h hcs⟩
  · rintro ⟨hcs, hfirst⟩
    cases h : cutAt mark cs with
    | none => exact absurd ⟨before, after, hcs.symm⟩ (cutAt_eq_none.1 h)
    | some p =>
      obtain ⟨b, a⟩ := p
      have hba := cutAt_eq_some h
      have hlen : b.length = before.length :=
        Nat.le_antisymm (length_le_of_cutAt h hcs) (hfirst b a hba)
      rw [hcs, List.append_assoc, List.append_assoc] at hba
      obtain ⟨rfl, hrest⟩ := List.append_inj hba hlen.symm
      rw [List.append_cancel_left hrest]

theorem cutAt_append_right {mark cs before after : List Char}
    (h : cutAt mark cs = some (before, after)) (rest : List Char) :
    cutAt mark (cs ++ rest) = some (before, after ++ rest) := by
  induction cs generalizing before after with
  | nil =>
    rw [cutAt] at h
    split at h
    next hmark =>
      subst hmark
      cases h
      cases rest <;> rfl
    next => cases h
  | cons c cs ih =>
    rw [cutAt] at h
    by_cases hp : mark.isPrefixOf (c :: cs)
    · rw [if_pos hp] at h
      cases h
      have hle : mark <+: c :: cs := List.isPrefixOf_iff_prefix.1 hp
      have hp' : mark.isPrefixOf (c :: (cs ++ rest)) :=
        List.isPrefixOf_iff_prefix.2 (hle.trans (List.prefix_append _ _))
      rw [List.cons_append, cutAt, if_pos hp', ← List.cons_append,
        List.drop_append_of_le_length hle.length_le]
    · rw [if_neg hp] at h
      obtain ⟨⟨b, a⟩, hcs, he⟩ := Option.map_eq_some_iff.1 h
      cases he
      have hp' : ¬ mark.isPrefixOf (c :: (cs ++ rest)) := by
        intro hp'
        have hmark : mark <+: (c :: cs) ++ rest := List.isPrefixOf_iff_prefix.1 hp'
        have hlen : mark.length ≤ cs.length := by
          rw [cutAt_eq_some hcs]
          simp only [List.length_append]
          omega
        have hle : mark.length ≤ (c :: cs).length := Nat.le_succ_of_le hlen
        exact hp (List.isPrefixOf_iff_prefix.2
          (List.prefix_of_prefix_length_le hmark (List.prefix_append _ _) hle))
      rw [List.cons_append, cutAt, if_neg hp', ih hcs]
      rfl

/-- a text that begins with the mark is cut right there. -/
theorem cutAt_append (mark cs : List Char) : cutAt mark (mark ++ cs) = some ([], cs) := by
  cases h : mark ++ cs with
  | nil =>
    obtain ⟨rfl, rfl⟩ := List.append_eq_nil_iff.1 h
    rfl
  | cons x xs =>
    have hp : mark.isPrefixOf (x :: xs) := List.isPrefixOf_iff_prefix.2 ⟨cs, h⟩
    rw [cutAt, if_pos hp, ← h, List.drop_left]

theorem cutAt_append_cons {mark cs : List Char} {c : Char} (hc : c ∉ mark) (h : cutAt mark cs = none)
    (rest : List Char) :
    cutAt mark (cs ++ c :: rest) = (cutAt mark rest).map fun p => (cs ++ c :: p.1, p.2) := by
  induction cs with
  | nil =>
    have hp : ¬ mark.isPrefixOf (c :: rest) := by
      cases mark with
      | nil => simp [cutAt] at h
      | cons m ms =>
        rw [List.mem_cons, not_or] at hc
        simp [List.isPrefixOf, Ne.symm hc.1]
    rw [List.nil_append, cutAt, if_neg hp]
    rfl
  | cons x cs ih =>
    rw [cutAt_eq_none, List.infix_cons_iff, not_or, ← cutAt_eq_none] at h
    have hp : ¬ mark.isPrefixOf (x :: (cs ++ c :: rest)) := by
      intro hp
      have hmark : mark <+: (x :: cs) ++ c :: rest := List.isPrefixOf_iff_prefix.1 hp
      rcases List.prefix_or_prefix_of_prefix hmark (List.prefix_append _ _) with hle | ⟨t, rfl⟩
      · exact h.1 hle
      · rw [List.prefix_append_right_inj] at hmark
        cases t with
        | nil => exact h.1 (by simp)
        | cons d t =>
          obtain rfl : d = c := (List.cons_prefix_cons.1 hmark).1
          simp at hc
    rw [List.cons_append, cutAt, if_neg hp, ih h.2, Option.map_map]
    rfl

theorem cutAt_append_append {mark cs gap : List Char} (hgap : ∀ c ∈ gap, c ∉ mark) (hne : gap ≠ [])
    (h : cutAt mark cs = none) (rest : List Char) :
    cutAt mark (cs ++ (gap ++ rest)) = (cutAt mark rest).map fun p => (cs ++ (gap ++ p.1), p.2) := by
  have hmark : mark ≠ [] := by
    rintro rfl
    exact cutAt_eq_none.1 h (List.nil_infix)
  induction gap generalizing cs with
  | nil => exact absurd rfl hne
  | cons c gap ih =>
    rw [List.cons_append, cutAt_append_cons (hgap c List.mem_cons_self) h]
    by_cases hg : gap = []
    · subst hg
      rfl
    · have hnil : cutAt mark [] = none := if_neg hmark
      have hrest := ih (fun d hd => hgap d (List.mem_cons_of_mem c hd)) hg hnil
      rw [List.nil_append] at hrest
      rw [hrest, Option.map_map]
      rfl

/-! ## the last occurrence of a character -/

/-- the text before and after the last occurrence of a character, none if it does not occur. -/
def cutLast (sep : Char) : List Char → Option (List Char × List Char)
  | [] => none
  | c :: cs =>
    match cutLast sep cs with
    | some (before, after) => some (c :: before, after)
    | none => if c = sep then some ([], cs) else none

theorem cutLast_eq_none {sep : Char} {cs : List Char} : cutLast sep cs = none ↔ sep ∉ cs := by
  induction cs with
  | nil => simp [cutLast]
  | cons c cs ih =>
    unfold cutLast
    cases h : cutLast sep cs with
    | some p =>
      have : sep ∈ cs := by
        by_cases hm : sep ∈ cs
        · exact hm
        · rw [ih.2 hm] at h; cases h
      simp [this]
    | none =>
      have := ih.1 h
      by_cases hc : c = sep
      · simp [hc]
      · simp [hc, this, Ne.symm hc]

theorem cutLast_eq_some {sep : Char} {cs before after : List Char} :
    cutLast sep cs = some (before, after) ↔ cs = before ++ sep :: after ∧ sep ∉ after := by
  induction cs generalizing before after with
  | nil => simp [cutLast]
  | cons c cs ih =>
    unfold cutLast
    cases h : cutLast sep cs with
    | some p =>
      obtain ⟨b, a⟩ := p
      obtain ⟨hb, ha⟩ := ih.1 h
      constructor
      · intro he
        cases he
        exact ⟨by simp [hb], ha⟩
      · rintro ⟨he, hn⟩
        cases before with
        | nil =>
          simp only [List.nil_append, List.cons.injEq] at he
          rw [← he.2, hb] at hn
          simp at hn
        | cons x xs =>
          simp only [List.cons_append, List.cons.injEq] at he
          have := ih.2 ⟨he.2, hn⟩
          rw [h] at this
          cases this
          rw [he.1]
    | none =>
      have hno := cutLast_eq_none.1 h
      constructor
      · intro he
        by_cases hc : c = sep
        · simp only [hc, if_true, Option.some.injEq, Prod.mk.injEq] at he
          obtain ⟨rfl, rfl⟩ := he
          exact ⟨by simp [hc], hno⟩
        · simp [hc] at he
      · rintro ⟨he, hn⟩
        cases before with
        | nil =>
          simp only [List.nil_append, List.cons.injEq] at he
          simp [he.1, he.2]
        | cons x xs =>
          simp only [List.cons_append, List.cons.injEq] at he
          rw [he.2] at hno
          simp at hno

end Regen.Text
