import Regen.Issue.Diagnostic
import Regen.Proofs.Text.Grammar

/-!
# What a diagnostic line is

A line says an issue if it is put together as `head:numeral`, a mark and a rest, in a certain way.
The reader takes it apart from both ends: the mark is looked for from the left, the numeral and the
piece before it from the right. Here the parts are only told, and what they have to be; there is one
way to take a line apart at most.

* `Diagnostic.Parts`          the parts of a line;
* `Diagnostic.Parts.Spells`   the parts make up the line, and its mark is the one that counts;
* `Diagnostic.EndPiece`       the piece after the last colon;
* `Diagnostic.Parts.Says`     the parts say an issue.

Main statements: `cut_eq_some_iff`, `line?_eq_some_iff` and `read_iff_grammar`.
-/

namespace Regen.Diagnostic

structure Parts where
  head : List Char
  numeral : List Char
  severity : Severity
  rest : List Char
  deriving DecidableEq

def Parts.location (p : Parts) : List Char := p.head ++ ':' :: p.numeral

/-- the mark does not occur earlier, and a warning mark counts only on a line without error marks. -/
structure Parts.Spells (p : Parts) (text : List Char) : Prop where
  text_eq : text = p.location ++ mark p.severity ++ p.rest
  first : ∀ before after, text = before ++ mark p.severity ++ after →
    p.location.length ≤ before.length
  no_error : p.severity = .warning → ¬ mark .error <:+: text

def EndPiece (text piece : List Char) : Prop :=
  ':' ∉ piece ∧ (text = piece ∨ ∃ before, text = before ++ ':' :: piece)

/-- the line is the value of the end piece of the head, if that is a numeral, and otherwise the value
of the numeral after it. -/
structure Parts.Says (p : Parts) (i : Issue) : Prop where
  line : ∃ n piece, Text.Numeral p.numeral n ∧ EndPiece p.head piece ∧
    (Text.Numeral piece i.line ∨ (∀ k, ¬ Text.Numeral piece k) ∧ i.line = n)
  severity : i.severity = p.severity
  message : Text.Trimmed p.rest i.message.toList

/-! ## the mark -/

theorem cut_eq_error_iff {text location rest : List Char} :
    cut text = some (location, .error, rest) ↔
      Text.cutAt (mark .error) text = some (location, rest) := by
  constructor
  · intro h
    unfold cut at h
    cases he : Text.cutAt (mark .error) text with
    | some p =>
      rw [he] at h
      cases h
      rfl
    | none =>
      rw [he] at h
      obtain ⟨p, -, hp⟩ := Option.map_eq_some_iff.1 h
      cases hp
  · exact cut_of_error

theorem cut_eq_warning_iff {text location rest : List Char} :
    cut text = some (location, .warning, rest) ↔
      Text.cutAt (mark .error) text = none ∧
        Text.cutAt (mark .warning) text = some (location, rest) := by
  constructor
  · intro h
    unfold cut at h
    cases he : Text.cutAt (mark .error) text with
    | some p =>
      rw [he] at h
      cases h
    | none =>
      rw [he] at h
      obtain ⟨p, hw, hp⟩ := Option.map_eq_some_iff.1 h
      cases hp
      exact ⟨rfl, hw⟩
  · exact fun h => cut_of_warning h.1 h.2

theorem cut_eq_some_iff {p : Parts} {text : List Char} :
    cut text = some (p.location, p.severity, p.rest) ↔ p.Spells text := by
  obtain ⟨head, numeral, severity, rest⟩ := p
  cases severity with
  | error =>
    rw [cut_eq_error_iff, Text.cutAt_eq_some_iff]
    exact ⟨fun ⟨htext, hfirst⟩ => ⟨htext, hfirst, nofun⟩, fun h => ⟨h.text_eq, h.first⟩⟩
  | warning =>
    rw [cut_eq_warning_iff, Text.cutAt_eq_none, Text.cutAt_eq_some_iff]
    exact ⟨fun ⟨herror, htext, hfirst⟩ => ⟨htext, hfirst, fun _ => herror⟩,
      fun h => ⟨h.no_error rfl, h.text_eq, h.first⟩⟩

/-! ## the location -/

theorem endPiece_iff {text piece : List Char} : EndPiece text piece ↔ lastPiece text = piece := by
  constructor
  · rintro ⟨hpiece, rfl | ⟨before, rfl⟩⟩
    · rw [lastPiece, Text.cutLast_eq_none.2 hpiece]
    · exact lastPiece_append before hpiece
  · unfold lastPiece
    cases h : Text.cutLast ':' text with
    | some p =>
      rintro rfl
      obtain ⟨before, piece⟩ := p
      obtain ⟨htext, hpiece⟩ := Text.cutLast_eq_some.1 h
      exact ⟨hpiece, .inr ⟨before, htext⟩⟩
    | none =>
      rintro rfl
      exact ⟨Text.cutLast_eq_none.1 h, .inl rfl⟩

theorem getD_u32?_eq_iff {piece : List Char} {n line : UInt32} :
    (Text.u32? piece).getD n = line ↔
      Text.Numeral piece line ∨ (∀ k, ¬ Text.Numeral piece k) ∧ line = n := by
  rw [← Text.u32?_eq_some_iff, ← Text.u32?_eq_none_iff]
  cases Text.u32? piece with
  | some k => simp
  | none => simp [eq_comm]

theorem line?_eq_some_iff {location : List Char} {line : UInt32} :
    line? location = some line ↔
      ∃ head numeral n piece, location = head ++ ':' :: numeral ∧ Text.Numeral numeral n ∧
        EndPiece head piece ∧
        (Text.Numeral piece line ∨ (∀ k, ¬ Text.Numeral piece k) ∧ line = n) := by
  constructor
  · intro h
    rw [line?, Option.bind_eq_bind, Option.bind_eq_some_iff] at h
    obtain ⟨⟨head, numeral⟩, hcut, h⟩ := h
    obtain ⟨n, hn, hline⟩ := Option.bind_eq_some_iff.1 h
    have hpiece := endPiece_iff.2 (Eq.refl (lastPiece head))
    exact ⟨head, numeral, n, lastPiece head, (Text.cutLast_eq_some.1 hcut).1,
      Text.u32?_eq_some_iff.1 hn, hpiece, getD_u32?_eq_iff.1 (Option.some.inj hline)⟩
  · rintro ⟨head, numeral, n, piece, rfl, hn, hpiece, hline⟩
    rw [line?_append head hn.not_mem_colon (Text.u32?_eq_some_iff.2 hn), endPiece_iff.1 hpiece,
      getD_u32?_eq_iff.2 hline]

/-! ## the line -/

theorem parse?_of_parts {p : Parts} {text : List Char} {i : Issue} (ht : p.Spells text)
    (hi : p.Says i) : parse? text = some i := by
  obtain ⟨line, severity, message⟩ := i
  obtain ⟨⟨n, piece, hn, hpiece, hline⟩, rfl, hmessage⟩ := hi
  have hlocation : line? p.location = some line :=
    line?_eq_some_iff.2 ⟨p.head, p.numeral, n, piece, rfl, hn, hpiece, hline⟩
  have htrim : Text.trim p.rest = message.toList := Text.trim_eq_iff.2 hmessage
  rw [parse?_of_cut (cut_eq_some_iff.2 ht), hlocation, htrim, String.ofList_toList]
  rfl

theorem exists_parts {text : List Char} {i : Issue} (h : parse? text = some i) :
    ∃ p : Parts, p.Spells text ∧ p.Says i := by
  cases hcut : cut text with
  | none =>
    rw [parse?, hcut] at h
    cases h
  | some c =>
    obtain ⟨location, severity, rest⟩ := c
    rw [parse?_of_cut hcut] at h
    obtain ⟨line, hlocation, rfl⟩ := Option.map_eq_some_iff.1 h
    obtain ⟨head, numeral, n, piece, rfl, hn, hpiece, hline⟩ := line?_eq_some_iff.1 hlocation
    refine ⟨⟨head, numeral, severity, rest⟩, cut_eq_some_iff.1 hcut,
      ⟨n, piece, hn, hpiece, hline⟩, rfl, ?_⟩
    rw [String.toList_ofList]
    exact Text.trim_eq_iff.1 rfl

/-- a location ends with one numeral only, since that has no colon. -/
theorem Parts.ext_of_spells {p q : Parts} {text : List Char} {i j : Issue} (hp : p.Spells text)
    (hq : q.Spells text) (hi : p.Says i) (hj : q.Says j) : p = q := by
  have hcut := cut_eq_some_iff.2 hp
  rw [cut_eq_some_iff.2 hq, Option.some.injEq, Prod.mk.injEq, Prod.mk.injEq] at hcut
  obtain ⟨hlocation, hseverity, hrest⟩ := hcut
  obtain ⟨n, -, hn, -⟩ := hi.line
  obtain ⟨m, -, hm, -⟩ := hj.line
  have hpcut : Text.cutLast ':' p.location = some (p.head, p.numeral) :=
    Text.cutLast_eq_some.2 ⟨rfl, hn.not_mem_colon⟩
  have hqcut : Text.cutLast ':' q.location = some (q.head, q.numeral) :=
    Text.cutLast_eq_some.2 ⟨rfl, hm.not_mem_colon⟩
  rw [← hlocation, hqcut, Option.some.injEq, Prod.mk.injEq] at hpcut
  obtain ⟨hhead, hnumeral⟩ := hpcut
  cases p
  cases q
  simp_all

/-- **A line is read exactly by its grammar.** The issue of a line is the one that its parts say, if
it can be taken apart in the way the grammar tells, and otherwise the line has none. A line can be
taken apart in one way at most, whatever the issue. -/
theorem read_iff_grammar (text : List Char) :
    (∀ i, parse? text = some i ↔ ∃ p : Parts, p.Spells text ∧ p.Says i) ∧
    (parse? text = none ↔ ¬ ∃ (p : Parts) (i : Issue), p.Spells text ∧ p.Says i) ∧
    ∀ (p q : Parts) (i j : Issue), p.Spells text ∧ p.Says i → q.Spells text ∧ q.Says j →
      p = q ∧ i = j := by
  have hsome : ∀ i, parse? text = some i ↔ ∃ p : Parts, p.Spells text ∧ p.Says i := fun i =>
    ⟨exists_parts, fun ⟨p, ht, hi⟩ => parse?_of_parts ht hi⟩
  refine ⟨hsome, ?_, fun p q i j ⟨hp, hi⟩ ⟨hq, hj⟩ => ?_⟩
  · rw [Option.eq_none_iff_forall_ne_some]
    constructor
    · rintro h ⟨p, i, hpi⟩
      exact h i ((hsome i).2 ⟨p, hpi⟩)
    · intro h i hi
      obtain ⟨p, hpi⟩ := (hsome i).1 hi
      exact h ⟨p, i, hpi⟩
  · have hij : some i = some j := by
      rw [← parse?_of_parts hp hi, parse?_of_parts hq hj]
    exact ⟨Parts.ext_of_spells hp hq hi hj, Option.some.inj hij⟩

/-- an error about line 7 of a file on a drive; a colon stands in its path, and its message quotes
the mark. -/
def quotingError : Parts :=
  ⟨"C:\\form.ui:+007".toList, "12".toList, .error, " bad: error: worse\r".toList⟩

theorem quotingError_is_read :
    let text := "C:\\form.ui:+007:12: error:  bad: error: worse\r".toList
    let issue : Issue := ⟨7, .error, "bad: error: worse"⟩
    (quotingError.Spells text ∧ quotingError.Says issue) ∧ parse? text = some issue ∧
      ∀ q j, q.Spells text ∧ q.Says j → quotingError = q ∧ issue = j := by
  intro text issue
  have hline : Text.u32? "12".toList = some 12 ∧ Text.u32? "+007".toList = some 7 := by decide
  have hparts : quotingError.Spells text ∧ quotingError.Says issue := by
    refine ⟨cut_eq_some_iff.1 (by decide +kernel), ⟨12, "+007".toList, ?_, ?_, ?_⟩, rfl, ?_⟩
    · exact Text.u32?_eq_some_iff.1 hline.1
    · exact endPiece_iff.2 (by decide +kernel)
    · exact .inl (Text.u32?_eq_some_iff.1 hline.2)
    · exact Text.trim_eq_iff.1 (by decide +kernel)
  obtain ⟨hsome, -, hunique⟩ := read_iff_grammar text
  exact ⟨hparts, (hsome issue).2 ⟨quotingError, hparts⟩,
    fun q j hq => hunique quotingError q issue j hparts hq⟩

end Regen.Diagnostic
