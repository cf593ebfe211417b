/-!
# Issues and annotations

A generator reports *issues*, each about one line of the source. An editor shows them as
whole-line *annotations*. Issue lines count from one and annotation lines from zero; an issue
about line zero, which names no line, is shown on the first.

* `Issue`              a diagnostic: its line, severity and message;
* `Annotation`         a highlighted line of an editor;
* `Issue.annotate`     the annotation of an issue.
-/

namespace Regen

inductive Severity where
  | warning
  | error
  deriving DecidableEq, Repr

/-- a diagnostic of a generator run; lines count from one. -/
structure Issue where
  line : UInt32
  severity : Severity
  message : String
  deriving DecidableEq, Repr

/-- a highlighted line of an editor; lines count from zero. -/
structure Annotation where
  line : UInt32
  severity : Severity
  tooltip : String
  deriving DecidableEq, Repr

namespace Issue

/-- the annotation that shows an issue; line zero is shown on the first line. -/
def annotate (i : Issue) : Annotation :=
  ⟨if i.line = 0 then 0 else i.line - 1, i.severity, i.message⟩

/-- the annotations of a list of issues, one for each and in order. -/
def annotateAll (is : List Issue) : List Annotation := is.map annotate

/-- apart from line zero, the annotation's line is one less than the issue's. -/
theorem annotate_line_toNat (i : Issue) : i.annotate.line.toNat = i.line.toNat - 1 := by
  unfold annotate
  by_cases h : i.line = 0
  · simp [h]
  · have h1 : (1 : UInt32) ≤ i.line := by
      rw [UInt32.le_iff_toNat_le]
      have : i.line.toNat ≠ 0 := fun hz => h (UInt32.toNat_inj.1 (by simpa using hz))
      simp
      omega
    simp [h, UInt32.toNat_sub_of_le _ _ h1]

end Issue
end Regen
