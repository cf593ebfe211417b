import Mathlib.Data.List.Basic
import Regen.Issue.Diagnostic
import Regen.Proofs.Text.Encoding

/-!
# Diagnostics line by line

The bytes of an error stream are first read as a text, and the text is then cut into lines. It could
as well be cut first: every line has its own say, whatever bytes stand on the others. Two things hide
the cut. A character that a line feed breaks off is replaced, as it is at the end of the bytes. And a
carriage return belongs to the line end before a line feed but to the line at the end of the text;
there it stands after the message, and is trimmed.

Main statements: `parse?_append_return`, `report_append_newline` and `report_line_by_line`.
-/

namespace Regen.Diagnostic

/-! ## a carriage return after a line -/

theorem return_not_mem_mark (s : Severity) : '\r' ∉ mark s := by
  cases s <;> decide

theorem cutAt_append_return (s : Severity) (cs : List Char) :
    Text.cutAt (mark s) (cs ++ ['\r']) =
      (Text.cutAt (mark s) cs).map fun p => (p.1, p.2 ++ ['\r']) := by
  cases h : Text.cutAt (mark s) cs with
  | some p => exact Text.cutAt_append_right h ['\r']
  | none =>
    have hnil : Text.cutAt (mark s) [] = none := by
      cases s <;> rfl
    rw [Text.cutAt_append_cons (return_not_mem_mark s) h, hnil]
    rfl

theorem cut_append_return (cs : List Char) :
    cut (cs ++ ['\r']) = (cut cs).map fun p => (p.1, p.2.1, p.2.2 ++ ['\r']) := by
  unfold cut
  rw [cutAt_append_return, cutAt_append_return]
  cases Text.cutAt (mark .error) cs with
  | some p => rfl
  | none =>
    simp only [Option.map_none, Option.map_map]
    rfl

/-- a carriage return after a line is trimmed with the message, or the line says nothing anyway. -/
theorem parse?_append_return (cs : List Char) : parse? (cs ++ ['\r']) = parse? cs := by
  have hcut := cut_append_return cs
  cases h : cut cs with
  | none =>
    rw [h] at hcut
    rw [parse?, parse?, hcut, h]
    rfl
  | some p =>
    obtain ⟨location, severity, rest⟩ := p
    have htrim : Text.trim (rest ++ ['\r']) = Text.trim rest := by
      apply Text.trim_append
      intro c hc
      obtain rfl := List.mem_singleton.1 hc
      rfl
    rw [h] at hcut
    rw [parse?_of_cut hcut, parse?_of_cut h, htrim]

/-! ## lines -/

theorem parse?_closeLine (cur : List Char) : parse? (Text.closeLine cur) = parse? cur.reverse := by
  unfold Text.closeLine
  split
  next cs => rw [List.reverse_cons, parse?_append_return]
  next => rfl

theorem filterMap_closedLines (cur cs : List Char) :
    (Text.closedLines cur cs).filterMap parse? = (Text.linesFrom cur cs).filterMap parse? := by
  induction cs generalizing cur with
  | nil =>
    show [Text.closeLine cur].filterMap parse? = (if cur.isEmpty then [] else _).filterMap parse?
    cases cur with
    | nil => rfl
    | cons c cur =>
      show _ = [(c :: cur).reverse].filterMap parse?
      rw [List.filterMap_cons, parse?_closeLine, ← List.filterMap_cons]
  | cons c cs ih =>
    rw [Text.closedLines, Text.linesFrom]
    by_cases hc : c = '\n'
    · rw [if_pos hc, if_pos hc, List.filterMap_cons, List.filterMap_cons, ih]
    · rw [if_neg hc, if_neg hc, ih]

theorem report_append_newline (a b : Bytes) : report (a ++ 10 :: b) = report a ++ report b := by
  unfold report
  rw [Utf8.lossy_append_newline, Text.lines_append_newline, List.filterMap_append,
    filterMap_closedLines]
  rfl

theorem report_of_not_mem {line : Bytes} (h : 10 ∉ line) :
    report line = (parse? (Utf8.lossy line)).toList := by
  have hline : '\n' ∉ Utf8.lossy line := fun hn => h (Utf8.newline_mem_lossy.1 hn)
  unfold report
  by_cases hnil : Utf8.lossy line = []
  · rw [hnil]
    rfl
  · rw [Text.lines_of_not_mem hline hnil, List.filterMap_cons]
    cases parse? (Utf8.lossy line) <;> rfl

theorem report_join (lines : List Bytes) : report (Bytes.join 10 lines) = lines.flatMap report := by
  induction lines with
  | nil => rfl
  | cons l ls ih =>
    cases ls with
    | nil => exact (List.append_nil _).symm
    | cons m ls =>
      show report (l ++ 10 :: Bytes.join 10 (m :: ls)) = _
      rw [report_append_newline, ih, ← List.flatMap_cons]

/-- **An error stream is reported line by line**, whatever its bytes. A line feed cuts what is
reported in two. Each line, read as a text by itself, has at most one issue, and these make up the
report, in the order of the lines. What one line holds makes no difference to the others. -/
theorem report_line_by_line :
    (∀ a b : Bytes, report (a ++ 10 :: b) = report a ++ report b) ∧
    (∀ stderr, report stderr =
      (Bytes.segments 10 stderr).filterMap fun line => parse? (Utf8.lossy line)) ∧
    ∀ a line b : Bytes, report (a ++ 10 :: (line ++ 10 :: b)) = report a ++ (report line ++ report b) := by
  refine ⟨report_append_newline, fun stderr => ?_, fun a line b => ?_⟩
  · have hlines : ∀ line ∈ Bytes.segments 10 stderr,
        report line = (parse? (Utf8.lossy line)).toList := fun line hl =>
      report_of_not_mem (Bytes.segments_no_sep 10 stderr line hl)
    calc report stderr
        = report (Bytes.join 10 (Bytes.segments 10 stderr)) := by rw [Bytes.join_segments]
      _ = (Bytes.segments 10 stderr).flatMap report := report_join _
      _ = (Bytes.segments 10 stderr).flatMap fun line => (parse? (Utf8.lossy line)).toList :=
          List.flatMap_congr hlines
      _ = _ := (List.filterMap_eq_flatMap_toList _ _).symm
  · rw [report_append_newline, report_append_newline]

/-- the first line ends with a carriage return and a line feed, the second breaks a character off. -/
example : report (Utf8.encode "a:1: error: one\r\na:2: error: tw".toList ++ [0xE2, 0x82, 10] ++
      Utf8.encode "a:3: warning: three\r".toList) =
    [⟨1, .error, "one"⟩, ⟨2, .error, "tw\uFFFD"⟩, ⟨3, .warning, "three"⟩] := by decide +kernel

end Regen.Diagnostic
