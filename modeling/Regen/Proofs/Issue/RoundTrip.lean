import Regen.Issue.Diagnostic
import Regen.Proofs.Text.Encoding

/-!
# Diagnostic lines, written and read

A diagnostic is written as `path:line[:column]: severity: message` and read back. The path may have
colons, numerals and blanks, and the message whatever fits on a line.

Reading looks for the error mark in the whole line before it looks for the warning mark. So a
warning is lost if its message, with the blank in front of it, has an error mark of its own: the
line is cut there, and what stands before is read as a location, mostly in vain.

* `Diagnostic.Line`            a diagnostic as it is written;
* `Diagnostic.Line.written`    its bytes;
* `Diagnostic.Line.issue`      the issue it is about.
-/

namespace Regen

def Severity.word : Severity → List Char
  | .error => "error".toList
  | .warning => "warning".toList

namespace Diagnostic

/-- a diagnostic as it is written on one line. Its path has no mark. Without a column, what follows
the path's last colon is no numeral, or the line number would be read as the column. -/
structure Line where
  path : List Char
  line : UInt32
  column : Option UInt32
  severity : Severity
  message : Bytes
  path_newline : '\n' ∉ path
  path_error : ¬ ": error: ".toList <:+: path
  path_warning : ¬ ": warning: ".toList <:+: path
  path_numeral : column = none → Text.u32? (lastPiece path) = none
  message_newline : 10 ∉ message

/-! ## marks -/

theorem mark_eq (s : Severity) : mark s = ": ".toList ++ (s.word ++ ": ".toList) := by
  cases s <;> rfl

theorem digit_not_mem_mark (s : Severity) (n : Nat) : ∀ c ∈ Text.digits n, c ∉ mark s := by
  intro c hc hm
  have hmark : (mark s).all (fun c => !Text.isDigit c) = true := by
    cases s <;> rfl
  have hdigit := List.all_eq_true.1 hmark c hm
  rw [Text.isDigit_of_mem_digits hc] at hdigit
  cases hdigit

/-! ## the line -/

namespace Line

def position (l : Line) : List Char := (l.column.map fun n => ':' :: Text.digits n.toNat).getD []

/-- `path:line[:column]`. -/
def location (l : Line) : List Char := l.path ++ [':'] ++ Text.digits l.line.toNat ++ l.position

def written (l : Line) : Bytes :=
  Utf8.encode (l.location ++ ": ".toList ++ l.severity.word ++ ": ".toList) ++ l.message

def issue (l : Line) : Issue := ⟨l.line, l.severity, String.ofList (Text.trim (Utf8.lossy l.message))⟩

theorem lossy_written (l : Line) :
    Utf8.lossy l.written = l.location ++ (mark l.severity ++ Utf8.lossy l.message) := by
  rw [written, Utf8.lossy_encode_append, mark_eq]
  simp only [List.append_assoc]

theorem newline_not_mem_location (l : Line) : '\n' ∉ l.location := by
  have hdigits := Text.not_mem_digits (c := '\n') rfl
  have hcolumn : '\n' ∉ l.position := by
    unfold position
    cases l.column with
    | none => simp
    | some n => simpa using hdigits n.toNat
  simp [location, l.path_newline, hdigits, hcolumn]

theorem newline_not_mem_written (l : Line) : '\n' ∉ Utf8.lossy l.written := by
  have hmark : '\n' ∉ mark l.severity := by
    cases l.severity <;> decide
  rw [lossy_written, List.mem_append, List.mem_append, not_or, not_or, Utf8.newline_mem_lossy]
  exact ⟨l.newline_not_mem_location, hmark, l.message_newline⟩

theorem report_eq (l : Line) : report l.written =
    (parse? (l.location ++ (mark l.severity ++ Utf8.lossy l.message))).toList := by
  have hne : Utf8.lossy l.written ≠ [] := by
    simp [lossy_written, location]
  rw [report, Text.lines_of_not_mem l.newline_not_mem_written hne, lossy_written]
  cases h : parse? (l.location ++ (mark l.severity ++ Utf8.lossy l.message)) <;> simp [h]

/-! ## the location -/

theorem line?_location (l : Line) : line? l.location = some l.line := by
  have hcolon := Text.not_mem_digits (c := ':') rfl
  cases h : l.column with
  | none =>
    have hl : l.location = l.path ++ ':' :: Text.digits l.line.toNat := by
      simp [location, position, h]
    rw [hl, line?_append _ (hcolon _) (Text.u32?_digits _), l.path_numeral h]
    rfl
  | some n =>
    have hl : l.location = (l.path ++ ':' :: Text.digits l.line.toNat) ++ ':' :: Text.digits n.toNat := by
      simp [location, position, h]
    rw [hl, line?_append _ (hcolon _) (Text.u32?_digits _), lastPiece_append _ (hcolon _),
      Text.u32?_digits]
    rfl

theorem cutAt_path (l : Line) (s : Severity) : Text.cutAt (mark s) (l.path ++ [':']) = none := by
  have hpath : ¬ mark s <:+: l.path := by
    cases s with
    | error => exact l.path_error
    | warning => exact l.path_warning
  have hlast : (mark s).getLast? = some ' ' := by
    cases s <;> rfl
  rw [Text.cutAt_eq_none, List.infix_concat_iff, not_or]
  refine ⟨?_, hpath⟩
  rintro ⟨t, ht⟩
  have hcolon := congrArg List.getLast? ht
  simp [hlast] at hcolon

theorem cutAt_location (l : Line) (s : Severity) (rest : List Char) :
    Text.cutAt (mark s) (l.location ++ rest) =
      (Text.cutAt (mark s) rest).map fun p => (l.location ++ p.1, p.2) := by
  have hline : Text.cutAt (mark s)
        (l.path ++ [':'] ++ (Text.digits l.line.toNat ++ (l.position ++ rest))) =
      (Text.cutAt (mark s) (l.position ++ rest)).map fun p =>
        (l.path ++ [':'] ++ (Text.digits l.line.toNat ++ p.1), p.2) :=
    Text.cutAt_append_append (digit_not_mem_mark s _) (Text.digits_ne_nil _) (l.cutAt_path s) _
  have hcolumn : Text.cutAt (mark s) (l.position ++ rest) =
      (Text.cutAt (mark s) rest).map fun p => (l.position ++ p.1, p.2) := by
    unfold position
    cases l.column with
    | none => simp
    | some n =>
      have hcolon : Text.cutAt (mark s) [':'] = none := by
        cases s <;> rfl
      exact Text.cutAt_append_append (digit_not_mem_mark s _) (Text.digits_ne_nil _) hcolon rest
  simp only [location, List.append_assoc] at hline ⊢
  rw [hline, hcolumn, Option.map_map]
  rfl

/-! ## the cut -/

theorem cutAt_own (l : Line) (s : Severity) (rest : List Char) :
    Text.cutAt (mark s) (l.location ++ (mark s ++ rest)) = some (l.location, rest) := by
  rw [cutAt_location, Text.cutAt_append]
  simp

theorem parse?_error (l : Line) (rest : List Char) : parse? (l.location ++ (mark .error ++ rest)) =
    some ⟨l.line, .error, String.ofList (Text.trim rest)⟩ := by
  rw [parse?_of_cut (cut_of_error (l.cutAt_own .error rest)), line?_location]
  rfl

theorem cutAt_warning (l : Line) (rest : List Char) :
    Text.cutAt (mark .error) (l.location ++ (mark .warning ++ rest)) =
      (Text.cutAt (mark .error) (": ".toList ++ rest)).map fun p =>
        (l.location ++ ": warning".toList ++ p.1, p.2) := by
  have hword : Text.cutAt (mark .error) (": warnin".toList ++ 'g' :: (": ".toList ++ rest)) =
      (Text.cutAt (mark .error) (": ".toList ++ rest)).map fun p =>
        (": warnin".toList ++ 'g' :: p.1, p.2) :=
    Text.cutAt_append_cons (by decide) rfl _
  have hmark : mark .warning ++ rest = ": warnin".toList ++ 'g' :: (": ".toList ++ rest) := rfl
  rw [cutAt_location, hmark, hword, Option.map_map]
  simp only [List.append_assoc]
  rfl

theorem parse?_warning (l : Line) {rest : List Char}
    (h : Text.cutAt (mark .error) (": ".toList ++ rest) = none) :
    parse? (l.location ++ (mark .warning ++ rest)) =
      some ⟨l.line, .warning, String.ofList (Text.trim rest)⟩ := by
  have hnone : Text.cutAt (mark .error) (l.location ++ (mark .warning ++ rest)) = none := by
    rw [cutAt_warning, h]
    rfl
  rw [parse?_of_cut (cut_of_warning hnone (l.cutAt_own .warning rest)), line?_location]
  rfl

theorem parse?_masked (l : Line) {rest before after : List Char}
    (h : Text.cutAt (mark .error) (": ".toList ++ rest) = some (before, after)) :
    parse? (l.location ++ (mark .warning ++ rest)) =
      (line? (l.location ++ ": warning".toList ++ before)).map fun n =>
        ⟨n, .error, String.ofList (Text.trim after)⟩ := by
  have hcut := l.cutAt_warning rest
  rw [h] at hcut
  exact parse?_of_cut (cut_of_error hcut)

end Line

/-! ## what is read -/

theorem report_error {l : Line} (h : l.severity = .error) : report l.written = [l.issue] := by
  rw [l.report_eq, h, l.parse?_error, Line.issue, h]
  rfl

theorem report_warning {l : Line} (h : l.severity = .warning)
    (hmessage : Text.cutAt (mark .error) (": ".toList ++ Utf8.lossy l.message) = none) :
    report l.written = [l.issue] := by
  rw [l.report_eq, h, l.parse?_warning hmessage, Line.issue, h]
  rfl

theorem report_masked {l : Line} (h : l.severity = .warning) {before after : List Char}
    (hmessage : Text.cutAt (mark .error) (": ".toList ++ Utf8.lossy l.message) = some (before, after)) :
    report l.written = ((line? (l.location ++ ": warning".toList ++ before)).map fun n =>
      (⟨n, .error, String.ofList (Text.trim after)⟩ : Issue)).toList := by
  rw [l.report_eq, h, l.parse?_masked hmessage]

/-- **Reading undoes writing**: a diagnostic yields the one issue it is about, unless it is a warning
whose message has an error mark, counting the colon and the blank before the message. Such a warning
is read as an error or not at all: what stands before that mark is taken for the location, the word
`warning` with it. A message that is a text is reported as that text, trimmed. -/
theorem report_written (l : Line) :
    (report l.written = [l.issue] ↔
      (l.severity = .warning → ¬ ": error: ".toList <:+: ": ".toList ++ Utf8.lossy l.message)) ∧
    (∀ before after, l.severity = .warning →
      Text.cutAt ": error: ".toList (": ".toList ++ Utf8.lossy l.message) = some (before, after) →
      report l.written = ((line? (l.location ++ ": warning".toList ++ before)).map fun n =>
        (⟨n, .error, String.ofList (Text.trim after)⟩ : Issue)).toList) ∧
    ∀ text, l.message = Utf8.encode text → l.issue.message = String.ofList (Text.trim text) := by
  refine ⟨⟨?_, ?_⟩, fun before after h hmessage => report_masked h hmessage, ?_⟩
  · intro h hwarning
    rw [← Text.cutAt_eq_none, ← Option.not_isSome_iff_eq_none]
    intro hsome
    obtain ⟨⟨before, after⟩, hmessage⟩ := Option.isSome_iff_exists.1 hsome
    rw [report_masked hwarning hmessage] at h
    generalize line? (l.location ++ ": warning".toList ++ before) = n at h
    cases n with
    | none => cases h
    | some n => simp [Line.issue, hwarning] at h
  · intro h
    cases hseverity : l.severity with
    | error => exact report_error hseverity
    | warning => exact report_warning hseverity (Text.cutAt_eq_none.2 (h hseverity))
  · intro text h
    rw [Line.issue, h, Utf8.lossy_encode]

/-- a warning about a file on a drive, which says where the reason is. -/
def pointing : Line where
  path := "C:\\src\\form.ui".toList
  line := 7
  column := none
  severity := .warning
  message := Utf8.encode "unused, see form.h:3: warning: \r".toList
  path_newline := by decide
  path_error := Text.cutAt_eq_none.1 rfl
  path_warning := Text.cutAt_eq_none.1 rfl
  path_numeral := fun _ => rfl
  message_newline := by decide

theorem pointing_is_read :
    report pointing.written = [⟨7, .warning, "unused, see form.h:3: warning:"⟩] := by
  have hmessage : ¬ ": error: ".toList <:+: ": ".toList ++ Utf8.lossy pointing.message :=
    Text.cutAt_eq_none.1 (by decide +kernel)
  rw [(report_written pointing).1.2 fun _ => hmessage]
  decide +kernel

/-- a warning that quotes an error mark. -/
def quoting : Line where
  path := "form.ui".toList
  line := 3
  column := none
  severity := .warning
  message := Utf8.encode "deprecated: error: soon".toList
  path_newline := by decide
  path_error := Text.cutAt_eq_none.1 rfl
  path_warning := Text.cutAt_eq_none.1 rfl
  path_numeral := fun _ => rfl
  message_newline := by decide

/-- reading does not undo writing: a warning that quotes an error mark yields nothing. -/
theorem quoting_is_lost :
    quoting.written = Utf8.encode "form.ui:3: warning: deprecated: error: soon".toList ∧
      report quoting.written = [] ∧ ¬ ∀ l : Line, report l.written = [l.issue] := by
  have hlost : report quoting.written = [] := by decide +kernel
  refine ⟨by decide +kernel, hlost, fun h => ?_⟩
  rw [h quoting] at hlost
  cases hlost

end Diagnostic
end Regen
