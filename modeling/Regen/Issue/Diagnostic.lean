import Regen.Issue
import Regen.Text.Blank
import Regen.Text.Cut
import Regen.Text.Numeral
import Regen.Text.Utf8

/-!
# Diagnostic lines

Generators report issues on their error stream, one to a line:

    path:line[:column]: error|warning: message

The first `: error: ` of the line separates the location from the message; only a line without
one is searched for `: warning: `. The location ends with a numeral. If the piece before it is a
numeral too, that piece is the line and the last one the column; otherwise the last one is the
line. Any other line reports nothing.

* `Diagnostic.line?`     the line number at the end of a location;
* `Diagnostic.parse?`    the issue of one line of text;
* `Diagnostic.report`    the issues of a whole error stream, in line order.
-/

namespace Regen.Diagnostic

/-- the text between the location and the message. -/
def mark : Severity → List Char
  | .error => ": error: ".toList
  | .warning => ": warning: ".toList

/-- the parts of a line at its mark: an error mark anywhere comes before every warning mark. -/
def cut (text : List Char) : Option (List Char × Severity × List Char) :=
  match Text.cutAt (mark .error) text with
  | some (location, rest) => some (location, .error, rest)
  | none => (Text.cutAt (mark .warning) text).map fun p => (p.1, .warning, p.2)

/-- the last of the pieces between colons; the whole text if it has no colon. -/
def lastPiece (text : List Char) : List Char :=
  match Text.cutLast ':' text with
  | some (_, piece) => piece
  | none => text

def line? (location : List Char) : Option UInt32 := do
  let (head, last) ← Text.cutLast ':' location
  let n ← Text.u32? last
  return (Text.u32? (lastPiece head)).getD n

def parse? (text : List Char) : Option Issue := do
  let (location, severity, rest) ← cut text
  let line ← line? location
  return ⟨line, severity, String.ofList (Text.trim rest)⟩

def report (stderr : Bytes) : List Issue := (Text.lines (Utf8.lossy stderr)).filterMap parse?

/-! ## one line -/

theorem lastPiece_append (head : List Char) {last : List Char} (h : ':' ∉ last) :
    lastPiece (head ++ ':' :: last) = last := by
  rw [lastPiece, Text.cutLast_eq_some.2 ⟨rfl, h⟩]

theorem line?_append (head : List Char) {last : List Char} {n : UInt32} (h : ':' ∉ last)
    (hn : Text.u32? last = some n) :
    line? (head ++ ':' :: last) = some ((Text.u32? (lastPiece head)).getD n) := by
  rw [line?, Text.cutLast_eq_some.2 ⟨rfl, h⟩]
  simp [hn]

theorem parse?_of_cut {text location rest : List Char} {severity : Severity}
    (h : cut text = some (location, severity, rest)) :
    parse? text = (line? location).map fun n => ⟨n, severity, String.ofList (Text.trim rest)⟩ := by
  simp only [parse?, h, Option.bind_eq_bind, Option.bind_some]
  cases line? location <;> rfl

theorem cut_of_error {text location rest : List Char}
    (h : Text.cutAt (mark .error) text = some (location, rest)) :
    cut text = some (location, .error, rest) := by
  rw [cut, h]

theorem cut_of_warning {text location rest : List Char} (hnone : Text.cutAt (mark .error) text = none)
    (h : Text.cutAt (mark .warning) text = some (location, rest)) :
    cut text = some (location, .warning, rest) := by
  rw [cut, hnone, h]
  rfl

end Regen.Diagnostic
