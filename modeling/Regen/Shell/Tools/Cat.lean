import Regen.Shell.Tools.Basic

/-!
# Files shown one after the other

* `Tools.Layout`   how `cat` shows text: whether it numbers lines, and which characters it spells out;
* `Tools.Rows`     lines as it shows them.
-/

namespace Regen.Shell.Tools

structure Layout where
  numbers : Bool
  filled : Bool
  squeezes : Bool
  ends : Bool
  tabs : Bool
  controls : Bool

def catOptions : List Known :=
  switches [('b', "number-nonblank"), ('n', "number"), ('s', "squeeze-blank"), ('v', "show-nonprinting"),
    ('E', "show-ends"), ('T', "show-tabs"), ('A', "show-all"), ('e', ""), ('t', ""), ('u', "")]

def Layout.ofLetters (cs : Chars) : Layout :=
  let any (s : String) : Bool := s.toList.any cs.contains
  ⟨any "nb", any "b", any "s", any "AeE", any "AtT", any "Aetv"⟩

def Layout.char (s : Layout) (c : Char) : Chars :=
  let n := c.toNat
  let low (n : Nat) : Chars :=
    if n < 32 then ['^', Char.ofNat (n + 64)] else if n = 127 then ['^', '?'] else [Char.ofNat n]
  if c = '\n' then (if s.ends then ['$', c] else [c])
  else if c = '\t' then (if s.tabs then ['^', 'I'] else [c])
  else if ¬ s.controls then [c]
  else if n < 128 then low n
  else 'M' :: '-' :: low (n - 128)

/-- lines as `cat` shows them, the last first, their number so far, and how many empty ones came last;
the next text goes on in an unfinished line. -/
structure Rows where
  lines : List Chars
  number : Nat
  blank : Nat
  goesOn : Bool

def Layout.line (s : Layout) (r : Rows) (l : Chars) : Rows :=
  let isEmpty := l == ['\n'] && !r.goesOn
  if s.squeezes ∧ isEmpty ∧ 0 < r.blank then r
  else
    let counts := s.numbers && !r.goesOn && !(s.filled && isEmpty)
    let number := if counts then r.number + 1 else r.number
    let front := if counts then padded 6 number ++ ['\t'] else []
    { lines := (front ++ l.flatMap s.char) :: r.lines
      number := number
      blank := if isEmpty then r.blank + 1 else 0
      goesOn := l.getLast? ≠ some '\n' }

end Regen.Shell.Tools
