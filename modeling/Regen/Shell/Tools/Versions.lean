import Regen.Shell.Syntax
import Regen.Text.Numeral

/-!
# The order of versions

Texts that differ in numbers are in the order of the numbers. Endings such as `.tar.gz` count only where
the rest does not decide.

* `Tools.compareStems`      the order of texts by their letters and numbers in turn;
* `Tools.compareVersions`   the order of texts with endings.
-/

namespace Regen.Shell.Tools

/-- the weight of the first character of a text among those that are no digits: a tilde comes before the
end, letters before other characters. -/
def versionWeight : Chars → Int
  | [] => -1
  | c :: _ =>
    if c.isDigit then 0 else if c.isAlpha then c.toNat else if c = '~' then -2 else (c.toNat : Int) + 256

/-- texts without what they have in common up to a number, or the order of the first characters that
differ. -/
def afterLetters : Nat → Chars → Chars → Ordering × Chars × Chars
  | 0, a, b => (.eq, a, b)
  | n + 1, a, b =>
    if a.head?.all Char.isDigit ∧ b.head?.all Char.isDigit then (.eq, a, b)
    else
      let o := compare (versionWeight a) (versionWeight b)
      if o ≠ .eq then (o, a, b) else afterLetters n (a.drop 1) (b.drop 1)

def compareStems : Nat → Chars → Chars → Ordering
  | 0, _, _ => .eq
  | n + 1, a, b =>
    if a.isEmpty ∧ b.isEmpty then .eq
    else
      let (o, a, b) := afterLetters (n + 1) a b
      let (p, q) := (a.takeWhile Char.isDigit, b.takeWhile Char.isDigit)
      (o.then (compare (Text.decimal p) (Text.decimal q))).then
        (compareStems n (a.drop p.length) (b.drop q.length))

/-- whether a text is made of endings: each a point, a letter and then letters and digits. -/
def isEnding : Chars → Bool
  | [] => true
  | '.' :: c :: cs =>
    (c.isAlpha || c == '~') && (isEnding (cs.dropWhile fun c => c.isAlphanum || c == '~'))
  | _ => false
termination_by cs => cs.length
decreasing_by
  have := (List.dropWhile_suffix (l := cs) fun c => c.isAlphanum || c == '~').length_le
  simp
  omega

/-- a text without its endings; its first character is none. -/
def stemOf : Chars → Chars
  | [] => []
  | c :: cs => if isEnding cs then [c] else c :: stemOf cs

/-- the order of texts with endings; those that start with a point come first. -/
def compareVersions (a b : Chars) : Ordering :=
  let rank (cs : Chars) : Nat :=
    if cs = [] then 0 else if cs = ['.'] then 1 else if cs = ['.', '.'] then 2 else if cs.head? = some '.' then 3 else 4
  let whole := compareStems (a.length + b.length + 1)
  if rank a = rank b ∧ 3 ≤ rank a then (whole (stemOf a) (stemOf b)).then (whole a b)
  else compare (rank a) (rank b)

end Regen.Shell.Tools
