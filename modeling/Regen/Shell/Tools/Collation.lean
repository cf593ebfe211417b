import Regen.Decimal.Arithmetic
import Regen.Shell.Tools.Versions

/-!
# The order of texts

Texts are compared by their bytes, by the numbers or names of months that they start with, or as
versions. Letters, which are those of options, say how.

* `Tools.Manner`         how texts are compared;
* `Tools.compareTexts`   the order of two texts in a manner.
-/

namespace Regen.Shell.Tools

abbrev Manner := Chars

def isFieldBlank (c : Char) : Bool := c == ' ' || c == '\t' || c == '\n'

/-! ## numbers -/

/-- a decimal number at the start of a text, as its sign, the digits before the point and those after it. -/
def decimalAt (cs : Chars) : Bool × Chars × Chars :=
  let cs := cs.dropWhile isFieldBlank
  let (negative, cs) := match cs with
    | '-' :: rest => (true, rest)
    | _ => (false, cs)
  let whole := cs.takeWhile Char.isDigit
  let fraction := match cs.drop whole.length with
    | '.' :: rest => rest.takeWhile Char.isDigit
    | _ => []
  (negative, whole, fraction)

def compareDecimals (a b : Chars) : Ordering :=
  let (p, m, f) := decimalAt a
  let (q, n, g) := decimalAt b
  let places := max f.length g.length
  let scaled (negative : Bool) (whole fraction : Chars) : Int :=
    let digits := fraction ++ List.replicate (places - fraction.length) '0'
    let n : Nat := Text.decimalFrom (Text.decimal whole) digits
    if negative then -n else n
  compare (scaled p m f) (scaled q n g)

/-- how many steps of a thousand the letter behind a number stands for; zero has none. -/
def scaleOf (cs : Chars) : Int :=
  let (negative, whole, fraction) := decimalAt cs
  let cs := cs.dropWhile isFieldBlank
  let cs := (if negative then cs.drop 1 else cs).drop whole.length
  let cs := if cs.head? = some '.' then cs.drop (fraction.length + 1) else cs
  let n : Nat := (cs.head?.bind fun c => ("KkMGTPEZYRQ".toList.zip [1, 1, 2, 3, 4, 5, 6, 7, 8, 9, 10]).lookup c).getD 0
  if (whole ++ fraction).all (· == '0') then 0 else if negative then -n else n

/-- the order of the numbers of any form that two texts start with; texts without one come first. -/
def compareReals (a b : Chars) : Ordering :=
  match Double.start? .extended a, Double.start? .extended b with
  | none, none => .eq
  | none, some _ => .lt
  | some _, none => .gt
  | some x, some y => Double.order x.value y.value

/-! ## other orders -/

/-- the month whose name a text starts with, counted from one; zero, if there is none. -/
def monthAt (cs : Chars) : Nat :=
  let name := String.ofList (((cs.dropWhile isFieldBlank).take 3).map Char.toUpper)
  let names := ["JAN", "FEB", "MAR", "APR", "MAY", "JUN", "JUL", "AUG", "SEP", "OCT", "NOV", "DEC"]
  if names.contains name then names.idxOf name + 1 else 0

def compareBytes : Chars → Chars → Ordering
  | [], [] => .eq
  | [], _ :: _ => .lt
  | _ :: _, [] => .gt
  | a :: as, b :: bs => if a = b then compareBytes as bs else compare a.toNat b.toNat

/-- a text without the characters that a manner passes over, and in capitals if case does not count. -/
def viewOf (manner : Manner) (cs : Chars) : Chars :=
  let cs :=
    if manner.contains 'd' then cs.filter fun c => isFieldBlank c || c.isAlphanum
    else if manner.contains 'i' then cs.filter fun c => ' ' ≤ c && c ≤ '~'
    else cs
  if manner.contains 'f' then cs.map Char.toUpper else cs

def compareTexts (manner : Manner) (a b : Chars) : Ordering :=
  let (a, b) := (viewOf manner a, viewOf manner b)
  if manner.contains 'n' then compareDecimals a b
  else if manner.contains 'g' then compareReals a b
  else if manner.contains 'h' then (compare (scaleOf a) (scaleOf b)).then (compareDecimals a b)
  else if manner.contains 'M' then compare (monthAt a) (monthAt b)
  else if manner.contains 'V' then compareVersions a b
  else compareBytes a b

/-- the letters of a manner that asks for two orders at once; none if it does not. -/
def conflictOf (manner : Manner) : Option Chars :=
  let has (c : Char) : Bool := manner.contains c
  let kinds := ["n", "g", "h", "M", "Vdi"].countP fun k => k.toList.any has
  if 1 < kinds then some ("dfghiMnV".toList.filter fun c => has c && !(c == 'i' && has 'd')) else none

end Regen.Shell.Tools
