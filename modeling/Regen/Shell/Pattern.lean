import Regen.Shell.Syntax
import Regen.Text.Classes

/-!
# Patterns

A star stands for any text, a question mark for any character, and brackets for one character of a
set. A character that is quoted, or stands behind a backslash, stands for itself.

* `Pattern.ofChars`      reads a pattern; each character says whether it was quoted;
* `Pattern.fits`         whether a text is of a pattern;
* `Pattern.rests`        what can be left of a text behind a start that is of a pattern;
* `Pattern.trimStart`, `Pattern.trimEnd`   a text without a start or an end of a pattern.
-/

namespace Regen.Shell

abbrev Marked := Char × Bool

namespace Pattern

inductive Item where
  | exactly (c : Char)
  | anyText
  | anyChar
  | oneOf (negated : Bool) (ranges : List (Char × Char))
  deriving DecidableEq

def active : Chars := "!*?[=~:/-]\\".toList

/-- a backslash that is not quoted goes, and the character after it counts as quoted. A quote does nothing to a
character that is not active. -/
def unescaped : List Marked → List Marked
  | ('\\', false) :: (c, quoted) :: rest =>
    if quoted ∧ active.contains c then ('\\', true) :: unescaped ((c, false) :: rest) else (c, true) :: unescaped rest
  | (c, quoted) :: rest => (c, quoted && active.contains c) :: unescaped rest
  | [] => []
termination_by cs => cs.length

/-- a named class in a bracket, behind its own opening bracket: the ranges, and what comes after it. -/
def namedClass? (cs : List Marked) : Option (List (Char × Char) × List Marked) :=
  match cs with
  | (':', false) :: rest =>
    let name := (rest.takeWhile fun c => !c.2 && c.1.isAlpha).map Prod.fst
    match Text.classRanges name, rest.drop name.length with
    | [], _ => none
    | rs, (':', false) :: (']', false) :: rest => some (rs, rest)
    | _, _ => none
  | _ => none

def rangeFrom (a : Char) (cs : List Marked) : (Char × Char) × List Marked :=
  match cs with
  | ('-', false) :: (']', false) :: _ => ((a, a), cs)
  | ('-', false) :: (b, _) :: rest => ((a, b), rest)
  | _ => ((a, a), cs)

/-- the ranges of a bracket, and what comes after it; a bracket that is not closed is none. A closing
bracket that comes first closes nothing. -/
def ranges (first : Bool) : Nat → List Marked → Option (List (Char × Char) × List Marked)
  | 0, _ => none
  | n + 1, cs =>
    let one (c : Char) (rest : List Marked) : Option (List (Char × Char) × List Marked) :=
      let r := rangeFrom c rest
      (ranges false n r.2).map fun s => (r.1 :: s.1, s.2)
    match cs with
    | [] => none
    | (']', false) :: rest => if first then one ']' rest else some ([], rest)
    | ('[', false) :: rest =>
      match namedClass? rest with
      | some (rs, rest) => (ranges false n rest).map fun s => (rs ++ s.1, s.2)
      | none => one '[' rest
    | (c, _) :: rest => one c rest

def bracket (cs : List Marked) : Option (Item × List Marked) :=
  match cs with
  | ('!', false) :: rest => (ranges true (rest.length + 1) rest).map fun r => (.oneOf true r.1, r.2)
  | _ => (ranges true (cs.length + 1) cs).map fun r => (.oneOf false r.1, r.2)

def items : Nat → List Marked → List Item
  | 0, _ => []
  | n + 1, cs =>
    match cs with
    | [] => []
    | ('*', false) :: rest => .anyText :: items n rest
    | ('?', false) :: rest => .anyChar :: items n rest
    | ('[', false) :: rest =>
      match bracket rest with
      | some (item, rest) => item :: items n rest
      | none => .exactly '[' :: items n rest
    | (c, _) :: rest => .exactly c :: items n rest

def ofUnescaped (cs : List Marked) : List Item := items (cs.length + 1) cs

def ofChars (cs : List Marked) : List Item := ofUnescaped (unescaped cs)

/-- where a character stands among others in a range: those with the highest bit come first. -/
def rank (c : Char) : Nat := (c.toNat + 128) % 256

def Item.accepts (c : Char) : Item → Bool
  | .exactly d => c == d
  | .anyText => true
  | .anyChar => true
  | .oneOf negated rs => (rs.any fun r => decide (rank r.1 ≤ rank c ∧ rank c ≤ rank r.2)) != negated

/-- a text without its first characters, for each number of them: the whole text comes first. -/
def tails (cs : Chars) : List Chars :=
  cs.foldr (fun c ts => (c :: ts.headD []) :: ts) [[]]

def Item.pass (texts : List Chars) : Item → List Chars
  | .anyText => (texts.head?.map tails).getD []
  | item => texts.filterMap fun
    | c :: cs => if item.accepts c then some cs else none
    | [] => none

def rests (p : List Item) (cs : Chars) : List Chars := p.foldl Item.pass [cs]

def fits (p : List Item) (cs : Chars) : Bool := (rests p cs).any List.isEmpty

/-- the part of a text before a zero character, where patterns see its end. -/
def upToZero (cs : Chars) : Chars := cs.takeWhile (· ≠ '\x00')

/-- a text without its shortest or longest start of a pattern. All of it goes if the part before a zero
character is of the pattern, and the longest start is wanted. -/
def trimStart (longest : Bool) (p : List Item) (cs : Chars) : Chars :=
  let seen := upToZero cs
  if longest ∧ seen.length < cs.length ∧ fits p seen then []
  else
    match if longest then (rests p seen).getLast? else (rests p seen).head? with
    | some rest => cs.drop (seen.length - rest.length)
    | none => cs

/-- a text without its shortest or longest end of a pattern; the longest is looked for before a zero
character only. -/
def trimEnd (longest : Bool) (p : List Item) (cs : Chars) : Chars :=
  let hasZero := cs.contains '\x00'
  let isEnd (tail : Chars) : Bool := fits p (if hasZero then upToZero tail else tail)
  let found :=
    if longest then ((tails cs).take ((upToZero cs).length + 1)).find? isEnd
    else (tails cs).reverse.find? isEnd
  match found with
  | some tail => cs.take (cs.length - tail.length)
  | none => cs

end Pattern
end Regen.Shell
