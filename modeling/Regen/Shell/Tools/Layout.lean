import Regen.Shell.Syntax

/-!
# Names side by side

Names stand in as many columns as fit a line, one below the other or one beside the other, or they follow one
another with commas between them. What lies between two columns is filled with tabs as far as they go.

* `Layout.extent`      how many places a name takes;
* `Layout.columns`     how wide the columns are that fit;
* `Layout.downward`, `Layout.across`   names in columns;
* `Layout.inOneRow`    names one after the other.
-/

namespace Regen.Shell.Tools.Layout

/-- how names are laid out: the length of a line, none if it has no end, how far apart tab stops are, none if
there are no tabs, and what ends a line. -/
structure Page where
  width : Nat
  tab : Nat
  ending : Char

/-- how many places a name takes: bytes without a printed form take none. -/
def extent (name : Chars) : Nat := name.countP fun c => ' ' ≤ c && c ≤ '~'

def leastWidth : Nat := 3

def gap : Nat := 2

def widths (count : Nat) (columnOf : Nat → Nat) (lengths : List Nat) : List Nat :=
  lengths.zipIdx.foldl (fun ws (length, i) =>
    let c := columnOf i
    ws.modify c fun w => max w (length + if c + 1 = count then 0 else gap)) (List.replicate count leastWidth)

def rowsOf (names columns : Nat) : Nat := (names + columns - 1) / columns

/-- the widths of as many columns as fit a line, given in which column a name stands if there are so many.
Columns that none of the names makes wider always fit. -/
def columns (p : Page) (lengths : List Nat) (columnOf : Nat → Nat → Nat) : List Nat :=
  let most := min ((p.width + leastWidth - 1) / leastWidth) lengths.length
  let fits := (List.range most).reverse.findSome? fun i =>
    let ws := widths (i + 1) (columnOf (i + 1)) lengths
    if ws.foldl (· + ·) 0 < p.width ∨ i = 0 ∨ ws.all (· = leastWidth) then some ws else none
  fits.getD [leastWidth]

/-- what fills a line between two positions, at most so many characters. -/
def fill (tab : Nat) : Nat → Nat → Nat → Chars
  | 0, _, _ => []
  | n + 1, start, stop =>
    if stop ≤ start then []
    else if tab ≠ 0 ∧ (start + 1) / tab < stop / tab then '\t' :: fill tab n (start + tab - start % tab) stop
    else ' ' :: fill tab n (start + 1) stop

/-- one row: names from a position on, each but the last filled up to the width of its column. -/
def row (p : Page) : Nat → List Nat → List Chars → Chars
  | _, _, [] => [p.ending]
  | _, _, [name] => name ++ [p.ending]
  | position, ws, name :: names =>
    let stop := position + ws.headD leastWidth
    name ++ fill p.tab (stop - position) (position + extent name) stop ++ row p stop (ws.drop 1) names

def downward (p : Page) (names : List Chars) : Chars :=
  let count := names.length
  let ws := columns p (names.map extent) fun columns i => i / rowsOf count columns
  let rows := rowsOf count ws.length
  (List.range rows).flatMap fun r =>
    row p 0 ws ((names.zipIdx.filter fun n => n.2 % rows = r).map Prod.fst)

def across (p : Page) (names : List Chars) : Chars :=
  let ws := columns p (names.map extent) fun columns i => i % columns
  let count := ws.length
  (List.range (rowsOf names.length count)).flatMap fun r => row p 0 ws ((names.drop (r * count)).take count)

def inOneRow (p : Page) (mark : Chars) (names : List Chars) : Chars :=
  let line := names.foldl (fun (s : Nat × Chars × Bool) name =>
    let (position, done, isFirst) := s
    let length := if p.width = 0 then 0 else extent name
    if isFirst then (length, name, false)
    else if p.width = 0 ∨ position + length + gap < p.width then
      (position + gap + length, done ++ mark ++ ' ' :: name, false)
    else (length, done ++ mark ++ p.ending :: name, false)) (0, [], true)
  line.2.1 ++ [p.ending]

end Regen.Shell.Tools.Layout
