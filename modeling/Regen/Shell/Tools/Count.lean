import Regen.Shell.Tools.Basic

/-!
# Counts

How much there is in a text: lines, words, characters and bytes, and its longest line.

* `Tools.counts`   the numbers that letters ask for;
* `Tools.wc`       the program.
-/

namespace Regen.Shell.Tools

def isGap (c : Char) : Bool := c == ' ' || ('\t' ≤ c && c ≤ '\r')

def wordCount (cs : Chars) : Nat :=
  (cs.foldl (fun (acc : Nat × Bool) c =>
    if isGap c then (acc.1, false) else (if acc.2 then acc.1 else acc.1 + 1, true)) (0, false)).1

/-- the width of the longest line: the widest so far, and the place in the line. -/
def longestLine (cs : Chars) : Nat :=
  let r := cs.foldl (fun (acc : Nat × Nat) c =>
    if c = '\n' ∨ c = '\r' ∨ c = '\x0c' then (max acc.1 acc.2, 0)
    else if c = '\t' then (acc.1, acc.2 + 8 - acc.2 % 8)
    else if ' ' ≤ c ∧ c ≤ '~' then (acc.1, acc.2 + 1)
    else acc) (0, 0)
  max r.1 r.2

def countLetters : Chars := "lwmcL".toList

def counts (asked : Chars) (cs : Chars) : List Nat :=
  (countLetters.filter asked.contains).map fun l =>
    match l with
    | 'l' => cs.count '\n'
    | 'w' => wordCount cs
    | 'L' => longestLine cs
    | _ => cs.length

/-- the counts of several texts together: the longest line is that of all. -/
def together (asked : Chars) (rows : List (List Nat)) : List Nat :=
  let letters := countLetters.filter asked.contains
  rows.foldl (fun total row =>
    (letters.zip (total.zip row)).map fun (l, a, b) => if l = 'L' then max a b else a + b)
    (letters.map fun _ => 0)

/-- the size of a file that can be told beforehand; nothing, if it is no plain file or is not there. -/
inductive Extent where
  | plain (size : Nat)
  | other
  | absent

def extentOf (m : Machine) (f : Chars) : Extent :=
  match if f = ['-'] then m.entryOf (m.endpoint 0) else m.entry? f with
  | some (.file bytes) => .plain bytes.size
  | none => .absent
  | _ => .other

/-- how wide the counts are: as the sizes of all files together, but wide where a file has none. -/
def widthFor (m : Machine) (asked : Chars) (files : List Chars) : Nat :=
  if files.length = 1 ∧ asked.length = 1 then 1
  else
    let extents := files.map (extentOf m)
    let total := extents.foldl (fun n e => match e with | .plain size => n + size | _ => n) 0
    let least := if extents.any fun e => match e with | .other => true | _ => false then 7 else 1
    max least (Nat.toDigits 10 total).length

def row (width : Nat) (counts : List Nat) (name : Chars) : Chars :=
  List.intercalate [' '] (counts.map (padded width)) ++ (if name.isEmpty then [] else ' ' :: name) ++ ['\n']

def wc : Tool :=
  withOptions (switches [('l', "lines"), ('w', "words"), ('c', "bytes"), ('m', "chars"), ('L', "max-line-length")])
    true 1 fun o files m =>
    let given := (o.given.map Prod.fst).eraseDups
    let asked := if given.isEmpty then "lwc".toList else given
    let names := files
    let files := orInput files
    let width := widthFor m asked files
    let nameOf (f : Chars) : Chars := if names.isEmpty then [] else f
    let accused (f : Chars) : Chars := if names.isEmpty then called f else f
    let r := files.foldl (fun (m, rows, status) f =>
      match openSource m f with
      | (.text cs, m) =>
        let c := counts asked cs
        (m.write 1 (row width c (nameOf f)), rows ++ [c], status)
      | (.unread e, m) =>
        let c := counts asked []
        ((blame m "" (accused f) "" e).write 1 (row width c (nameOf f)), rows ++ [c], 1)
      | (.unopened e, m) => (blame m "" (accused f) "" e, rows, 1)) (m, [], 0)
    let m := if files.length < 2 then r.1
      else r.1.write 1 (row width (together asked r.2.1) "total".toList)
    closeInput files (m, r.2.2)

end Regen.Shell.Tools
