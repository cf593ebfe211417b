import Regen.Text.Regex.Span
import Regen.Text.Regex.Trail

/-!
# Matches

Of the places where an expression can start to match the first is taken, and of what it matches there the
longest.

* `Regex.Matcher`           an expression made ready;
* `Regex.Matcher.find?`     the first and longest match in a text;
* `Regex.Matcher.matches`   whether there is one.
-/

namespace Regen.Regex

/-- an expression made ready: its program, and how many groups it has. -/
structure Matcher where
  program : Program
  groups : Nat

def Matcher.ofRegex (m : Mode) (r : Regex) (groups : Nat) : Matcher := ⟨.ofRegex m r, groups⟩

structure Match where
  before : List Char
  matched : List Char
  after : List Char
  groups : List (Nat × List Char)

def Trail.texts (t : Trail) (text : Array Char) : List (Nat × List Char) :=
  t.kept.map fun (n, start, stop) => (n, (text.extract start stop).toList)

/-- the first and longest way in a text, if groups are asked for again: where it starts, and how it goes. -/
def Program.searchFrom (p : Program) (g : Ground) : Nat → Nat → Option (Nat × Trail)
  | 0, place => (p.trail? g place none).map fun t => (place, t)
  | n + 1, place =>
    match p.trail? g place none with
    | some t => some (place, t)
    | none => p.searchFrom g n (place + 1)

/-- where the first and longest match in a text starts and ends, and what the groups kept, if it is asked
for; a character may come before the text. -/
def Matcher.locate? (m : Matcher) (wantsGroups : Bool) (before : Option Char) (text : List Char) :
    Option (Nat × Nat × List (Nat × List Char)) :=
  let p := m.program
  if p.backs.isEmpty then
    (p.span? before text).map fun (start, stop) =>
      let groups :=
        if m.groups = 0 ∨ ¬ wantsGroups then []
        else
          let rest := text.drop start
          let part := (rest.take (stop - start)).toArray
          let left := if start = 0 then before else text[start - 1]?
          match p.trail? ⟨part, left, rest[stop - start]?⟩ 0 (some (stop - start)) with
          | some t => t.texts part
          | none => []
      (start, stop, groups)
  else
    let g : Ground := ⟨text.toArray, before, none⟩
    (p.searchFrom g g.text.size 0).map fun (start, t) => (start, t.place, t.texts g.text)

def Matcher.find? (m : Matcher) (before : Option Char) (text : List Char) : Option Match :=
  (m.locate? true before text).map fun (start, stop, groups) =>
    let rest := text.drop start
    ⟨text.take start, rest.take (stop - start), rest.drop (stop - start), groups⟩

def Matcher.matches (m : Matcher) (text : List Char) : Bool := (m.locate? false none text).isSome

def Matcher.start? (m : Matcher) (text : List Char) : Option Match :=
  let p := m.program
  let g : Ground := ⟨text.toArray, none, none⟩
  let goal := (p.ends none text).getLast?
  if p.backs.isEmpty ∧ goal.isNone then none
  else (p.trail? g 0 (if p.backs.isEmpty then goal else none)).map fun t =>
    ⟨[], text.take t.place, text.drop t.place, t.texts g.text⟩

def Matcher.ends (m : Matcher) (before : Option Char) (text : List Char) : List Nat :=
  if m.program.backs.isEmpty then m.program.ends before text
  else
    let g : Ground := ⟨text.toArray, before, none⟩
    (List.range (g.text.size + 1)).filter fun stop => (m.program.trail? g 0 (some stop)).isSome

end Regen.Regex
