import Regen.Text.Regex.Program

/-!
# Where an expression matches

All ways through a program are gone at once, character by character. Of two ways that stand at one step the
one that started first is kept, since both go on alike. So the first match is found, and of those that start
with it the longest, in one pass over the text.

* `Regex.Program.spread`    the steps that can be reached without reading;
* `Regex.Program.span?`     where the first and longest match starts, and where it ends;
* `Regex.Program.ends`      all places where a match can end that starts at the start of a text.
-/

namespace Regen.Regex

structure Front where
  seen : Array Nat
  readers : List (Nat × Nat)
  done : Option Nat

def Program.front (p : Program) : Front := ⟨Array.replicate (p.steps.size + 1) 0, [], none⟩

def Program.spread (p : Program) (before after : Option Char) (place : Nat) :
    Nat → List (Nat × Nat) → Front → Front
  | 0, _, f => f
  | _, [], f => f
  | n + 1, (k, start) :: rest, f =>
    if f.seen[k]? = some (place + 1) then p.spread before after place n rest f
    else
      let f := { f with seen := f.seen.setIfInBounds k (place + 1) }
      match p.steps[k]? with
      | none => p.spread before after place n rest { f with done := f.done.orElse fun _ => some start }
      | some (.read _) => p.spread before after place n rest { f with readers := (k, start) :: f.readers }
      | some (.edge e) =>
        let next := if e.isBetween p.mode before after then (k + 1, start) :: rest else rest
        p.spread before after place n next f
      | some (.fork a b) => p.spread before after place n ((a, start) :: (b, start) :: rest) f
      | some (.goes a) => p.spread before after place n ((a, start) :: rest) f
      | some (.back _) => p.spread before after place n rest f
      | some (.opens _) => p.spread before after place n ((k + 1, start) :: rest) f
      | some (.closes _ _) => p.spread before after place n ((k + 1, start) :: rest) f

def Program.arrive (p : Program) (before after : Option Char) (place : Nat) (seeds : List (Nat × Nat)) (f : Front) :
    Front :=
  p.spread before after place (seeds.length + 2 * p.steps.size + 2) seeds { f with readers := [], done := none }

def Program.past (p : Program) (c : Char) (readers : List (Nat × Nat)) : List (Nat × Nat) :=
  readers.filterMap fun (k, start) =>
    match p.steps[k]? with
    | some (.read t) => if t.passes p.mode c then some (k + 1, start) else none
    | _ => none

def better (best : Option (Nat × Nat)) (place : Nat) (done : Option Nat) : Option (Nat × Nat) :=
  match best, done with
  | _, none => best
  | none, some start => some (start, place)
  | some (first, _), some start => if start ≤ first then some (start, place) else best

/-- the first and longest match, from a place on, where some steps have been reached. -/
def Program.scan (p : Program) : Nat → Option Char → List Char → List (Nat × Nat) → Option (Nat × Nat) → Front →
    Option (Nat × Nat)
  | place, before, text, reached, best, f =>
    let seeds := if best.isNone then reached ++ [(0, place)] else reached
    if seeds.isEmpty then best
    else
      let f := p.arrive before text.head? place seeds f
      let best := better best place f.done
      let readers := f.readers.reverse.filter fun r => best.all fun b => r.2 ≤ b.1
      match text with
      | [] => best
      | c :: rest => p.scan (place + 1) (some c) rest (p.past c readers) best f

/-- where the first and longest match in a text starts, and where it ends; a character may come before the
text. -/
def Program.span? (p : Program) (before : Option Char) (text : List Char) : Option (Nat × Nat) :=
  p.scan 0 before text [] none p.front

/-- where matches can end that have reached some steps at a place, in order. -/
def Program.endsFrom (p : Program) : Nat → Option Char → List Char → List (Nat × Nat) → Front → List Nat
  | place, before, text, seeds, f =>
    if seeds.isEmpty then []
    else
      let f := p.arrive before text.head? place seeds f
      let here := if f.done.isSome then [place] else []
      match text with
      | [] => here
      | c :: rest => here ++ p.endsFrom (place + 1) (some c) rest (p.past c f.readers.reverse) f

def Program.ends (p : Program) (before : Option Char) (text : List Char) : List Nat :=
  p.endsFrom 0 before text [(0, 0)] p.front

end Regen.Regex
