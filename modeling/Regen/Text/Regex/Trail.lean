import Regen.Text.Regex.Program
import Std.Data.HashSet

/-!
# What groups keep

Ways through a program are gone one after the other, the preferred ones first, until one comes to its end
where it should. A step that has been tried at a place is not tried again there, unless groups that are asked
for again have kept something else; but a way may come back to a step of its own.

* `Regex.Trail`              a way as far as it has been gone;
* `Regex.Program.trail?`     the preferred way to an end.
-/

namespace Regen.Regex

/-- a way as far as it has been gone: the step and the place where it stands, where groups started, what
they keep, and what they kept when one had matched something. It is known which steps it took at this place. -/
structure Trail where
  step : Nat
  place : Nat
  started : List (Nat × Nat)
  kept : List (Nat × Nat × Nat)
  settled : List (Nat × Nat × Nat)
  taken : List Nat

structure Ground where
  text : Array Char
  before : Option Char
  after : Option Char

def Ground.left (g : Ground) (place : Nat) : Option Char := if place = 0 then g.before else g.text[place - 1]?

def Ground.right (g : Ground) (place : Nat) : Option Char := (g.text[place]?).orElse fun _ => g.after

def withKept {α : Type} (n : Nat) (x : α) (table : List (Nat × α)) : List (Nat × α) :=
  (n, x) :: table.filter fun e => e.1 != n

def Trail.at (t : Trail) (step : Nat) : Trail := { t with step := step, taken := t.step :: t.taken }

def Trail.next (t : Trail) : Trail := t.at (t.step + 1)

def Trail.read (t : Trail) (n : Nat) : Trail :=
  if n = 0 then t.next else { t with step := t.step + 1, place := t.place + n, taken := [] }

def Ground.repeats (g : Ground) (fold : Bool) (a b : Nat) : Nat → Bool
  | 0 => true
  | n + 1 =>
    match g.text[a]?, g.text[b]? with
    | some c, some d => same fold c d && g.repeats fold (a + 1) (b + 1) n
    | _, _ => false

def Trail.close (t : Trail) (n : Nat) (optional : Bool) : Trail :=
  let start := (t.started.lookup n).getD t.place
  let kept := withKept n (start, t.place) t.kept
  if start < t.place then { t.next with kept := kept, settled := kept }
  else if optional ∧ (t.settled.lookup n).isSome then { t.next with kept := t.settled }
  else { t.next with kept := kept }

/-- how a way can go on, the preferred one first; a way at its end cannot. What has been gone through without
reading is not gone through again. -/
def Program.onward (p : Program) (g : Ground) (t : Trail) : List Trail :=
  match p.steps[t.step]? with
  | none => []
  | some (.read test) =>
    match g.text[t.place]? with
    | some c => if test.passes p.mode c then [t.read 1] else []
    | none => []
  | some (.edge e) => if e.isBetween p.mode (g.left t.place) (g.right t.place) then [t.next] else []
  | some (.opens n) => [{ t.next with started := withKept n t.place t.started }]
  | some (.closes n optional) => [t.close n optional]
  | some (.back n) =>
    match t.kept.lookup n with
    | none => []
    | some (start, stop) =>
      if g.repeats p.mode.fold start t.place (stop - start) then [t.read (stop - start)] else []
  | some (.fork a b) => if t.taken.contains a then [t.at b] else [t.at a, t.at b]
  | some (.goes a) => [t.at a]

/-- what tells ways apart that go on differently. -/
def Program.mark (p : Program) (t : Trail) : List Nat :=
  t.step :: t.place :: p.backs.flatMap fun n =>
    ((t.started.lookup n).toList ++ ((t.kept.lookup n).toList.flatMap fun k => [k.1 + 1, k.2 + 1])) ++ [0]

/-- the first of some ways that comes to an end at a goal; without one, the one that comes farthest. -/
def Program.follow (p : Program) (g : Ground) (goal : Option Nat) :
    Nat → List Trail → Std.HashSet (List Nat) → Option Trail → Option Trail
  | 0, _, _, best => best
  | _, [], _, best => best
  | n + 1, t :: ts, seen, best =>
    let mark := p.mark t
    if seen.contains mark && !t.taken.contains t.step then p.follow g goal n ts seen best
    else
      let seen := seen.insert mark
      if t.step < p.steps.size then p.follow g goal n (p.onward g t ++ ts) seen best
      else match goal with
        | some place => if t.place = place then some t else p.follow g goal n ts seen best
        | none =>
          if t.place = g.text.size then some t
          else p.follow g goal n ts seen (if best.all fun b => b.place < t.place then some t else best)

def Program.patience (p : Program) (g : Ground) : Nat :=
  (2 * p.steps.size + 2) * Nat.pow (g.text.size + 2) (1 + 3 * p.backs.length)

def Program.trail? (p : Program) (g : Ground) (place : Nat) (goal : Option Nat) : Option Trail :=
  p.follow g goal (p.patience g) [⟨0, place, [], [], [], []⟩] ∅ none

end Regen.Regex
