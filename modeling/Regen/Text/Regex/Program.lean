import Regen.Text.Regex

/-!
# Expressions as programs

An expression is turned into steps: each reads a character, looks for an edge, keeps where a group starts
or ends, or leads on to other steps. A text is matched if the steps can be gone through to their end. Where
they part, the way that is preferred comes first: what repeats is repeated as often as it can be.

* `Regex.Step`             a step;
* `Regex.code`             the steps of an expression;
* `Regex.Program`          the steps with what has to be known to go through them.
-/

namespace Regen.Regex

inductive Step where
  | read (t : Test)
  | edge (e : Edge)
  | opens (n : Nat)
  /-- the end of a group; after one that can be left out, and that matched nothing, groups keep what they kept
  when one matched something. -/
  | closes (n : Nat) (optional : Bool)
  | back (n : Nat)
  | fork (first second : Nat)
  | goes (n : Nat)

/-- code several times, from a place on; all but the first one are copies. -/
def copies (first copy : Nat → List Step) : Nat → Nat → List Step
  | 0, _ => []
  | n + 1, start =>
    let steps := first start
    steps ++ copies copy copy n (start + steps.length)

/-- code several times from a place on, of which the first ones can be left out; all but the first one are
copies. -/
def choices (first copy : Nat → List Step) : Nat → Nat → List Step
  | 0, _ => []
  | n + 1, start =>
    let inner := choices first copy n (start + 1)
    let last := (if n = 0 then first else copy) (start + 1 + inner.length)
    .fork (start + 1) (start + 1 + inner.length + last.length) :: inner ++ last

def star (code : Nat → List Step) (start : Nat) : List Step :=
  let body := code (start + 1)
  .fork (start + 1) (start + body.length + 2) :: body ++ [.goes start]

/-- the steps of an expression, from a place on; it may be one that can be left out, or stand in a copy, where
it does not count whether a group can be left out. An empty alternative is not preferred to what comes after
it. -/
def code (copied optional : Bool) : Regex → Nat → List Step
  | .empty, _ => []
  | .char t, _ => [.read t]
  | .edge e, _ => [.edge e]
  | .group n r, start => .opens n :: code copied false r (start + 1) ++ [.closes n optional]
  | .back n, _ => [.back n]
  | .followed a b, start =>
    let first := code copied false a start
    first ++ code copied false b (start + first.length)
  | .either a b, start =>
    let first := code copied false a (start + 1)
    let other := start + first.length + 2
    let second := code copied false b other
    let isEmpty : Bool := match a with
      | .empty => true
      | _ => false
    (if isEmpty then .fork other (start + 1) else .fork (start + 1) other) ::
      first ++ .goes (other + second.length) :: second
  | .repeated least most r, start =>
    let needed := copies (code copied false r) (code true false r) least start
    let more := code (copied || decide (0 < least)) (!copied) r
    let place := start + needed.length
    needed ++ match most with
      | none => star more place
      | some most => choices more (code true false r) (most - least) place

/-- the steps of an expression, the groups that they ask for again, and how characters count. -/
structure Program where
  steps : Array Step
  backs : List Nat
  mode : Mode

def Program.ofRegex (m : Mode) (r : Regex) : Program := ⟨(code false false r 0).toArray, r.backs.eraseDups, m⟩

end Regen.Regex
