import Regen.Shell.Evaluation
import Regen.Shell.Tools.Basic

/-!
# Programs that pause

Most programs of the system read what they need before they write. Others go on while their input comes,
line after line. What they have read and not used is there for the next reader, but for the rest of the
block that they read last from a pipe.

* `Flow`                   a program that pauses;
* `Tools.outputOf`         what a shell writes that runs a text;
* `Tools.untilFed`         a step that is taken when its input has come;
* `Tools.Intake`           lines that come from an endpoint;
* `Tools.Intake.more`      the next of them;
* `Tools.Intake.leave`     the rest of them left to others.
-/

namespace Regen.Shell

abbrev Flow := Nat → List Chars → Eval Nat

namespace Tools

open Run

def answer (m : Machine) (status : Nat) : Eval Nat := do
  set m
  return status

def isAtLoss : Eval Bool := do return (← get).lost.isSome

def untilFed {α : Type} (step : Machine → α × Machine) : Nat → Eval α
  | 0 => exhausted
  | n + 1 => do
    let (a, m) := step (← get)
    match m.hunger with
    | none => do
      set m
      return a
    | some h => do
      feed n h
      untilFed step n

def atOnce (t : Tool) : Flow := fun n args => untilFed (fun m => let r := t args m; (r.2, r.1)) n

def outputOf (n : Nat) (text : Chars) : Eval Chars := do
  let (i, m) := (← get).newPipe (.ofText [] (some Pipe.usualCapacity))
  let reader := Endpoint.pipe i true false
  set { m with saved := reader :: m.saved }
  let child ← fork (.program "/bin/sh".toList ["sh".toList, "-c".toList, text]) fun m =>
    (m.without [reader]).redirect 1 (.pipe i false true)
  let cs ← allFrom reader n n []
  modify fun m => m.without [reader]
  let _ ← endings [child]
  return cs

structure Intake where
  endpoint : Endpoint
  begun : Chars
  came : Nat
  isOver : Bool
  ending : Char

def Intake.start (e : Endpoint) (ending : Char := '\n') : Intake := ⟨e, [], 0, false, ending⟩

def Intake.more (n : Nat) (s : Intake) : Eval (List Chars × Intake) := do
  match ← nextPiece s.endpoint n with
  | none => return (if s.begun.isEmpty then [] else [s.begun], { s with begun := [], isOver := true })
  | some cs =>
    let lines := endedBy s.ending (s.begun ++ cs)
    let last := lines.getLast?.getD []
    let s := { s with came := s.came + cs.length }
    return if last.getLast? = some s.ending then (lines, { s with begun := [] })
      else (lines.dropLast, { s with begun := last })

/-- lines that came and what has come after them are left to others, if they can be given back; what comes
through a pipe is taken in blocks of a size. -/
def Intake.leave (s : Intake) (block : Nat) (lines : List Chars) : Eval Unit := do
  let unused := lines.flatten ++ s.begun
  if unused.length ≤ s.came then
    let used := s.came - unused.length
    let taken := match s.endpoint with
      | .pipe .. => (block - used % block) % block
      | _ => 0
    modify fun m => m.giveBack s.endpoint (unused.drop taken)

end Tools
end Regen.Shell
