import Regen.Shell.Course

/-!
# Steps of a running script

A computation on a machine changes it, pauses, and may be left before its end: by an exit, by a refusal
or by a signal that is not caught. If its fuel is used up it waits for ever.

* `Leave`          how a list of commands is left before its end;
* `Stance`         what depends on how a command ends;
* `Eval`           a computation on a machine;
* `Run.attempt`    a computation whose early end is told;
* `Run.tick`       a command takes its time;
* `Run.say`        text written by a program, which waits until there is room for it.
-/

namespace Regen.Shell

inductive Leave where
  | breaks (loops : Nat)
  | continues (loops : Nat)
  | returned
  | exited
  /-- something refused to work, and the shell ends if nothing stands that. -/
  | failed
  /-- another program took the place of the shell, and has come to its end. -/
  | replaced
  | killed (signal : Nat)
  deriving DecidableEq

/-- whether a command that was left so may be followed by another in the same shell. -/
def Leave.isInside : Leave → Bool
  | .breaks _ => true
  | .continues _ => true
  | .returned => true
  | _ => false

/-- what depends on how a command ends: whether it is tested, so that its failure ends no strict
shell, and whether the shell ends with it in any case. -/
structure Stance where
  tested : Bool
  last : Bool

abbrev Eval := ExceptT Leave Steps

namespace Run

def attempt {α : Type} (x : Eval α) : Eval (Except Leave α) :=
  ExceptT.mk do
    let r ← x.run
    return .ok r

def resume {α : Type} : Except Leave α → Eval α
  | .ok a => return a
  | .error l => throw l

def setStatus (n : Nat) : Eval Unit := modify fun m => { m with status := n }

/-- a line on the error stream that names the script, and a status. -/
def fail (message : Chars) (status : Nat) : Eval Unit :=
  modify fun m => { m.complainAt message with status := status }

def refuse {α : Type} (message : Chars) : Eval α := do
  fail message 2
  throw .failed

/-! ## pauses -/

def wait (w : Wait) : Eval Unit := ExceptT.lift (Steps.wait w)

def spend (time : Nat) : Eval Unit := do
  let m ← get
  wait (.moment (m.clock + time))

def tick : Eval Unit := do
  let m ← get
  let now := m.clock + Pace.command
  if now < m.horizon then set { m with clock := now }
  else wait (.moment now)

/-- the fuel is used up: there is no end in sight. -/
def exhausted {α : Type} : Eval α := do
  wait .never
  throw .exited

def fork (t : Task) (child : Machine → Machine) : Eval Nat := ExceptT.lift (Steps.fork t child)

def endings (processes : List Nat) : Eval (List Ending) := do
  wait (.ends processes)
  let m ← get
  let es := processes.map fun n => (m.ended.lookup n).getD (.status 0)
  set { m with ended := m.ended.filter fun e => !processes.contains e.1 }.learn
  return es

/-! ## output -/

/-- dies, if nobody reads what was written and the process does not ignore that. -/
def perishIfBroken : Eval Unit := do
  if (← get).isBroken then throw (.killed 13)

def flushed (fd : Nat) : Eval Unit := do
  match (← get).fullPipe? fd with
  | none => return
  | some i => do
    wait (.room i)
    modify fun m => if (m.pipe i).isOverfull then m.lose Machine.brokenPipe else m

/-- text written to a descriptor; it waits for room, and dies if nobody reads it. -/
def say (fd : Nat) (cs : Chars) : Eval Unit := do
  modify fun m => m.write fd cs
  flushed fd
  perishIfBroken

/-! ## input -/

/-- a file opened by its path and held; a pipe with a name waits for its other end. -/
def openPath (path : Chars) (o : Machine.Opening) : Eval (Except SystemError Endpoint) := do
  match (← get).openPath path o with
  | .error e => return .error e
  | .ok (e, m) => do
    set { m with saved := e :: m.saved }
    match e with
    | .pipe i reads writes =>
      if reads ≠ writes ∧ m.named.any fun n => n.2 == i then wait (.peer i writes)
    | _ => pure ()
    return .ok e

def close (e : Endpoint) : Eval Unit := modify fun m => { m with saved := m.saved.erase e }

def nextPiece (e : Endpoint) : Nat → Eval (Option Chars)
  | 0 => exhausted
  | n + 1 => do
    let m ← get
    match e, m.incoming e with
    | .pipe i _ _, ([], false) => do
      wait (.text i)
      nextPiece e n
    | _, ([], _) => return none
    | _, (cs, _) => do
      set (m.advance e cs.length)
      return some cs

/-- all that comes from an endpoint up to its end; `pieces` is what has come, the last first. -/
def allFrom (e : Endpoint) (n : Nat) : Nat → List Chars → Eval Chars
  | 0, _ => exhausted
  | k + 1, pieces => do
    match e with
    | .pipe i _ _ => wait (.flood i)
    | _ => pure ()
    match ← nextPiece e n with
    | none => return pieces.reverse.flatten
    | some cs => allFrom e n k (cs :: pieces)

def soak (i : Nat) : Eval Unit :=
  modify fun m =>
    let p := m.pipe i
    if p.size = 0 then m
    else (m.advance (.pipe i true false) (p.size + (m.pocketOf i).length)).setPocket i (m.pocketOf i ++ p.text)

/-- waits until nobody writes to a pipe, and keeps what comes through it. -/
def soakAll (i : Nat) : Nat → Eval Unit
  | 0 => exhausted
  | n + 1 => do
    soak i
    if (← get).hasWriter i then
      wait (.flood i)
      soakAll i n

/-- waits for more text in a pipe; a long text has to grow by a part of its length. -/
def soakMore (i target : Nat) : Nat → Eval Unit
  | 0 => exhausted
  | n + 1 => do
    soak i
    wait (.text i)
    let m ← get
    if m.hasWriter i ∧ (m.pocketOf i).length + (m.pipe i).size < target then soakMore i target n

/-- sees to what a program waits for before it can go on reading. -/
def feed (n : Nat) : Hunger → Eval Unit
  | .more i => do
    let m ← get
    let had := (m.pocketOf i).length + (m.pipe i).size
    soakMore i (if had < 16384 then had + 1 else had + had / 8) n
  | .rest i => soakAll i n
  | .named number => do
    let m ← get
    let (e, m) := m.openNamed number .input
    set { m with saved := e :: m.saved }
    match e with
    | .pipe i _ _ => wait (.peer i false)
    | _ => pure ()
  | .zeros => modify fun m => { m with zeros := 2 * m.zeros }
  | .never => exhausted

end Run
end Regen.Shell
