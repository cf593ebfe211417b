import Regen.Shell.Order
import Regen.Shell.Startup

/-!
# Processes that a shell starts

A shell starts a process for each element of a pipeline, for a subshell, for a command in the background
and for a command whose output it takes. What such a process does is up to it; the shell knows its
number.

* `Command.elements`     the elements of a pipeline;
* `Run.pipeline`         starts the elements of a pipeline;
* `Run.taken`            takes the output of a command;
* `Run.foreground`       runs a command in a process of its own and waits for it;
* `Run.kept`, `Run.putBack`   descriptors that are set for a while.
-/

namespace Regen.Shell

def Command.elements : Command → List Command
  | .pipe a b => a.elements ++ b.elements
  | c => [c]
termination_by c => sizeOf c

namespace Run

/-! ## starting -/

/-- the machine of a command in the background: it cannot be interrupted, and the first of its processes
has nothing to read. -/
def aside (isFirst : Bool) (m : Machine) : Machine :=
  let m := { m with deaf := m.deaf ++ [2, 3] }
  if isFirst then m.redirect 0 (.device .null true false) else m

def pipeline (tested isAside : Bool) : Option Endpoint → List Command → Eval (List Nat)
  | _, [] => return []
  | input, c :: cs => do
    let (output, next) ← if cs.isEmpty then pure ((none : Option Endpoint), (none : Option Endpoint)) else do
      let (i, m) := (← get).newPipe (.ofText [] (some Pipe.usualCapacity))
      set { m with saved := .pipe i true false :: m.saved }
      pure (some (.pipe i false true), some (.pipe i true false))
    let child ← fork (.command c tested) fun m =>
      let m := m.without (next.toList ++ input.toList)
      let m := if isAside then aside input.isNone m else m
      let m := input.elim m fun e => m.redirect 0 e
      output.elim m fun e => m.redirect 1 e
    modify fun m => m.without input.toList
    return child :: (← pipeline tested isAside next cs)

def pipelineInFront (tested : Bool) (c : Command) : Eval Unit := do
  let children ← pipeline tested false none c.elements
  (← endings children).forM Order.mourn

def foreground (t : Task) : Eval Unit := do
  let child ← fork t id
  (← endings [child]).forM Order.mourn

/-- runs a command in the background, where redirections of a group are for its process alone. -/
def background (c : Command) : Eval Unit := do
  let children ← match c with
    | .pipe _ _ => pipeline false true none c.elements
    | .redirected line group rs => do pure [← fork (.command (.redirected line (.subshell group) rs) false) (aside true)]
    | _ => do pure [← fork (.command c false) (aside true)]
  modify fun m => { m.addJob children with status := 0 }

/-! ## taking output -/

def taken (n : Nat) (c : Command) : Eval Chars := do
  let before ← get
  let (i, m) := before.newPipe (.ofText [] (some Pipe.usualCapacity))
  let reader := Endpoint.pipe i true false
  set { m with saved := reader :: m.saved }
  let child ← fork (.command c false) fun m => (m.without [reader]).redirect 1 (.pipe i false true)
  let cs ← allFrom reader n n []
  modify fun m => m.without [reader]
  (← endings [child]).forM Order.mourn
  modify fun m => { m with taken := m.status, status := before.status }
  return Order.withoutNewlines cs

/-! ## descriptors for a while -/

def kept (rs : List Redirect) : Eval (List (Nat × Endpoint)) := do
  let m ← get
  let fds := (rs.map fun | .mk fd _ _ => fd).eraseDups
  let es := fds.map fun fd => (fd, m.endpoint fd)
  set { m with saved := es.map Prod.snd ++ m.saved }
  return es

def putBack (es : List (Nat × Endpoint)) : Eval Unit :=
  modify fun m => es.foldl (fun m e => m.redirect e.1 e.2) (m.without (es.map Prod.snd))

/-! ## texts of scripts -/

def textAt (n : Nat) (path : Chars) : Eval (Except SystemError Chars) := do
  let m ← get
  let comes : Bool := (m.descriptorAt? path).isSome || match m.entry? path with
    | some .pipe => true
    | some (.device _) => true
    | _ => false
  if comes then
    match ← openPath path .input with
    | .error e => return .error e
    | .ok e => do
      let cs ← allFrom e n n []
      close e
      return .ok cs
  else return m.fileText path

end Run
end Regen.Shell
