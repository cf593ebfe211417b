import Regen.Shell.Builtins.Text
import Regen.Shell.Evaluation

/-!
# Commands of the shell that pause

* `Builtins.read`    reads a line into variables;
* `Builtins.wait`    waits for commands in the background.

A signal with an action ends both before their time.
-/

namespace Regen.Shell.Builtins

open Run

/-! ## reading -/

def nextLine (raw : Bool) (e : Endpoint) : Nat → Eval (List Marked × Bool)
  | 0 => exhausted
  | n + 1 => do
    let m ← get
    let (cs, isWhole) := lineText m raw e
    let (line, used, isEnded) := lineOf raw [] 0 cs
    match e with
    | .pipe i true _ =>
      if isEnded ∨ isWhole ∨ ¬ m.pending.isEmpty then
        set (m.advance e used)
        return (line, isEnded)
      else do
        soak i
        wait (.orSignal (.text i))
        nextLine raw e n
    | _ =>
      if isWhole then
        set (m.advance e used)
        return (line, isEnded)
      else exhausted

def read (n : Nat) (args : List Chars) : Eval Unit :=
  match options "p:r" args with
  | .error e => refuse e
  | .ok (opts, names) =>
    if names.isEmpty then refuse "arg count".toList
    else do
      let m ← get
      let (line, isEnded) ← match m.readFailure? (m.endpoint 0) with
        | some _ => pure ([], false)
        | none => nextLine (opts.any fun o => o.1 == 'r') (m.endpoint 0) n
      let (m, complaint) := readInto (← get) names line
      set m
      match complaint with
      | some e => refuse e
      | none => setStatus (if isEnded then 0 else 1)

/-! ## waiting -/

def tellDeath (m : Machine) : Ending → Machine
  | .status _ => m
  | .signal s =>
    match Signal.epitaph? s with
    | some words => m.complain words.toList
    | none => m

/-- waits for processes, and learns how they ended; says whether they all did. -/
def waitForAll (ns : List Nat) : Eval Bool := do
  if ¬ ns.isEmpty then wait (.orSignal (.ends ns))
  let m ← get
  set m.learn
  return ns.all m.isGone

/-- the status of a shell whose waiting a signal has ended. -/
def cutShort : Eval Unit := do
  setStatus (128 + ((← get).pending.getLast?).getD 0)

/-- waits for one command in the background, and tells the death of its processes; says whether they
have all ended. -/
def waitForJob (j : Job) : Eval Bool := do
  let unknown := (← get).jobs.flatMap fun k =>
    if k.number = j.number then k.processes.filter fun n => (k.endings.lookup n).isNone else []
  if ← waitForAll unknown then
    modify fun m =>
      let es := m.jobs.flatMap fun k => k.endings.filter fun e => unknown.contains e.1
      (es.foldl (fun m e => tellDeath m e.2) m).changeJob j.number fun k => { k with waited := true }
    return true
  else return false

def waitEach : List Chars → Eval Unit
  | [] => return
  | a :: args => do
    let m ← get
    match m.job? a with
    | some j => do
      if ← waitForJob j then
        let now ← get
        setStatus ((now.jobs.find? fun k => k.number == j.number).getD j).ending.toStatus
        waitEach args
      else cutShort
    | none =>
      if a.head? = some '%' then refuse ("No such job: ".toList ++ a)
      else match number a with
        | .error e => refuse e
        | .ok _ => do
          setStatus 127
          waitEach args

def wait (args : List Chars) : Eval Unit :=
  match options "" args with
  | .error e => refuse e
  | .ok (_, args) =>
    if args.isEmpty then do
      let running := (← get).jobs.flatMap fun j => j.processes.filter fun n => (j.endings.lookup n).isNone
      if ← waitForAll running then
        modify fun m => { m with jobs := m.jobs.map fun j => { j with waited := true } }
        setStatus 0
      else cutShort
    else waitEach args

end Regen.Shell.Builtins
