import Regen.Shell.Builtins.Basic
import Regen.Shell.Machine.Jobs

/-!
# Commands for processes and signals

A signal that is sent is on its way when the command is over; then the processes get it.

* `Builtins.trap`     what is done when a signal comes, or when the shell ends;
* `Builtins.kill`     sends a signal;
* `Builtins.jobs`, `Builtins.foreground`   commands in the background.
-/

namespace Regen.Shell.Builtins

/-! ## signals -/

/-- the actions for signals, as a script could set them, in the order of the signals. -/
def trapListing (m : Machine) : Chars :=
  (List.range Signal.count).flatMap fun n =>
    match m.traps.lookup n with
    | some action =>
      "trap -- ".toList ++ quoted action ++ ' ' :: (Signal.name n).toList ++ ['\n']
    | none => []

def trapOn (action : Option Chars) (m : Machine) : List Chars → Machine × Except Chars Nat
  | [] => (m, .ok 0)
  | s :: names =>
    match Signal.ofChars? s with
    | none => (m.complain ("trap: ".toList ++ s ++ ": bad trap".toList), .ok 1)
    | some n =>
      let others := m.traps.filter fun t => t.1 ≠ n
      trapOn action { m with traps := (action.map fun a => (n, a)).toList ++ others } names

def trap : Builtin := withOptions "" fun _ args m =>
  match args with
  | [] => (m.write 1 (trapListing m), .ok 0)
  | a :: names =>
    if names.isEmpty ∨ (a.all Char.isDigit ∧ (Signal.ofChars? a).isSome) then trapOn none m args
    else trapOn (if a = ['-'] then none else some a) m names

def killUsage : Chars :=
  "Usage: kill [-s sigspec | -signum | -sigspec] [pid | job]... or\nkill -l [exitstatus]".toList

/-- a signal sent to processes, until the shell itself is struck. -/
def send (signal : Nat) (m : Machine) (status : Nat) : List Chars → Machine × Except Chars Nat
  | [] => (m, .ok status)
  | t :: targets =>
    let unknown := m.complainAt "No such process\n".toList
    if t.head? = some '%' then
      if (m.job? t).isSome then send signal unknown 1 targets
      else (m, .error ("No such job: ".toList ++ t))
    else match number (if t.head? = some '-' then t.drop 1 else t) with
      | .error e => (m, .error e)
      | .ok n =>
        if t.head? = some '-' ∨ ¬ (m.isAlive n ∨ m.isGone n) then send signal unknown 1 targets
        else
          let m := if signal = 0 then m else { m with sent := m.sent ++ [(n, signal)] }
          if n = m.number ∧ m.isDeadly signal then (m, .ok status) else send signal m status targets

def signalNames (args : List Chars) (m : Machine) : Machine × Except Chars Nat :=
  match args with
  | [] =>
    let names := ((List.range Signal.count).drop 1).flatMap fun n => (Signal.name n).toList ++ ['\n']
    (m.write 1 ('0' :: '\n' :: names), .ok 0)
  | a :: _ =>
    match number a with
    | .error e => (m, .error e)
    | .ok n =>
      let s := if 128 < n then n - 128 else n
      if 0 < s ∧ s < Signal.count then (m.write 1 ((Signal.name s).toList ++ ['\n']), .ok 0)
      else (m, .error ("invalid signal number or exit status: ".toList ++ a))

def kill : Builtin := fun args m =>
  let sending (signal : Nat) (targets : List Chars) : Machine × Except Chars Nat :=
    if targets.isEmpty then (m, .error killUsage) else send signal m 0 targets
  match args with
  | ('-' :: cs) :: rest =>
    match Signal.sent? cs with
    | some s => sending s rest
    | none =>
      match options "ls:" args with
      | .error e => (m, .error e)
      | .ok (opts, rest) =>
        let named := opts.filter fun o => o.1 = 's'
        match named.find? fun o => (Signal.sent? o.2).isNone with
        | some o => (m, .error ("invalid signal number or name: ".toList ++ o.2))
        | none =>
          let signal := named.getLast?.bind fun o => Signal.sent? o.2
          if opts.any fun o => o.1 == 'l' then
            if signal.isSome ∧ ¬ rest.isEmpty then (m, .error killUsage) else signalNames rest m
          else sending (signal.getD 15) rest
  | _ => sending 15 args

/-! ## commands in the background -/

def endingText : Ending → Chars
  | .status 0 => "Done".toList
  | .status n => "Done(".toList ++ Nat.toDigits 10 n ++ [')']
  | .signal 2 => "Interrupt".toList
  | .signal 13 => "Broken pipe".toList
  | .signal s => ((Signal.epitaph? s).getD "").toList

/-- a line about a command in the background; the two last ones are marked. -/
def jobLine (rank : Nat) (j : Job) : Chars :=
  let sign := if rank = 0 then '+' else if rank = 1 then '-' else ' '
  let line := '[' :: Nat.toDigits 10 j.slot ++ [']', ' ', sign, ' '] ++
    if j.isOver then endingText j.ending else "Running".toList
  line ++ List.replicate (33 - line.length) ' ' ++ ['\n']

/-- shows commands in the background; one that has ended is forgotten with that, so that the one after it
moves up. -/
def showJobs (m : Machine) : List Job → Machine
  | [] => m
  | j :: js =>
    let m := m.write 1 (jobLine (m.jobs.findIdx fun k => k.slot == j.slot) j)
    showJobs (if j.isOver then { m with jobs := m.jobs.filter fun k => k.slot ≠ j.slot } else m) js

/-- shows the commands in the background, or the ones that are named, in full or by the number of the
first process. -/
def jobs : Builtin := withOptions "lp" fun opts names m =>
  let m := m.learn
  let known := names.map fun a => (a, m.job? a)
  let named := (known.takeWhile fun k => k.2.isSome).filterMap Prod.snd
  let js := if names.isEmpty then m.jobs else named
  let m := if opts.any fun o => o.1 == 'p' then
      m.write 1 (js.flatMap fun j => Nat.toDigits 10 (j.processes.headD 0) ++ ['\n'])
    else showJobs m js
  match known.find? fun k => k.2.isNone with
  | some (a, _) => (m, .error ("No such job: ".toList ++ a))
  | none => (m, .ok 0)

def foreground : Builtin := withOptions "" fun _ args m =>
  match args with
  | [] => (m, .error (if m.jobs.isEmpty then "No current job" else "job not created under job control").toList)
  | a :: _ =>
    if (m.job? a).isSome then (m, .error ("job ".toList ++ a ++ " not created under job control".toList))
    else (m, .error ("No such job: ".toList ++ a))

end Regen.Shell.Builtins
