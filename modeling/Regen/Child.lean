import Regen.Generator.Execution
import Regen.Shell.System

/-!
# Child processes in time

A child process that was started is watched: when it exits and how, what it prints, and when the last
process that holds its pipes lets go of them. From what has been seen, and from the moment at which the
run's token is cancelled, follows what the outside world answers to the run at any moment.

* `Invocation`        what a program is started with;
* `Watch`             a child that was started at some moment, and what has been seen of it;
* `Watch.look`        what can be seen of it now;
* `Watch.outside`     what the outside world has answered by a moment;
* `Watch.next?`       the next moment at which it is looked at for a reason of its own.
-/

namespace Regen

structure Invocation where
  command : Path
  arguments : List Bytes
  workingDirectory : Option Path
  environment : Environment
  input : Bytes
  deriving Repr

/-- a child that was started: its process, and the pipes of its output. -/
structure Child where
  process : Nat
  stdout : Nat
  stderr : Nat
  deriving Repr

/-- a child that was started at a moment, for a run that looks at it once per poll interval; times are in
microseconds. -/
structure Watch where
  child : Child
  source : Bytes
  start : Nat
  pollInterval : Nat
  cancelledAt : Option Nat
  exit : Option (Nat × ExitStatus)
  drained : Option (Nat × Bytes × Bytes)
  deriving Repr

namespace Watch

open Shell (System Endpoint)

/-! ## looking -/

def isLetGo (s : System) (pipe : Nat) : Bool := !s.world.isHeld none pipe false

def hasNews (w : Watch) (s : System) : Bool :=
  (w.exit.isNone && s.world.ended.any fun e => e.1 == w.child.process) ||
    (w.drained.isNone && isLetGo s w.child.stdout && isLetGo s w.child.stderr)

def statusOf : Shell.Ending → ExitStatus
  | .status n => .code n
  | .signal n => .signal n

def look (w : Watch) (s : System) : Watch :=
  let now := s.world.clock
  let text (pipe : Nat) : Bytes := Shell.bytesOf (s.world.pipe pipe).text
  { w with
    exit := w.exit.orElse fun _ => (s.world.ended.lookup w.child.process).map fun e => (now, statusOf e)
    drained := w.drained.orElse fun _ =>
      if isLetGo s w.child.stdout && isLetGo s w.child.stderr then
        some (now, text w.child.stdout, text w.child.stderr)
      else none }

/-! ## what the outside world answers -/

def cancelledBy (w : Watch) (t : Nat) : Bool :=
  match w.cancelledAt with
  | some c => c ≤ t
  | none => false

def exitAt? (w : Watch) : Option Nat := w.exit.map Prod.fst

/-- how many poll intervals have gone by: before the exit, if it has come, and until now else. -/
def intervals (w : Watch) (now : Nat) : Nat :=
  match w.exitAt? with
  | some t => if t ≤ now then (t - w.start - 1) / w.pollInterval else (now - w.start) / w.pollInterval
  | none => (now - w.start) / w.pollInterval

def looks (w : Watch) (now : Nat) : List Look :=
  ((List.range (w.intervals now)).map fun k =>
    Look.elapsed (w.cancelledBy (w.start + (k + 1) * w.pollInterval))) ++
  match w.exit with
  | some (t, status) => if t ≤ now then [.exited status] else []
  | none => []

def pipes (w : Watch) (now : Nat) : Drain :=
  match w.drained with
  | some (t, stdout, stderr) =>
    if t ≤ now ∧ ¬ w.cancelledBy t then .drained stdout stderr
    else if w.cancelledBy now then .cancelled else .pending
  | none => if w.cancelledBy now then .cancelled else .pending

def outside (w : Watch) (now : Nat) : Outside where
  isExecutable _ := true
  source := some w.source
  startError := none
  cancelledAtStart := false
  looks := w.looks now
  cancelledAtExit := match w.exitAt? with
    | some t => w.cancelledBy t
    | none => false
  pipes := w.pipes now

/-- the next moment at which the child is looked at for a reason of its own: a run whose token is cancelled
looks when its poll interval has gone by. -/
def next? (w : Watch) (now : Nat) : Option Nat :=
  if w.cancelledBy now then some (w.start + ((now - w.start) / w.pollInterval + 1) * w.pollInterval) else none

end Watch
end Regen
