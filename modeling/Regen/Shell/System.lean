import Regen.Shell.Run

/-!
# Processes in time

A system is the world and the processes in it. Each process goes on when what it waits for has happened;
the one that is due first has its turn, and goes on until it pauses again. So the processes take their
turns in the order of time, and each sees what the ones before it have done.

* `Process`            a process where it pauses;
* `System`             the world and the processes;
* `System.turn`        the turn of a process;
* `System.next?`       the process whose turn is next;
* `System.runUntil`    the turns of processes up to a moment, or until something is news.
-/

namespace Regen.Shell

structure Process where
  number : Nat
  parent : Nat
  machine : Machine
  wait : Wait
  ready : Option Nat
  isStopped : Bool
  resume : Machine → Course (Except Leave Ending)

structure System where
  world : World
  processes : List Process

/-- how many steps a process may take; none comes that far. -/
def fuel : Nat := 1000000000000

/-- the course of a new process; to end takes its time as well. -/
def Task.course (t : Task) : Machine → Course (Except Leave Ending) := ExceptT.run do
  let r ← Run.attempt (Run.task fuel t)
  Run.spend Pace.exit
  Run.resume r

namespace System

/-! ## processes come and go -/

def process? (s : System) (number : Nat) : Option Process := s.processes.find? fun p => p.number == number

def change (s : System) (number : Nat) (f : Process → Process) : System :=
  { s with processes := s.processes.map fun p => if p.number = number then f p else p }

def holds (number : Nat) (es : List Endpoint) (w : World) : World :=
  { w with holders := (number, es) :: w.holders.filter fun h => h.1 ≠ number }

/-- a new process on a machine, which goes on at a moment; and its number. -/
def enter (s : System) (parent : Nat) (t : Task) (m : Machine) (ready : Nat) : Nat × System :=
  let number := s.world.nextProcess
  let m := { m with number := number, parent := parent }
  (number, {
    world := holds number m.holdings { s.world with nextProcess := number + 1 }
    processes := s.processes ++ [⟨number, parent, m, .moment ready, some ready, false, t.course⟩] })

def host : Nat := 4710

def start (tree : Tree) (epoch : Time) : System := ⟨.start tree epoch (host + 1), []⟩

def leave (s : System) (p : Process) (e : Ending) : System :=
  let rest := s.processes.filter fun q => q.number ≠ p.number
  let isMissed := p.parent = host || rest.any fun q => q.number == p.parent
  { world := { s.world with
      holders := s.world.holders.filter fun h => h.1 ≠ p.number
      ended := if isMissed then s.world.ended ++ [(p.number, e)] else s.world.ended
      sent := if rest.any fun q => q.number == p.parent && q.machine.isTrapped 17
        then s.world.sent ++ [(p.parent, 17)] else s.world.sent }
    processes := rest }

/-! ## signals -/

def signal (s : System) (number signal : Nat) : System :=
  match s.process? number with
  | none => s
  | some p =>
    if p.machine.isDeadly signal then
      if Signal.stopping.contains signal then s.change number fun p => { p with isStopped := true }
      else s.leave p (.signal signal)
    else
      let s := if signal = 18 then s.change number fun p => { p with isStopped := false } else s
      if p.machine.isTrapped signal then s.change number fun p => { p with machine := p.machine.note signal }
      else s

/-- the signals on their way come to their processes, so many at most. -/
def deliver : Nat → System → System
  | 0, s => s
  | n + 1, s =>
    match s.world.sent with
    | [] => s
    | (number, sig) :: rest => ({ s with world := { s.world with sent := rest } }.signal number sig).deliver n

/-! ## turns -/

/-- processes go on soon when what they wait for has happened. -/
def wake (s : System) : System :=
  { s with processes := s.processes.map fun p =>
      if p.ready.isNone && p.wait.isMet s.world p.machine.pending then
        { p with ready := some (s.world.clock + Machine.wakeTime) }
      else p }

def isBefore (p : Process) : Option Process → Bool
  | none => true
  | some q => p.ready.getD 0 < q.ready.getD 0

def next? (s : System) : Option Process :=
  s.processes.foldl (fun best p => if p.ready.isSome && !p.isStopped && isBefore p best then some p else best) none

def settle (s : System) (p : Process) : Course (Except Leave Ending) → System
  | .paused w m resume =>
    let ready := match w with
      | .moment t => some t
      | _ => none
    { s with world := holds p.number m.holdings m.toWorld }.change p.number fun p =>
      { p with machine := m, wait := w, ready := ready, resume := resume }
  | .forked t child m resume =>
    let s := { s with world := holds p.number m.holdings m.toWorld }
    let (number, s) := s.enter p.number t child (m.clock + Pace.birth)
    let ready := m.clock + Pace.fork
    s.change p.number fun p =>
      { p with machine := m, wait := .moment ready, ready := some ready, resume := resume number }
  | .ended r m =>
    let e := match r with
      | .ok e => e
      | .error (.killed n) => .signal n
      | .error _ => .status m.status
    { s with world := m.toWorld }.leave p e

/-- the turn of a process, which is asked to pause when another one is due, and at a moment at the
latest. -/
def turn (s : System) (p : Process) (limit : Nat) : System :=
  let now := max s.world.clock (p.ready.getD 0)
  let others := s.processes.filter fun q => q.number ≠ p.number && !q.isStopped
  let horizon := (others.filterMap Process.ready).foldl min (min limit (now + Pace.slice))
  let world := { s.world with clock := now, horizon := horizon }
  let s := s.settle p (p.resume { p.machine with toWorld := world })
  (s.deliver (s.world.sent.length + 2 * s.processes.length)).wake

def runUntil (isNews : System → Bool) (limit : Nat) : Nat → System → System
  | 0, s => s
  | n + 1, s =>
    if isNews s then s
    else match s.next? with
      | none => s
      | some p =>
        if p.ready.getD 0 ≤ limit then (s.turn p limit).runUntil isNews limit n else s

/-- how many turns are taken at most before a system counts as one that does not come to rest. -/
def patience : Nat := 4000000

/-- a time, in microseconds, in which everything comes to rest that ever does. -/
def longTime : Nat := 3600000000000

def elapse (s : System) (isNews : System → Bool) (limit : Nat) : System :=
  let s := s.wake.runUntil isNews limit patience
  if isNews s then s else { s with world := { s.world with clock := max s.world.clock limit } }

/-- time passes until something is news, or up to a moment if there is one; without a moment, and with
nothing to come, time stands still. -/
def leap (s : System) (isNews : System → Bool) : Option Nat → System
  | some limit => s.elapse isNews limit
  | none => s.wake.runUntil isNews (s.world.clock + longTime) patience

def kill (s : System) (number sig : Nat) : System :=
  let s := s.signal number sig
  (s.deliver (s.world.sent.length + 2 * s.processes.length)).wake

end System
end Regen.Shell
