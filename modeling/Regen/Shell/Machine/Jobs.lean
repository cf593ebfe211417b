import Regen.Shell.Machine

/-!
# Commands in the background

A shell knows its jobs by their slots and by the numbers of their processes. It learns how they ended
when it asks.

* `Machine.learn`     what has become of the jobs;
* `Machine.addJob`    one more job;
* `Machine.job?`      a job by its slot or number.
-/

namespace Regen.Shell

namespace Job

def number (j : Job) : Nat := j.processes.getLastD 0

def isOver (j : Job) : Bool := j.processes.all fun n => (j.endings.lookup n).isSome

def ending (j : Job) : Ending := (j.endings.lookup j.number).getD (.status 0)

end Job

def Ending.toStatus : Ending → Nat
  | .status n => n
  | .signal s => 128 + s

namespace Machine

def learn (m : Machine) : Machine :=
  let mine := m.jobs.flatMap Job.processes
  let told := m.ended.filter fun e => mine.contains e.1
  if told.isEmpty then m
  else { m with
    jobs := m.jobs.map fun j => { j with endings := j.endings ++ told.filter fun e => j.processes.contains e.1 }
    ended := m.ended.filter fun e => !mine.contains e.1 }

def freeSlot (m : Machine) : Nat :=
  let busy := (m.jobs.filter fun j => !j.waited).map Job.slot
  ((List.range (busy.length + 1)).find? fun i => !busy.contains (i + 1)).getD 0 + 1

def addJob (m : Machine) (processes : List Nat) : Machine :=
  let slot := m.freeSlot
  { m with
    jobs := ⟨processes, slot, [], false⟩ :: m.jobs.filter fun j => j.slot ≠ slot
    background := processes.getLast? }

def job? (m : Machine) (name : Chars) : Option Job :=
  match name with
  | ['%'] => m.jobs.head?
  | ['%', '%'] => m.jobs.head?
  | ['%', '+'] => m.jobs.head?
  | ['%', '-'] => m.jobs[1]?
  | '%' :: slot => m.jobs.find? fun j => j.slot == Text.decimal slot
  | _ => m.jobs.find? fun j => j.number == Text.decimal name

def changeJob (m : Machine) (number : Nat) (f : Job → Job) : Machine :=
  { m with jobs := m.jobs.map fun j => if j.number = number then f j else j }

def isAlive (m : Machine) (number : Nat) : Bool := number == m.number || m.holders.any fun h => h.1 == number

/-- whether a process has ended and nobody asked about it. -/
def isGone (m : Machine) (number : Nat) : Bool := m.ended.any fun e => e.1 == number

end Machine
end Regen.Shell
