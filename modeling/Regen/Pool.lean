/-!
# The worker pool

A pool runs at most `capacity` jobs at a time. Jobs wait in the order in which they were
submitted. A job whose token is cancelled while it waits never starts, even if a slot is idle; a
job that has started keeps its slot until it is done, whatever is cancelled meanwhile.

A job here is as long as its *gate* is closed: it starts when it gets a slot and is done when its
gate is open.

* `Job`            a submitted job and how far it is;
* `Pool.create?`   a pool of a capacity the system can count;
* `Pool.refusal`   what is said of any other capacity;
* `Pool.submit`, `Pool.openGate`, `Pool.cancel`   what can happen to it;
* `Pool.settle`    everything moves until nothing can.
-/

namespace Regen

inductive Stage where
  | waiting
  | running
  | finished
  | refused
  deriving DecidableEq, Repr

/-- a submitted job; jobs submitted with one token have one generation. -/
structure Job where
  generation : Nat
  gateOpen : Bool
  stage : Stage
  /-- its position in the order in which jobs started, from one; zero before it starts. -/
  start : Nat
  value : Nat
  deriving DecidableEq, Repr

/-- a pool with the jobs submitted to it, in order. -/
structure Pool where
  capacity : Nat
  /-- how many tokens were issued. -/
  issued : Nat
  /-- the generations of the cancelled tokens. -/
  cancelled : List Nat
  started : Nat
  jobs : List Job
  deriving DecidableEq, Repr

namespace Pool

/-- the most slots that can be counted: an eighth of the words of 64 bits, less one. -/
def maxCapacity : Nat := UInt64.size / 8 - 1

/-- a pool of at least one slot; none if there are more slots than can be counted. -/
def create? (capacity : Nat) : Option Pool :=
  if max 1 capacity ≤ maxCapacity then some ⟨max 1 capacity, 0, [], 0, []⟩ else none

/-- what is said if there are more slots than can be counted. -/
def refusal : String :=
  "a semaphore may not have more than MAX_PERMITS permits (" ++ toString maxCapacity ++ ")"

def running (p : Pool) : Nat := p.jobs.countP fun j => j.stage = .running

/-- the number of idle slots. -/
def available (p : Pool) : Nat := p.capacity - p.running

def isCancelled (p : Pool) (j : Job) : Bool := p.cancelled.contains j.generation

/-! ## moving on -/

/-- a waiting job whose token is cancelled is refused. -/
def refuse (p : Pool) (j : Job) : Job :=
  if j.stage = .waiting ∧ p.isCancelled j then { j with stage := .refused } else j

/-- a running job whose gate is open is done. -/
def finish (j : Job) : Job :=
  if j.stage = .running ∧ j.gateOpen then { j with stage := .finished } else j

/-- waiting jobs start in order while slots are free; a job whose gate is already open gives its
slot back at once. Gives the jobs and how many have started. -/
def grant (free started : Nat) : List Job → List Job × Nat
  | [] => ([], started)
  | j :: js =>
    if j.stage = .waiting ∧ 0 < free then
      let stage := if j.gateOpen then .finished else .running
      let rest := grant (if j.gateOpen then free else free - 1) (started + 1) js
      ({ j with stage := stage, start := started + 1 } :: rest.1, rest.2)
    else
      let rest := grant free started js
      (j :: rest.1, rest.2)

def settle (p : Pool) : Pool :=
  let p := { p with jobs := p.jobs.map fun j => finish (p.refuse j) }
  let moved := grant p.available p.started p.jobs
  { p with jobs := moved.1, started := moved.2 }

/-! ## what can happen -/

/-- a job is submitted: with a token of its own, or with the token of an earlier job. -/
def submit (p : Pool) (share : Option Nat) (value : Nat) : Pool :=
  match share.bind fun i => p.jobs[i]? with
  | some j => { p with jobs := p.jobs ++ [⟨j.generation, false, .waiting, 0, value⟩] }
  | none =>
    { p with issued := p.issued + 1, jobs := p.jobs ++ [⟨p.issued + 1, false, .waiting, 0, value⟩] }

def openGate (p : Pool) (i : Nat) : Pool :=
  { p with jobs := p.jobs.modify i fun j => { j with gateOpen := true } }

def cancel (p : Pool) (i : Nat) : Pool :=
  match p.jobs[i]? with
  | some j => { p with cancelled := j.generation :: p.cancelled }
  | none => p

/-- what a job's handle yields: nothing yet, nothing at all, or its value. -/
def result (j : Job) : Option (Option Nat) :=
  match j.stage with
  | .finished => some (some j.value)
  | .refused => some none
  | _ => none

end Pool
end Regen
