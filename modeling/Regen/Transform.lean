import Regen.Run

/-!
# In-process runs

A *transform* turns the bytes of a source into output, or panics. A run of one waits for a slot of
the pool, reads its source, and applies the transform once; its slot is given back however it
ends. Cancelling it counts while it waits and just after it has read the source, and no longer
once the transform is at work.

* `Transform`       what is applied;
* `Task`            one run and how far it is;
* `Task.step`       one step of it, and the answer if the step is the last;
* `Task.finish`     all the steps of a run that nobody cancels.
-/

namespace Regen

/-- output from the path and the bytes of a source; none if it panics. -/
abbrev Transform := Path → Bytes → Option Output

/-- how far an in-process run is. -/
inductive Task.Phase where
  | queued
  | granted
  | loaded (bytes : Bytes)
  | applying (bytes : Bytes)
  | done
  deriving DecidableEq, Repr

structure Task where
  request : Request
  transform : Transform
  phase : Task.Phase

namespace Task

/-- a run that waits for a slot. -/
def submit (request : Request) (transform : Transform) : Task := ⟨request, transform, .queued⟩

def apply (t : Task) (bytes : Bytes) : Outcome :=
  match t.transform t.request.source bytes with
  | some output => .ok output
  | none => .error .panicked

/-- one step: on its way it asks the disk, its token, and the pool for a slot. -/
def step (t : Task) (disk : Disk) (cancelled slotFree : Bool) : Task × Option Outcome :=
  match t.phase with
  | .queued =>
    if cancelled then ({ t with phase := .done }, some (.error .cancelled))
    else if slotFree then ({ t with phase := .granted }, none)
    else (t, none)
  | .granted =>
    match t.request.provider.load disk with
    | none => ({ t with phase := .done }, some (.error .noContent))
    | some bytes => ({ t with phase := .loaded bytes }, none)
  | .loaded bytes =>
    if cancelled then ({ t with phase := .done }, some (.error .cancelled))
    else ({ t with phase := .applying bytes }, none)
  | .applying bytes => ({ t with phase := .done }, some (t.apply bytes))
  | .done => (t, none)

/-- the answer of a run that has its slot and is not cancelled. -/
def outcome (t : Task) (disk : Disk) : Outcome :=
  match t.request.provider.load disk with
  | none => .error .noContent
  | some bytes => t.apply bytes

/-- a step of a run that nobody cancels, once it may have a slot. -/
def advance (disk : Disk) (r : Task × Option Outcome) : Task × Option Outcome :=
  match r.2 with
  | some _ => r
  | none => r.1.step disk false true

def finish (t : Task) (disk : Disk) : Option Outcome :=
  (advance disk (advance disk (advance disk (t.step disk false true)))).2

/-- a run that nobody cancels answers what its provider and its transform give. -/
theorem finish_submit (request : Request) (transform : Transform) (disk : Disk) :
    (submit request transform).finish disk = some ((submit request transform).outcome disk) := by
  cases h : request.provider.load disk <;>
    simp [finish, advance, submit, step, outcome, apply, h]

end Task
end Regen
