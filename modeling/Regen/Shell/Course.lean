import Regen.Shell.Machine.Descriptors
import Regen.Shell.Machine.Jobs

/-!
# The course of a process

A process does not run in one go: it pauses until something has happened, and it starts other
processes. Its course is what it does up to its next pause, and how it goes on from there with the
world as it finds it then.

* `Wait`      what a process waits for;
* `Task`      what a new process does;
* `Course`    a computation that may pause and start processes;
* `Steps`     a computation on a machine, whose bind goes on where a course ends.
-/

namespace Regen.Shell

inductive Wait where
  | moment (time : Nat)
  | ends (processes : List Nat)
  | text (pipe : Nat)
  | flood (pipe : Nat)
  | room (pipe : Nat)
  | peer (pipe : Nat) (reading : Bool)
  | never
  | orSignal (w : Wait)

/-- whether what a process waits for has happened; moments are for the clock to tell. -/
def Wait.isMet (world : World) (pending : List Nat) : Wait → Bool
  | .moment _ => false
  | .ends ns => ns.all fun n => world.ended.any fun e => e.1 == n
  | .text i => 0 < (world.pipe i).size || !world.isHeld none i false
  | .flood i => (world.pipe i).isOverfull || !world.isHeld none i false
  | .room i => !(world.pipe i).isOverfull || !((world.pipe i).outlet || world.isHeld none i true)
  | .peer i reading => world.isHeld none i reading
  | .never => false
  | .orSignal w => !pending.isEmpty || w.isMet world pending

inductive Task where
  | command (c : Command) (tested : Bool)
  | program (path : Chars) (arguments : List Chars)
  | start (name : String) (arguments : List Chars)

inductive Course (α : Type) where
  | ended (value : α) (m : Machine)
  | paused (w : Wait) (m : Machine) (resume : Machine → Course α)
  | forked (task : Task) (child m : Machine) (resume : Nat → Machine → Course α)

def Course.andThen {α β : Type} (f : α → Machine → Course β) : Course α → Course β
  | .ended a m => f a m
  | .paused w m resume => .paused w m fun m => (resume m).andThen f
  | .forked t child m resume => .forked t child m fun n m => (resume n m).andThen f

def Steps (α : Type) := Machine → Course α

namespace Steps

instance : Monad Steps where
  pure a := fun m => .ended a m
  bind x f := fun m => (x m).andThen f

instance : MonadStateOf Machine Steps where
  get := fun m => .ended m m
  set m := fun _ => .ended () m
  modifyGet f := fun m => let r := f m; .ended r.1 r.2

def wait (w : Wait) : Steps Unit := fun m => .paused w m fun m => .ended () m

def fork (t : Task) (child : Machine → Machine) : Steps Nat := fun m =>
  .forked t (child m) m fun n m => .ended n m

end Steps

/-! ## how long things take, in microseconds -/

namespace Pace

def command : Nat := 1

def fork : Nat := 60

def birth : Nat := 100

def program : Nat := 500

def exit : Nat := 60

/-- how long a process goes on at most before it is asked to pause. -/
def slice : Nat := 1000

end Pace
end Regen.Shell
