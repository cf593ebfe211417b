import Regen.Shell.Pattern
import Regen.Shell.Signal
import Regen.Shell.Switch
import Regen.Shell.World
import Regen.Text.Numeral

/-!
# The machine that runs a script

A machine is the state of a process and of the world around it. The world is shared: when other
processes have had their turn, the machine goes on with the world as they left it.

* `Machine`                 the state of a process, a shell or another program;
* `Machine.assign?`         gives a variable a value, if it may be changed;
* `Machine.leaveFrames`     puts back what commands made their own;
* `Machine.isDeadly`        whether a signal ends the process.
-/

namespace Regen.Shell

def withEntry {α : Type} (name : Chars) (x : α) (table : List (Chars × α)) : List (Chars × α) :=
  if (table.lookup name).isSome then table.map fun e => if e.1 = name then (name, x) else e
  else table ++ [(name, x)]

/-- a variable: its value, if it is set, whether programs get it, and whether it stays as it is. -/
structure Variable where
  value : Option Chars
  exported : Bool
  fixed : Bool

/-- a command in the background: its processes, the last of which it goes by, its slot among the known
ones, how those of its processes ended that are known to have ended, and whether it has been waited
for. -/
structure Job where
  processes : List Nat
  slot : Nat
  endings : List (Nat × Ending)
  waited : Bool

/-- what a command puts back when it has run: the variables that it made its own, the last first, as
they were before, and the switches. -/
structure Frame where
  shadowed : List (Chars × Option Variable)
  switches : Option (List Switch)

inductive Hunger where
  | more (pipe : Nat)
  | rest (pipe : Nat)
  | named (number : Nat)
  | zeros
  | never
  deriving DecidableEq

/-- where a program was found on the search path, and whether the current directory has changed since, so that
it has to be looked for again. -/
structure Found where
  path : Chars
  isStale : Bool

/-- how much of something a process may use: what counts, and what that may be set to. None is a limit that
nothing reaches. -/
structure Limit where
  soft : Option Nat
  hard : Option Nat

def Limit.none : Limit := ⟨.none, .none⟩

def Limit.both (n : Nat) : Limit := ⟨some n, some n⟩

structure Machine extends World where
  number : Nat
  parent : Nat
  root : Nat
  jobs : List Job
  background : Option Nat
  name : Chars
  arguments : List Chars
  bindings : List (Chars × Variable)
  functions : List (Chars × Command)
  aliases : List (Chars × Chars)
  hashed : List (Chars × Found)
  frames : List Frame
  directory : Place
  way : Place
  descriptors : List (Nat × Endpoint)
  saved : List Endpoint
  pocket : List (Nat × Chars)
  hunger : Option Hunger
  zeros : Nat
  status : Nat
  taken : Nat
  kept : Option Nat
  traps : List (Nat × Chars)
  deaf : List Nat
  /-- the signals that came and have an action that has not run yet, in their order. -/
  pending : List Nat
  switches : List Switch
  loops : Nat
  calls : Nat
  line : Nat
  readUpTo : Nat
  builtin : Option Chars
  optionIndex : Nat
  optionOffset : Option Nat
  mask : Nat
  limits : List (Char × Limit)
  lost : Option SystemError

namespace Machine

def isOn (m : Machine) (s : Switch) : Bool := m.switches.contains s

/-! ## signals -/

def isDeadly (m : Machine) (signal : Nat) : Bool :=
  signal ≠ 0 && !Signal.harmless.contains signal && !m.deaf.contains signal &&
    (signal == 9 || signal == 19 || (m.traps.lookup signal).isNone)

def isTrapped (m : Machine) (signal : Nat) : Bool :=
  !m.deaf.contains signal && (m.traps.lookup signal).any fun a => !a.isEmpty

/-- a signal whose action is to run; one that came before counts once. -/
def note (m : Machine) (signal : Nat) : Machine :=
  { m with pending := m.pending.filter (· < signal) ++ signal :: m.pending.filter (signal < ·) }

def hasNoTraps (m : Machine) : Bool := m.traps.all fun t => t.2.isEmpty

/-! ## variables -/

def noVariable : Variable := ⟨none, false, false⟩

def variableOf (m : Machine) (name : Chars) : Variable := (m.bindings.lookup name).getD noVariable

def get? (m : Machine) (name : Chars) : Option Chars := (m.variableOf name).value

def putVariable (m : Machine) (name : Chars) (v : Variable) : Machine :=
  { m with bindings := withEntry name v m.bindings }

/-- what else a variable of a name decides: a new search path makes the known programs unknown, and
a new index starts the search for options anew. -/
def heed (m : Machine) (name value : Chars) : Machine :=
  if name = "PATH".toList then { m with hashed := [] }
  else if name = "OPTIND".toList then
    let n := Text.decimal (value.filter Char.isDigit)
    { m with optionIndex := if n = 0 then 1 else n, optionOffset := none }
  else m

def set (m : Machine) (name value : Chars) : Machine :=
  let old := m.variableOf name
  (m.putVariable name ⟨some value, old.exported || m.isOn .allexport, old.fixed⟩).heed name value

def assign? (m : Machine) (name value : Chars) : Option Machine :=
  if (m.variableOf name).fixed then none else some (m.set name value)

def publish (m : Machine) (name : Chars) : Machine :=
  m.putVariable name { m.variableOf name with exported := true }

def fix (m : Machine) (name : Chars) : Machine :=
  m.putVariable name { m.variableOf name with fixed := true }

def unset (m : Machine) (name : Chars) : Machine :=
  { m with bindings := m.bindings.filter fun v => v.1 ≠ name }.heed name []

/-- a command starts that will put back what it makes its own. -/
def newFrame (m : Machine) : Machine := { m with frames := ⟨[], none⟩ :: m.frames }

def changeFrame (m : Machine) (f : Frame → Frame) : Machine :=
  { m with frames := match m.frames with
      | inner :: outer => f inner :: outer
      | [] => [] }

def makeLocal (m : Machine) (name : Chars) : Machine :=
  m.changeFrame fun f => { f with shadowed := (name, m.bindings.lookup name) :: f.shadowed }

def restore (m : Machine) (v : Chars × Option Variable) : Machine :=
  match v.2 with
  | some old => (m.putVariable v.1 old).heed v.1 (old.value.getD [])
  | none => m.unset v.1

def putBack (m : Machine) (f : Frame) : Machine :=
  let m := f.shadowed.foldl restore m
  { m with switches := f.switches.getD m.switches }

/-- puts back what commands made their own, the innermost first, until only so many run. -/
def leaveFrames (m : Machine) (depth : Nat) : Machine :=
  let ended := m.frames.take (m.frames.length - depth)
  { ended.foldl putBack m with frames := m.frames.drop ended.length }

def environment (m : Machine) : List (Chars × Chars) :=
  m.bindings.filterMap fun v => if v.2.exported then v.2.value.map fun x => (v.1, x) else none

def separators (m : Machine) : Chars := (m.get? "IFS".toList).getD [' ', '\t', '\n']

def parameter (m : Machine) (name : Chars) : Option Chars :=
  match name with
  | ['?'] => some (Nat.toDigits 10 m.status)
  | ['#'] => some (Nat.toDigits 10 m.arguments.length)
  | ['$'] => some (Nat.toDigits 10 m.root)
  | ['!'] => m.background.map (Nat.toDigits 10)
  | ['-'] => some (Switch.shown m.switches)
  | ['0'] => some m.name
  | c :: _ =>
    if c.isDigit then
      if Text.decimal name = 0 then some m.name else m.arguments[Text.decimal name - 1]?
    else m.get? name
  | [] => none

end Machine
end Regen.Shell
