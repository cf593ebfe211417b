import Regen.Child
import Regen.Disk.Listing
import Regen.Shell.Run

/-!
# Starting programs

A program that is named with a slash is found by that path, from the directory it is to run in;
any other one is searched on the path of its own environment. What it does is known at once: its
timeline, and the files after it.

The shell, its tools, the expressions they search with and the numbers they print stand for the
programs of a system. A run sees of a program only what `Outside` answers, so what is shown about
runs holds of any program, and of these among others.

* `Tree.withSystem`    a tree with the programs of the system in it;
* `launch`             starts a program, or says why it cannot be started.
-/

namespace Regen

def systemMode : Entry → Mode
  | .device _ => .shared
  | .descriptor _ => .full
  | _ => .runnable

def Tree.withEntries (t : Tree) (entries : List (Place × Entry)) : Tree :=
  { t with
    names := t.names ++ (entries.zipIdx t.nodes.size).map fun e => (e.1.1, e.2)
    nodes := t.nodes ++ (entries.map fun e => (⟨e.2, systemMode e.2, t.born⟩ : Node)).toArray }

def Tree.withSystem (t : Tree) : Tree :=
  let dev (names : List String) : Place := (("dev" :: names).map Bytes.ofText)
  let bin : List Place := [[Bytes.ofText "bin"], [Bytes.ofText "usr", Bytes.ofText "bin"]]
  let directories : List Place := bin ++ [[Bytes.ofText "usr"], dev [], dev ["fd"]]
  let devices : List (Place × Entry) :=
    [(dev ["null"], .device .null), (dev ["zero"], .device .zero), (dev ["full"], .device .full),
     (dev ["tty"], .device .terminal), (dev ["stdin"], .descriptor 0), (dev ["stdout"], .descriptor 1),
     (dev ["stderr"], .descriptor 2)] ++
    (List.range 10).map fun n => (dev ["fd", toString n], .descriptor n)
  let programs := bin.flatMap fun d => Shell.Tools.programNames.map fun n => (d ++ [Bytes.ofText n], Entry.tool n)
  t.withEntries (directories.map (fun d => (d, .directory)) ++ devices ++ programs)

namespace Shell

/-! ## finding the program -/

def holdsZero (i : Invocation) : Bool :=
  (i.arguments ++ (i.environment.vars.flatMap fun v => [v.1, v.2]) ++
    (i.workingDirectory.map Path.raw).toList).any fun b => b.contains 0

def startingPlace (t : Tree) (directory : Option Path) : Except SystemError Place :=
  match directory with
  | none => .ok t.home
  | some d =>
    match t.resolve d with
    | .error e => .error e
    | .ok place =>
      match t.doorway place with
      | none => .ok place
      | some e => .error e

/-- the variables of an environment as a program finds them. What it gets is a text for each, a name,
an equals sign and a value, so a name that has an equals sign in it ends there. -/
def handedOver (e : Environment) : List (Chars × Chars) :=
  e.vars.map fun v =>
    let entry := Builtins.cutAssignment (charsOf v.1 ++ '=' :: charsOf v.2)
    (entry.1, entry.2.getD [])

def searchPath (e : Environment) : Chars :=
  ((handedOver e).lookup "PATH".toList).getD Program.usualPath

def isTooLong (i : Invocation) : Bool :=
  Program.exceeds (charsOf i.command.raw) (charsOf i.command.raw :: i.arguments.map charsOf)
    (i.environment.vars.map fun v => (charsOf v.1, charsOf v.2))

def findProgram (t : Tree) (place : Place) (i : Invocation) : Except SystemError (String × List Chars) :=
  let name := charsOf i.command.raw
  let argv := name :: i.arguments.map charsOf
  if name.contains '/' then Program.load t place Program.nesting name argv
  else Program.loadFirst t place argv false
    ((Program.directories (searchPath i.environment)).map fun d => Program.within d name)

/-! ## starting it -/

/-- the machine at the start of a program that reads and writes at some endpoints. -/
def freshMachine (world : World) (place : Place) (i : Invocation) (input output errors : Endpoint) : Machine where
  toWorld := world
  number := 0
  parent := 0
  root := 0
  jobs := []
  background := none
  name := charsOf i.command.raw
  arguments := []
  bindings := (handedOver i.environment).map fun v => (v.1, ⟨some v.2, true, false⟩)
  functions := []
  aliases := []
  hashed := []
  frames := []
  directory := place
  way := place
  descriptors := [(0, input), (1, output), (2, errors)]
  saved := []
  pocket := []
  hunger := none
  zeros := 8192
  status := 0
  taken := 0
  kept := none
  traps := []
  deaf := []
  pending := []
  switches := []
  loops := 0
  calls := 0
  line := 1
  readUpTo := 1
  builtin := none
  optionIndex := 1
  optionOffset := none
  mask := 18
  limits := []
  lost := none

def System.begin (s : System) (place : Place) (i : Invocation) (name : String) (argv : List Chars) : Child × System :=
  let outlet : Pipe := { Pipe.ofText [] none with outlet := true }
  let (stdin, world) := s.world.addPipe (.ofText (charsOf i.input) none)
  let (stdout, world) := world.addPipe outlet
  let (stderr, world) := world.addPipe outlet
  let m := freshMachine world place i (.pipe stdin true false) (.pipe stdout false true) (.pipe stderr false true)
  let (process, s) := { s with world := world }.enter System.host (.start name argv) m (world.clock + Pace.birth)
  (⟨process, stdout, stderr⟩, s)

def System.forget (s : System) (pipe : Nat) : System :=
  { s with world := s.world.setPipe pipe { s.world.pipe pipe with outlet := false } }

def System.abandon (s : System) (c : Child) : System :=
  let s := (s.forget c.stdout).forget c.stderr
  { s with world := { s.world with ended := s.world.ended.filter fun e => e.1 ≠ c.process } }.wake

end Shell

def launch (s : Shell.System) (i : Invocation) : Except SystemError (Child × Shell.System) :=
  let t := s.world.tree
  if Shell.holdsZero i then .error .zeroInArgument
  else match Shell.startingPlace t i.workingDirectory with
    | .error e => .error e
    | .ok place =>
      match Shell.findProgram t place i with
      | .error e => .error e
      | .ok (name, argv) =>
        if Shell.isTooLong i then .error (.code 7) else .ok (s.begin place i name argv)

end Regen
