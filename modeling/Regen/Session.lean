import Regen.Pool
import Regen.Registry

/-!
# Sessions

A session owns the compilers of the open projects, in the order of their creation, and passes each
event of the host to all of them. Every compiler does what it would do alone.

* `Session.create?`          a session with a worker pool of its own;
* `Session.projectAdded`     a compiler for each file and each factory that claims it;
* `Session.projectRemoved`   the compilers of a project are handed out to be torn down;
* `Session.tick` and the other events;
* `Session.takeChanged`      the changed targets of all compilers, with their sources;
* `Session.nextWakeup?`      the next moment at which time alone has an effect.
-/

namespace Regen

/-- the compilers of the open projects. -/
structure Session where
  registry : Registry
  config : Config
  compilers : List Compiler
  /-- how many compilers were ever created. -/
  created : Nat

namespace Session

def start (registry : Registry) (config : Config) : Session := ⟨registry, config, [], 0⟩

/-- a session without projects, and a worker pool with as many slots as runs may go on at once; none
if there can be no such pool. -/
def create? (registry : Registry) (config : Config) : Option (Session × Pool) :=
  (Pool.create? config.maxConcurrentRuns.toNat).map fun pool => (start registry config, pool)

/-! ## projects -/

/-- a compiler for each factory that claims a file. -/
def addFile (project : ProjectRef) (disk : Disk) (s : Session) (file : Path) : Session :=
  let new := s.registry.instantiate s.created project s.config file disk
  { s with compilers := s.compilers ++ new, created := s.created + new.length }

def projectAdded (s : Session) (project : ProjectRef) (files : List Path) (disk : Disk) : Session :=
  files.foldl (addFile project disk) s

/-- what the observers are told about the compilers of a new project. -/
def announcements (s : Session) (project : ProjectRef) (files : List Path) : List Announcement :=
  files.flatMap fun f => s.registry.announceAll project f

def ofProject (s : Session) (project : Nat) : List Compiler :=
  s.compilers.filter fun c => c.projectId == project

def projectRemoved (s : Session) (project : Nat) : Session :=
  { s with compilers := s.compilers.filter fun c => c.projectId != project }

/-- how many compilers a new project brings. -/
def countAdded (s : Session) (project : ProjectRef) (files : List Path) (disk : Disk) : Nat :=
  (s.projectAdded project files disk).compilers.length - s.compilers.length

/-- how many compilers leave with a project. -/
def countRemoved (s : Session) (project : Nat) : Nat :=
  s.compilers.length - (s.projectRemoved project).compilers.length

/-! ## events -/

def each (s : Session) (f : Compiler → Compiler) : Session :=
  { s with compilers := s.compilers.map f }

def eachNumbered (s : Session) (number : Nat) (f : Compiler → Compiler) : Session :=
  s.each fun c => if c.number = number then f c else c

/-- the host shows another editor, or none. -/
def editorChanged (s : Session) (h : Host) (editor : Option Editor) : Session :=
  s.each fun c => c.editorChanged h editor

def aboutToClose (s : Session) (h : Host) (id : Nat) : Session :=
  s.each fun c => c.aboutToClose h id

/-- the text of an editor changed. -/
def edited (s : Session) (id : Nat) (now : Instant) : Session := s.each fun c => c.edited id now

def buildStateChanged (s : Session) (h : Host) (project : Nat) : Session :=
  s.each fun c => c.targetsBuilt h project

def tick (s : Session) (h : Host) (now : Instant) : Session := s.each fun c => c.tick h now

/-- a runner answers a run of a compiler. -/
def answer (s : Session) (number generation : Nat) (outcome : Outcome) : Session :=
  s.eachNumbered number fun c => c.answer generation outcome

/-! ## what it shows -/

/-- the next moment at which time alone has an effect on some compiler. -/
def nextWakeup? (s : Session) : Option Instant := (s.compilers.filterMap Compiler.nextWakeup?).min?

/-- whether some compiler has a run out or due. -/
def isBusy (s : Session) : Bool := s.compilers.any Compiler.isBusy

def compilerForTarget? (s : Session) (target : Path) : Option Compiler :=
  s.compilers.find? fun c => c.hasTarget target

def changesOf (c : Compiler) : List (Path × Path) := c.takeChanged.1.map fun t => (c.source, t)

def takeChanged (s : Session) : List (Path × Path) × Session :=
  (s.compilers.flatMap changesOf, s.each fun c => c.takeChanged.2)

end Session
end Regen
