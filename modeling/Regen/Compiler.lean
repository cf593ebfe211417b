import Regen.Config
import Regen.ContentStore
import Regen.Editor
import Regen.Project
import Regen.Run
import Regen.Runner
import Regen.Staleness

/-!
# Compilers

A compiler keeps the targets of one source up to date. It owns their bytes, their issues and the
watermark, and it asks a runner for a run whenever the source or its live buffer changed. Runs are
numbered; at most one is *active*. A request made while one is active supersedes it: its token is
cancelled, and its answer, should one still come, is dropped.

Answers arrive in the inbox and have no effect until they are polled. A run without output changes
nothing; one with no target bytes replaces the issues alone.

* `Host`                  what a compiler can ask of its surroundings at one moment;
* `Effect`                what it tells them: requests, annotations and notes;
* `Compiler.create`       a compiler that has looked at its targets on disk;
* `Compiler.start`        one more run;
* `Compiler.answer`       the runner answers a run, or drops it;
* `Compiler.poll`         the answers are handled;
* `Compiler.tick`         answers, the first run, and the quiet period of the editor, in this order;
* `Compiler.teardown`     the end: every run still out is cancelled and waited for.
-/

namespace Regen

structure Host where
  disk : Disk
  projects : Nat → Project
  buffers : Buffers
  inherited : Environment
  wall : Time

/-- what a compiler notes about its runs. -/
inductive Note where
  | noResult (abort : Abort)
  | emptyResult
  | staleDropped (generation : Nat)
  /-- a run was still out when the teardown could wait no longer. -/
  | teardownTimeout (generation : Nat)
  deriving DecidableEq, Repr

/-- what a compiler tells its surroundings. -/
inductive Effect where
  | started (request : Request)
  | pushed (push : Push)
  | noted (note : Note)
  deriving Repr

/-- a run that was started: what was asked, whether its token is cancelled, and whether its runner
has answered. -/
structure Run where
  request : Request
  cancelled : Bool
  answered : Bool
  deriving Repr

def Run.generation (r : Run) : Nat := r.request.generation

/-- keeps the targets of one source up to date. -/
structure Compiler where
  /-- its number in the order in which compilers were created. -/
  number : Nat
  project : ProjectRef
  source : Path
  runner : Runner
  /-- how long a teardown waits, in milliseconds. -/
  teardownTimeout : Nat
  store : ContentStore
  issues : List Issue
  watermark : Watermark
  binding : Binding
  /-- targets were out of date when it was created, and their run has not been asked for yet. -/
  initialPending : Bool
  /-- the generation of the last run: a clock counts them in words of 64 bits, which is the same for
  fewer than 2^64 runs (`Clocks.generations_issued`). -/
  clock : Nat
  /-- every run so far, in the order of their generations. -/
  runs : List Run
  /-- answers not yet handled. -/
  inbox : List Completion
  active : Option Nat
  /-- superseded runs whose answer has not been handled. -/
  superseded : List Nat
  /-- what it has told its surroundings and they have not taken yet. -/
  effects : List Effect

namespace Compiler

/-! ## what it shows -/

def content (c : Compiler) (target : Path) : Bytes := c.store.get target

def hasTarget (c : Compiler) (target : Path) : Bool := c.store.contains target

def targets (c : Compiler) : List Path := c.store.targets

def isRunning (c : Compiler) : Bool := c.active.isSome

/-- whether a run is active or about to be asked for. -/
def isBusy (c : Compiler) : Bool := c.isRunning || c.initialPending

def projectId (c : Compiler) : Nat := c.project.id

/-- the next moment at which time alone has an effect. -/
def nextWakeup? (c : Compiler) : Option Instant := c.binding.deadline?

/-- the runs whose answers have not been handled: the active one first. -/
def outstanding (c : Compiler) : List Nat := c.active.toList ++ c.superseded

def run? (c : Compiler) (generation : Nat) : Option Run :=
  c.runs.find? fun r => r.generation == generation

/-- whether a run was started and its runner still owes an answer. -/
def awaits (c : Compiler) (generation : Nat) : Bool :=
  match c.run? generation with
  | some r => !r.answered
  | none => false

def isCancelled (c : Compiler) (generation : Nat) : Bool :=
  match c.run? generation with
  | some r => r.cancelled
  | none => false

def buildEnvironment (c : Compiler) (h : Host) : Environment :=
  (h.projects c.project.slot).environment.resolve h.inherited

/-! ## small changes -/

def tell (c : Compiler) (e : Effect) : Compiler := { c with effects := c.effects ++ [e] }

def takeEffects (c : Compiler) : List Effect × Compiler := (c.effects, { c with effects := [] })

/-- tells the editor, if there is something to tell. -/
def tellPush (c : Compiler) : Option Push → Compiler
  | some p => c.tell (.pushed p)
  | none => c

def setContent (c : Compiler) (target : Path) (bytes : Bytes) : Compiler :=
  { c with store := c.store.set target bytes }

/-- replaces the bytes of several targets, in order. -/
def setContents (c : Compiler) (writes : List (Path × Bytes)) : Compiler :=
  { c with store := c.store.setAll writes }

def setWatermark (c : Compiler) (time : Time) : Compiler :=
  { c with watermark := c.watermark.set time }

/-- replaces the issues and shows them in the bound editor. -/
def setIssues (c : Compiler) (issues : List Issue) : Compiler :=
  { c with issues := issues }.tellPush (c.binding.push? issues)

def takeChanged (c : Compiler) : List Path × Compiler :=
  (c.store.takeChanged.1, { c with store := c.store.takeChanged.2 })

/-! ## creation -/

/-- a compiler that has looked at its targets on disk: those that are there are loaded, and if one
is missing or older than the source, a run is due at the next tick. -/
def create (number : Nat) (project : ProjectRef) (config : Config) (source : Path)
    (targets : List Path) (runner : Runner) (disk : Disk) : Compiler :=
  let store := ContentStore.declare targets
  let seen := scan disk source store.targets
  { number := number
    project := project
    source := source
    runner := runner
    teardownTimeout := config.teardownTimeout
    store := store.loadAll seen.loaded
    issues := []
    watermark := seen.watermark
    binding := .unbound source config.debounce
    initialPending := seen.dirty
    clock := 0
    runs := []
    inbox := []
    active := none
    superseded := []
    effects := [] }

/-! ## runs -/

def cancel (c : Compiler) (generation : Nat) : Compiler :=
  { c with runs := c.runs.map fun r =>
      if r.generation = generation then { r with cancelled := true } else r }

def supersede (c : Compiler) : Compiler :=
  match c.active with
  | none => c
  | some g => { c.cancel g with active := none, superseded := c.superseded ++ [g] }

/-- what the runner is asked for the next run. -/
def nextRequest (c : Compiler) (h : Host) (provider : Provider) : Request :=
  ⟨c.clock + 1, c.source, provider, c.buildEnvironment h⟩

/-- a run is entered in the book and becomes the active one. -/
def enter (c : Compiler) (request : Request) : Compiler :=
  { c with
      clock := request.generation
      runs := c.runs ++ [(⟨request, false, false⟩ : Run)]
      active := some request.generation }

def start (c : Compiler) (h : Host) (provider : Provider) : Compiler :=
  let request := c.nextRequest h provider
  (c.supersede.enter request).tell (.started request)

def runContents (c : Compiler) (h : Host) (bytes : Bytes) : Compiler := c.start h (.bytes bytes)

/-- compiles a file, which is read when the run starts to work. -/
def runFile (c : Compiler) (h : Host) (path : Path) : Compiler := c.start h (.file path)

/-- the runner answers a run. Only the first answer of a run counts. -/
def answer (c : Compiler) (generation : Nat) (outcome : Outcome) : Compiler :=
  if c.awaits generation then
    { c with
        runs := c.runs.map fun r =>
          if r.generation = generation then { r with answered := true } else r
        inbox := c.inbox ++ [⟨generation, outcome⟩] }
  else c

/-- the runner drops a run without an answer of its own. -/
def drop (c : Compiler) (generation : Nat) : Compiler := c.answer generation (.error .cancelled)

/-! ## answers -/

/-- takes over the outcome of the active run. -/
def adopt (c : Compiler) (wall : Time) : Outcome → Compiler
  | .error abort => c.tell (.noted (.noResult abort))
  | .ok output =>
    let c := c.setIssues output.issues
    if output.contents.entries = [] then c.tell (.noted .emptyResult)
    else (c.setContents output.contents.entries).setWatermark wall

def brings : Outcome → Bool
  | .error _ => false
  | .ok output => !output.contents.entries.isEmpty

/-- handles one answer: that of the active run is taken over, any other one is dropped. -/
def handle (c : Compiler) (wall : Time) (m : Completion) : Compiler :=
  if c.active = some m.generation then { c with active := none }.adopt wall m.outcome
  else
    { c with superseded := c.superseded.filter fun g => g ≠ m.generation }.tell
      (.noted (.staleDropped m.generation))

/-- handles one answer and counts it if it brings target bytes. -/
def handleCounting (wall : Time) (acc : Compiler × Nat) (m : Completion) : Compiler × Nat :=
  (acc.1.handle wall m,
    if acc.1.active = some m.generation ∧ brings m.outcome then acc.2 + 1 else acc.2)

/-- handles every answer that has arrived; says how many brought target bytes. -/
def poll (c : Compiler) (h : Host) : Compiler × Nat :=
  c.inbox.foldl (handleCounting h.wall) ({ c with inbox := [] }, 0)

/-! ## events -/

def initialRun (c : Compiler) (h : Host) : Compiler :=
  if c.initialPending then { c with initialPending := false }.runFile h c.source else c

def follow (c : Compiler) (h : Host) (r : Binding.Reaction) : Compiler :=
  let c := { c with binding := r.binding }.tellPush r.push
  match r.snapshot with
  | some buffer => c.runContents h buffer
  | none => c

def tick (c : Compiler) (h : Host) (now : Instant) : Compiler :=
  let c := (c.poll h).1.initialRun h
  c.follow h (c.binding.tick h.buffers now)

/-- the host shows another editor, or none. -/
def editorChanged (c : Compiler) (h : Host) (editor : Option Editor) : Compiler :=
  c.follow h (c.binding.editorChanged h.buffers editor c.issues)

def aboutToClose (c : Compiler) (h : Host) (id : Nat) : Compiler :=
  c.follow h (c.binding.aboutToClose h.buffers id)

/-- the text of an editor changed. -/
def edited (c : Compiler) (id : Nat) (now : Instant) : Compiler :=
  { c with binding := c.binding.edited id now }

/-- an external build of a project came to rest: the targets it made are taken. -/
def targetsBuilt (c : Compiler) (h : Host) (project : Nat) : Compiler :=
  if project ≠ c.project.id ∨ (h.projects c.project.slot).building then c
  else
    let r := reconcile h.disk c.source c.watermark c.targets
    { c with watermark := r.watermark }.setContents r.adopted

/-! ## teardown -/

/-- whether the answer of a run has been sent. -/
def isAnswered (c : Compiler) (generation : Nat) : Bool :=
  match c.run? generation with
  | some r => r.answered
  | none => false

/-- every run still out is cancelled. -/
def cancelOutstanding (c : Compiler) : Compiler := c.outstanding.foldl cancel c

/-- the runs that are reported when the wait is over. -/
def late (c : Compiler) : List Nat := c.outstanding.filter fun g => !c.isAnswered g

/-- the wait for the runs still out is over: those not answered are reported. -/
def closeUp (c : Compiler) : Compiler :=
  let c' := c.late.foldl (fun c g => c.tell (.noted (.teardownTimeout g))) c
  { c' with active := none, superseded := [] }

/-- the end: every run still out is cancelled and waited for up to one deadline; `meanwhile` are
the answers sent before it. -/
def teardown (c : Compiler) (meanwhile : List Completion) : Compiler :=
  (meanwhile.foldl (fun c m => c.answer m.generation m.outcome) c.cancelOutstanding).closeUp

end Compiler
end Regen
