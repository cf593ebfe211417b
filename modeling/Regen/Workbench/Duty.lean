import Regen.Shell.Launch
import Regen.Workbench

/-!
# The duties of a workbench

A duty waits for a slot of the worker pool; a transform is then applied at once, and a program runs while
time passes. A duty whose token is cancelled while it waits never starts.

* `Workbench.begin`     a duty gets a slot;
* `Workbench.move?`     one duty moved on, if it can;
* `Workbench.settle`    everything that can happen at this moment happens.
-/

namespace Regen.Workbench

/-! ## slots -/

def capacity (w : Workbench) : Nat := max 1 w.session.config.maxConcurrentRuns.toNat

def running (w : Workbench) : Nat := w.duties.countP fun d => d.watch.isSome

def discharge (w : Workbench) (i : Nat) : Workbench := { w with duties := w.duties.eraseIdx i }

def report (w : Workbench) (calls : List Action) : Workbench :=
  { w with news := { w.news with calls := w.news.calls ++ calls } }

def conclude (w : Workbench) (i : Nat) (d : Duty) (outcome : Outcome) : Workbench :=
  (w.discharge i).answer d.compiler d.request.generation outcome

/-- what the outside world says to a run before its program is started. -/
def outsideBefore (w : Workbench) (d : Duty) (startError : Option SystemError) : Outside where
  isExecutable p := match (w.tree.find p).toOption with
    | some ⟨.file _, mode, _⟩ => mode.runsForAny
    | some ⟨.tool _, _, _⟩ => true
    | _ => false
  source := d.request.provider.load w.tree.disk
  startError := startError
  cancelledAtStart := false
  looks := []
  cancelledAtExit := false
  pipes := .pending

def invocation (g : Generator) (request : Request) (command : Path) (source : Bytes) : Invocation where
  command := command
  arguments := g.arguments
  workingDirectory := g.workingDirectory
  environment := request.environment
  input := (g.input source).getD []

def startProgram (w : Workbench) (i : Nat) (d : Duty) (g : Generator) (pollInterval : Nat)
    (command : Path) (source : Bytes) : Workbench :=
  match launch w.system (invocation g d.request command source) with
  | .error e =>
    let trace := g.execute (w.outsideBefore d (some e))
    (w.report trace.hooks).conclude i d (trace.outcome.getD (.error .cancelled))
  | .ok (child, system) =>
    let trace := g.execute (w.outsideBefore d none)
    let watch : Watch := ⟨child, source, w.clock, 1000 * max 1 pollInterval, none, none, none⟩
    { w.report trace.hooks with
        system := system
        duties := w.duties.modify i fun d => { d with watch := some watch } }

def begin (w : Workbench) (i : Nat) (d : Duty) : Workbench :=
  match d.runner with
  | .manual => w.discharge i
  | .transform f =>
    w.conclude i d (((Task.submit d.request f).finish w.tree.disk).getD (.error .cancelled))
  | .generator g pollInterval =>
    let o := w.outsideBefore d none
    let trace := g.execute o
    match trace.outcome, g.command?, o.source with
    | none, some command, some source => w.startProgram i d g pollInterval command source
    | some outcome, _, _ => (w.report trace.hooks).conclude i d outcome
    | none, _, _ => w.discharge i

/-- what a started program has come to, if its run is over: the outcome, the hooks that were called, and
whether the child was killed. -/
def outcomeOf (w : Workbench) (d : Duty) (v : Watch) : Option (Outcome × List Action × Bool) :=
  match d.runner with
  | .generator g _ =>
    let trace := g.execute (v.outside w.clock)
    trace.outcome.map fun o => (o, trace.hooks.filter (fun
      | .prepared _ _ => false
      | .asked _ => false
      | _ => true), trace.actions.contains .killed)
  | _ => some (.error .cancelled, [], false)

/-- the child of a run that is over is let go of: it may have to be killed, and what it or those it left
behind still write is not read. -/
def letGo (w : Workbench) (v : Watch) (isKilled : Bool) : Workbench :=
  let s := if isKilled then w.system.kill v.child.process 9 else w.system
  { w with system := s.abandon v.child }

def move? (w : Workbench) (i : Nat) (d : Duty) : Option Workbench :=
  match d.watch with
  | none =>
    if d.cancelledAt.isSome then some (w.conclude i d (.error .cancelled))
    else if w.running < w.capacity then some (w.begin i d)
    else none
  | some v => (w.outcomeOf d v).map fun r => ((w.report r.2.1).letGo v r.2.2).conclude i d r.1

def step? (w : Workbench) : Option Workbench :=
  w.duties.zipIdx.findSome? fun e => w.move? e.2 e.1

def moves : Nat → Workbench → Workbench
  | 0, w => w
  | n + 1, w =>
    match w.step? with
    | some w => moves n w
    | none => w

/-- everything that can happen at this moment happens: each duty starts and ends at most once. -/
def settle (w : Workbench) : Workbench := moves (2 * w.duties.length) w

end Regen.Workbench
