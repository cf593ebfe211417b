import Regen.Generator

/-!
# A run of a generator

A run goes through fixed stages: find the program, read the source, let the generator look at it,
start the program, hand it its input, wait for it one poll interval at a time, read its pipes to
the end, and let the generator read the result. The first stage that fails ends the run. What
the outside world answers at each stage is given; the run says what it did, in order, and how it
ended.

* `Outside`              the answers of the outside world;
* `Action`               what a run does;
* `Generator.execute`    the run: its actions, and its outcome unless it is still going on;
* `Trace.hooks`          the calls of the generator's hooks among the actions.
-/

namespace Regen

inductive Look where
  | exited (status : ExitStatus)
  | failed (error : SystemError)
  /-- the poll interval went by, and the token was or was not cancelled at its end. -/
  | elapsed (cancelled : Bool)
  deriving DecidableEq, Repr

/-- how reading the pipes of an exited child went. -/
inductive Drain where
  /-- something still holds them open. -/
  | pending
  /-- the token was cancelled before they ended. -/
  | cancelled
  | drained (stdout stderr : Bytes)
  deriving DecidableEq, Repr

/-- the answers of the outside world to one run. -/
structure Outside where
  isExecutable : Path → Bool
  source : Option Bytes
  /-- why the program cannot be started. -/
  startError : Option SystemError
  cancelledAtStart : Bool
  /-- the looks at the child so far. -/
  looks : List Look
  /-- the token was cancelled when the child's exit was seen. -/
  cancelledAtExit : Bool
  pipes : Drain

/-- what a run does. The last four concern the child alone. -/
inductive Action where
  | checked (command : Path)
  | loaded
  | prepared (source : Bytes) (accepted : Bool)
  | spawned (command : Path)
  | startFailed (error : SystemError)
  | asked (source : Bytes)
  | readIssues (stderr : Bytes)
  | readResult (output : ChildOutput)
  /-- the child was killed and waited for. -/
  | killed
  /-- the child's exit status was collected. -/
  | reaped (status : ExitStatus)
  | pipesEnded
  | pipesAbandoned
  deriving DecidableEq, Repr

/-- the actions of a run, and its outcome unless it is still going on. -/
structure Trace where
  actions : List Action
  outcome : Option Outcome

namespace Trace

def after (actions : List Action) (t : Trace) : Trace := ⟨actions ++ t.actions, t.outcome⟩

def stop (actions : List Action) (outcome : Outcome) : Trace := ⟨actions, some outcome⟩

def isHook : Action → Bool
  | .prepared _ _ => true
  | .startFailed _ => true
  | .asked _ => true
  | .readIssues _ => true
  | .readResult _ => true
  | _ => false

def hooks (t : Trace) : List Action := t.actions.filter isHook

end Trace

namespace Generator

/-- the end of a run whose child was killed. -/
def terminate (abort : Abort) : Trace := .stop [.killed, .pipesAbandoned] (.error abort)

/-- the generator reads what the child left behind. -/
def collect (g : Generator) (output : ChildOutput) : Trace :=
  .stop [.pipesEnded, .readIssues output.stderr, .readResult output]
    (.ok ⟨g.result output, g.issues output.stderr⟩)

def afterExit (g : Generator) (o : Outside) (status : ExitStatus) : Trace :=
  .after [.reaped status] <|
    if o.cancelledAtExit then .stop [.pipesAbandoned] (.error .cancelled)
    else match o.pipes with
      | .pending => ⟨[], none⟩
      | .cancelled => .stop [.pipesAbandoned] (.error .cancelled)
      | .drained stdout stderr => g.collect ⟨status, stdout, stderr⟩

def wait (g : Generator) (o : Outside) : List Look → Trace
  | [] => ⟨[], none⟩
  | .exited status :: _ => g.afterExit o status
  | .failed error :: _ => terminate (.wait error)
  | .elapsed true :: _ => terminate .cancelled
  | .elapsed false :: looks => wait g o looks

def afterStart (g : Generator) (o : Outside) (source : Bytes) : Trace :=
  if o.cancelledAtStart then terminate .cancelled
  else .after [.asked source] (g.wait o o.looks)

def afterLoad (g : Generator) (o : Outside) (command : Path) (source : Bytes) : Trace :=
  .after [.prepared source (g.prepare source)] <|
    if g.prepare source then
      match o.startError with
      | some error => .stop [.startFailed error] (.error (.spawn command error))
      | none => .after [.spawned command] (g.afterStart o source)
    else .stop [] (.error .rejected)

def execute (g : Generator) (o : Outside) : Trace :=
  match g.command? with
  | none => .stop [] (.error .missingCommand)
  | some command =>
    .after [.checked command] <|
      if o.isExecutable command then
        .after [.loaded] <|
          match o.source with
          | none => .stop [] (.error .noContent)
          | some source => g.afterLoad o command source
      else .stop [] (.error (.notExecutable command))

end Generator
end Regen
