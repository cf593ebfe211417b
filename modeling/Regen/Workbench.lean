import Regen.Child
import Regen.Disk.Listing
import Regen.Session

/-!
# A host in memory

A workbench is a whole host: a tree of files, editors and projects, a session, and a worker pool
that does the runs of the session's compilers. Time on it is virtual: nothing happens between two
events unless the workbench is told to let time pass.

A run that the host answers itself waits in the *book* of requests. Every other run becomes a
*duty* of the pool.

* `Workbench`                 the host;
* `Workbench.act`             an event of the session, and what follows from it;
* `Workbench.answerRequest`   the host answers a run in its book;
* `Workbench.takeNews`        what happened since the last report.
-/

namespace Regen

structure Duty where
  compiler : Nat
  request : Request
  runner : Runner
  cancelledAt : Option Nat
  watch : Option Watch

structure News where
  effects : List Effect
  announced : List Announcement
  calls : List Action

structure Standing where
  source : Path
  generation : Nat
  cancelled : Bool
  unanswered : Bool

structure Workbench where
  system : Shell.System
  inherited : Environment
  projects : List Project
  editors : List (Editor × Bytes)
  session : Session
  /-- compilers that were torn down; the host may still answer their runs. -/
  retired : List Compiler
  /-- the runs that the host answers itself, in the order of their start: the number of the
  compiler and the generation. -/
  book : List (Nat × Nat)
  duties : List Duty
  news : News

namespace Workbench

/-! ## what it is made of -/

def quiet : News := ⟨[], [], []⟩

def create (tree : Tree) (wall : Time) (inherited : Environment) (projects : List Project)
    (editors : List (Editor × Bytes)) (config : Config) : Workbench :=
  ⟨.start tree wall, inherited, projects, editors, .start .empty config, [], [], [], quiet⟩

def tree (w : Workbench) : Tree := w.system.world.tree

def clock (w : Workbench) : Nat := w.system.world.clock

def setTree (w : Workbench) (t : Tree) : Workbench :=
  { w with system := { w.system with world := { w.system.world with tree := t } } }

def buffers (w : Workbench) : Buffers := fun slot =>
  match w.editors[slot]? with
  | some e => e.2
  | none => []

def projectAt (w : Workbench) (slot : Nat) : Project := w.projects.getD slot ⟨0, false, .unconfigured⟩

def host (w : Workbench) : Host := ⟨w.tree.disk, w.projectAt, w.buffers, w.inherited, w.system.world.time⟩

def projectRef (w : Workbench) (slot : Nat) : ProjectRef := ⟨slot, (w.projectAt slot).id⟩

def compiler? (w : Workbench) (number : Nat) : Option Compiler :=
  (w.session.compilers ++ w.retired).find? fun c => c.number == number

def updateCompiler (w : Workbench) (number : Nat) (f : Compiler → Compiler) : Workbench :=
  { w with
      session := w.session.eachNumbered number f
      retired := w.retired.map fun c => if c.number = number then f c else c }

def answer (w : Workbench) (number generation : Nat) (outcome : Outcome) : Workbench :=
  w.updateCompiler number fun c => c.answer generation outcome

/-! ## the effects of an event -/

def takeOn (c : Compiler) (w : Workbench) : Effect → Workbench
  | .started request =>
    if c.runner.isManual then { w with book := w.book ++ [(c.number, request.generation)] }
    else { w with duties := w.duties ++ [⟨c.number, request, c.runner, none, none⟩] }
  | _ => w

def listen (w : Workbench) (c : Compiler) : Workbench :=
  let w := c.effects.foldl (takeOn c) w
  { w with news := { w.news with effects := w.news.effects ++ c.effects } }

def noticeCancel (w : Workbench) (d : Duty) : Duty :=
  match d.cancelledAt, w.compiler? d.compiler with
  | none, some c =>
    if c.isCancelled d.request.generation then
      { d with
          cancelledAt := some w.clock
          watch := d.watch.map fun v => { v with cancelledAt := some w.clock } }
    else d
  | _, _ => d

def collect (w : Workbench) : Workbench :=
  let w := w.session.compilers.foldl listen w
  let w := { w with session := w.session.each fun c => c.takeEffects.2 }
  { w with duties := w.duties.map w.noticeCancel }

def act (w : Workbench) (f : Session → Session) : Workbench :=
  { w with session := f w.session }.collect

/-! ## the host's own part -/

def answerRequest (w : Workbench) (i : Nat) (outcome : Outcome) : Option Workbench :=
  match w.book[i]? with
  | none => none
  | some (number, generation) =>
    match w.compiler? number with
    | none => none
    | some c => if c.awaits generation then some (w.answer number generation outcome) else none

def standing (w : Workbench) (number generation : Nat) : Option Standing :=
  (w.compiler? number).map fun c =>
    ⟨c.source, generation, c.isCancelled generation, c.awaits generation⟩

def standings (w : Workbench) : List Standing := w.book.filterMap fun e => w.standing e.1 e.2

def editor? (w : Workbench) (slot : Nat) : Option Editor := w.editors[slot]?.map Prod.fst

def setBuffer (w : Workbench) (slot : Nat) (bytes : Bytes) : Workbench :=
  { w with editors := w.editors.modify slot fun e => (e.1, bytes) }

def setProject (w : Workbench) (slot : Nat) (f : Project → Project) : Workbench :=
  { w with projects := w.projects.modify slot f }

def setRegistry (w : Workbench) (f : Registry → Registry) : Workbench :=
  { w with session := { w.session with registry := f w.session.registry } }

def write (w : Workbench) (p : Path) (bytes : Bytes) (time : Time) : Workbench :=
  w.setTree (w.tree.writeFile p bytes w.system.world.wall time)

def remove (w : Workbench) (p : Path) : Workbench × Bool :=
  let r := w.tree.removeFile p w.system.world.wall
  (w.setTree r.1, r.2)

def takeNews (w : Workbench) : News × Workbench :=
  (w.news, { w with news := { w.news with effects := [], announced := [] } })

def takeCalls (w : Workbench) : List Action × Workbench :=
  (w.news.calls, { w with news := { w.news with calls := [] } })

end Workbench
end Regen
