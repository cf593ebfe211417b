import Regen.Workbench.Time

/-!
# Compilers come and go

Opening a project brings compilers into the session, closing it takes them out. A compiler that
leaves has its runs cancelled and waits for them, as long as its teardown allows.

* `Workbench.addProject`, `Workbench.addCompiler`
* `Workbench.tearDown`       some compilers come to their end, one after the other;
* `Workbench.removeProject`, `Workbench.removeAll`
-/

namespace Regen.Workbench

/-! ## new compilers -/

def announce (w : Workbench) (said : List Announcement) : Workbench :=
  { w with news := { w.news with announced := w.news.announced ++ said } }

def addProject (w : Workbench) (slot : Nat) (files : List Path) : Workbench :=
  let p := w.projectRef slot
  { w with session := w.session.projectAdded p files w.tree.disk }.announce
    (w.session.announcements p files)

def addCompiler (w : Workbench) (slot : Nat) (source : Path) (targets : List Path) (runner : Runner) :
    Workbench :=
  let s := w.session
  let c := Compiler.create s.created (w.projectRef slot) s.config source targets runner w.tree.disk
  { w with session := { s with compilers := s.compilers ++ [c], created := s.created + 1 } }

/-! ## the end of compilers -/

def isOut (w : Workbench) (number : Nat) : Bool :=
  match w.compiler? number with
  | some c => !c.late.isEmpty
  | none => false

/-- time passes until a compiler's runs are all answered, or its wait is over. -/
def await (number deadline : Nat) : Nat → Workbench → Workbench
  | 0, w => w
  | n + 1, w =>
    let w := w.settle
    if w.isOut number ∧ w.running ≠ 0 ∧ w.clock < deadline then await number deadline n (w.leapTo (some deadline))
    else w

/-- how long the host's own helpers take to drop a cancelled run, in milliseconds. -/
def helperDelay : Nat := 5

/-- helpers drop the cancelled runs of a compiler that the host was to answer. -/
def helpOut (w : Workbench) (c : Compiler) : Workbench :=
  if c.runner.isManual ∧ helperDelay ≤ c.teardownTimeout then
    c.late.foldl (fun w g => w.answer c.number g (.error .cancelled)) w
  else w

def retire (helpers : Bool) (w : Workbench) (c : Compiler) : Workbench :=
  let w := { w with retired := w.retired ++ [c.cancelOutstanding] }
  let w := { w with duties := w.duties.map w.noticeCancel }
  let w := if helpers then w.helpOut c else w
  let w := if c.teardownTimeout = 0 then w
    else await c.number (w.clock + 1000 * c.teardownTimeout) w.leaps w
  match w.compiler? c.number with
  | none => w
  | some c =>
    let c := c.closeUp
    let w := w.listen c
    w.updateCompiler c.number fun _ => c.takeEffects.2

def tearDown (w : Workbench) (helpers : Bool) (leaving : List Compiler) (rest : Session) : Workbench :=
  leaving.foldl (retire helpers) { w with session := rest }

def removeProject (w : Workbench) (id : Nat) : Workbench :=
  w.tearDown false (w.session.ofProject id) (w.session.projectRemoved id)

def removeAll (w : Workbench) (helpers : Bool) : Workbench :=
  w.tearDown helpers w.session.compilers { w.session with compilers := [] }

end Regen.Workbench
