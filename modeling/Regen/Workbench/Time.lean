import Regen.Workbench.Duty

/-!
# Time on a workbench

Time passes in leaps from one moment at which a duty can go on to the next; in between, processes run.

* `Workbench.elapse`      time passes;
* `Workbench.tick`        a tick of the session;
* `Workbench.runToRest`   ticks until no run is out.
-/

namespace Regen.Workbench

def nextMoment? (w : Workbench) : Option Nat :=
  (w.duties.filterMap fun d => d.watch.bind fun v => v.next? w.clock).min?

def hasNews (w : Workbench) (s : Shell.System) : Bool := w.duties.any fun d => d.watch.any fun v => v.hasNews s

def look (w : Workbench) : Workbench :=
  { w with duties := w.duties.map fun d => { d with watch := d.watch.map fun v => v.look w.system } }

/-- processes run until a duty can go on, or up to a moment. -/
def leapTo (w : Workbench) (limit : Option Nat) : Workbench :=
  { w with system := w.system.leap w.hasNews (min? limit w.nextMoment?) }.look
where
  min? : Option Nat → Option Nat → Option Nat
    | some a, some b => some (min a b)
    | a, b => a.orElse fun _ => b

/-- time passes until a moment, in at most so many leaps. -/
def elapseTo (until_ : Nat) : Nat → Workbench → Workbench
  | 0, w => w
  | n + 1, w =>
    let w := w.settle
    if w.clock < until_ then elapseTo until_ n (w.leapTo (some until_)) else w

/-- how many leaps the duties can need: each starts, is cancelled, exits, and lets go of its pipes. -/
def leaps (w : Workbench) : Nat := 4 * w.duties.length + 4

def elapse (w : Workbench) (ms : Nat) : Workbench := (elapseTo (w.clock + 1000 * ms) w.leaps w).settle

/-- the clock moves to the next moment at which something happens. -/
def leap (w : Workbench) : Workbench :=
  let v := w.settle
  if (v.session.compilers.any fun c => !c.inbox.isEmpty) || v.running = 0 then v else (v.leapTo none).settle

def tick (w : Workbench) (now : Instant) : Workbench := w.act fun s => s.tick w.host now

def ticks (now : Instant) : Nat → Workbench → Workbench
  | 0, w => w
  | n + 1, w =>
    let w := w.tick now
    if w.session.isBusy then ticks now n w.leap else w

def runToRest (w : Workbench) (now : Instant) : Workbench :=
  ticks now (4 * (w.leaps + 4 * w.session.compilers.length)) w

end Regen.Workbench
