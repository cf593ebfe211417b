import Regen.Shell.Machine

/-!
# Descriptors

What a process reads and writes goes through its descriptors. Writing to a pipe that nobody reads is
lost, and so is writing where there is no room; a process learns of it when its command has run.

* `Machine.redirect`    a descriptor that leads somewhere else;
* `Machine.write`       text written to a descriptor;
* `Machine.incoming`    what can be read now, and whether nothing comes after it;
* `Machine.readAll`     all text up to its end, or hunger;
* `Machine.openPath`    a file opened.
-/

namespace Regen.Shell.Machine

/-! ## where descriptors lead -/

def endpoint (m : Machine) (fd : Nat) : Endpoint := (m.descriptors.lookup fd).getD .closed

def redirect (m : Machine) (fd : Nat) (e : Endpoint) : Machine :=
  { m with descriptors := (fd, e) :: m.descriptors.filter fun d => d.1 ≠ fd }

def holdings (m : Machine) : List Endpoint := m.descriptors.map Prod.snd ++ m.saved

/-- endpoints that are held no longer besides the descriptors. -/
def without (m : Machine) (es : List Endpoint) : Machine := { m with saved := es.foldl List.erase m.saved }

def hasReader (m : Machine) (i : Nat) : Bool :=
  (m.pipe i).outlet || World.isEnd i true m.holdings || m.isHeld (some m.number) i true

def hasWriter (m : Machine) (i : Nat) : Bool :=
  World.isEnd i false m.holdings || m.isHeld (some m.number) i false

def yieldSoon (m : Machine) (delay : Nat) : Machine := { m with horizon := min m.horizon (m.clock + delay) }

/-- without the pipes and open files that nobody holds, if there are many. -/
def sweep (m : Machine) : Machine :=
  if m.pipes.length + m.opened.length < 64 then m
  else
    let held := m.holdings ++ (m.holders.filter fun h => h.1 ≠ m.number).flatMap Prod.snd
    let isUsed (i : Nat) : Bool := World.isEnd i true held || World.isEnd i false held
    { m with
      pipes := m.pipes.filter fun p => p.2.outlet || isUsed p.1
      opened := m.opened.filter fun f => held.contains (.file f.1)
      named := m.named.filter fun n => isUsed n.2 }

def newPipe (m : Machine) (p : Pipe) : Nat × Machine :=
  let m := m.sweep
  let r := m.toWorld.addPipe p
  (r.1, { m with toWorld := r.2 })

/-! ## writing -/

def brokenPipe : SystemError := .code 32

/-- something that was written is lost; if nobody reads it, that is told by a signal. -/
def lose (m : Machine) (e : SystemError) : Machine :=
  if e = brokenPipe then { (if m.isTrapped 13 then m.note 13 else m) with lost := some e }
  else if m.lost.isNone then { m with lost := some e }
  else m

/-- whether the process dies because nobody reads what it wrote. -/
def isBroken (m : Machine) : Bool := m.lost == some brokenPipe && m.isDeadly 13

/-- how long it takes until somebody who waits for a pipe goes on, in microseconds. -/
def wakeTime : Nat := 20

def emit (m : Machine) (e : Endpoint) (cs : Chars) : Machine :=
  if cs = [] ∨ m.isBroken then m
  else match e with
    | .pipe i _ true =>
      if m.hasReader i then { m with toWorld := m.toWorld.setPipe i ((m.pipe i).push cs) }.yieldSoon wakeTime
      else m.lose brokenPipe
    | .file i =>
      if (m.opened.lookup i).any OpenFile.writes then { m with toWorld := m.toWorld.writeOpen i cs }
      else m.lose (.code 9)
    | .device .full _ true => m.lose (.code 28)
    | .device _ _ true => m
    | _ => m.lose (.code 9)

def write (m : Machine) (fd : Nat) (cs : Chars) : Machine := m.emit (m.endpoint fd) cs

/-- a line on the error stream; it does not matter whether it can be written, unless nobody reads it. -/
def complain (m : Machine) (cs : Chars) : Machine :=
  let after := m.write 2 (cs ++ ['\n'])
  if after.lost = some brokenPipe then after else { after with lost := m.lost }

/-- a line on the error stream that names the script, its line and the command that runs. -/
def complainAt (m : Machine) (cs : Chars) : Machine :=
  let command := match m.builtin with
    | some b => b ++ [':', ' ']
    | none => []
  m.complain (m.name ++ (": " ++ toString m.line ++ ": ").toList ++ command ++ cs)

def fullPipe? (m : Machine) (fd : Nat) : Option Nat :=
  match m.endpoint fd with
  | .pipe i _ true => if (m.pipe i).isOverfull then some i else none
  | _ => none

/-! ## reading -/

def readFailure? (m : Machine) : Endpoint → Option SystemError
  | .pipe _ reads _ => if reads then none else some (.code 9)
  | .file i => if (m.opened.lookup i).any OpenFile.reads then none else some (.code 9)
  | .directory => some .isADirectory
  | .device _ reads _ => if reads then none else some (.code 9)
  | .closed => some (.code 9)

def pocketOf (m : Machine) (i : Nat) : Chars := (m.pocket.lookup i).getD []

def setPocket (m : Machine) (i : Nat) (cs : Chars) : Machine :=
  { m with pocket := (i, cs) :: m.pocket.filter fun p => p.1 ≠ i }

def restOf (m : Machine) (f : OpenFile) : Chars :=
  let b := m.content f.number
  charsBetween b f.offset b.size

def incoming (m : Machine) (e : Endpoint) : Chars × Bool :=
  match e with
  | .pipe i true _ =>
    let inside := (m.pipe i).text
    let pocket := m.pocketOf i
    (if pocket.isEmpty then inside else pocket ++ inside, !m.hasWriter i)
  | .file i => (((m.opened.lookup i).map m.restOf).getD [], true)
  | .device .zero true _ => (List.replicate m.zeros '\x00', false)
  | .device .full true _ => (List.replicate m.zeros '\x00', false)
  | _ => ([], true)

def advance (m : Machine) (e : Endpoint) (count : Nat) : Machine :=
  match e with
  | .pipe i true _ =>
    let pocket := m.pocketOf i
    let p := if pocket.isEmpty then m.pipe i else (m.pipe i).putBack pocket
    ({ m with toWorld := m.toWorld.setPipe i (p.skip count) }.setPocket i []).yieldSoon wakeTime
  | .file i =>
    match m.opened.lookup i with
    | some f => { m with toWorld := m.toWorld.setOpen i { f with offset := f.offset + count } }
    | none => m
  | _ => m

def giveBack (m : Machine) (e : Endpoint) (cs : Chars) : Machine :=
  match e with
  | .pipe i _ _ => { m with toWorld := m.toWorld.setPipe i ((m.pipe i).putBack cs) }
  | .file i =>
    match m.opened.lookup i with
    | some f => { m with toWorld := m.toWorld.setOpen i { f with offset := f.offset - cs.length } }
    | none => m
  | _ => m

def starve (m : Machine) (h : Hunger) : Machine := { m with hunger := m.hunger.orElse fun _ => some h }

def hungerFor (e : Endpoint) : Hunger :=
  match e with
  | .pipe i _ _ => .more i
  | .device _ _ _ => .zeros
  | _ => .never

def drain (m : Machine) (e : Endpoint) : Chars × Machine :=
  match e, m.incoming e with
  | _, (cs, true) => (cs, m.advance e cs.length)
  | .pipe i _ _, _ => ([], m.starve (.rest i))
  | _, _ => ([], m.starve .never)

def readAll (m : Machine) (fd : Nat) : Chars × Machine := m.drain (m.endpoint fd)

/-! ## opening -/

structure Opening where
  reads : Bool
  writes : Bool
  appends : Bool
  truncates : Bool
  creates : Bool

def Opening.input : Opening := ⟨true, false, false, false, false⟩

def Opening.output (appends : Bool) : Opening := ⟨false, true, appends, !appends, true⟩

def Opening.both : Opening := ⟨true, true, false, false, true⟩

def openNumber (m : Machine) (number : Nat) (o : Opening) : Endpoint × Machine :=
  let m := m.sweep
  let m := if o.truncates then { m with toWorld := m.toWorld.setContent number .empty } else m
  (.file m.serial, { m with
    opened := (m.serial, ⟨number, 0, o.reads, o.writes, o.appends⟩) :: m.opened
    serial := m.serial + 1 })

def openNamed (m : Machine) (number : Nat) (o : Opening) : Endpoint × Machine :=
  match m.named.lookup number with
  | some i =>
    if m.hasReader i ∨ m.hasWriter i then (.pipe i o.reads o.writes, m)
    else (.pipe i o.reads o.writes, { m with toWorld := m.toWorld.setPipe i (.ofText [] (some Pipe.usualCapacity)) })
  | none =>
    let (i, m) := m.newPipe (.ofText [] (some Pipe.usualCapacity))
    (.pipe i o.reads o.writes, { m with named := (number, i) :: m.named })

def reopen (m : Machine) (e : Endpoint) (o : Opening) : Except SystemError (Endpoint × Machine) :=
  match e with
  | .pipe i _ _ => .ok (.pipe i o.reads o.writes, m)
  | .file i =>
    match m.opened.lookup i with
    | some f => .ok (m.openNumber f.number o)
    | none => .error .noSuchFile
  | .directory => if o.writes then .error .isADirectory else .ok (.directory, m)
  | .device d _ _ => .ok (.device d o.reads o.writes, m)
  | .closed => .error .noSuchFile

def openPath (m : Machine) (path : Chars) (o : Opening) : Except SystemError (Endpoint × Machine) := do
  let p : Path := ⟨bytesOf path⟩
  let (place, t) ← if o.creates then m.tree.touch m.directory p (Mode.shared.without m.mask) m.wall
    else (m.tree.resolveFrom m.directory p).map fun place => (place, m.tree)
  let isNew := t.names.length ≠ m.tree.names.length
  let m := { m with toWorld := { m.toWorld with tree := t } }
  let node := t.node? place
  let isAllowed := isNew || node.all fun n =>
    (!o.reads || n.mode.reads) && (!o.writes || n.mode.writes || n.entry.isDirectory)
  if ¬ isAllowed then throw .permissionDenied
  match node.map Node.entry, t.number? place with
  | some (.descriptor fd), _ => m.reopen (m.endpoint fd) o
  | some .directory, _ => if o.writes then throw .isADirectory else return (.directory, m)
  | some (.device .terminal), _ => throw (.code 6)
  | some (.device d), _ => return (.device d o.reads o.writes, m)
  | some .pipe, some number => return m.openNamed number o
  | some (.tool _), some number => if o.writes then throw (.code 26) else return m.openNumber number o
  | some (.file _), some number => return m.openNumber number o
  | _, _ => throw .noSuchFile

/-! ## files -/

def nodeOf (m : Machine) : Endpoint → Option Node
  | .pipe .. => some ⟨.pipe, .own, m.wall⟩
  | .file i => (m.opened.lookup i).bind fun f => m.tree.nodes[f.number]?
  | .directory => some (.openDirectory m.wall)
  | .device d _ _ => some ⟨.device d, .shared, m.tree.born⟩
  | .closed => none

def node? (m : Machine) (path : Chars) : Option Node :=
  match (m.tree.findFrom m.directory ⟨bytesOf path⟩).toOption with
  | some ⟨.descriptor fd, _, _⟩ => m.nodeOf (m.endpoint fd)
  | n => n

def entryOf (m : Machine) (e : Endpoint) : Option Entry := (m.nodeOf e).map Node.entry

def entry? (m : Machine) (path : Chars) : Option Entry := (m.node? path).map Node.entry

/-- whether there is something at a path, if only a link that leads nowhere. -/
def isThere (m : Machine) (path : Chars) : Bool :=
  let p : Path := ⟨bytesOf path⟩
  (m.tree.findFrom m.directory p).toOption.isSome || match m.tree.slot m.directory p with
    | .ok (dir, name) => (m.tree.node? (dir ++ [name])).isSome
    | .error _ => false

def descriptorAt? (m : Machine) (path : Chars) : Option Nat :=
  match (m.tree.findFrom m.directory ⟨bytesOf path⟩).toOption.map Node.entry with
  | some (.descriptor fd) => some fd
  | _ => none

def numberAt? (m : Machine) (path : Chars) : Option Nat :=
  match (m.tree.resolveFrom m.directory ⟨bytesOf path⟩).toOption with
  | some place => m.tree.number? place
  | none => none

def fileText (m : Machine) (path : Chars) : Except SystemError Chars :=
  match m.tree.readFrom m.directory ⟨bytesOf path⟩ with
  | .ok b => .ok (charsOf b)
  | .error e => .error e

/-- the names in a directory, the two it has for itself and the one above it first; none if the path leads to
no directory that may be read. -/
def namesIn (m : Machine) (path : Chars) : List Chars :=
  match m.tree.resolveFrom m.directory ⟨bytesOf path⟩ with
  | .ok place =>
    if (m.tree.node? place).any fun n => n.entry.isDirectory && n.mode.reads then
      ['.'] :: ['.', '.'] :: (m.tree.namesAt place).map charsOf
    else []
  | .error _ => []

end Regen.Shell.Machine
