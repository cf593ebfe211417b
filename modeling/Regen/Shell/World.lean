import Regen.Disk.Subtree
import Regen.Shell.Syntax
import Regen.SystemError

/-!
# What processes share

Processes share a tree of files, pipes, open files and a clock. A pipe holds what was written and
not yet read; nobody reads on when no process holds its reading end, and nothing more comes when no
process holds its writing end. An open file has a place in the text where reading and writing go on,
which all descriptors share that stem from one opening.

* `Endpoint`            where a descriptor leads;
* `Pipe`, `OpenFile`    what endpoints lead to;
* `Ending`              how a process ends;
* `World`               all of it, and what processes tell one another.
-/

namespace Regen.Shell

def charsOf (b : Bytes) : Chars := b.map fun x => Char.ofNat x.toNat

def bytesOf (cs : Chars) : Bytes := cs.map fun c => UInt8.ofNat c.toNat

def charsBetween (b : ByteArray) (start stop : Nat) : Chars := charsOf (b.extract start stop).toList

inductive Endpoint where
  | pipe (index : Nat) (reads writes : Bool)
  | file (index : Nat)
  | directory
  | device (kind : Device) (reads writes : Bool)
  | closed
  deriving DecidableEq

structure Pipe where
  front : Chars
  back : List Chars
  size : Nat
  /-- how much it holds before writers wait; none if it is read at once. -/
  capacity : Option Nat
  outlet : Bool

namespace Pipe

def usualCapacity : Nat := 65536

def ofText (cs : Chars) (capacity : Option Nat) : Pipe := ⟨cs, [], cs.length, capacity, false⟩

def text (p : Pipe) : Chars := if p.back.isEmpty then p.front else p.front ++ p.back.reverse.flatten

def push (p : Pipe) (cs : Chars) : Pipe := { p with back := cs :: p.back, size := p.size + cs.length }

def skip (p : Pipe) (count : Nat) : Pipe :=
  let rest := p.front.drop count
  if rest.isEmpty then { p with front := p.text.drop count, back := [], size := p.size - count }
  else { p with front := rest, size := p.size - count }

def putBack (p : Pipe) (cs : Chars) : Pipe := { p with front := cs ++ p.front, size := p.size + cs.length }

def isOverfull (p : Pipe) : Bool := p.capacity.any fun c => decide (c < p.size)

end Pipe

structure OpenFile where
  number : Nat
  offset : Nat
  reads : Bool
  writes : Bool
  appends : Bool

inductive Ending where
  | status (number : Nat)
  | signal (number : Nat)
  deriving DecidableEq

structure World where
  tree : Tree
  epoch : Time
  clock : Nat
  horizon : Nat
  pipes : List (Nat × Pipe)
  opened : List (Nat × OpenFile)
  named : List (Nat × Nat)
  serial : Nat
  nextProcess : Nat
  holders : List (Nat × List Endpoint)
  ended : List (Nat × Ending)
  sent : List (Nat × Nat)

namespace World

def start (tree : Tree) (epoch : Time) (firstProcess : Nat) : World where
  tree := tree
  epoch := epoch
  clock := 0
  horizon := 0
  pipes := []
  opened := []
  named := []
  serial := 0
  nextProcess := firstProcess
  holders := []
  ended := []
  sent := []

def time (w : World) : Time := w.epoch + (w.clock : Nat)

/-- the fineness of the time stamps of files, in microseconds. -/
def stampStep : Nat := 4000

def wall (w : World) : Time := w.epoch + (w.clock / stampStep * stampStep : Nat)

def pipe (w : World) (i : Nat) : Pipe := (w.pipes.lookup i).getD (.ofText [] none)

def setPipe (w : World) (i : Nat) (p : Pipe) : World :=
  { w with pipes := w.pipes.map fun e => if e.1 = i then (i, p) else e }

def setOpen (w : World) (i : Nat) (f : OpenFile) : World :=
  { w with opened := w.opened.map fun e => if e.1 = i then (i, f) else e }

def isEnd (i : Nat) (reading : Bool) (es : List Endpoint) : Bool :=
  es.any fun
    | .pipe j reads writes => j == i && (if reading then reads else writes)
    | _ => false

def isHeld (w : World) (apart : Option Nat) (i : Nat) (reading : Bool) : Bool :=
  w.holders.any fun h => some h.1 != apart && isEnd i reading h.2

def addPipe (w : World) (p : Pipe) : Nat × World :=
  (w.serial, { w with pipes := (w.serial, p) :: w.pipes, serial := w.serial + 1 })

def content (w : World) (number : Nat) : ByteArray :=
  match (w.tree.nodes[number]?).map Node.entry with
  | some (.file bytes) => bytes
  | _ => .empty

def setContent (w : World) (number : Nat) (bytes : ByteArray) : World :=
  match w.tree.nodes[number]? with
  | some ⟨.file _, mode, _⟩ => { w with tree := w.tree.setNode number ⟨.file bytes, mode, w.wall⟩ }
  | _ => w

/-- bytes with others in them from a place on; zeros fill a gap. -/
def overwritten (old : ByteArray) (start : Nat) (new : ByteArray) : ByteArray :=
  if start = old.size then old ++ new
  else
    let front := old.extract 0 start
    let gap := (List.replicate (start - old.size) (0 : UInt8)).toByteArray
    front ++ gap ++ new ++ old.extract (start + new.size) old.size

def writeOpen (w : World) (i : Nat) (cs : Chars) : World :=
  match w.opened.lookup i with
  | none => w
  | some f =>
    let old := w.content f.number
    let start := if f.appends then old.size else f.offset
    let new := (bytesOf cs).toByteArray
    (w.setContent f.number (overwritten old start new)).setOpen i { f with offset := start + new.size }

end World
end Regen.Shell
