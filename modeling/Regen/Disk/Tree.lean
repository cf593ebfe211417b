import Regen.Disk
import Regen.Disk.Mode

/-!
# A tree of files

Files, directories and symbolic links held in memory, walked as an operating system walks them:
a name is looked up in a directory, `..` goes up from where the walk stands, a link is replaced
by the path it holds, and a path that goes on after a file is refused. A trailing slash asks for a
directory. Names are looked up only in directories whose mode lets their
owner do that, and changed only in those that their owner may write too.

What a name stands for has a number of its own. Several names may lead to one number, and what
has a number stays when its names go, so a file that is open outlives them.

* `Entry`, `Node`      what a name stands for, and when it was last modified;
* `Tree`               the numbers by their places, the nodes, and the current directory;
* `Tree.resolve`       the place a path leads to;
* `Tree.writeFile`     the tree with a file's bytes replaced, or with a new file;
* `Tree.removeFile`    the tree without a file.
-/

namespace Regen

abbrev Place := List Bytes

inductive Device where
  | null
  | zero
  /-- holds zeros too, and has no room for anything. -/
  | full
  | terminal
  deriving DecidableEq, Repr

inductive Entry where
  | file (bytes : ByteArray)
  | directory
  | link (target : Path)
  | tool (name : String)
  | device (kind : Device)
  | descriptor (number : Nat)
  | pipe

def Entry.ofBytes (bytes : Bytes) : Entry := .file bytes.toByteArray

def Entry.isDirectory : Entry → Bool
  | .directory => true
  | _ => false

structure Node where
  entry : Entry
  mode : Mode
  modified : Time

def Node.openDirectory (time : Time) : Node := ⟨.directory, .runnable, time⟩

def Node.link (target : Path) (time : Time) : Node := ⟨.link target, .full, time⟩

/-- the numbers by place, the nodes by number, and the current directory. The root has the number
zero. -/
structure Tree where
  names : List (Place × Nat)
  nodes : Array Node
  home : Place
  born : Time

namespace Tree

/-! ## places -/

def number? (t : Tree) (place : Place) : Option Nat := if place = [] then some 0 else t.names.lookup place

def node? (t : Tree) (place : Place) : Option Node :=
  if place = [] then some (.openDirectory t.born) else (t.names.lookup place).bind fun n => t.nodes[n]?

def setNode (t : Tree) (number : Nat) (n : Node) : Tree := { t with nodes := t.nodes.setIfInBounds number n }

def lead (t : Tree) (place : Place) (number : Nat) : Tree :=
  if (t.names.lookup place).isSome then
    { t with names := t.names.map fun e => if e.1 = place then (place, number) else e }
  else { t with names := t.names ++ [(place, number)] }

def install (t : Tree) (place : Place) (n : Node) : Tree :=
  { t with nodes := t.nodes.push n }.lead place t.nodes.size

/-- the tree with something at a place: under the number that the place leads to, or a new one. -/
def put (t : Tree) (place : Place) (n : Node) : Tree :=
  match t.number? place with
  | some number => t.setNode number n
  | none => t.install place n

def drop (t : Tree) (place : Place) : Tree :=
  { t with names := t.names.filter fun e => e.1 ≠ place }

def stamp (t : Tree) (place : Place) (time : Time) : Tree :=
  match t.node? place with
  | some n => if place = [] then t else t.put place { n with modified := time }
  | none => t

/-! ## walking a path -/

/-- the names a walk looks up; a trailing slash asks for a directory, and goes as an empty name. -/
def stepsOf (p : Path) : List Bytes :=
  let names := (Bytes.segments Path.slash p.raw).filter fun s => s ≠ []
  if p.raw.getLast? = some Path.slash then names ++ [[]] else names

def linkLimit : Nat := 40

def walk (t : Tree) (links : Nat) (here : Place) : List Bytes → Except SystemError Place
  | [] => .ok here
  | name :: rest =>
    match t.node? here with
    | some ⟨.directory, mode, _⟩ =>
      if name = [] then walk t links here rest
      else if ¬ mode.runs then .error .permissionDenied
      else if name = [Path.dot] then walk t links here rest
      else if name = [Path.dot, Path.dot] then walk t links here.dropLast rest
      else if 255 < name.length then .error .nameTooLong
      else match t.node? (here ++ [name]) with
        | none => .error .noSuchFile
        | some ⟨.link target, _, _⟩ =>
          match links with
          | 0 => .error .tooManyLinks
          | links + 1 => walk t links (if target.isAbsolute then [] else here) (stepsOf target ++ rest)
        | some _ => walk t links (here ++ [name]) rest
    | _ => .error .notADirectory
termination_by names => (links, names.length)

/-- why a path cannot even be walked. -/
def refusal? (p : Path) : Option SystemError :=
  if 0 ∈ p.raw then some .zeroInPath
  else if p.raw = [] then some .noSuchFile
  else if 4096 ≤ p.raw.length then some .nameTooLong
  else none

def origin (here : Place) (p : Path) : Place := if p.isAbsolute then [] else here

def resolveFrom (t : Tree) (here : Place) (p : Path) : Except SystemError Place :=
  match refusal? p with
  | some e => .error e
  | none => t.walk linkLimit (origin here p) (stepsOf p)

def resolve (t : Tree) (p : Path) : Except SystemError Place := t.resolveFrom t.home p

def findFrom (t : Tree) (here : Place) (p : Path) : Except SystemError Node :=
  match t.resolveFrom here p with
  | .error e => .error e
  | .ok place =>
    match t.node? place with
    | some n => .ok n
    | none => .error .noSuchFile

def find (t : Tree) (p : Path) : Except SystemError Node := t.findFrom t.home p

def bytesOf (n : Node) : Except SystemError Bytes :=
  match n.entry with
  | .file bytes => .ok bytes.toList
  | .directory => .error .isADirectory
  | .link _ => .error .tooManyLinks
  | _ => .ok []

def readFrom (t : Tree) (here : Place) (p : Path) : Except SystemError Bytes :=
  match t.findFrom here p with
  | .error e => .error e
  | .ok n => if n.mode.reads then bytesOf n else .error .permissionDenied

def disk (t : Tree) : Disk where
  modified p := (t.find p).toOption.map Node.modified
  read p := t.readFrom t.home p

/-- why a directory cannot be gone into; none if it can. -/
def doorway (t : Tree) (place : Place) : Option SystemError :=
  match t.node? place with
  | some ⟨.directory, mode, _⟩ => if mode.runs then none else some .permissionDenied
  | _ => some .notADirectory

/-! ## changing the tree -/

def slot (t : Tree) (here : Place) (p : Path) : Except SystemError (Place × Bytes) :=
  match refusal? p with
  | some e => .error e
  | none =>
    match (stepsOf p).getLast?, t.walk linkLimit (origin here p) (stepsOf p).dropLast with
    | none, _ => .error .isADirectory
    | some _, .error e => .error e
    | some name, .ok dir =>
      match t.node? dir with
      | some ⟨.directory, mode, _⟩ =>
        if name = [] then .error .isADirectory
        else if ¬ mode.runs then .error .permissionDenied
        else if name = [Path.dot] ∨ name = [Path.dot, Path.dot] then .error .isADirectory
        else if 255 < name.length then .error .nameTooLong
        else .ok (dir, name)
      | _ => .error .notADirectory

def isOpen (t : Tree) (dir : Place) : Bool := (t.node? dir).any fun n => n.mode.writes && n.mode.runs

/-- the place where a path leads once a file is made there: links that lead nowhere yet are followed,
at most so many of them. -/
def vacancy (t : Tree) : Nat → Place → Path → Except SystemError Place
  | links, here, p =>
    match t.slot here p with
    | .error e => .error e
    | .ok (dir, name) =>
      match t.node? (dir ++ [name]), links with
      | some ⟨.link target, _, _⟩, links + 1 => vacancy t links dir target
      | some ⟨.link _, _, _⟩, 0 => .error .tooManyLinks
      | _, _ => .ok (dir ++ [name])

/-- the tree with an empty file of a mode where a path leads, unless something is there, and the place. A new
file changes its directory. -/
def touch (t : Tree) (here : Place) (p : Path) (mode : Mode) (now : Time) : Except SystemError (Place × Tree) :=
  match t.resolveFrom here p with
  | .ok place => .ok (place, t)
  | .error e =>
    match t.vacancy linkLimit here p with
    | .error e => .error e
    | .ok place =>
      if (t.node? place).isSome then .error e
      else if ¬ t.isOpen place.dropLast then .error .permissionDenied
      else .ok (place, (t.install place ⟨.ofBytes [], mode, now⟩).stamp place.dropLast now)

/-- the directories on the way to a path's last name, made where they are missing. -/
def makeWay (t : Tree) (now : Time) (here : Place) : List Bytes → Tree
  | [] => t
  | [_] => t
  | name :: rest =>
    match t.walk linkLimit here [name] with
    | .ok place => makeWay t now place rest
    | .error _ =>
      makeWay ((t.put (here ++ [name]) (.openDirectory now)).stamp here now) now (here ++ [name]) rest

/-- the tree with a file of these bytes at a path of the current directory; the directories on
the way are made, a file that is there keeps its mode, and the file gets the given time. -/
def writeFile (t : Tree) (p : Path) (bytes : Bytes) (now time : Time) : Tree :=
  let t := t.makeWay now (origin t.home p) (stepsOf p)
  match t.touch t.home p .readable now with
  | .error _ => t
  | .ok (place, t) =>
    match t.node? place with
    | some ⟨.file _, mode, _⟩ => t.put place ⟨.ofBytes bytes, mode, time⟩
    | _ => t

def place (t : Tree) (p : Path) (n : Node) (now : Time) : Tree :=
  let t := t.makeWay now (origin t.home p) (stepsOf p)
  match t.slot t.home p with
  | .error _ => t
  | .ok (dir, name) => (t.install (dir ++ [name]) n).stamp dir now

def setModified (t : Tree) (p : Path) (time : Time) : Tree :=
  match t.resolve p with
  | .ok place => t.stamp place time
  | .error _ => t

/-- the tree without the file, or the link, that a path names; none if there is none. -/
def removeFrom (t : Tree) (here : Place) (p : Path) (now : Time) : Except SystemError Tree :=
  match t.slot here p with
  | .error e => .error e
  | .ok (dir, name) =>
    match t.node? (dir ++ [name]) with
    | none => .error .noSuchFile
    | some n =>
      if ¬ t.isOpen dir then .error .permissionDenied
      else if n.entry.isDirectory then .error .isADirectory
      else .ok ((t.drop (dir ++ [name])).stamp dir now)

def removeFile (t : Tree) (p : Path) (now : Time) : Tree × Bool :=
  match t.removeFrom t.home p now with
  | .ok t => (t, true)
  | .error _ => (t, false)

end Tree
end Regen
