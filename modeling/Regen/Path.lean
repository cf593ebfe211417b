import Regen.Bytes

/-!
# Paths

A path is a byte string read as a start and a list of pieces between slashes. The start is the
root if the path begins with a slash, and the current directory if it is `.` or begins with
`./`. Of the pieces, the empty ones and the inner `.` say nothing; the others are names, or `..`.

Two paths are *equal as paths* when they have the same components. So `a//b/.` equals `a/b`,
while `./a` differs from `a`, `a/../b` from `b` and `.` from the empty path.

* `Path.components`    what a path says;
* `Path.Same`          equality of components;
* `Path.fileName`      the last component, if it is a name;
* `Path.fileStem`      that name without its extension;
* `Path.withFileName`  the path with its last name replaced.

Main statement: `Same` is an equivalence that `fileName` respects (`Same.fileName_eq`).
-/

namespace Regen

structure Path where
  raw : Bytes
  deriving DecidableEq, Repr

/-- what a piece of a path says. -/
inductive Component where
  | root
  | current
  | parent
  | name (bytes : Bytes)
  deriving DecidableEq, Repr

namespace Path

def slash : UInt8 := 47

def dot : UInt8 := 46

def ofText (s : String) : Path := ⟨Bytes.ofText s⟩

/-! ## pieces -/

/-- where a path starts: at the root, at the current directory, or at neither. -/
def start (p : Path) : Option Component :=
  match p.raw with
  | [] => none
  | [b] => if b = slash then some .root else if b = dot then some .current else none
  | b :: c :: _ =>
    if b = slash then some .root else if b = dot ∧ c = slash then some .current else none

/-- how many bytes spell the start. -/
def startLength (p : Path) : Nat := if p.start.isSome then 1 else 0

def pieces (p : Path) : List Bytes := Bytes.segments slash (p.raw.drop p.startLength)

def ignored (piece : Bytes) : Bool := piece == [] || piece == [dot]

def component (piece : Bytes) : Component :=
  if piece = [dot, dot] then .parent else .name piece

def components (p : Path) : List Component :=
  p.start.toList ++ (p.pieces.filter fun s => !ignored s).map component

/-! ## equality -/

/-- two paths are the same when they have the same components. -/
def Same (p q : Path) : Prop := p.components = q.components

instance (p q : Path) : Decidable (Same p q) := inferInstanceAs (Decidable (_ = _))

theorem Same.refl (p : Path) : Same p p := rfl

theorem Same.symm {p q : Path} (h : Same p q) : Same q p := Eq.symm h

theorem Same.trans {p q r : Path} (h : Same p q) (h' : Same q r) : Same p r := Eq.trans h h'

theorem Same.left_iff {p q : Path} (h : Same p q) (r : Path) : Same p r ↔ Same q r :=
  ⟨h.symm.trans, h.trans⟩

theorem Same.right_iff {p q : Path} (h : Same p q) (r : Path) : Same r p ↔ Same r q :=
  ⟨fun h' => h'.trans h, fun h' => h'.trans h.symm⟩

/-! ## the last name -/

/-- the last component, if it is a name. -/
def fileName (p : Path) : Option Bytes :=
  match p.components.getLast? with
  | some (.name s) => some s
  | _ => none

theorem Same.fileName_eq {p q : Path} (h : Same p q) : p.fileName = q.fileName := by
  unfold fileName
  rw [show p.components = q.components from h]

/-- a name up to its last dot; the whole name if it has none or only a leading one. -/
def stem (name : Bytes) : Bytes :=
  match name.reverse.dropWhile (· ≠ dot) with
  | [] => name
  | [_] => name
  | _ :: before => before.reverse

def fileStem (p : Path) : Option Bytes := p.fileName.map stem

/-- pieces without those at the end that say nothing. -/
def dropIgnored (pieces : List Bytes) : List Bytes := (pieces.reverse.dropWhile ignored).reverse

def parent (p : Path) : Path :=
  ⟨p.raw.take p.startLength ++
    Bytes.join slash (dropIgnored (dropIgnored p.pieces).dropLast)⟩

def isAbsolute (p : Path) : Bool := p.start == some .root

/-- a path followed by another one; an absolute one replaces it. -/
def push (p q : Path) : Path :=
  if q.isAbsolute then q
  else match p.raw.getLast? with
    | none => q
    | some b => if b = slash then ⟨p.raw ++ q.raw⟩ else ⟨p.raw ++ slash :: q.raw⟩

/-- a path with its last name replaced; the name is put after a path that ends in none. -/
def withFileName (p : Path) (name : Bytes) : Path :=
  if p.fileName.isSome then p.parent.push ⟨name⟩ else p.push ⟨name⟩

end Path
end Regen
