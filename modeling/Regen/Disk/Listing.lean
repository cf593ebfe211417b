import Regen.Disk.Tree

/-!
# Listings of files

A tree can be laid out from a listing: every entry is made in order, with the directories on its
way, and only then do files and directories get their time stamps, so that making one entry does
not disturb the time of another.

* `Listed`      one entry of a listing;
* `Tree.bare`   an empty current directory;
* `Tree.lay`    a tree with a listing laid out in its current directory.
-/

namespace Regen

inductive Listed where
  | file (path : Path) (bytes : Bytes) (executable : Bool) (time : Time)
  | directory (path : Path) (time : Time)
  | link (path : Path) (target : Path)
  deriving Repr

namespace Tree

def workPlace : Place := [Bytes.ofText "tmp", Bytes.ofText "work"]

/-- an empty current directory and the directories above it: the root is old, the others are new. -/
def bare (born now : Time) : Tree :=
  ⟨[(workPlace.take 1, 1), (workPlace, 2)], #[.openDirectory born, .openDirectory now, .openDirectory now],
    workPlace, born⟩

def makeListed (now : Time) (t : Tree) : Listed → Tree
  | .file p bytes x _ =>
    let node : Node := ⟨.ofBytes bytes, if x then .runnable else .readable, now⟩
    match t.resolve p with
    | .ok place => t.put place node
    | .error _ =>
      let t := t.makeWay now (origin t.home p) (stepsOf p)
      match t.vacancy linkLimit t.home p with
      | .ok place => (t.put place node).stamp place.dropLast now
      | .error _ => t
  | .directory p _ =>
    if (t.resolve p).toOption.isSome then t else t.place p (.openDirectory now) now
  | .link p target => t.place p (.link target now) now

def stampListed (t : Tree) : Listed → Tree
  | .file p _ _ time => t.setModified p time
  | .directory p time => t.setModified p time
  | .link _ _ => t

def lay (t : Tree) (entries : List Listed) (now : Time) : Tree :=
  entries.foldl stampListed (entries.foldl (makeListed now) t)

end Tree
end Regen
