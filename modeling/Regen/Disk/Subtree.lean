import Regen.Disk.Tree
import Regen.Environment

/-!
# Parts of a tree

A directory goes with all that is below it: when it is removed, when it moves, and when it is
copied.

* `Tree.namesAt`    the names in a directory;
* `Tree.prune`      the tree without a place and what is below it;
* `Tree.move`       the tree with a place and what is below it somewhere else;
* `Tree.join`       the tree with one more name for a node.
-/

namespace Regen.Tree

def namesAt (t : Tree) (place : Place) : List Bytes :=
  let here := t.names.filterMap fun n => if n.1.dropLast = place then n.1.getLast? else none
  here.mergeSort fun a b => !Bytes.before b a

def depth (t : Tree) : Nat := t.names.length + 1

def prune (t : Tree) (place : Place) (now : Time) : Tree :=
  { t with names := t.names.filter fun n => !place.isPrefixOf n.1 }.stamp place.dropLast now

def move (t : Tree) (source target : Place) (now : Time) : Tree :=
  let moved := (t.names.filter fun n => source.isPrefixOf n.1).map fun n =>
    (target ++ n.1.drop source.length, n.2)
  let rest := (t.prune target now).prune source now
  { rest with names := rest.names ++ moved }.stamp target.dropLast now

def add (t : Tree) (place : Place) (n : Node) (now : Time) : Tree :=
  (t.install place n).stamp place.dropLast now

def join (t : Tree) (place : Place) (number : Nat) (now : Time) : Tree :=
  (t.lead place number).stamp place.dropLast now

end Regen.Tree
