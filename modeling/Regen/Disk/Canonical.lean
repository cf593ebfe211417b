import Regen.Disk.Tree

/-!
# Paths without detours

A path has one form without links, dots and doubled slashes. How much of it must be there is for the asker to say.

* `Tree.Slack`        which parts of a path may be missing;
* `Tree.canonical`    the place that a path means, whether or not it is there.
-/

namespace Regen.Tree

inductive Slack where
  | none
  | last
  | missing
  deriving DecidableEq

def straighten (t : Tree) (slack : Slack) (links : Nat) (here : Place) : List Bytes → Except SystemError Place
  | [] => .ok here
  | name :: rest =>
    let stays := name = [] ∨ name = [Path.dot]
    if stays ∧ rest ≠ [] then straighten t slack links here rest
    else if stays then
      match t.node? here with
      | some n => if n.entry.isDirectory ∨ slack = .missing then .ok here else .error .notADirectory
      | none => if slack = .none then .error .noSuchFile else .ok here
    else if name = [Path.dot, Path.dot] then straighten t slack links here.dropLast rest
    else
      let next := here ++ [name]
      match (t.node? here).map Node.entry, t.doorway here with
      | some .directory, some e => if slack = .missing then straighten t slack links next rest else .error e
      | some .directory, .none =>
        match (t.node? next).map Node.entry with
        | some (.link target) =>
          match links with
          | 0 => .error .tooManyLinks
          | links + 1 => straighten t slack links (if target.isAbsolute then [] else here) (stepsOf target ++ rest)
        | some _ => straighten t slack links next rest
        | .none =>
          if slack = .missing ∨ (slack = .last ∧ rest.all fun s => s = [] ∨ s = [Path.dot]) then straighten t slack links next rest
          else .error .noSuchFile
      | some _, _ => if slack = .missing then straighten t slack links next rest else .error .notADirectory
      | .none, _ => if slack = .missing then straighten t slack links next rest else .error .noSuchFile
termination_by names => (links, names.length)

def canonical (t : Tree) (slack : Slack) (here : Place) (p : Path) : Except SystemError Place :=
  match refusal? p with
  | some e => .error e
  | .none => t.straighten slack linkLimit (origin here p) (stepsOf p)

end Regen.Tree
