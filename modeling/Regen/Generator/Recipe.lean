import Regen.Generator
import Regen.Issue.Diagnostic

/-!
# Generators described by data

Most generators differ only in their program, in what they are fed, and in which target their
output is for. A *recipe* says just that.

* `Feed`                what goes to standard input;
* `Collect`             which targets get what was printed;
* `Recipe`              the description;
* `Recipe.generator`    the generator it stands for, given the targets.
-/

namespace Regen

inductive Feed where
  | nothing
  | source
  | bytes (bytes : Bytes)
  deriving DecidableEq, Repr

inductive Collect where
  | first
  | all
  /-- the first target gets standard output, the second one the error stream. -/
  | both
  | nothing
  deriving DecidableEq, Repr

structure Recipe where
  command : Option Path
  workingDirectory : Option Path
  arguments : List Bytes
  feed : Feed
  refused : Option Bytes
  acceptFailure : Bool
  collect : Collect
  reportsIssues : Bool
  /-- whether everything but the program and the reading of its output is left as it comes. -/
  simple : Bool
  deriving Repr

namespace Feed

def input (f : Feed) (source : Bytes) : Option Bytes :=
  match f with
  | .nothing => none
  | .source => some source
  | .bytes b => some b

end Feed

namespace Collect

def assign (c : Collect) (targets : List Path) (out : ChildOutput) : List (Path × Bytes) :=
  match c with
  | .first => (targets.take 1).map fun t => (t, out.stdout)
  | .all => targets.map fun t => (t, out.stdout)
  | .both => targets.zip [out.stdout, out.stderr]
  | .nothing => []

end Collect

namespace Recipe

def result (r : Recipe) (targets : List Path) (out : ChildOutput) : PathMap Bytes :=
  if out.status.isSuccess || r.acceptFailure then .ofList (r.collect.assign targets out)
  else .empty

def takes (r : Recipe) (source : Bytes) : Bool :=
  match r.refused with
  | some start => !start.isPrefixOf source
  | none => true

def generator (r : Recipe) (targets : List Path) : Generator :=
  if r.simple then .simple r.command (r.result targets)
  else
    { command := r.command
      workingDirectory := r.workingDirectory
      arguments := r.arguments
      prepare := r.takes
      input := r.feed.input
      result := r.result targets
      issues := fun stderr => if r.reportsIssues then Diagnostic.report stderr else [] }

end Recipe
end Regen
