import Regen.Run

/-!
# Generators that are programs

A *generator* says how to start a program that makes the targets of a source, what to write to its
standard input, and how to read what it printed. Its hooks are asked by the run, each at most
once.

* `ExitStatus`, `ChildOutput`   how a child process ended and what it printed;
* `Generator`                   the program and the hooks;
* `Generator.simple`            a generator that overrides nothing but how its output is read.
-/

namespace Regen

inductive ExitStatus where
  | code (number : Nat)
  | signal (number : Nat)
  deriving DecidableEq, Repr

/-- whether a child process ended well. -/
def ExitStatus.isSuccess (s : ExitStatus) : Bool := s == .code 0

structure ChildOutput where
  status : ExitStatus
  stdout : Bytes
  stderr : Bytes
  deriving DecidableEq, Repr

structure Generator where
  /-- the program; none disables runs. -/
  command : Option Path
  workingDirectory : Option Path
  arguments : List Bytes
  /-- looks at the source before the program is started; `false` refuses it. -/
  prepare : Bytes → Bool
  /-- what is written to standard input, made from the source. -/
  input : Bytes → Option Bytes
  /-- the targets the output stands for; none means that the generation failed. -/
  result : ChildOutput → PathMap Bytes
  issues : Bytes → List Issue

namespace Generator

def simple (command : Option Path) (result : ChildOutput → PathMap Bytes) : Generator where
  command := command
  workingDirectory := none
  arguments := []
  prepare _ := true
  input _ := none
  result := result
  issues _ := []

/-- the program to start: no path and the empty path both mean none. -/
def command? (g : Generator) : Option Path := g.command.filter fun p => p.raw ≠ []

end Generator
end Regen
