import Regen.Disk
import Regen.Environment
import Regen.Issue
import Regen.PathMap
import Regen.Text.Utf8

/-!
# Runs

One run takes the bytes of a source and makes the bytes of its targets.

* `Provider`     where the source bytes come from; a file is read when the run starts to work;
* `Output`       what a run made: target bytes and issues; no target bytes mean it failed;
* `Abort`        why a run ended without output;
* `Request`      what a runner is asked;
* `Completion`   what it answers.
-/

namespace Regen

inductive Provider where
  | bytes (bytes : Bytes)
  /-- a file, read when the run starts to work. -/
  | file (path : Path)
  deriving DecidableEq, Repr

/-- the source bytes, unless the file cannot be read. -/
def Provider.load (disk : Disk) : Provider → Option Bytes
  | .bytes b => some b
  | .file p => disk.read? p

/-- what a run made. -/
structure Output where
  contents : PathMap Bytes
  issues : List Issue
  deriving Repr

inductive Abort where
  | missingCommand
  | notExecutable (command : Path)
  | noContent
  | rejected
  | spawn (command : Path) (error : SystemError)
  | wait (error : SystemError)
  | panicked
  | cancelled
  deriving DecidableEq, Repr

/-- a path as it is shown: bytes that are no text are replaced. -/
def Path.text (p : Path) : String := Utf8.lossyText p.raw

namespace Abort

def message : Abort → String
  | missingCommand => "no generator command configured"
  | notExecutable command => "generator command is not executable: " ++ command.text
  | noContent => "source content unavailable"
  | rejected => "source content rejected by generator"
  | spawn command error => "failed to start " ++ command.text ++ ": " ++ error.message
  | wait error => "failed waiting for generator: " ++ error.message
  | panicked => "in-process transform panicked"
  | cancelled => "run cancelled"

end Abort

/-- how a run ended. -/
abbrev Outcome := Except Abort Output

structure Request where
  generation : Nat
  source : Path
  provider : Provider
  environment : Environment
  deriving Repr

structure Completion where
  generation : Nat
  outcome : Outcome

end Regen
