import Regen.Shell.Tools.Columns
import Regen.Shell.Tools.Count
import Regen.Shell.Tools.Directory
import Regen.Shell.Tools.EditFiles
import Regen.Shell.Tools.Expression
import Regen.Shell.Tools.Flow
import Regen.Shell.Tools.Permissions
import Regen.Shell.Tools.Neighbours
import Regen.Shell.Tools.Printing
import Regen.Shell.Tools.Reversed
import Regen.Shell.Tools.SearchFiles
import Regen.Shell.Tools.Sorting
import Regen.Shell.Tools.Testing
import Regen.Shell.Tools.Links
import Regen.Shell.Tools.Moves
import Regen.Shell.Tools.Translate

/-!
# Programs that come with the system

The small programs that scripts call, by name.

* `Tools.table`           those that read what they need before they write;
* `Tools.flows`           the others;
* `Tools.run?`            a program of a name;
* `Tools.lossOf`          a program that could not write all it had to;
* `Tools.programNames`    the names of all programs, with those that start others.
-/

namespace Regen.Shell.Tools

def table : List (String × Tool) :=
  [("tr", tr), ("head", head), ("wc", wc), ("sort", sort), ("uniq", uniq), ("cut", cut), ("paste", paste),
   ("expr", expr), ("rev", rev), ("tac", tac), ("echo", echo), ("touch", touch), ("rm", rm), ("mkdir", mkdir),
   ("rmdir", rmdir), ("cp", cp), ("mv", mv), ("ln", ln), ("readlink", readlink), ("chmod", chmod), ("ls", ls),
   ("pwd", pwd), ("basename", basename), ("dirname", dirname), ("printenv", printenv),
   ("printf", printf), ("test", testing), ("[", bracketed),
   ("true", fun _ m => (m, 0)), ("false", fun _ m => (m, 1))]

def flows : List (String × Flow) :=
  [("cat", cat), ("tail", tailOn), ("tee", tee), ("grep", grep), ("sed", sed), ("seq", seq), ("yes", yes),
   ("sleep", sleep)]

def run? (name : String) : Option Flow :=
  (flows.lookup name).orElse fun _ => (table.lookup name).map fun t n args =>
    if isLocal name args then piecewise t args n else atOnce t n args

def lossStatus (name : String) : Nat :=
  match name with
  | "sort" | "grep" | "ls" | "printenv" => 2
  | "expr" => 3
  | "sed" => 4
  | "env" => 125
  | _ => 1

def lossOf (name : String) (status : Nat) (m : Machine) (e : SystemError) : Machine × Nat :=
  let say (phrase : String) (reason : String) : Machine × Nat :=
    (accuse m (phrase ++ reason).toList, lossStatus name)
  let reason := ": " ++ words e
  let isClosed : Bool := m.endpoint 1 = .closed
  match name with
  | "sort" => (accuse (say "fflush failed: 'standard output'" reason).1 "write error".toList, lossStatus name)
  | "sed" =>
    if isClosed then say "couldn't close stdout" reason
    else if e = .code 9 then (m, status)
    else say "couldn't flush stdout" reason
  | "yes" => say "standard output" reason
  | "tee" => if e = Machine.brokenPipe then (m, status) else say "'standard output'" reason
  | "rev" => if e = .code 9 ∨ e = Machine.brokenPipe then (m, status) else say "write error" reason
  | "wc" | "rmdir" => say "write error" (if isClosed then reason else "")
  | _ => say "write error" reason

def programNames : List String := table.map Prod.fst ++ flows.map Prod.fst ++ ["sh", "dash", "env"]

end Regen.Shell.Tools
