import Regen.Shell.Builtins.Limits
import Regen.Shell.Builtins.Names
import Regen.Shell.Builtins.Place
import Regen.Shell.Builtins.Processes
import Regen.Shell.Builtins.Text
import Regen.Shell.Builtins.Variables

/-!
# Commands of the shell itself

The commands that run no other command, by name. Those that do, and those that change the course of a
script, are part of running it.

* `Builtins.table`    them all, by name.
-/

namespace Regen.Shell.Builtins

def table : List (String × Builtin) :=
  [(":", fun _ m => (m, .ok 0)), ("true", fun _ m => (m, .ok 0)), ("false", fun _ m => (m, .ok 1)),
   ("echo", echo), ("printf", printf), ("test", test), ("[", bracket), ("getopts", getopts),
   ("export", publish), ("readonly", protect), ("local", localAssign), ("unset", unset), ("set", set),
   ("shift", shift), ("trap", trap), ("kill", kill), ("jobs", jobs), ("fg", foreground),
   ("bg", foreground), ("cd", cd), ("chdir", cd), ("pwd", pwd), ("umask", umask), ("ulimit", ulimit), ("times", times),
   ("alias", Names.define), ("unalias", Names.unalias), ("hash", Names.hash), ("type", Names.type),
   ("command", Names.locate)]

end Regen.Shell.Builtins
