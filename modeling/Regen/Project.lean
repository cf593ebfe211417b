import Regen.Environment

/-!
# Projects

What a compiler asks of the project it belongs to: who it is, whether it is being built, and
where the environment of its generators comes from.

* `BuildEnvironment`           the source of the environment;
* `BuildEnvironment.resolve`   the environment itself, given what the host inherited;
* `Project`                    a project as the host sees it at one moment;
* `ProjectRef`                 how a compiler remembers its project.
-/

namespace Regen

inductive BuildEnvironment where
  /-- the whole environment of the active build configuration. -/
  | configuration (vars : Environment)
  /-- no build configuration: the kit's changes of what the host inherited. -/
  | kit (changes : List Change)
  | unconfigured
  deriving DecidableEq, Repr

def BuildEnvironment.resolve (inherited : Environment) : BuildEnvironment → Environment
  | .configuration vars => vars
  | .kit changes => inherited.modify changes
  | .unconfigured => inherited

structure Project where
  id : Nat
  building : Bool
  environment : BuildEnvironment
  deriving Repr

/-- a compiler's hold on its project: `slot` is the host's name for the project object, `id` the
identity the project shows. Two projects may show one identity. -/
structure ProjectRef where
  slot : Nat
  id : Nat
  deriving DecidableEq, Repr

end Regen
