import Regen.Issue.Diagnostic
import Regen.Transform

/-!
# Stock transforms

Simple transforms over given targets. Each says what the targets get from the bytes of the source.

* `Transform.upper`, `copyFirst`, `named`   targets made from the bytes;
* `Transform.empty`, `report`, `fail`       with and without output, with and without issues;
* `Transform.undeclared`                    output for a path that nobody declared;
* `Transform.bang`                          panics at a leading exclamation mark.
-/

namespace Regen.Transform

def everywhere (targets : List Path) (bytes : Bytes) (issues : List Issue) : Output :=
  ⟨.ofList (targets.map fun t => (t, bytes)), issues⟩

def upper (targets : List Path) : Transform := fun _ b => some (everywhere targets b.upperAscii [])

def copyFirst (targets : List Path) : Transform := fun _ b => some (everywhere (targets.take 1) b [])

def empty : Transform := fun _ _ => some ⟨.empty, []⟩

def report (targets : List Path) : Transform :=
  fun _ b => some (everywhere targets b (Diagnostic.report b))

/-- no target gets anything; the bytes are read as diagnostics. -/
def fail : Transform := fun _ b => some ⟨.empty, Diagnostic.report b⟩

def named (targets : List Path) : Transform :=
  fun source b => some (everywhere targets (source.raw ++ 61 :: b) [])

def undeclared : Transform := fun _ b => some (everywhere [Path.ofText "nowhere.h"] b [])

/-- every target gets the bytes, unless they start with an exclamation mark. -/
def bang (targets : List Path) : Transform :=
  fun _ b => if b.head? = some 33 then none else some (everywhere targets b [])

end Regen.Transform
