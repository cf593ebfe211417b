import Regen.Proofs.Compiler.Notifications
import Regen.Proofs.ContentStore.Targets

/-!
# The targets of a compiler

The targets of a compiler are those it was born with, all life long; what is loaded, written or
taken changes their bytes and nothing else. A path is a target if it is one of the paths that were
declared, in whichever spelling.

Main statements: `Setup.targets_after` and `Setup.hasTarget_after`.
-/

namespace Regen

namespace ContentStore

theorem targets_loadAll (s : ContentStore) (ws : List (Path × Bytes)) :
    (s.loadAll ws).targets = s.targets := by
  induction ws generalizing s with
  | nil => rfl
  | cons w ws ih => exact (ih (s.load w.1 w.2)).trans (keys_load ..)

end ContentStore

namespace Compiler

theorem targets_step (c : Compiler) (e : Event) : (c.step e).targets = c.targets := by
  cases he : e.drains with
  | false =>
    have hs : (c.step e).targets = (c.store.setAll (c.writes e)).targets :=
      congrArg ContentStore.targets (c.store_step he)
    rw [hs, ContentStore.keys_setAll]
    rfl
  | true =>
    unfold Event.drains at he
    split at he
    · rfl
    · exact Bool.noConfusion he

theorem targets_after (c : Compiler) (es : List Event) : (c.after es).targets = c.targets := by
  induction es generalizing c with
  | nil => rfl
  | cons e es ih => exact (ih (c.step e)).trans (c.targets_step e)

end Compiler

namespace Setup

theorem targets_after (s : Setup) (es : List Event) :
    (s.after es).targets = (ContentStore.declare s.targets).targets :=
  (s.compiler.targets_after es).trans (ContentStore.targets_loadAll _ _)

theorem hasTarget_after (s : Setup) (es : List Event) (p : Path) :
    (s.after es).hasTarget p = true ↔ ∃ t ∈ s.targets, Path.Same t p := by
  have ht : (s.after es).store.targets = (ContentStore.declare s.targets).targets :=
    s.targets_after es
  unfold Compiler.hasTarget
  rw [ContentStore.contains_iff, ht, ← ContentStore.contains_iff, ContentStore.contains_declare]

end Setup
end Regen
