/-!
# Latches

A run releases its latch when it has let go of what its owner lent it; the owner can wait for
that. Latches are handles too: releasing one clone releases them all, and a released latch stays
released.

* `Latches`            the handles given out so far;
* `Latches.release`    releases a latch;
* `Latches.wait`       waits while others may release latches, and says whether it was released.
-/

namespace Regen

/-- latches given out so far: the cell of each handle, and the released cells. -/
structure Latches where
  released : List Bool
  handles : List Nat
  deriving DecidableEq, Repr

namespace Latches

def none : Latches := ⟨[], []⟩

def new (s : Latches) : Latches :=
  ⟨s.released ++ [false], s.handles ++ [s.released.length]⟩

def clone (s : Latches) (latch : Nat) : Latches :=
  match s.handles[latch]? with
  | some cell => { s with handles := s.handles ++ [cell] }
  | .none => s

def release (s : Latches) (latch : Nat) : Latches :=
  match s.handles[latch]? with
  | some cell => { s with released := s.released.set cell true }
  | .none => s

def isReleased (s : Latches) (latch : Nat) : Bool :=
  match s.handles[latch]? with
  | some cell => s.released.getD cell false
  | .none => false

/-- waits for a latch up to a deadline before which others release the given latches; says
whether it was released. -/
def wait (s : Latches) (latch : Nat) (meanwhile : List Nat) : Latches × Bool :=
  let s := meanwhile.foldl release s
  (s, s.isReleased latch)

end Latches
end Regen
