import Regen.PathMap

/-!
# The content store

The bytes last generated for each of a fixed list of targets. A target is there from the start,
empty until something is written. A write that changes nothing is dropped; a write that changes
the bytes leaves a notification, spelled as the writer spelled the target.

* `ContentStore.declare`      the store of a list of targets;
* `ContentStore.get`          the bytes of a target;
* `ContentStore.set`          a write that notifies;
* `ContentStore.load`         a write that does not;
* `ContentStore.takeChanged`  the notifications since the last call, and the store without them.

Main statements: `keys_set`, `keys_load` (the targets never change), `get_set` (what a target
holds after a write), and for a list of writes to different paths `get_setAll` and
`changed_setAll` (each is judged by what was there before the first of them).
-/

namespace Regen

/-- generated bytes by target, and the notifications not yet taken. -/
structure ContentStore where
  contents : PathMap Bytes
  changed : List Path
  deriving Repr

namespace ContentStore

/-- the store of a list of targets; of several spellings of one target the first stands. -/
def declare (targets : List Path) : ContentStore :=
  ⟨targets.foldl (fun m p => m.insert p []) PathMap.empty, []⟩

def targets (s : ContentStore) : List Path := s.contents.keys

/-- the bytes of a target; none were produced for an undeclared one. -/
def get (s : ContentStore) (p : Path) : Bytes := (s.contents.find? p).getD []

def contains (s : ContentStore) (p : Path) : Bool := s.contents.contains p

def size (s : ContentStore) : Nat := s.targets.length

def changes (s : ContentStore) (p : Path) (bytes : Bytes) : Bool :=
  match s.contents.find? p with
  | none => false
  | some old => !(old == bytes)

/-- replaces the bytes of a declared target if they differ, and notifies. -/
def set (s : ContentStore) (p : Path) (bytes : Bytes) : ContentStore :=
  if s.changes p bytes then ⟨s.contents.update p bytes, s.changed ++ [p]⟩ else s

/-- replaces the bytes of a declared target silently. -/
def load (s : ContentStore) (p : Path) (bytes : Bytes) : ContentStore :=
  { s with contents := s.contents.update p bytes }

def setAll (s : ContentStore) (writes : List (Path × Bytes)) : ContentStore :=
  writes.foldl (fun s w => s.set w.1 w.2) s

def loadAll (s : ContentStore) (writes : List (Path × Bytes)) : ContentStore :=
  writes.foldl (fun s w => s.load w.1 w.2) s

/-- the notifications in the order of the writes, and the store without them. -/
def takeChanged (s : ContentStore) : List Path × ContentStore :=
  (s.changed, { s with changed := [] })

/-! ## what a write does -/

@[simp] theorem keys_set (s : ContentStore) (p : Path) (bytes : Bytes) :
    (s.set p bytes).targets = s.targets := by
  unfold set targets
  split
  · exact PathMap.keys_update ..
  · rfl

@[simp] theorem keys_load (s : ContentStore) (p : Path) (bytes : Bytes) :
    (s.load p bytes).targets = s.targets :=
  PathMap.keys_update ..

theorem find?_set (s : ContentStore) (p q : Path) (bytes : Bytes) :
    (s.set p bytes).contents.find? q =
      if Path.Same p q then (s.contents.find? q).map fun _ => bytes else s.contents.find? q := by
  unfold set
  by_cases hc : s.changes p bytes = true
  · rw [if_pos hc]
    exact PathMap.find?_update ..
  · rw [if_neg hc]
    by_cases hq : Path.Same p q
    · rw [if_pos hq]
      unfold changes at hc
      rw [PathMap.find?_congr _ hq] at hc
      cases h : s.contents.find? q with
      | none => rfl
      | some old =>
        rw [h] at hc
        simp at hc
        simp [hc]
    · rw [if_neg hq]

theorem get_set (s : ContentStore) (p q : Path) (bytes : Bytes) :
    (s.set p bytes).get q = if Path.Same p q ∧ s.contains q then bytes else s.get q := by
  unfold get contains PathMap.contains
  rw [find?_set]
  by_cases hq : Path.Same p q
  · cases h : s.contents.find? q <;> simp [hq]
  · simp [hq]

/-- a write changes something if it brings new bytes for a declared target. -/
theorem changes_iff (s : ContentStore) (p : Path) (bytes : Bytes) :
    s.changes p bytes = true ↔ s.contains p = true ∧ s.get p ≠ bytes := by
  unfold changes contains PathMap.contains get
  cases h : s.contents.find? p <;> simp

@[simp] theorem contains_set (s : ContentStore) (p q : Path) (bytes : Bytes) :
    (s.set p bytes).contains q = s.contains q := by
  unfold contains PathMap.contains
  rw [find?_set]
  split
  · exact Option.isSome_map
  · rfl

theorem changed_set (s : ContentStore) (p : Path) (bytes : Bytes) :
    (s.set p bytes).changed = s.changed ++ if s.changes p bytes then [p] else [] := by
  unfold set
  split
  · rfl
  · exact (List.append_nil _).symm

theorem changes_set (s : ContentStore) {p q : Path} (h : ¬ Path.Same p q) (b c : Bytes) :
    (s.set p b).changes q c = s.changes q c := by
  unfold changes
  rw [find?_set, if_neg h]

/-! ## lists of writes -/

theorem setAll_cons (s : ContentStore) (w : Path × Bytes) (ws : List (Path × Bytes)) :
    s.setAll (w :: ws) = (s.set w.1 w.2).setAll ws := rfl

@[simp] theorem keys_setAll (s : ContentStore) (ws : List (Path × Bytes)) :
    (s.setAll ws).targets = s.targets := by
  induction ws generalizing s with
  | nil => rfl
  | cons w ws ih => rw [setAll_cons, ih, keys_set]

@[simp] theorem contains_setAll (s : ContentStore) (ws : List (Path × Bytes)) (q : Path) :
    (s.setAll ws).contains q = s.contains q := by
  induction ws generalizing s with
  | nil => rfl
  | cons w ws ih => rw [setAll_cons, ih, contains_set]

section
variable {ws : List (Path × Bytes)}
  (distinct : (ws.map Prod.fst).Pairwise fun p q => ¬ Path.Same p q)
include distinct

/-- a target named in a list of writes holds the bytes written; any other one keeps its own. -/
theorem get_setAll (s : ContentStore) {q : Path} (hq : s.contains q = true) :
    (s.setAll ws).get q = (PathMap.lookup q ws).getD (s.get q) := by
  induction ws generalizing s with
  | nil => rfl
  | cons w ws ih =>
    obtain ⟨first, rest⟩ := List.pairwise_cons.1 distinct
    rw [setAll_cons, ih rest _ (by rw [contains_set]; exact hq), get_set]
    by_cases hw : Path.Same w.1 q
    · have hn : PathMap.lookup q ws = none :=
        (PathMap.lookup_eq_none_iff q ws).2 fun k hk h => first k hk (hw.trans h.symm)
      rw [hn, if_pos ⟨hw, hq⟩, PathMap.lookup, if_pos hw]
      rfl
    · rw [if_neg fun h => hw h.1, PathMap.lookup, if_neg hw]

/-- a list of writes notifies of those that change something, in their order. -/
theorem changed_setAll (s : ContentStore) :
    (s.setAll ws).changed =
      s.changed ++ (ws.filter fun w => s.changes w.1 w.2).map Prod.fst := by
  induction ws generalizing s with
  | nil => exact (List.append_nil _).symm
  | cons w ws ih =>
    obtain ⟨first, rest⟩ := List.pairwise_cons.1 distinct
    have hf : ws.filter (fun v => (s.set w.1 w.2).changes v.1 v.2)
        = ws.filter fun v => s.changes v.1 v.2 :=
      List.filter_congr fun v hv => s.changes_set (first v.1 (List.mem_map_of_mem hv)) _ _
    rw [setAll_cons, ih rest, changed_set, hf, List.append_assoc, List.filter_cons]
    split <;> rfl

end

end ContentStore
end Regen
