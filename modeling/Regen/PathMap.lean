import Regen.Path

/-!
# Maps keyed by paths

A map from paths to values that keeps the order in which keys were first inserted and the
spelling of the first insertion. Keys are compared as paths, and no two keys are the same path.

* `PathMap.find?`     the value of a key;
* `PathMap.insert`    puts a value at a key: in place if the key is there, at the end if not;
* `PathMap.update`    replaces the value of a key that is there;
* `PathMap.keys`      the keys in order.

Main statements: `find?_insert`, `find?_update` (what a key holds after a write),
`keys_update` (replacing a value keeps the keys) and `keys_insert` (a new key goes last).
-/

namespace Regen

structure PathMap (α : Type) where
  entries : List (Path × α)
  distinct : (entries.map Prod.fst).Pairwise fun p q => ¬ Path.Same p q
  deriving Repr

namespace PathMap

variable {α : Type}

def empty : PathMap α := ⟨[], .nil⟩

/-- the value of the first entry whose key is the same path. -/
def lookup (p : Path) : List (Path × α) → Option α
  | [] => none
  | (k, v) :: es => if Path.Same k p then some v else lookup p es

/-- the entries with the value at a key replaced. -/
def replace (p : Path) (v : α) : List (Path × α) → List (Path × α)
  | [] => []
  | (k, w) :: es => if Path.Same k p then (k, v) :: es else (k, w) :: replace p v es

def find? (m : PathMap α) (p : Path) : Option α := lookup p m.entries

def contains (m : PathMap α) (p : Path) : Bool := (m.find? p).isSome

def keys (m : PathMap α) : List Path := m.entries.map Prod.fst

theorem map_fst_replace (p : Path) (v : α) (es : List (Path × α)) :
    (replace p v es).map Prod.fst = es.map Prod.fst := by
  induction es with
  | nil => rfl
  | cons e es ih =>
    obtain ⟨k, w⟩ := e
    by_cases hk : Path.Same k p <;> simp [replace, hk, ih]

theorem lookup_eq_none_iff (p : Path) (es : List (Path × α)) :
    lookup p es = none ↔ ∀ k ∈ es.map Prod.fst, ¬ Path.Same k p := by
  induction es with
  | nil => simp [lookup]
  | cons e es ih =>
    obtain ⟨k, v⟩ := e
    by_cases hk : Path.Same k p
    · simp [lookup, hk]
    · simp only [lookup, hk, if_false, ih, List.map_cons, List.forall_mem_cons, not_false_eq_true,
        true_and]

/-- replaces the value of a key; a path that is no key changes nothing. -/
def update (m : PathMap α) (p : Path) (v : α) : PathMap α :=
  ⟨replace p v m.entries, by rw [map_fst_replace]; exact m.distinct⟩

/-- a key that is not there yet can go last. -/
theorem distinct_append (m : PathMap α) (p : Path) (v : α) (h : ¬ m.contains p = true) :
    ((m.entries ++ [(p, v)]).map Prod.fst).Pairwise fun p q => ¬ Path.Same p q := by
  have hn : lookup p m.entries = none := by simpa [contains, find?] using h
  rw [List.map_append, List.pairwise_append]
  refine ⟨m.distinct, List.pairwise_singleton _ _, fun k hk q hq => ?_⟩
  rw [List.map_singleton, List.mem_singleton] at hq
  exact hq ▸ (lookup_eq_none_iff p m.entries).1 hn k hk

/-- puts a value at a key: in place if the key is there, at the end if not. -/
def insert (m : PathMap α) (p : Path) (v : α) : PathMap α :=
  if h : m.contains p = true then m.update p v
  else ⟨m.entries ++ [(p, v)], m.distinct_append p v h⟩

/-- the map that a list of pairs spells; of two values for one key the later one stands. -/
def ofList (ps : List (Path × α)) : PathMap α := ps.foldl (fun m p => m.insert p.1 p.2) empty

/-! ## what a key holds -/

theorem lookup_congr {p q : Path} (h : Path.Same p q) (es : List (Path × α)) :
    lookup p es = lookup q es := by
  induction es with
  | nil => rfl
  | cons e es ih =>
    obtain ⟨k, v⟩ := e
    simp only [lookup, h.right_iff k, ih]

theorem lookup_replace (p q : Path) (v : α) (es : List (Path × α)) :
    lookup q (replace p v es) =
      if Path.Same p q then (lookup q es).map fun _ => v else lookup q es := by
  induction es with
  | nil => simp [replace, lookup]
  | cons e es ih =>
    obtain ⟨k, w⟩ := e
    by_cases hk : Path.Same k p
    · by_cases hq : Path.Same p q
      · have := hk.trans hq
        simp [replace, lookup, hk, hq, this]
      · have : ¬ Path.Same k q := fun h => hq (hk.symm.trans h)
        simp [replace, lookup, hk, hq, this]
    · by_cases hq : Path.Same p q
      · have : ¬ Path.Same k q := fun h => hk (h.trans hq.symm)
        simp [replace, lookup, hk, hq, this, ih]
      · by_cases h : Path.Same k q <;> simp [replace, lookup, hk, hq, h, ih]

theorem lookup_append (p : Path) (es fs : List (Path × α)) :
    lookup p (es ++ fs) = (lookup p es).or (lookup p fs) := by
  induction es with
  | nil => rfl
  | cons e es ih =>
    obtain ⟨k, v⟩ := e
    by_cases hk : Path.Same k p <;> simp [lookup, hk, ih]

theorem find?_congr (m : PathMap α) {p q : Path} (h : Path.Same p q) : m.find? p = m.find? q :=
  lookup_congr h m.entries

theorem find?_update (m : PathMap α) (p q : Path) (v : α) :
    (m.update p v).find? q =
      if Path.Same p q then (m.find? q).map fun _ => v else m.find? q :=
  lookup_replace p q v m.entries

theorem find?_insert (m : PathMap α) (p q : Path) (v : α) :
    (m.insert p v).find? q = if Path.Same p q then some v else m.find? q := by
  unfold insert
  by_cases hc : m.contains p = true
  · rw [dif_pos hc, find?_update]
    by_cases hq : Path.Same p q
    · rw [if_pos hq, if_pos hq, ← find?_congr m hq]
      obtain ⟨w, hw⟩ := Option.isSome_iff_exists.1 hc
      rw [hw]
      rfl
    · rw [if_neg hq, if_neg hq]
  · rw [dif_neg hc]
    have hn : m.find? p = none := by simpa [contains] using hc
    show lookup q (m.entries ++ [(p, v)]) = _
    rw [lookup_append]
    by_cases hq : Path.Same p q
    · have : lookup q m.entries = none := by rw [← lookup_congr hq]; exact hn
      simp [this, lookup, hq]
    · simp [lookup, hq, find?]

/-! ## the keys -/

theorem keys_update (m : PathMap α) (p : Path) (v : α) : (m.update p v).keys = m.keys :=
  map_fst_replace p v m.entries

theorem keys_insert (m : PathMap α) (p : Path) (v : α) :
    (m.insert p v).keys = if m.contains p then m.keys else m.keys ++ [p] := by
  unfold insert
  split
  · exact keys_update m p v
  · simp [keys]

end PathMap
end Regen
