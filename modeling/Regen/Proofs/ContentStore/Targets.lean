import Mathlib.Data.List.Basic
import Mathlib.Tactic.Push
import Regen.ContentStore

/-!
# The targets of a store

A store is declared with a list of paths, in which one target may stand several times and in several
spellings. It keeps the first of them, in the order of the list.

* `Path.firsts`   a list of paths in which each is spelled as it was first.

Main statements: `ContentStore.targets_declare` and `find?_declare`.
-/

namespace Regen

def Path.firsts : List Path → List Path
  | [] => []
  | p :: ps => p :: (firsts ps).filter fun q => ¬ Same p q

theorem Path.firsts_subset (ps : List Path) : firsts ps ⊆ ps := by
  induction ps with
  | nil => exact List.Subset.refl _
  | cons p ps ih =>
    refine List.cons_subset_cons p fun q hq => ih ?_
    exact List.mem_of_mem_filter hq

theorem Path.exists_firsts {ps : List Path} {q : Path} (hq : q ∈ ps) :
    ∃ p ∈ firsts ps, Same p q := by
  induction ps with
  | nil => exact absurd hq List.not_mem_nil
  | cons p ps ih =>
    by_cases hp : Same p q
    · exact ⟨p, List.mem_cons_self, hp⟩
    · have hq' : q ∈ ps := (List.mem_cons.1 hq).resolve_left fun h => hp (h ▸ Same.refl q)
      obtain ⟨r, hr, hrq⟩ := ih hq'
      have hpr : ¬ Same p r := fun h => hp (h.trans hrq)
      exact ⟨r, List.mem_cons_of_mem _ (List.mem_filter.2 ⟨hr, by simpa using hpr⟩), hrq⟩

namespace PathMap

variable {α : Type}

theorem contains_insert (m : PathMap α) (p q : Path) (v : α) :
    (m.insert p v).contains q = true ↔ Path.Same p q ∨ m.contains q = true := by
  unfold contains
  rw [find?_insert]
  by_cases h : Path.Same p q <;> simp [h]

end PathMap

namespace ContentStore

theorem contains_iff (s : ContentStore) (p : Path) :
    s.contains p = true ↔ ∃ k ∈ s.targets, Path.Same k p := by
  have hnone := PathMap.lookup_eq_none_iff p s.contents.entries
  unfold contains PathMap.contains PathMap.find?
  rw [← Option.ne_none_iff_isSome, ne_eq, hnone]
  push Not
  rfl

theorem targets_declare (ts : List Path) : (declare ts).targets = Path.firsts ts := by
  have hall : ∀ m : PathMap Bytes, (ts.foldl (fun m p => m.insert p []) m).keys
      = m.keys ++ (Path.firsts ts).filter fun q => ¬ m.contains q = true := by
    induction ts with
    | nil => exact fun m => (List.append_nil _).symm
    | cons t ts ih =>
      intro m
      rw [List.foldl_cons, ih, PathMap.keys_insert, Path.firsts]
      have hf : (Path.firsts ts).filter (fun q => ¬ (m.insert t []).contains q = true)
          = ((Path.firsts ts).filter fun q => ¬ Path.Same t q).filter
              fun q => ¬ m.contains q = true := by
        rw [List.filter_filter]
        refine List.filter_congr fun q _ => ?_
        rw [← Bool.decide_and, decide_eq_decide, PathMap.contains_insert, not_or, and_comm]
      rw [hf]
      by_cases ht : m.contains t = true
      · rw [if_pos ht, List.filter_cons_of_neg (by simpa using ht)]
      · rw [if_neg ht, List.filter_cons_of_pos (by simpa using ht), List.append_assoc]
        rfl
  exact (hall .empty).trans (List.filter_eq_self.2 fun q _ => rfl)

theorem find?_declare (ts : List Path) (p : Path) :
    (declare ts).contents.find? p = if ∃ t ∈ ts, Path.Same t p then some [] else none := by
  have hall : ∀ m : PathMap Bytes, (ts.foldl (fun m p => m.insert p []) m).find? p
      = if ∃ t ∈ ts, Path.Same t p then some [] else m.find? p := by
    induction ts with
    | nil => exact fun m => (if_neg (by simp)).symm
    | cons t ts ih =>
      intro m
      rw [List.foldl_cons, ih, PathMap.find?_insert]
      by_cases hts : ∃ t ∈ ts, Path.Same t p
      · rw [if_pos hts, if_pos ((List.exists_mem_cons_iff _ _ _).2 (.inr hts))]
      · rw [if_neg hts]
        refine if_congr ?_ rfl rfl
        rw [List.exists_mem_cons_iff, or_iff_left hts]
  exact hall .empty

theorem contains_declare (ts : List Path) (p : Path) :
    (declare ts).contains p = true ↔ ∃ t ∈ ts, Path.Same t p := by
  unfold contains PathMap.contains
  rw [find?_declare]
  split <;> simp [*]

/-- nothing has been produced for the targets of a new store. -/
theorem get_declare (ts : List Path) (p : Path) : (declare ts).get p = [] := by
  unfold get
  rw [find?_declare]
  split <;> rfl

end ContentStore
end Regen
