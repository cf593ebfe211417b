import Regen.Toml.Document

/-!
# A document is a table

No key stands twice among the top-level entries of a document: each line brings one key that was not
there yet, or goes on with the entry of one that was.

* `Toml.Grown`   what one line makes of entries.

Main statement: `Toml.nodup_document?`.
-/

namespace Regen.Toml

inductive Grown (es : Entries) : Entries → Prop where
  | added (key : String) (n : Node) (h : es.lookup key = none) : Grown es (es ++ [(key, n)])
  | replaced (key : String) (n : Node) : Grown es (replaceKey key n es)

theorem keys_replaceKey (key : String) (n : Node) (es : Entries) :
    (replaceKey key n es).map Prod.fst = es.map Prod.fst := by
  rw [replaceKey, List.map_map]
  refine List.map_congr_left fun e _ => ?_
  show (if e.1 = key then (key, n) else e).1 = e.1
  split
  · exact (‹e.1 = key›).symm
  · rfl

section
variable {es fs : Entries} {key : String} {α : Type} {x : Option α} {node : α → Node}

theorem Grown.of_added (hkey : es.lookup key = none)
    (h : (x.map fun a => es ++ [(key, node a)]) = some fs) : Grown es fs := by
  obtain ⟨a, -, rfl⟩ := Option.map_eq_some_iff.1 h
  exact .added key (node a) hkey

theorem Grown.of_replaced (h : (x.map fun a => replaceKey key (node a) es) = some fs) :
    Grown es fs := by
  obtain ⟨a, -, rfl⟩ := Option.map_eq_some_iff.1 h
  exact .replaced key (node a)

theorem Grown.nodup (h : Grown es fs) (hes : (es.map Prod.fst).Nodup) :
    (fs.map Prod.fst).Nodup := by
  cases h with
  | added key n hkey =>
    have hnew : key ∉ es.map Prod.fst := by
      intro hmem
      obtain ⟨e, he, rfl⟩ := List.mem_map.1 hmem
      have hne := List.lookup_eq_none_iff.1 hkey e he
      simp at hne
    rw [List.map_append, List.nodup_append]
    refine ⟨hes, List.pairwise_singleton _ _, fun k hk l hl hkl => hnew ?_⟩
    have hl' : l = key := List.mem_singleton.1 hl
    rw [← hl', ← hkl]
    exact hk
  | replaced key n =>
    rw [keys_replaceKey]
    exact hes

/-! ## one line

Each of the four ways to write looks up the first key: if the entry is not there, it is added, and
otherwise its node is replaced, by one that was written further down. -/

theorem grown_assign {v : Value} {ks : List String} (h : assign v ks es = some fs) :
    Grown es fs := by
  unfold assign at h
  split at h
  · cases h
  next key =>
    split at h
    · cases h
    next hkey =>
      cases h
      exact .added key _ (Option.not_isSome_iff_eq_none.1 hkey)
  · split at h
    next hkey => exact .of_added hkey h
    · split at h
      · cases h
      · exact .of_replaced h
    · split at h
      · split at h
        · cases h
        · exact .of_replaced h
      · cases h
    · cases h

theorem grown_openTable {ks : List String} (h : openTable ks es = some fs) : Grown es fs := by
  unfold openTable at h
  split at h
  · cases h
  next key =>
    split at h
    next hkey =>
      cases h
      exact .added key _ hkey
    · cases h
      exact .replaced key _
    · cases h
  · split at h
    next hkey => exact .of_added hkey h
    · exact .of_replaced h
    · split at h
      · exact .of_replaced h
      · cases h
    · cases h

theorem grown_openElement {ks : List String} (h : openElement ks es = some fs) : Grown es fs := by
  unfold openElement at h
  split at h
  · cases h
  next key =>
    split at h
    next hkey =>
      cases h
      exact .added key _ hkey
    · cases h
      exact .replaced key _
    · cases h
  · split at h
    next hkey => exact .of_added hkey h
    · exact .of_replaced h
    · split at h
      · exact .of_replaced h
      · cases h
    · cases h

theorem grown_within {v : Value} {ks header : List String}
    (h : within (assign v ks) header es = some fs) : Grown es fs := by
  unfold within at h
  split at h
  · exact grown_assign h
  · split at h
    · exact .of_replaced h
    · split at h
      · exact .of_replaced h
      · cases h
    · cases h

end

theorem grown_line? {r r' : Reading} {cs rest : List Char} (h : line? r cs = some (r', rest)) :
    Grown r.entries r'.entries := by
  unfold line? at h
  split at h
  · simp only [Option.bind_eq_bind, Option.bind_eq_some_iff] at h
    obtain ⟨_, -, es, hes, _, -, ht⟩ := h
    cases ht
    exact grown_openElement hes
  · simp only [Option.bind_eq_bind, Option.bind_eq_some_iff] at h
    obtain ⟨_, -, es, hes, _, -, ht⟩ := h
    cases ht
    exact grown_openTable hes
  · simp only [Option.bind_eq_bind, Option.bind_eq_some_iff] at h
    obtain ⟨_, -, h⟩ := h
    split at h
    · simp only [Option.bind_eq_some_iff] at h
      obtain ⟨_, -, es, hes, _, -, ht⟩ := h
      cases ht
      exact grown_within hes
    · cases h

/-! ## all lines -/

theorem nodup_linesUpTo? {n : Nat} {r : Reading} {cs : List Char} {es : Entries}
    (h : linesUpTo? n r cs = some es) (hr : (r.entries.map Prod.fst).Nodup) :
    (es.map Prod.fst).Nodup := by
  induction n generalizing r cs with
  | zero => cases h
  | succ n ih =>
    unfold linesUpTo? at h
    split at h
    · cases h
      exact hr
    · split at h
      next hline => exact ih h ((grown_line? hline).nodup hr)
      · cases h

theorem keys_toEntries (es : Entries) : (toEntries es).map Prod.fst = es.map Prod.fst := by
  induction es with
  | nil => rfl
  | cons e es ih => exact congrArg (e.1 :: ·) ih

/-- **A document is a table**: none of its top-level keys stands there twice. -/
theorem nodup_document? {text : List Char} {entries : List (String × Value)}
    (h : document? text = some entries) : (entries.map Prod.fst).Nodup := by
  obtain ⟨es, hes, rfl⟩ := Option.map_eq_some_iff.1 h
  rw [keys_toEntries]
  exact nodup_linesUpTo? hes List.nodup_nil

end Regen.Toml
