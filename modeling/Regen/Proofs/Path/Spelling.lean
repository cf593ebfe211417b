import Mathlib.Logic.Relation
import Regen.Path

/-!
# Spellings of a path

Two paths are the same if they have the same components. Here this is said of the spellings alone: a
slash may be doubled, a dot may be put between two slashes or after the last one, and a path that is
not empty may end with a slash; and nothing else. A leading dot and the name `..` always count.

* `Path.words`       the pieces between slashes that say something;
* `Path.Respells`    one such change;
* `Path.canonical`   the shortest spelling of components.

Main statements: `components_append` (the components of a path put together with a slash),
`respells_canonical` and `same_iff_respelled`.
-/

namespace Regen

def Component.spelling : Component → Bytes
  | .root => [Path.slash]
  | .current => [Path.dot]
  | .parent => [Path.dot, Path.dot]
  | .name bytes => bytes

namespace Path

def words (bs : Bytes) : List Bytes := (Bytes.segments slash bs).filter fun s => !ignored s

theorem words_append (a b : Bytes) : words (a ++ slash :: b) = words a ++ words b := by
  rw [words, Bytes.segments_append, List.filter_append]
  rfl

theorem words_slash (b : Bytes) : words (slash :: b) = words b := words_append [] b

theorem words_dot_slash (b : Bytes) : words (dot :: slash :: b) = words b := words_append [dot] b

/-! ## components -/

theorem components_eq (p : Path) :
    p.components = p.start.toList ++ (words (p.raw.drop p.startLength)).map component := rfl

theorem components_slash (b : Bytes) :
    components ⟨slash :: b⟩ = .root :: (words b).map component := by
  cases b <;> rfl

theorem start_append (x : UInt8) (a b : Bytes) :
    start ⟨x :: (a ++ slash :: b)⟩ = start ⟨x :: a⟩ := by
  cases a with
  | nil =>
    show (if x = slash then _ else if x = dot ∧ slash = slash then _ else _) = start ⟨[x]⟩
    simp only [and_true]
    rfl
  | cons y a => rfl

theorem components_append (x : UInt8) (a b : Bytes) :
    components ⟨x :: (a ++ slash :: b)⟩ = components ⟨x :: a⟩ ++ (words b).map component := by
  have hlength : startLength ⟨x :: (a ++ slash :: b)⟩ = startLength ⟨x :: a⟩ := by
    rw [startLength, start_append]
    rfl
  have hwords : words ((x :: (a ++ slash :: b)).drop (startLength ⟨x :: a⟩)) =
      words ((x :: a).drop (startLength ⟨x :: a⟩)) ++ words b := by
    have hdrop : startLength ⟨x :: a⟩ ≤ (x :: a).length := by
      unfold startLength
      split <;> simp
    rw [← List.cons_append, List.drop_append_of_le_length hdrop, words_append]
  rw [components_eq, components_eq, start_append, hlength, hwords, List.map_append,
    List.append_assoc]

theorem components_of_not_mem {x : UInt8} {a : Bytes} (h : slash ∉ x :: a) :
    components ⟨x :: a⟩ = [if x :: a = [dot] then .current else component (x :: a)] := by
  rw [List.mem_cons, not_or] at h
  by_cases hdot : x :: a = [dot]
  · obtain ⟨rfl, rfl⟩ := List.cons_eq_cons.1 hdot
    rfl
  · have hstart : start ⟨x :: a⟩ = none := by
      cases a with
      | nil =>
        have hx : x ≠ dot := fun he => hdot (by rw [he])
        simp [start, Ne.symm h.1, hx]
      | cons y a =>
        have hy : y ≠ slash := fun he => h.2 (by simp [he])
        simp [start, Ne.symm h.1, hy]
    have hwords : words (x :: a) = [x :: a] := by
      rw [words, Bytes.segments_of_not_mem (by simpa using h)]
      simp [ignored, hdot]
    rw [components_eq, startLength, hstart, if_neg hdot]
    show (words (x :: a)).map component = _
    rw [hwords]
    rfl

/-! ## what may be changed -/

inductive Respells : Path → Path → Prop where
  | doubled (a b : Bytes) : Respells ⟨a ++ slash :: slash :: b⟩ ⟨a ++ slash :: b⟩
  | innerDot (a b : Bytes) : Respells ⟨a ++ slash :: dot :: slash :: b⟩ ⟨a ++ slash :: b⟩
  | lastDot (a : Bytes) : Respells ⟨a ++ [slash, dot]⟩ ⟨a ++ [slash]⟩
  | lastSlash (x : UInt8) (a : Bytes) : Respells ⟨x :: (a ++ [slash])⟩ ⟨x :: a⟩

theorem same_of_words (a : Bytes) {b c : Bytes} (h : words b = words c) :
    Same ⟨a ++ slash :: b⟩ ⟨a ++ slash :: c⟩ := by
  unfold Same
  cases a with
  | nil => rw [List.nil_append, List.nil_append, components_slash, components_slash, h]
  | cons x a =>
    rw [List.cons_append, List.cons_append, components_append, components_append, h]

theorem Respells.same {p q : Path} (h : Respells p q) : Same p q := by
  cases h with
  | doubled a b => exact same_of_words a (words_slash b)
  | innerDot a b => exact same_of_words a (words_dot_slash b)
  | lastDot a => exact same_of_words a (rfl : words [dot] = words [])
  | lastSlash x a =>
    show components _ = _
    rw [components_append]
    exact List.append_nil _

/-! ## the shortest spelling -/

def trail (ws : List Bytes) : Bytes := ws.flatMap fun w => slash :: w

theorem trail_segments (bs : Bytes) : trail (Bytes.segments slash bs) = slash :: bs := by
  have hjoin : ∀ w ws, trail (w :: ws) = slash :: Bytes.join slash (w :: ws) := by
    intro w ws
    induction ws generalizing w with
    | nil => simp [trail, Bytes.join]
    | cons v ws ih =>
      show slash :: w ++ trail (v :: ws) = slash :: (w ++ slash :: Bytes.join slash (v :: ws))
      rw [ih]
      rfl
  cases h : Bytes.segments slash bs with
  | nil => exact absurd h (Bytes.segments_ne_nil slash bs)
  | cons w ws => rw [hjoin, ← h, Bytes.join_segments]

theorem spelling_component (w : Bytes) : (component w).spelling = w := by
  unfold component
  split
  next h => rw [h]; rfl
  next => rfl

theorem map_spelling (ws : List Bytes) : (ws.map component).map Component.spelling = ws := by
  rw [List.map_map]
  exact (List.map_congr_left fun w _ => spelling_component w).trans (List.map_id ws)

def canonical : List Component → Bytes
  | [] => []
  | [.root] => [slash]
  | .root :: cs => trail (cs.map Component.spelling)
  | c :: cs => c.spelling ++ trail (cs.map Component.spelling)

theorem canonical_root (ws : List Bytes) : canonical (.root :: ws.map component) =
    if ws = [] then [slash] else trail ws := by
  cases ws with
  | nil => rfl
  | cons w ws =>
    show trail (((w :: ws).map component).map Component.spelling) = trail (w :: ws)
    rw [map_spelling]

theorem canonical_append {x : UInt8} {a : Bytes} (h : slash ∉ x :: a) (ws : List Bytes) :
    canonical (components ⟨x :: a⟩ ++ ws.map component) = x :: a ++ trail ws := by
  rw [components_of_not_mem h]
  by_cases hdot : x :: a = [dot]
  · rw [if_pos hdot, hdot]
    show [dot] ++ trail ((ws.map component).map Component.spelling) = _
    rw [map_spelling]
  · have hne : component (x :: a) ≠ .root := by
      unfold component
      split <;> exact nofun
    have hfirst : ∀ c cs, c ≠ Component.root →
        canonical (c :: cs) = c.spelling ++ trail (cs.map Component.spelling) := by
      intro c cs hc
      cases c with
      | root => exact absurd rfl hc
      | _ => rfl
    rw [if_neg hdot, List.singleton_append, hfirst _ _ hne, spelling_component, map_spelling]

section
open Relation

theorem ignored_iff {w : Bytes} : ignored w = true ↔ w = [] ∨ w = [dot] := by
  simp [ignored]

/-- a piece that says nothing may go if another one follows. -/
theorem respells_inner {w : Bytes} (hw : ignored w = true) (a v : Bytes) (ws : List Bytes) :
    EqvGen Respells ⟨a ++ trail (w :: v :: ws)⟩ ⟨a ++ trail (v :: ws)⟩ := by
  rcases ignored_iff.1 hw with rfl | rfl
  · exact .rel _ _ (.doubled a _)
  · exact .rel _ _ (.innerDot a _)

theorem respells_last {w : Bytes} (hw : ignored w = true) (x : UInt8) (a : Bytes) :
    EqvGen Respells ⟨x :: (a ++ trail [w])⟩ ⟨x :: a⟩ := by
  have hslash : EqvGen Respells ⟨x :: (a ++ [slash])⟩ ⟨x :: a⟩ := .rel _ _ (.lastSlash x a)
  rcases ignored_iff.1 hw with rfl | rfl
  · exact hslash
  · exact .trans _ _ _ (.rel _ _ (.lastDot (x :: a))) hslash

theorem respells_trail (x : UInt8) (a : Bytes) (ws : List Bytes) :
    EqvGen Respells ⟨x :: (a ++ trail ws)⟩ ⟨x :: (a ++ trail (ws.filter fun s => !ignored s))⟩ := by
  induction ws generalizing x a with
  | nil => exact .refl _
  | cons w ws ih =>
    by_cases hw : ignored w
    · rw [List.filter_cons_of_neg (by simpa using hw)]
      refine .trans _ _ _ ?_ (ih x a)
      cases ws with
      | nil =>
        rw [show trail [] = [] from rfl, List.append_nil]
        exact respells_last hw x a
      | cons v ws => exact respells_inner hw (x :: a) v ws
    · rw [List.filter_cons_of_pos (by simpa using hw)]
      have hstep := ih x (a ++ slash :: w)
      rw [List.append_assoc, List.append_assoc] at hstep
      exact hstep

theorem respells_words (x : UInt8) (a b : Bytes) :
    EqvGen Respells ⟨x :: (a ++ slash :: b)⟩ ⟨x :: (a ++ trail (words b))⟩ := by
  rw [← trail_segments]
  exact respells_trail x a _

theorem respells_root (b : Bytes) :
    EqvGen Respells ⟨slash :: b⟩ ⟨if words b = [] then [slash] else trail (words b)⟩ := by
  have hall : ∀ w ws, EqvGen Respells ⟨trail (w :: ws)⟩
      ⟨if ((w :: ws).filter fun s => !ignored s) = [] then [slash]
        else trail ((w :: ws).filter fun s => !ignored s)⟩ := by
    intro w ws
    induction ws generalizing w with
    | nil =>
      by_cases hw : ignored w
      · rw [List.filter_cons_of_neg (by simpa using hw)]
        rcases ignored_iff.1 hw with rfl | rfl
        · exact .refl _
        · exact .rel _ _ (.lastDot [])
      · rw [List.filter_cons_of_pos (by simpa using hw)]
        exact .refl _
    | cons v ws ih =>
      by_cases hw : ignored w
      · rw [List.filter_cons_of_neg (by simpa using hw)]
        exact .trans _ _ _ (respells_inner hw [] v ws) (ih v)
      · rw [List.filter_cons_of_pos (by simpa using hw)]
        exact respells_trail slash w (v :: ws)
  rw [← trail_segments, words]
  cases h : Bytes.segments slash b with
  | nil => exact absurd h (Bytes.segments_ne_nil slash b)
  | cons w ws => exact hall w ws

/-- **Every path has a shortest spelling**, which its components give. -/
theorem respells_canonical (p : Path) : EqvGen Respells p ⟨canonical p.components⟩ := by
  obtain ⟨raw⟩ := p
  by_cases hslash : slash ∈ raw
  · obtain ⟨a, b, rfl, ha⟩ := List.eq_append_cons_of_mem hslash
    cases a with
    | nil =>
      rw [List.nil_append, components_slash, canonical_root]
      exact respells_root b
    | cons x a =>
      rw [List.cons_append, components_append, canonical_append ha]
      exact respells_words x a b
  · cases raw with
    | nil => exact .refl _
    | cons x a =>
      have hcanonical := canonical_append hslash []
      rw [List.map_nil, List.append_nil] at hcanonical
      rw [hcanonical]
      exact (List.append_nil (x :: a)).symm ▸ .refl _

/-- **Two paths are the same** exactly if each can be respelled as the other. -/
theorem same_iff_respelled (p q : Path) : Same p q ↔ EqvGen Respells p q := by
  constructor
  · intro h
    have hq := (respells_canonical q).symm
    rw [← show p.components = q.components from h] at hq
    exact .trans _ _ _ (respells_canonical p) hq
  · intro h
    induction h with
    | rel p q h => exact h.same
    | refl p => exact Same.refl p
    | symm p q _ ih => exact ih.symm
    | trans p q r _ _ ih ih' => exact ih.trans ih'

end
end Path
end Regen
