import Mathlib.Data.List.Induction
import Mathlib.Logic.Relation
import Regen.Generation

/-!
# Kin of handles

Clocks and tokens are handles, and what they stand for is shared among handles that were cloned from
each other. Which these are can be said without what is shared: a history tells which handle was
made from which. Two handles are *kin* if cloning connects them, over any number of clones and in
either direction. Here this is compared with the families of the clocks and the flags of the tokens.

* `Event`, `step`, `after`   what can be done with handles;
* `Deed`, `deeds`            what a history did, without the calls that named no handle;
* `Stepped`                  all that one call can do;
* `Kin`                      cloned from each other;
* `Cells`                    handles of one kind, and what each of them stands for;
* `Keeps`                    handles stay, and stand for what they stood for.

Main statement: `Cells.kin_iff` (kin stand for the same, and other handles for something else).
-/

namespace Regen.Clocks

inductive Event where
  | newClock
  | cloneClock (clock : Nat)
  | issue (clock : Nat)
  | cloneToken (token : Nat)
  | cancel (token : Nat)

def step (s : Clocks) : Event → Clocks
  | .newClock => s.newClock
  | .cloneClock a => s.cloneClock a
  | .issue a => s.issue a
  | .cloneToken t => s.cloneToken t
  | .cancel t => s.cancel t

def after : Clocks → List Event → Clocks
  | s, [] => s
  | s, e :: es => (s.step e).after es

theorem after_append (s : Clocks) (es fs : List Event) :
    s.after (es ++ fs) = (s.after es).after fs := by
  induction es generalizing s with
  | nil => rfl
  | cons e es ih => exact ih (s.step e)

/-! ## what a history did -/

inductive Deed where
  | clockCloned (clock clone : Nat)
  | issued (clock token : Nat)
  | tokenCloned (token clone : Nat)
  | cancelled (token : Nat)
  deriving DecidableEq

def deed (s : Clocks) : Event → Option Deed
  | .newClock => .none
  | .cloneClock a => if a < s.clocks.length then some (.clockCloned a s.clocks.length) else .none
  | .issue a => if a < s.clocks.length then some (.issued a s.tokens.length) else .none
  | .cloneToken t => if t < s.tokens.length then some (.tokenCloned t s.tokens.length) else .none
  | .cancel t => if t < s.tokens.length then some (.cancelled t) else .none

def deeds : Clocks → List Event → List Deed
  | _, [] => []
  | s, e :: es => (s.deed e).toList ++ deeds (s.step e) es

theorem deeds_append (s : Clocks) (es fs : List Event) :
    deeds s (es ++ fs) = deeds s es ++ deeds (s.after es) fs := by
  induction es generalizing s with
  | nil => rfl
  | cons e es ih =>
    rw [List.cons_append, deeds, ih, deeds, List.append_assoc]
    rfl

theorem deeds_concat (s : Clocks) (es : List Event) (e : Event) :
    deeds s (es ++ [e]) = deeds s es ++ ((s.after es).deed e).toList := by
  rw [deeds_append, deeds, deeds, List.append_nil]

theorem after_concat (s : Clocks) (es : List Event) (e : Event) :
    s.after (es ++ [e]) = (s.after es).step e :=
  after_append s es [e]

inductive Stepped (s : Clocks) : Event → Option Deed → Clocks → Prop where
  | newClock : Stepped s .newClock .none
      { s with families := s.families ++ [0], clocks := s.clocks ++ [s.families.length] }
  | cloneClock (a f : Nat) (ha : s.clocks[a]? = some f) :
      Stepped s (.cloneClock a) (some (.clockCloned a s.clocks.length))
        { s with clocks := s.clocks ++ [f] }
  | issue (a f : Nat) (ha : s.clocks[a]? = some f) :
      Stepped s (.issue a) (some (.issued a s.tokens.length))
        { s with
          families := s.families.set f (s.families.getD f 0 + 1)
          flags := s.flags ++ [false]
          tokens := s.tokens ++ [⟨s.families.getD f 0 + 1, s.flags.length⟩] }
  | cloneToken (t : Nat) (x : Token) (ht : s.tokens[t]? = some x) :
      Stepped s (.cloneToken t) (some (.tokenCloned t s.tokens.length))
        { s with tokens := s.tokens ++ [x] }
  | cancel (t : Nat) (x : Token) (ht : s.tokens[t]? = some x) :
      Stepped s (.cancel t) (some (.cancelled t)) { s with flags := s.flags.set x.flag true }
  | void (e : Event) : Stepped s e .none s

theorem ite_lt_length {α : Type} (l : List α) (i : Nat) (d : Deed) :
    (if i < l.length then some d else .none) = l[i]?.map fun _ => d := by
  split
  next h => rw [List.getElem?_eq_getElem h, Option.map_some]
  next h => rw [List.getElem?_eq_none (Nat.not_lt.1 h), Option.map_none]

theorem stepped (s : Clocks) (e : Event) : Stepped s e (s.deed e) (s.step e) := by
  cases e with
  | newClock => exact .newClock
  | cloneClock a =>
    show Stepped s _ (if a < s.clocks.length then _ else _) (s.cloneClock a)
    rw [ite_lt_length, cloneClock]
    cases h : s.clocks[a]? with
    | none => exact .void _
    | some f => exact .cloneClock a f h
  | issue a =>
    show Stepped s _ (if a < s.clocks.length then _ else _) (s.issue a)
    rw [ite_lt_length, Clocks.issue]
    cases h : s.clocks[a]? with
    | none => exact .void _
    | some f => exact .issue a f h
  | cloneToken t =>
    show Stepped s _ (if t < s.tokens.length then _ else _) (s.cloneToken t)
    rw [ite_lt_length, cloneToken]
    cases h : s.tokens[t]? with
    | none => exact .void _
    | some x => exact .cloneToken t x h
  | cancel t =>
    show Stepped s _ (if t < s.tokens.length then _ else _) (s.cancel t)
    rw [ite_lt_length, cancel]
    cases h : s.tokens[t]? with
    | none => exact .void _
    | some x => exact .cancel t x h

structure Valid (s : Clocks) : Prop where
  clock_lt : ∀ f ∈ s.clocks, f < s.families.length
  flag_lt : ∀ t ∈ s.tokens, t.flag < s.flags.length

theorem valid_none : none.Valid := ⟨fun _ h => (nomatch h), fun _ h => (nomatch h)⟩

theorem Valid.step {s : Clocks} (hs : s.Valid) (e : Event) : (s.step e).Valid := by
  have hmem : ∀ {α : Type} {l : List α} {x y : α}, x ∈ l ++ [y] → x ∈ l ∨ x = y := fun h =>
    (List.mem_append.1 h).imp_right List.mem_singleton.1
  have h := s.stepped e
  generalize s.deed e = d, s.step e = s' at h
  cases h with
  | newClock =>
    refine ⟨fun f hf => ?_, hs.flag_lt⟩
    rw [List.length_append]
    rcases hmem hf with hf | rfl
    · exact Nat.lt_succ_of_lt (hs.clock_lt f hf)
    · exact Nat.lt_succ_self _
  | cloneClock a f ha =>
    refine ⟨fun g hg => ?_, hs.flag_lt⟩
    rcases hmem hg with hg | rfl
    · exact hs.clock_lt g hg
    · exact hs.clock_lt g (List.mem_of_getElem? ha)
  | issue a f ha =>
    refine ⟨fun g hg => ?_, fun t ht => ?_⟩
    · rw [List.length_set]
      exact hs.clock_lt g hg
    · rw [List.length_append]
      rcases hmem ht with ht | rfl
      · exact Nat.lt_succ_of_lt (hs.flag_lt t ht)
      · exact Nat.lt_succ_self _
  | cloneToken t x ht =>
    refine ⟨hs.clock_lt, fun y hy => ?_⟩
    rcases hmem hy with hy | rfl
    · exact hs.flag_lt y hy
    · exact hs.flag_lt y (List.mem_of_getElem? ht)
  | cancel t x ht =>
    refine ⟨hs.clock_lt, fun y hy => ?_⟩
    rw [List.length_set]
    exact hs.flag_lt y hy
  | void => exact hs

theorem valid_after (es : List Event) : (none.after es).Valid := by
  induction es using List.reverseRecOn with
  | nil => exact valid_none
  | append_singleton es e ih =>
    rw [after_concat]
    exact ih.step e

/-! ## kin -/

def Kin (link : Nat → Nat → Deed) (es : List Event) : Nat → Nat → Prop :=
  Relation.EqvGen fun a b => link a b ∈ deeds none es

/-- how handles come to be: as clones, for what the first one stands for, or for something new. -/
inductive Grown {β : Type} (link : Nat → Nat → Deed) (hs : List β) :
    Option Deed → List β → Prop where
  | same (d : Option Deed) (hd : ∀ a b, d ≠ some (link a b)) : Grown link hs d hs
  | clone (a : Nat) (x : β) (ha : hs[a]? = some x) :
      Grown link hs (some (link a hs.length)) (hs ++ [x])
  | fresh (d : Option Deed) (x : β) (hx : x ∉ hs) (hd : ∀ a b, d ≠ some (link a b)) :
      Grown link hs d (hs ++ [x])

theorem kin_concat {link : Nat → Nat → Deed} {es : List Event} {a b : Nat} (e : Event)
    (h : Kin link es a b) : Kin link (es ++ [e]) a b := by
  refine h.mono fun a b hab => ?_
  rw [deeds_concat]
  exact List.mem_append_left _ hab

structure Cells {β : Type} (link : Nat → Nat → Deed) (cells : Clocks → List β) : Prop where
  link_inj : Function.Injective2 link
  none_eq : cells none = []
  grown : ∀ s e, s.Valid → Grown link (cells s) (s.deed e) (cells (s.step e))

theorem getElem?_concat {β : Type} {hs : List β} {a : Nat} {x y : β}
    (h : (hs ++ [x])[a]? = some y) : hs[a]? = some y ∨ a = hs.length ∧ y = x := by
  rcases Nat.lt_or_ge a hs.length with hlt | hge
  · rw [List.getElem?_append_left hlt] at h
    exact .inl h
  · rw [List.getElem?_append_right hge] at h
    obtain ⟨hlt, heq⟩ := List.getElem?_eq_some_iff.1 h
    have ha : a - hs.length = 0 := Nat.lt_one_iff.1 hlt
    refine .inr ⟨by omega, ?_⟩
    simpa [ha] using heq.symm

section
variable {β : Type} {link : Nat → Nat → Deed} {cells : Clocks → List β} {es : List Event}
  {a b : Nat} {x : β}

theorem Grown.keeps {hs hs' : List β} {d : Option Deed} (h : Grown link hs d hs')
    (ha : hs[a]? = some x) : hs'[a]? = some x := by
  cases h with
  | same => exact ha
  | clone | fresh => rw [List.getElem?_append_left (List.getElem?_eq_some_iff.1 ha).1, ha]

namespace Cells
variable (hc : Cells link cells)
include hc

theorem exists_cell_of_linked (h : link a b ∈ deeds none es) :
    ∃ x, (cells (none.after es))[a]? = some x ∧ (cells (none.after es))[b]? = some x := by
  induction es using List.reverseRecOn with
  | nil => cases h
  | append_singleton es e ih =>
    have hg := hc.grown _ e (valid_after es)
    rw [after_concat]
    rw [deeds_concat] at h
    rcases List.mem_append.1 h with h | h
    · obtain ⟨x, ha, hb⟩ := ih h
      exact ⟨x, hg.keeps ha, hg.keeps hb⟩
    · have hd : (none.after es).deed e = some (link a b) := Option.mem_toList.1 h
      rw [hd] at hg
      generalize hd' : some (link a b) = d at hg
      generalize cells ((none.after es).step e) = hs' at hg ⊢
      cases hg with
      | same _ hnot => exact absurd hd'.symm (hnot a b)
      | fresh _ _ _ hnot => exact absurd hd'.symm (hnot a b)
      | clone c x hx =>
        obtain ⟨rfl, rfl⟩ := hc.link_inj (Option.some.inj hd')
        refine ⟨x, ?_, List.getElem?_concat_length⟩
        rw [List.getElem?_append_left (List.getElem?_eq_some_iff.1 hx).1, hx]

theorem kin_of_cell (ha : (cells (none.after es))[a]? = some x)
    (hb : (cells (none.after es))[b]? = some x) : Kin link es a b := by
  induction es using List.reverseRecOn generalizing a b with
  | nil =>
    rw [show cells (none.after []) = [] from hc.none_eq] at ha
    cases ha
  | append_singleton es e ih =>
    have hg := hc.grown _ e (valid_after es)
    rw [after_concat] at ha hb
    have hdeed : ∀ c d, (none.after es).deed e = some (link c d) → Kin link (es ++ [e]) c d := by
      intro c d hcd
      refine .rel _ _ ?_
      rw [deeds_concat, hcd]
      exact List.mem_append_right _ (List.mem_singleton.2 rfl)
    generalize (none.after es).deed e = deed at hg hdeed
    generalize cells ((none.after es).step e) = hs' at hg ha hb
    cases hg with
    | same => exact kin_concat e (ih ha hb)
    | fresh _ y hy =>
      rcases getElem?_concat ha with ha' | ⟨rfl, rfl⟩
      · rcases getElem?_concat hb with hb' | ⟨-, rfl⟩
        · exact kin_concat e (ih ha' hb')
        · exact absurd (List.mem_of_getElem? ha') hy
      · rcases getElem?_concat hb with hb' | ⟨rfl, -⟩
        · exact absurd (List.mem_of_getElem? hb') hy
        · exact .refl _
    | clone c y hy =>
      have hold : ∀ d, (cells (none.after es) ++ [y])[d]? = some x →
          ∃ d', (cells (none.after es))[d']? = some x ∧ Kin link (es ++ [e]) d' d := by
        intro d hd
        rcases getElem?_concat hd with hd | ⟨rfl, rfl⟩
        · exact ⟨d, hd, .refl _⟩
        · exact ⟨c, hy, hdeed _ _ rfl⟩
      obtain ⟨a', ha', hka⟩ := hold a ha
      obtain ⟨b', hb', hkb⟩ := hold b hb
      exact (hka.symm _ _).trans _ _ _ ((kin_concat e (ih ha' hb')).trans _ _ _ hkb)

/-- **Kin stand for the same**, and other handles for something else. -/
theorem kin_iff : Kin link es a b ↔ a = b ∨ a < (cells (none.after es)).length ∧
    (cells (none.after es))[a]? = (cells (none.after es))[b]? := by
  constructor
  · intro h
    induction h with
    | rel a b hab =>
      obtain ⟨x, ha, hb⟩ := hc.exists_cell_of_linked hab
      exact .inr ⟨(List.getElem?_eq_some_iff.1 ha).1, ha.trans hb.symm⟩
    | refl a => exact .inl rfl
    | symm a b _ ih =>
      rcases ih with rfl | ⟨hlt, heq⟩
      · exact .inl rfl
      · rw [List.getElem?_eq_getElem hlt] at heq
        exact .inr ⟨(List.getElem?_eq_some_iff.1 heq.symm).1, heq.symm.trans
          (List.getElem?_eq_getElem hlt).symm⟩
    | trans a b c _ _ ihab ihbc =>
      rcases ihab with rfl | ⟨hlt, hab⟩
      · exact ihbc
      · rcases ihbc with rfl | ⟨-, hbc⟩
        · exact .inr ⟨hlt, hab⟩
        · exact .inr ⟨hlt, hab.trans hbc⟩
  · rintro (rfl | ⟨hlt, heq⟩)
    · exact .refl _
    · rw [List.getElem?_eq_getElem hlt] at heq
      exact hc.kin_of_cell (List.getElem?_eq_getElem hlt) heq.symm

theorem kin_iff_of_cell (ha : (cells (none.after es))[a]? = some x) :
    Kin link es b a ↔ (cells (none.after es))[b]? = some x := by
  rw [hc.kin_iff, ha]
  constructor
  · rintro (rfl | ⟨-, hb⟩)
    · exact ha
    · exact hb
  · exact fun hb => .inr ⟨(List.getElem?_eq_some_iff.1 hb).1, hb⟩

end Cells
end

theorem clockCells : Cells Deed.clockCloned clocks where
  link_inj _ _ _ _ h := Deed.clockCloned.inj h
  none_eq := rfl
  grown s e hs := by
    have h := s.stepped e
    generalize s.deed e = d, s.step e = s' at h
    cases h with
    | newClock =>
      refine .fresh _ _ (fun h => ?_) (fun _ _ h => nomatch h)
      exact Nat.lt_irrefl _ (hs.clock_lt _ h)
    | cloneClock a f ha => exact .clone a f ha
    | issue | cloneToken | cancel | void => exact .same _ fun _ _ h => nomatch h

def marks (s : Clocks) : List Nat := s.tokens.map Token.flag

theorem tokenCells : Cells Deed.tokenCloned marks where
  link_inj _ _ _ _ h := Deed.tokenCloned.inj h
  none_eq := rfl
  grown s e hs := by
    have h := s.stepped e
    generalize s.deed e = d, s.step e = s' at h
    cases h with
    | issue a f ha =>
      show Grown _ _ _ ((s.tokens ++ [_]).map Token.flag)
      rw [List.map_append]
      refine .fresh _ _ (fun h => ?_) (fun _ _ h => nomatch h)
      obtain ⟨t, ht, heq⟩ := List.mem_map.1 h
      exact Nat.lt_irrefl _ (heq ▸ hs.flag_lt t ht)
    | cloneToken t x ht =>
      have hlength : s.tokens.length = s.marks.length := (List.length_map _).symm
      show Grown _ _ _ ((s.tokens ++ [_]).map Token.flag)
      rw [List.map_append, hlength]
      refine .clone t x.flag ?_
      rw [marks, List.getElem?_map, ht]
      rfl
    | newClock | cloneClock | cancel | void => exact .same _ fun _ _ h => nomatch h

instance (es : List Event) (a b : Nat) : Decidable (Kin Deed.clockCloned es a b) :=
  decidable_of_iff _ clockCells.kin_iff.symm

instance (es : List Event) (t u : Nat) : Decidable (Kin Deed.tokenCloned es t u) :=
  decidable_of_iff _ tokenCells.kin_iff.symm

structure Keeps (s s' : Clocks) : Prop where
  clock : ∀ {a f : Nat}, s.clocks[a]? = some f → s'.clocks[a]? = some f
  token : ∀ {t : Nat} {x : Token}, s.tokens[t]? = some x → s'.tokens[t]? = some x

theorem keeps_step (s : Clocks) (e : Event) : s.Keeps (s.step e) := by
  have happend : ∀ {α : Type} {l m : List α} {i : Nat} {x : α}, l[i]? = some x →
      (l ++ m)[i]? = some x := fun h => by
    rw [List.getElem?_append_left (List.getElem?_eq_some_iff.1 h).1, h]
  have h := s.stepped e
  generalize s.deed e = d, s.step e = s' at h
  cases h with
  | newClock | cloneClock => exact ⟨happend, id⟩
  | issue | cloneToken => exact ⟨id, happend⟩
  | cancel | void => exact ⟨id, id⟩

section
variable {s s' : Clocks} (h : s.Keeps s') {a t : Nat}
include h

theorem Keeps.clock_eq (ha : a < s.clocks.length) : s'.clocks[a]? = s.clocks[a]? := by
  rw [List.getElem?_eq_getElem ha]
  exact h.clock (List.getElem?_eq_getElem ha)

theorem Keeps.token_eq (ht : t < s.tokens.length) : s'.tokens[t]? = s.tokens[t]? := by
  rw [List.getElem?_eq_getElem ht]
  exact h.token (List.getElem?_eq_getElem ht)

theorem Keeps.lt_clocks (ha : a < s.clocks.length) : a < s'.clocks.length :=
  (List.getElem?_eq_some_iff.1 (h.clock (List.getElem?_eq_getElem ha))).1

theorem Keeps.lt_tokens (ht : t < s.tokens.length) : t < s'.tokens.length :=
  (List.getElem?_eq_some_iff.1 (h.token (List.getElem?_eq_getElem ht))).1

theorem Keeps.generation_eq (ht : t < s.tokens.length) : s'.generation t = s.generation t := by
  rw [generation, generation, h.token_eq ht]

theorem Keeps.mark_eq (ht : t < s.tokens.length) : s'.marks[t]? = s.marks[t]? := by
  rw [marks, marks, List.getElem?_map, List.getElem?_map, h.token_eq ht]

end

end Regen.Clocks
