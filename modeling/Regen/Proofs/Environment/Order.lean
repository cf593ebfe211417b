import Regen.Environment

/-!
# The order of an environment

The variables of an environment are kept in the order of the bytes of their names. An environment
that was built up from the empty one is in this order, each name once, and so it is no more than the
values of its variables: two such environments in which every variable has the same value are one.

* `Environment.Ordered`   the names rise from one variable to the next.

Main statements: `Bytes.before_trans`, `Bytes.before_or_eq_or_before` (byte strings are in line),
`ordered_ofList`, `Ordered.modify` (changes keep the order) and `Ordered.ext` (the values of the
variables are all there is).
-/

namespace Regen

namespace Bytes

theorem before_cons_cons (x y : UInt8) (a b : Bytes) :
    before (x :: a) (y :: b) = true ↔ x < y ∨ x = y ∧ before a b = true := by
  simp [before]

theorem before_trans {a b c : Bytes} (hab : before a b = true) (hbc : before b c = true) :
    before a c = true := by
  induction a generalizing b c with
  | nil =>
    cases c with
    | nil => simp [before] at hbc
    | cons z c => rfl
  | cons x a ih =>
    cases b with
    | nil => simp [before] at hab
    | cons y b =>
      cases c with
      | nil => simp [before] at hbc
      | cons z c =>
        rw [before_cons_cons] at hab hbc ⊢
        rcases hab with hxy | ⟨rfl, hab⟩
        · rcases hbc with hyz | ⟨rfl, -⟩
          · exact .inl (UInt8.lt_trans hxy hyz)
          · exact .inl hxy
        · rcases hbc with hyz | ⟨rfl, hbc⟩
          · exact .inl hyz
          · exact .inr ⟨rfl, ih hab hbc⟩

theorem before_or_eq_or_before (a b : Bytes) : before a b = true ∨ a = b ∨ before b a = true := by
  induction a generalizing b with
  | nil =>
    cases b with
    | nil => exact .inr (.inl rfl)
    | cons y b => exact .inl rfl
  | cons x a ih =>
    cases b with
    | nil => exact .inr (.inr rfl)
    | cons y b =>
      rw [before_cons_cons, before_cons_cons]
      by_cases hxy : x = y
      · subst hxy
        rcases ih b with h | rfl | h
        · exact .inl (.inr ⟨rfl, h⟩)
        · exact .inr (.inl rfl)
        · exact .inr (.inr (.inr ⟨rfl, h⟩))
      · have hne : x.toNat ≠ y.toNat := fun h => hxy (UInt8.toNat_inj.1 h)
        rcases Nat.lt_or_gt_of_ne hne with h | h
        · exact .inl (.inl (UInt8.lt_iff_toNat_lt.2 h))
        · exact .inr (.inr (.inl (UInt8.lt_iff_toNat_lt.2 h)))

theorem ne_of_before {a b : Bytes} (h : before a b = true) : a ≠ b := by
  rintro rfl
  rw [before_irrefl] at h
  exact Bool.noConfusion h

end Bytes

namespace Environment

def Ordered (e : Environment) : Prop :=
  e.vars.Pairwise fun v w => Bytes.before v.1 w.1 = true

theorem ordered_empty : empty.Ordered := .nil

theorem mem_put {name value : Bytes} {es : List (Bytes × Bytes)} {v : Bytes × Bytes}
    (hv : v ∈ put name value es) : v.1 = name ∨ v ∈ es := by
  induction es with
  | nil => exact .inl (congrArg Prod.fst (List.mem_singleton.1 hv))
  | cons e es ih =>
    rw [put] at hv
    split at hv
    · rcases List.mem_cons.1 hv with rfl | hv
      · exact .inl rfl
      · exact .inr (List.mem_cons_of_mem _ hv)
    · split at hv
      · rcases List.mem_cons.1 hv with rfl | hv
        · exact .inl rfl
        · exact .inr hv
      · rcases List.mem_cons.1 hv with rfl | hv
        · exact .inr List.mem_cons_self
        · exact (ih hv).imp_right (List.mem_cons_of_mem _)

theorem Ordered.set {e : Environment} (h : e.Ordered) (name value : Bytes) :
    (e.set name value).Ordered := by
  obtain ⟨es⟩ := e
  show (put name value es).Pairwise _
  induction es with
  | nil => exact List.pairwise_singleton _ _
  | cons e es ih =>
    obtain ⟨n, v⟩ := e
    obtain ⟨first, rest⟩ := List.pairwise_cons.1 h
    rw [put]
    by_cases hn : n = name
    · rw [if_pos hn]
      exact List.pairwise_cons.2 ⟨fun w hw => hn ▸ first w hw, rest⟩
    · rw [if_neg hn]
      by_cases hb : Bytes.before name n = true
      · rw [if_pos hb]
        refine List.pairwise_cons.2 ⟨fun w hw => ?_, h⟩
        rcases List.mem_cons.1 hw with rfl | hw
        · exact hb
        · exact Bytes.before_trans hb (first w hw)
      · rw [if_neg hb]
        have hnb : Bytes.before n name = true :=
          (Bytes.before_or_eq_or_before n name).resolve_right fun h => h.elim hn hb
        refine List.pairwise_cons.2 ⟨fun w hw => ?_, ih rest⟩
        rcases mem_put hw with hw | hw
        · exact hw ▸ hnb
        · exact first w hw

theorem Ordered.unset {e : Environment} (h : e.Ordered) (name : Bytes) : (e.unset name).Ordered :=
  h.filter _

theorem Ordered.apply {e : Environment} (h : e.Ordered) (c : Change) : (e.apply c).Ordered := by
  unfold Environment.apply
  split
  · exact h.set _ _
  · exact h.unset _

theorem Ordered.modify {e : Environment} (h : e.Ordered) (cs : List Change) :
    (e.modify cs).Ordered := by
  induction cs generalizing e with
  | nil => exact h
  | cons c cs ih => exact ih (h.apply c)

theorem ordered_ofList (vs : List (Bytes × Bytes)) : (ofList vs).Ordered := by
  have hall : ∀ e : Environment, e.Ordered → (vs.foldl (fun e v => e.set v.1 v.2) e).Ordered := by
    induction vs with
    | nil => exact fun e h => h
    | cons v vs ih => exact fun e h => ih _ (h.set _ _)
  exact hall _ ordered_empty

/-! ## the values are all there is -/

theorem lookup_eq_none {name : Bytes} {es : List (Bytes × Bytes)}
    (h : ∀ v ∈ es, Bytes.before name v.1 = true) : lookup name es = none := by
  induction es with
  | nil => rfl
  | cons e es ih =>
    obtain ⟨he, hes⟩ := List.forall_mem_cons.1 h
    rw [lookup, if_neg (Bytes.ne_of_before he).symm, ih hes]

theorem lookup_cons_ne {n v m u : Bytes} {es fs : List (Bytes × Bytes)}
    (hn : Bytes.before n m = true) (hm : ∀ w ∈ fs, Bytes.before m w.1 = true) :
    lookup n ((n, v) :: es) ≠ lookup n ((m, u) :: fs) := by
  have hnone : lookup n ((m, u) :: fs) = none := by
    refine lookup_eq_none (List.forall_mem_cons.2 ⟨hn, fun w hw => ?_⟩)
    exact Bytes.before_trans hn (hm w hw)
  rw [hnone, lookup, if_pos rfl]
  exact Option.some_ne_none v

theorem Ordered.ext {e d : Environment} (he : e.Ordered) (hd : d.Ordered)
    (h : ∀ name, e.get? name = d.get? name) : e = d := by
  obtain ⟨es⟩ := e
  obtain ⟨ds⟩ := d
  suffices hv : es = ds from congrArg Environment.mk hv
  replace h : ∀ name, lookup name es = lookup name ds := h
  induction es generalizing ds with
  | nil =>
    cases ds with
    | nil => rfl
    | cons d ds =>
      have hn := h d.1
      rw [lookup, lookup, if_pos rfl] at hn
      exact absurd hn.symm (Option.some_ne_none _)
  | cons e es ih =>
    obtain ⟨n, v⟩ := e
    obtain ⟨hfirst, hrest⟩ := List.pairwise_cons.1 he
    cases ds with
    | nil =>
      have hn := h n
      rw [lookup, lookup, if_pos rfl] at hn
      exact absurd hn (Option.some_ne_none _)
    | cons d ds =>
      obtain ⟨m, u⟩ := d
      obtain ⟨dfirst, drest⟩ := List.pairwise_cons.1 hd
      rcases Bytes.before_or_eq_or_before n m with hnm | rfl | hmn
      · exact absurd (h n) (lookup_cons_ne hnm dfirst)
      · have hvu : v = u := by
          have hn := h n
          rw [lookup, lookup, if_pos rfl, if_pos rfl] at hn
          exact Option.some.inj hn
        have htail : es = ds := by
          refine ih hrest ds drest fun name => ?_
          by_cases hname : n = name
          · subst hname
            rw [lookup_eq_none hfirst, lookup_eq_none dfirst]
          · have hk := h name
            rwa [lookup, lookup, if_neg hname, if_neg hname] at hk
        rw [hvu, htail]
      · exact absurd (h m).symm (lookup_cons_ne hmn hfirst)

end Environment
end Regen
