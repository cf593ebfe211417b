import Regen.Proofs.Compiler.Bookkeeping
import Regen.Proofs.Generation.Kin

/-!
# What clones share

A clock counts what it and its kin issue, and a token is cancelled with its kin. Other handles have
no part in it.

* `issues`, `issuedBy`   the tokens that were issued, and those that a clock and its kin issued;
* `Tally`                the counters tell what was issued;
* `Flagged`              the flags tell what was cancelled;
* `issuing`              one clock that issued so many tokens.

Main statements: `Tally.step` and `Flagged.step` (what one call does to counters and flags),
`shared_among_clones`, and `generations_issued` (the runs of a compiler are numbered as by a clock).
-/

namespace Regen.Clocks

theorem getD_concat_self {α : Type} (l : List α) (x : α) (i : Nat) :
    (l ++ [x]).getD i x = l.getD i x := by
  rw [List.getD_eq_getElem?_getD, List.getD_eq_getElem?_getD]
  rcases Nat.lt_or_ge i l.length with hlt | hge
  · rw [List.getElem?_append_left hlt]
  · rw [List.getElem?_append_right hge, List.getElem?_eq_none hge]
    cases i - l.length <;> rfl

/-! ## what was issued -/

def Deed.issued? : Deed → Option (Nat × Nat)
  | .issued a t => some (a, t)
  | _ => .none

def issues (es : List Event) : List (Nat × Nat) := (deeds none es).filterMap Deed.issued?

def issuedBy (es : List Event) (c : Nat) : List Nat :=
  ((issues es).filter fun x => Kin Deed.clockCloned es x.1 c).map Prod.snd

def share (s : Clocks) (is : List (Nat × Nat)) (f : Nat) : List (Nat × Nat) :=
  is.filter fun x => s.clocks[x.1]? = some f

structure Tally (s : Clocks) (is : List (Nat × Nat)) : Prop where
  there : ∀ x ∈ is, x.1 < s.clocks.length ∧ x.2 < s.tokens.length
  marks_eq : is.map (fun x => s.marks[x.2]?) = (List.range s.flags.length).map some
  families_eq : ∀ f, s.families.getD f 0 = .ofNat (s.share is f).length
  generations_eq : ∀ f, (s.share is f).map (fun x => s.generation x.2) =
    (List.range' 1 (s.share is f).length).map .ofNat

theorem tally_none : none.Tally [] where
  there _ h := nomatch h
  marks_eq := rfl
  families_eq _ := rfl
  generations_eq _ := rfl

section
variable {s s' : Clocks} {is : List (Nat × Nat)}

theorem Tally.share_eq (h : s.Tally is) (hk : s.Keeps s') (f : Nat) :
    s'.share is f = s.share is f := by
  refine List.filter_congr fun x hx => ?_
  rw [hk.clock_eq (h.there x hx).1]

theorem Tally.of_keeps (h : s.Tally is) (hk : s.Keeps s') {d : Option Deed}
    (hd : d.bind Deed.issued? = .none) (hflags : s'.flags.length = s.flags.length)
    (hfamilies : ∀ f, s'.families.getD f 0 = s.families.getD f 0) :
    s'.Tally (is ++ (d.bind Deed.issued?).toList) := by
  rw [hd, Option.toList_none, List.append_nil]
  refine ⟨fun x hx => ?_, ?_, fun f => ?_, fun f => ?_⟩
  · exact ⟨hk.lt_clocks (h.there x hx).1, hk.lt_tokens (h.there x hx).2⟩
  · rw [hflags, ← h.marks_eq]
    exact List.map_congr_left fun x hx => hk.mark_eq (h.there x hx).2
  · rw [hfamilies, h.share_eq hk, h.families_eq]
  · rw [h.share_eq hk, ← h.generations_eq]
    exact List.map_congr_left fun x hx => hk.generation_eq (h.there x (List.mem_filter.1 hx).1).2

theorem Tally.issue (h : s.Tally is) {a f : Nat} (ha : s.clocks[a]? = some f)
    (hf : f < s.families.length) (hk : s.Keeps s')
    (hs' : s' = { s with
      families := s.families.set f (s.families.getD f 0 + 1)
      flags := s.flags ++ [false]
      tokens := s.tokens ++ [⟨s.families.getD f 0 + 1, s.flags.length⟩] }) :
    s'.Tally (is ++ [(a, s.tokens.length)]) := by
  have hshare : ∀ g, s'.share (is ++ [(a, s.tokens.length)]) g =
      s.share is g ++ if f = g then [(a, s.tokens.length)] else [] := by
    intro g
    have hnew : s'.share [(a, s.tokens.length)] g =
        if f = g then [(a, s.tokens.length)] else [] := by
      rw [share, List.filter_cons, hk.clock ha]
      by_cases hg : f = g <;> simp [hg]
    rw [share, List.filter_append, ← hnew, ← h.share_eq hk]
    rfl
  have hgeneration : s'.generation s.tokens.length = s.families.getD f 0 + 1 := by
    rw [generation, hs', List.getElem?_concat_length]
  have hmark : s'.marks[s.tokens.length]? = some s.flags.length := by
    rw [marks, List.getElem?_map, hs', List.getElem?_concat_length]
    rfl
  refine ⟨fun x hx => ?_, ?_, fun g => ?_, fun g => ?_⟩
  · rw [hs', List.length_append]
    rcases List.mem_append.1 hx with hx | hx
    · exact ⟨(h.there x hx).1, Nat.lt_succ_of_lt (h.there x hx).2⟩
    · rw [List.mem_singleton.1 hx]
      exact ⟨(List.getElem?_eq_some_iff.1 ha).1, Nat.lt_succ_self _⟩
  · have hold : is.map (fun x => s'.marks[x.2]?) = is.map (fun x => s.marks[x.2]?) :=
      List.map_congr_left fun x hx => hk.mark_eq (h.there x hx).2
    have hlength : s'.flags.length = s.flags.length + 1 := by
      rw [hs', List.length_append]
      rfl
    rw [List.map_append, hold, h.marks_eq, hlength, List.range_succ, List.map_append]
    exact congrArg (_ ++ [·]) hmark
  · rw [hshare]
    by_cases hg : f = g
    · subst hg
      have hnew : s'.families.getD f 0 = s.families.getD f 0 + 1 := by
        rw [hs', List.getD_eq_getElem?_getD, List.getElem?_set_self hf]
        rfl
      rw [hnew, if_pos rfl, List.length_append, h.families_eq, UInt64.ofNat_add]
      rfl
    · have hsame : s'.families.getD g 0 = s.families.getD g 0 := by
        rw [hs', List.getD_eq_getElem?_getD, List.getElem?_set_ne hg, List.getD_eq_getElem?_getD]
      rw [hsame, if_neg hg, List.append_nil, h.families_eq]
  · have hold : (s.share is g).map (fun x => s'.generation x.2) =
        (s.share is g).map (fun x => s.generation x.2) :=
      List.map_congr_left fun x hx => hk.generation_eq (h.there x (List.mem_filter.1 hx).1).2
    rw [hshare, List.map_append, hold, h.generations_eq]
    by_cases hg : f = g
    · subst hg
      rw [if_pos rfl, List.length_append, List.length_singleton, List.range'_1_concat,
        List.map_append, List.map_singleton, List.map_singleton, hgeneration, h.families_eq,
        Nat.add_comm 1, UInt64.ofNat_add]
      rfl
    · rw [if_neg hg, List.append_nil, List.map_nil, List.append_nil]

theorem Tally.step (h : s.Tally is) (hs : s.Valid) (e : Event) :
    (s.step e).Tally (is ++ ((s.deed e).bind Deed.issued?).toList) := by
  have hk := s.keeps_step e
  have hstep := s.stepped e
  generalize s.deed e = d, s.step e = s' at hstep hk ⊢
  cases hstep with
  | newClock => exact h.of_keeps hk rfl rfl (getD_concat_self s.families 0)
  | issue a f ha => exact h.issue ha (hs.clock_lt f (List.mem_of_getElem? ha)) hk rfl
  | cloneClock | cloneToken | void => exact h.of_keeps hk rfl rfl fun _ => rfl
  | cancel => exact h.of_keeps hk rfl List.length_set fun _ => rfl

end

theorem tally_after (es : List Event) : (none.after es).Tally (issues es) := by
  induction es using List.reverseRecOn with
  | nil => exact tally_none
  | append_singleton es e ih =>
    have hissues : issues (es ++ [e]) =
        issues es ++ (((none.after es).deed e).bind Deed.issued?).toList := by
      rw [issues, deeds_concat, List.filterMap_append]
      cases (none.after es).deed e with
      | none => rfl
      | some d => cases d <;> rfl
    rw [after_concat, hissues]
    exact ih.step (valid_after es) e

theorem map_snd_share {es : List Event} {c f : Nat} (hc : (none.after es).clocks[c]? = some f) :
    issuedBy es c = ((none.after es).share (issues es) f).map Prod.snd := by
  rw [issuedBy, share]
  refine congrArg (List.map Prod.snd) (List.filter_congr fun x _ => ?_)
  rw [decide_eq_decide]
  exact clockCells.kin_iff_of_cell hc

/-! ## what was cancelled -/

structure Flagged (s : Clocks) (ds : List Deed) : Prop where
  there : ∀ t, Deed.cancelled t ∈ ds → t < s.tokens.length
  flags_iff : ∀ f, s.flags.getD f false = true ↔ ∃ t, Deed.cancelled t ∈ ds ∧ s.marks[t]? = some f

theorem flagged_none : none.Flagged [] where
  there _ h := nomatch h
  flags_iff f := by simp [none]

section
variable {s s' : Clocks} {ds ds' : List Deed}

theorem Flagged.of_keeps (h : s.Flagged ds) (hk : s.Keeps s')
    (hflags : ∀ f, s'.flags.getD f false = s.flags.getD f false)
    (hds : ∀ t, Deed.cancelled t ∈ ds' ↔ Deed.cancelled t ∈ ds) : s'.Flagged ds' where
  there t ht := hk.lt_tokens (h.there t ((hds t).1 ht))
  flags_iff f := by
    rw [hflags, h.flags_iff]
    refine exists_congr fun t => ?_
    rw [hds]
    refine and_congr_right fun ht => ?_
    rw [hk.mark_eq (h.there t ht)]

theorem Flagged.cancel (h : s.Flagged ds) (hs : s.Valid) {t : Nat} {x : Token}
    (ht : s.tokens[t]? = some x) :
    Flagged { s with flags := s.flags.set x.flag true } (ds ++ [.cancelled t]) where
  there u hu := by
    rcases List.mem_append.1 hu with hu | hu
    · exact h.there u hu
    · cases List.mem_singleton.1 hu
      exact (List.getElem?_eq_some_iff.1 ht).1
  flags_iff f := by
    have hmark : s.marks[t]? = some x.flag := by
      rw [marks, List.getElem?_map, ht]
      rfl
    show (s.flags.set x.flag true).getD f false = true ↔
      ∃ u, Deed.cancelled u ∈ ds ++ [.cancelled t] ∧ s.marks[u]? = some f
    rw [List.getD_eq_getElem?_getD]
    by_cases hf : x.flag = f
    · subst hf
      rw [List.getElem?_set_self (hs.flag_lt x (List.mem_of_getElem? ht))]
      exact ⟨fun _ => ⟨t, by simp, hmark⟩, fun _ => rfl⟩
    · rw [List.getElem?_set_ne hf, ← List.getD_eq_getElem?_getD, h.flags_iff]
      constructor
      · rintro ⟨u, hu, huf⟩
        exact ⟨u, List.mem_append_left _ hu, huf⟩
      · rintro ⟨u, hu, huf⟩
        rcases List.mem_append.1 hu with hu | hu
        · exact ⟨u, hu, huf⟩
        · cases List.mem_singleton.1 hu
          rw [hmark] at huf
          exact absurd (Option.some.inj huf) hf

theorem Flagged.step (h : s.Flagged ds) (hs : s.Valid) (e : Event) :
    (s.step e).Flagged (ds ++ (s.deed e).toList) := by
  have hk := s.keeps_step e
  have hstep := s.stepped e
  generalize s.deed e = d, s.step e = s' at hstep hk
  cases hstep with
  | newClock | cloneClock | cloneToken | void => exact h.of_keeps hk (fun _ => rfl) fun t => by simp
  | issue => exact h.of_keeps hk (getD_concat_self s.flags false) fun t => by simp
  | cancel t x ht => exact h.cancel hs ht

theorem isCancelled_eq_true_iff {t : Nat} : s.isCancelled t = true ↔
    ∃ f, s.marks[t]? = some f ∧ s.flags.getD f false = true := by
  rw [isCancelled, marks, List.getElem?_map]
  cases s.tokens[t]? with
  | none => simp
  | some x => simp

end

theorem flagged_after (es : List Event) : (none.after es).Flagged (deeds none es) := by
  induction es using List.reverseRecOn with
  | nil => exact flagged_none
  | append_singleton es e ih =>
    rw [after_concat, deeds_concat]
    exact ih.step (valid_after es) e

theorem isCancelled_iff {es : List Event} {t : Nat} : (none.after es).isCancelled t = true ↔
    ∃ u, Deed.cancelled u ∈ deeds none es ∧ Kin Deed.tokenCloned es u t := by
  have h := flagged_after es
  rw [isCancelled_eq_true_iff]
  constructor
  · rintro ⟨f, htf, hf⟩
    obtain ⟨u, hu, huf⟩ := (h.flags_iff f).1 hf
    exact ⟨u, hu, (tokenCells.kin_iff_of_cell htf).2 huf⟩
  · rintro ⟨u, hu, hkin⟩
    have hlt : u < (none.after es).marks.length := by
      rw [marks, List.length_map]
      exact h.there u hu
    have huf := List.getElem?_eq_getElem hlt
    refine ⟨_, (tokenCells.kin_iff_of_cell huf).1 (hkin.symm _ _), ?_⟩
    exact (h.flags_iff _).2 ⟨u, hu, huf⟩

/-! ## what one call leaves alone -/

section
variable {s : Clocks} {f : Nat} {e : Event}

theorem current_of_clock {c : Nat} (hc : s.clocks[c]? = some f) :
    s.current c = s.families.getD f 0 := by
  rw [current, hc]

theorem current_step {c : Nat} (hc : s.clocks[c]? = some f)
    (hother : ∀ a, e = .issue a → s.clocks[a]? ≠ some f) :
    (s.step e).current c = s.current c := by
  rw [current_of_clock hc, current_of_clock ((s.keeps_step e).clock hc)]
  have hstep := s.stepped e
  generalize s.deed e = d, s.step e = s' at hstep
  cases hstep with
  | newClock => exact getD_concat_self s.families 0 f
  | issue a g ha =>
    have hg : g ≠ f := fun h => hother a rfl (h ▸ ha)
    show (s.families.set g _).getD f 0 = _
    rw [List.getD_eq_getElem?_getD, List.getElem?_set_ne hg, List.getD_eq_getElem?_getD]
  | cloneClock | cloneToken | cancel | void => rfl

theorem isCancelled_of_mark {t : Nat} (ht : s.marks[t]? = some f) :
    s.isCancelled t = s.flags.getD f false := by
  rw [Bool.eq_iff_iff, isCancelled_eq_true_iff, ht]
  simp

theorem isCancelled_step {t : Nat} (ht : s.marks[t]? = some f)
    (hother : ∀ u, e = .cancel u → s.marks[u]? ≠ some f) :
    (s.step e).isCancelled t = s.isCancelled t := by
  have hlt : t < s.tokens.length := by
    have h := (List.getElem?_eq_some_iff.1 ht).1
    rwa [marks, List.length_map] at h
  rw [isCancelled_of_mark ht, isCancelled_of_mark (((s.keeps_step e).mark_eq hlt).trans ht)]
  have hstep := s.stepped e
  generalize s.deed e = d, s.step e = s' at hstep
  cases hstep with
  | issue a g => exact getD_concat_self s.flags false f
  | cancel u x hu =>
    have hx : x.flag ≠ f := fun h => hother u rfl (by rw [marks, List.getElem?_map, hu, ← h]; rfl)
    show (s.flags.set x.flag true).getD f false = _
    rw [List.getD_eq_getElem?_getD, List.getElem?_set_ne hx, List.getD_eq_getElem?_getD]
  | newClock | cloneClock | cloneToken | void => rfl

end

theorem issued_counted {es : List Event} {c : Nat} (hc : c < (none.after es).clocks.length)
    (hfew : (issuedBy es c).length < UInt64.size) :
    (issuedBy es c).map (fun t => ((none.after es).generation t).toNat) =
      List.range' 1 (issuedBy es c).length ∧
    ((none.after es).current c).toNat = (issuedBy es c).length := by
  have h := tally_after es
  have hf := List.getElem?_eq_getElem hc
  generalize (none.after es).clocks[c] = f at hf
  rw [map_snd_share hf, List.length_map] at hfew ⊢
  refine ⟨?_, ?_⟩
  · have hwords := congrArg (List.map UInt64.toNat) (h.generations_eq f)
    rw [List.map_map, List.map_map] at hwords
    rw [List.map_map]
    refine hwords.trans ((List.map_congr_left fun k hk => ?_).trans (List.map_id _))
    have hle := (List.mem_range'_1.1 hk).2
    exact UInt64.toNat_ofNat_of_lt' (by omega)
  · rw [current_of_clock hf, h.families_eq]
    exact UInt64.toNat_ofNat_of_lt' hfew

theorem pairwise_issues (es : List Event) :
    (issues es).Pairwise fun x y => ¬ Kin Deed.tokenCloned es x.2 y.2 := by
  have hnodup : ((issues es).map fun x => (none.after es).marks[x.2]?).Pairwise (· ≠ ·) := by
    rw [(tally_after es).marks_eq, List.pairwise_map]
    exact List.nodup_range.imp fun hne h => hne (Option.some.inj h)
  refine (List.pairwise_map.1 hnodup).imp fun {x y} hne hkin => ?_
  rcases tokenCells.kin_iff.1 hkin with heq | ⟨-, heq⟩
  · exact hne (by rw [heq])
  · exact hne heq

theorem exists_issue {es : List Event} {t : Nat} (ht : t < (none.after es).tokens.length) :
    ∃ x ∈ issues es, Kin Deed.tokenCloned es x.2 t := by
  have hmark : (none.after es).marks[t]? = some (none.after es).tokens[t].flag := by
    rw [marks, List.getElem?_map, List.getElem?_eq_getElem ht]
    rfl
  have hlt := (valid_after es).flag_lt _ (List.getElem_mem ht)
  have hmem : some (none.after es).tokens[t].flag ∈
      (List.range (none.after es).flags.length).map some :=
    List.mem_map.2 ⟨_, List.mem_range.2 hlt, rfl⟩
  rw [← (tally_after es).marks_eq] at hmem
  obtain ⟨x, hx, hflag⟩ := List.mem_map.1 hmem
  exact ⟨x, hx, (tokenCells.kin_iff_of_cell hmark).2 hflag⟩

/-- **Handles share with their kin, and with nobody else.** Let some calls be made, in any order.

* The generations of the tokens that a clock and its kin issued are 1, 2, 3, … in the order in which
  they were issued, and the last of them is what the clock says, as long as they are words.
* A call changes what a clock says only if the clock or one of its kin issues a token.
* A token is cancelled if and only if it or one of its kin was cancelled, at whatever time the
  clones were made. Cancelling any other token does not change it, and nothing undoes it. Nor does a
  generation ever change.
* Tokens that were issued separately are no kin, and every token is kin to one that was issued. -/
theorem shared_among_clones (es : List Event) :
    let s := none.after es
    (∀ c < s.clocks.length, (issuedBy es c).length < UInt64.size →
      (issuedBy es c).map (fun t => (s.generation t).toNat) =
        List.range' 1 (issuedBy es c).length ∧
      (s.current c).toNat = (issuedBy es c).length) ∧
    (∀ e, ∀ c < s.clocks.length, (∀ a, e = .issue a → ¬ Kin Deed.clockCloned es a c) →
      (s.step e).current c = s.current c) ∧
    (∀ t, s.isCancelled t = true ↔
      ∃ u, Deed.cancelled u ∈ deeds none es ∧ Kin Deed.tokenCloned es u t) ∧
    (∀ e, ∀ t < s.tokens.length, (s.step e).generation t = s.generation t ∧
      ((∀ u, e = .cancel u → ¬ Kin Deed.tokenCloned es u t) →
        (s.step e).isCancelled t = s.isCancelled t)) ∧
    (∀ more t, s.isCancelled t = true → (s.after more).isCancelled t = true) ∧
    ((issues es).Pairwise fun x y => ¬ Kin Deed.tokenCloned es x.2 y.2) ∧
    ∀ t < s.tokens.length, ∃ x ∈ issues es, Kin Deed.tokenCloned es x.2 t := by
  intro s
  refine ⟨fun c hc hfew => issued_counted hc hfew, fun e c hc hother => ?_,
    fun t => isCancelled_iff, fun e t ht => ⟨?_, fun hother => ?_⟩, fun more t ht => ?_,
    pairwise_issues es, fun t ht => exists_issue ht⟩
  · have hf := List.getElem?_eq_getElem hc
    refine current_step hf fun a he ha => hother a he ?_
    exact (clockCells.kin_iff_of_cell hf).2 ha
  · exact (s.keeps_step e).generation_eq ht
  · have hmark : s.marks[t]? = some s.tokens[t].flag := by
      rw [marks, List.getElem?_map, List.getElem?_eq_getElem ht]
      rfl
    refine isCancelled_step hmark fun u he hu => hother u he ?_
    exact (tokenCells.kin_iff_of_cell hmark).2 hu
  · show ((none.after es).after more).isCancelled t = true
    rw [← after_append]
    obtain ⟨u, hu, hkin⟩ := isCancelled_iff.1 ht
    refine isCancelled_iff.2 ⟨u, ?_, hkin.mono fun a b hab => ?_⟩
    · rw [deeds_append]
      exact List.mem_append_left _ hu
    · rw [deeds_append]
      exact List.mem_append_left _ hab

/-- two families of clocks, and a token that is cancelled through its clone before it is cloned
again. -/
theorem shared_among_clones_two_families :
    let es : List Event := [.newClock, .issue 0, .cloneClock 0, .newClock, .issue 2, .issue 1,
      .cloneToken 0, .cancel 3, .cloneToken 0, .issue 0]
    let s := none.after es
    issuedBy es 1 = [0, 2, 5] ∧
    (issuedBy es 1).map (fun t => (s.generation t).toNat) = [1, 2, 3] ∧
    (s.current 1).toNat = 3 ∧ (s.step (.issue 2)).current 1 = s.current 1 ∧
    s.isCancelled 4 = true ∧ (s.after [.cancel 1, .newClock]).isCancelled 4 = true ∧
    s.isCancelled 2 = false ∧ (s.step (.cancel 1)).isCancelled 2 = s.isCancelled 2 := by
  intro es s
  obtain ⟨hcounted, hcurrent, hcancelled, hcancel, hstays, -, -⟩ := shared_among_clones es
  have hissued : issuedBy es 1 = [0, 2, 5] := by decide
  have hfew : (issuedBy es 1).length < UInt64.size := by
    rw [hissued]
    decide
  obtain ⟨hgenerations, hlast⟩ := hcounted 1 (by decide) hfew
  rw [hissued] at hgenerations hlast
  have hother : ∀ a, Event.issue 2 = .issue a → ¬ Kin Deed.clockCloned es a 1 := by
    intro a ha
    cases ha
    decide
  have hotherToken : ∀ u, Event.cancel 1 = .cancel u → ¬ Kin Deed.tokenCloned es u 2 := by
    intro u hu
    cases hu
    decide
  have hclone : s.isCancelled 4 = true := (hcancelled 4).2 ⟨3, by decide, by decide⟩
  refine ⟨hissued, ?_, hlast, hcurrent (.issue 2) 1 (by decide) hother, hclone, hstays _ 4 hclone,
    rfl, (hcancel (.cancel 1) 2 (by decide)).2 hotherToken⟩
  · rw [hissued]
    exact hgenerations

/-! ## the clock of a compiler -/

def issuing (n : Nat) : Clocks := none.after (.newClock :: List.replicate n (.issue 0))

theorem issuing_succ (n : Nat) : issuing (n + 1) = (issuing n).issue 0 := by
  unfold issuing
  rw [List.replicate_succ', ← List.cons_append, after_concat]
  rfl

theorem issuing_eq (n : Nat) : issuing n = ⟨[.ofNat n], [0], List.replicate n false,
    (List.range n).map fun i => ⟨.ofNat (i + 1), i⟩⟩ := by
  induction n with
  | zero => rfl
  | succ n ih =>
    rw [issuing_succ, ih, List.replicate_succ', List.range_succ, List.map_append]
    simp [issue, UInt64.ofNat_add]

/-- **A compiler counts its runs as a clock does**, as long as they are fewer than the words. -/
theorem generations_issued (s : Setup) (es : List Regen.Event)
    (hfew : (s.after es).clock < UInt64.size) :
    (s.after es).asked.map Request.generation =
      (issuing (s.after es).clock).tokens.map (fun t => t.generation.toNat) ∧
    (s.after es).clock = ((issuing (s.after es).clock).current 0).toNat := by
  obtain ⟨hsound, -⟩ := s.soundWith_after es
  generalize s.after es = c at hsound hfew
  rw [issuing_eq, hsound.asked_numbered, List.map_map, List.range'_eq_map_range]
  refine ⟨List.map_congr_left fun i hi => ?_, (UInt64.toNat_ofNat_of_lt' hfew).symm⟩
  have hlt : i + 1 < UInt64.size := Nat.lt_of_le_of_lt (List.mem_range.1 hi) hfew
  show 1 + i = (UInt64.ofNat (i + 1)).toNat
  rw [UInt64.toNat_ofNat_of_lt' hlt, Nat.add_comm]

end Regen.Clocks
