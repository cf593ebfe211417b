import Regen.Proofs.Compiler.Life

/-!
# What a poll does

A poll goes through the inbox. It *takes* the answer of the active run, and withdraws every other
one. As no run becomes active during a poll, it takes at most one answer; so the inbox is either
withdrawn as a whole, or falls into a part before the answer taken, this answer, and a part after.

* `Compiler.Takes`       whether an answer is taken when it is met;
* `Compiler.handleAll`   answers handled one after the other;
* `Compiler.meetings`    the answers, each with the compiler that meets it;
* `Compiler.taken`       the generations of the answers that a poll takes;
* `Compiler.withdraw`    some answers are dropped together.

Main statements: `handleAll_of_not_takes` and `handleAll_of_takes`, the two shapes of a poll.
-/

namespace Regen.Compiler

/-- whether an answer is taken when it is met: it is that of the active run. -/
def Takes (c : Compiler) (m : Completion) : Prop := c.active = some m.generation

instance (c : Compiler) (m : Completion) : Decidable (c.Takes m) :=
  inferInstanceAs (Decidable (_ = _))

def handleAll (wall : Time) : Compiler → List Completion → Compiler
  | c, [] => c
  | c, m :: ms => (c.handle wall m).handleAll wall ms

def meetings (wall : Time) : Compiler → List Completion → List (Compiler × Completion)
  | _, [] => []
  | c, m :: ms => (c, m) :: (c.handle wall m).meetings wall ms

/-- nothing is left in the inbox. -/
def emptied (c : Compiler) : Compiler := { c with inbox := [] }

def idle (c : Compiler) : Compiler := { c with active := none }

/-- what a poll of this moment meets. -/
def met (c : Compiler) (h : Host) : List (Compiler × Completion) :=
  c.emptied.meetings h.wall c.inbox

def taken (c : Compiler) (h : Host) : List Nat :=
  ((c.met h).filter fun x => x.1.Takes x.2).map fun x => x.2.generation

def staleNote (m : Completion) : Effect := .noted (.staleDropped m.generation)

def withdraw (c : Compiler) (ms : List Completion) : Compiler :=
  { c with
      superseded := c.superseded.filter fun g => g ∉ ms.map Completion.generation
      effects := c.effects ++ ms.map staleNote }

/-! ## one answer -/

theorem handle_of_takes {c : Compiler} {m : Completion} (wall : Time) (h : c.Takes m) :
    c.handle wall m = c.idle.adopt wall m.outcome := if_pos h

theorem handle_of_not_takes {c : Compiler} {m : Completion} (wall : Time) (h : ¬ c.Takes m) :
    c.handle wall m = c.withdraw [m] := by
  have hs : (fun g => decide (g ∉ [m].map Completion.generation))
      = fun g => decide (g ≠ m.generation) := by
    funext g
    simp
  unfold withdraw
  rw [hs]
  exact if_neg h

/-! ## lists of answers -/

theorem handleAll_append (wall : Time) (c : Compiler) (ms ns : List Completion) :
    c.handleAll wall (ms ++ ns) = (c.handleAll wall ms).handleAll wall ns := by
  induction ms generalizing c with
  | nil => rfl
  | cons m ms ih => exact ih (c.handle wall m)

theorem meetings_append (wall : Time) (c : Compiler) (ms ns : List Completion) :
    c.meetings wall (ms ++ ns) = c.meetings wall ms ++ (c.handleAll wall ms).meetings wall ns := by
  induction ms generalizing c with
  | nil => rfl
  | cons m ms ih => exact congrArg ((c, m) :: ·) (ih (c.handle wall m))

theorem map_snd_meetings (wall : Time) (c : Compiler) (ms : List Completion) :
    (c.meetings wall ms).map Prod.snd = ms := by
  induction ms generalizing c with
  | nil => rfl
  | cons m ms ih => exact congrArg (m :: ·) (ih (c.handle wall m))

theorem mem_of_mem_meetings {wall : Time} {c : Compiler} {ms : List Completion}
    {x : Compiler × Completion} (hx : x ∈ c.meetings wall ms) : x.2 ∈ ms :=
  map_snd_meetings wall c ms ▸ List.mem_map_of_mem hx

theorem withdraw_nil (c : Compiler) : c.withdraw [] = c := by
  have hs : c.superseded.filter (fun g => g ∉ ([] : List Completion).map Completion.generation)
      = c.superseded := List.filter_eq_self.2 fun g _ => by simp
  unfold withdraw
  rw [hs, List.map_nil, List.append_nil]

theorem withdraw_append (c : Compiler) (ms ns : List Completion) :
    c.withdraw (ms ++ ns) = (c.withdraw ms).withdraw ns := by
  simp only [withdraw, List.filter_filter, List.append_assoc, List.map_append, List.mem_append,
    not_or, Bool.decide_and, Bool.and_comm]

theorem handleAll_of_not_takes {c : Compiler} {ms : List Completion} (wall : Time)
    (h : ∀ m ∈ ms, ¬ c.Takes m) : c.handleAll wall ms = c.withdraw ms := by
  induction ms generalizing c with
  | nil => exact (withdraw_nil c).symm
  | cons m ms ih =>
    obtain ⟨hm, hms⟩ := List.forall_mem_cons.1 h
    have hw := handle_of_not_takes wall hm
    have hr := ih (c := c.withdraw [m]) hms
    show (c.handle wall m).handleAll wall ms = c.withdraw ([m] ++ ms)
    rw [hw, hr, withdraw_append]

theorem not_takes_of_mem_meetings {c : Compiler} {ms : List Completion} {wall : Time}
    (h : ∀ m ∈ ms, ¬ c.Takes m) : ∀ x ∈ c.meetings wall ms, ¬ x.1.Takes x.2 := by
  induction ms generalizing c with
  | nil => exact fun x hx => absurd hx List.not_mem_nil
  | cons m ms ih =>
    obtain ⟨hm, hms⟩ := List.forall_mem_cons.1 h
    intro x hx
    rcases List.mem_cons.1 hx with rfl | hx
    · exact hm
    · rw [handle_of_not_takes wall hm] at hx
      exact ih (c := c.withdraw [m]) hms x hx

section
variable {c : Compiler} {before after : List Completion} {m : Completion} (wall : Time)
  (hb : ∀ b ∈ before, ¬ c.Takes b) (hm : c.Takes m)

/-- once an answer was taken, no run is active. -/
theorem not_takes_adopt (c : Compiler) (o : Outcome) (a : Completion) :
    ¬ (c.idle.adopt wall o).Takes a := by
  have hn : (c.idle.adopt wall o).active = none :=
    congrArg Book.active (book_adopt _ wall o)
  unfold Takes
  rw [hn]
  simp

include hb hm

theorem handleAll_of_takes : c.handleAll wall (before ++ m :: after)
    = ((c.withdraw before).idle.adopt wall m.outcome).withdraw after := by
  have ht : (c.withdraw before).Takes m := hm
  rw [handleAll_append, handleAll_of_not_takes wall hb]
  show ((c.withdraw before).handle wall m).handleAll wall after = _
  rw [handle_of_takes wall ht]
  exact handleAll_of_not_takes wall fun a _ => not_takes_adopt wall _ _ a

theorem meetings_of_takes : c.meetings wall (before ++ m :: after)
    = c.meetings wall before ++ (c.withdraw before, m)
      :: ((c.withdraw before).idle.adopt wall m.outcome).meetings wall after := by
  have ht : (c.withdraw before).Takes m := hm
  rw [meetings_append, handleAll_of_not_takes wall hb]
  show _ ++ (c.withdraw before, m) :: ((c.withdraw before).handle wall m).meetings wall after = _
  rw [handle_of_takes wall ht]

end

/-- an inbox without the answer of the active run, or the place of this answer in it. -/
theorem takes_cases (c : Compiler) (ms : List Completion) :
    (∀ m ∈ ms, ¬ c.Takes m) ∨
      ∃ before m after, ms = before ++ m :: after ∧ (∀ b ∈ before, ¬ c.Takes b) ∧ c.Takes m := by
  induction ms with
  | nil => exact .inl fun m hm => absurd hm List.not_mem_nil
  | cons m ms ih =>
    by_cases hm : c.Takes m
    · exact .inr ⟨[], m, ms, rfl, fun b hb => absurd hb List.not_mem_nil, hm⟩
    · rcases ih with h | ⟨before, m', after, rfl, hb, hm'⟩
      · exact .inl (List.forall_mem_cons.2 ⟨hm, h⟩)
      · exact .inr ⟨m :: before, m', after, rfl, List.forall_mem_cons.2 ⟨hm, hb⟩, hm'⟩

/-! ## the poll -/

theorem foldl_handleCounting (wall : Time) (ms : List Completion) (acc : Compiler × Nat) :
    (ms.foldl (handleCounting wall) acc).1 = acc.1.handleAll wall ms := by
  induction ms generalizing acc with
  | nil => rfl
  | cons m ms ih => exact ih (handleCounting wall acc m)

theorem poll_fst (c : Compiler) (h : Host) :
    (c.poll h).1 = c.emptied.handleAll h.wall c.inbox :=
  foldl_handleCounting h.wall c.inbox _

theorem count_of_not_takes {wall : Time} {ms : List Completion} {acc : Compiler × Nat}
    (h : ∀ m ∈ ms, ¬ acc.1.Takes m) : (ms.foldl (handleCounting wall) acc).2 = acc.2 := by
  induction ms generalizing acc with
  | nil => rfl
  | cons m ms ih =>
    obtain ⟨hm, hms⟩ := List.forall_mem_cons.1 h
    have hn : handleCounting wall acc m = (acc.1.withdraw [m], acc.2) := by
      unfold handleCounting
      rw [handle_of_not_takes wall hm, if_neg fun hc => hm hc.1]
    have hr : (ms.foldl (handleCounting wall) (acc.1.withdraw [m], acc.2)).2 = acc.2 := ih hms
    rw [List.foldl_cons, hn, hr]

theorem count_of_takes {wall : Time} {before after : List Completion} {m : Completion}
    {acc : Compiler × Nat} (hb : ∀ b ∈ before, ¬ acc.1.Takes b) (hm : acc.1.Takes m) :
    ((before ++ m :: after).foldl (handleCounting wall) acc).2
      = acc.2 + if brings m.outcome then 1 else 0 := by
  have h1 : before.foldl (handleCounting wall) acc = (acc.1.withdraw before, acc.2) :=
    Prod.ext (by rw [foldl_handleCounting, handleAll_of_not_takes wall hb]) (count_of_not_takes hb)
  have ht : (acc.1.withdraw before).Takes m := hm
  rw [List.foldl_append, List.foldl_cons, h1, count_of_not_takes]
  · show (if (acc.1.withdraw before).Takes m ∧ brings m.outcome then acc.2 + 1 else acc.2) = _
    by_cases hbr : brings m.outcome = true
    · rw [if_pos ⟨ht, hbr⟩, if_pos hbr]
    · rw [if_neg fun hc => hbr hc.2, if_neg hbr]
      rfl
  · intro a _
    show ¬ ((acc.1.withdraw before).handle wall m).Takes a
    rw [handle_of_takes wall ht]
    exact not_takes_adopt wall _ _ a

end Regen.Compiler
