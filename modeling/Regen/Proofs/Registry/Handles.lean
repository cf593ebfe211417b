import Regen.Proofs.Registry.Guards

/-!
# Handles of a registry

A registry is shared: it may be cloned, and each clone is one more handle to the same registry.
What is done through one handle is seen through the others, and other registries are left alone.

* `Shared`            some registries, and handles to them;
* `Shared.Event`      a new registry, one more handle, or an event of a registry;
* `Shared.heard`      what a registry meets, through whichever handle;
* `Shared.cell`       a registry by its number.

Main statements: `Shared.cell_after` (a registry goes through what it meets) and `guards_own_entries`.
-/

namespace Regen.Registry

structure Shared where
  cells : List Guarded
  handles : List Nat

namespace Shared

inductive Event where
  | create
  | clone (handle : Nat)
  | via (handle : Nat) (e : Registry.Event)

def start : Shared := ⟨[], []⟩

def step (s : Shared) : Event → Shared
  | .create => ⟨s.cells ++ [.start], s.handles ++ [s.cells.length]⟩
  | .clone a =>
    match s.handles[a]? with
    | some i => { s with handles := s.handles ++ [i] }
    | none => s
  | .via a e =>
    match s.handles[a]? with
    | some i => { s with cells := s.cells.modify i (·.step e) }
    | none => s

def after : Shared → List Event → Shared
  | s, [] => s
  | s, e :: es => (s.step e).after es

/-- a registry by its number; there is nothing in one that is still to come. -/
def cell (s : Shared) (i : Nat) : Guarded := s.cells[i]?.getD .start

def met (s : Shared) (i : Nat) : Event → Option Registry.Event
  | .via a e => if s.handles[a]? = some i then some e else none
  | _ => none

def heard (i : Nat) : Shared → List Event → List Registry.Event
  | _, [] => []
  | s, e :: es => (s.met i e).toList ++ heard i (s.step e) es

def Valid (s : Shared) : Prop := ∀ i ∈ s.handles, i < s.cells.length

theorem valid_start : start.Valid := fun _ h => nomatch h

/-! ## one event -/

section
variable {s : Shared} {a i : Nat}

theorem Valid.lt (hs : s.Valid) (ha : s.handles[a]? = some i) : i < s.cells.length :=
  hs i (List.mem_of_getElem? ha)

theorem step_via (ha : s.handles[a]? = some i) (e : Registry.Event) :
    s.step (.via a e) = { s with cells := s.cells.modify i (·.step e) } := by
  show (match s.handles[a]? with | some i => _ | none => s) = _
  rw [ha]

theorem Valid.step (hs : s.Valid) (e : Event) : (s.step e).Valid := by
  cases e with
  | create =>
    intro i hi
    show i < (s.cells ++ [Guarded.start]).length
    rw [List.length_append, List.length_singleton]
    rcases List.mem_append.1 hi with hi | hi
    · exact Nat.lt_succ_of_lt (hs i hi)
    · rw [List.mem_singleton.1 hi]
      exact Nat.lt_succ_self _
  | clone a =>
    show Valid (match s.handles[a]? with | some i => _ | none => s)
    cases ha : s.handles[a]? with
    | none => exact hs
    | some j =>
      intro i hi
      rcases List.mem_append.1 hi with hi | hi
      · exact hs i hi
      · rw [List.mem_singleton.1 hi]
        exact hs.lt ha
  | via a e =>
    show Valid (match s.handles[a]? with | some i => _ | none => s)
    cases s.handles[a]? with
    | none => exact hs
    | some j =>
      intro i hi
      show i < (s.cells.modify j _).length
      rw [List.length_modify]
      exact hs i hi

theorem Valid.after (hs : s.Valid) (es : List Event) : (s.after es).Valid := by
  induction es generalizing s with
  | nil => exact hs
  | cons e es ih => exact ih (hs.step e)

theorem cell_step (hs : s.Valid) (i : Nat) (e : Event) :
    (s.step e).cell i = (s.cell i).after (s.met i e).toList := by
  cases e with
  | create =>
    show (s.cells ++ [Guarded.start])[i]?.getD .start = s.cells[i]?.getD .start
    rcases Nat.lt_or_ge i s.cells.length with hlt | hge
    · rw [List.getElem?_append_left hlt]
    · rw [List.getElem?_append_right hge, List.getElem?_eq_none hge]
      cases i - s.cells.length <;> rfl
  | clone a =>
    show cell (match s.handles[a]? with | some i => _ | none => s) i = s.cell i
    cases s.handles[a]? <;> rfl
  | via a e =>
    cases ha : s.handles[a]? with
    | none =>
      have hstep : s.step (.via a e) = s := by
        show (match s.handles[a]? with | some i => _ | none => s) = s
        rw [ha]
      have hmet : s.met i (.via a e) = none := if_neg (by simp [ha])
      rw [hstep, hmet]
      rfl
    | some j =>
      have hcell : (s.step (.via a e)).cell i = (s.cells.modify j (·.step e))[i]?.getD .start := by
        rw [step_via ha]
        rfl
      rw [hcell, List.getElem?_modify]
      by_cases hij : j = i
      · have hlt : i < s.cells.length := hij ▸ hs.lt ha
        have hmet : s.met i (.via a e) = some e := if_pos (by rw [ha, hij])
        have hi : s.cells[i]? = some s.cells[i] := List.getElem?_eq_getElem hlt
        unfold cell
        rw [hi, hmet]
        exact if_pos hij
      · have hmet : s.met i (.via a e) = none := if_neg (by simp [ha, hij])
        unfold cell
        rw [hmet]
        cases s.cells[i]? with
        | none => rfl
        | some g => exact if_neg hij

/-- **A registry goes through what it meets**, through any of its handles, and through nothing
else. -/
theorem cell_after (hs : s.Valid) (i : Nat) (es : List Event) :
    (s.after es).cell i = (s.cell i).after (heard i s es) := by
  induction es generalizing s with
  | nil => rfl
  | cons e es ih =>
    have hstep := ih (hs.step e)
    rw [cell_step hs] at hstep
    rw [after, hstep, heard, Guarded.after_append]

end
end Shared

/-- **Guards own their entries.** Let fewer than 2^64 registrations be made in a registry, through
any of its handles.

* Its factories are those in force: registered since it was cleared last, and not dropped since; one
  for each registration, in their order. So are its observers.
* Dropping a guard, through whichever handle, takes out the registration of this number and no other
  one, and leaves other registries alone.
* A guard given out before the registry was cleared changes nothing when it is dropped. -/
theorem guards_own_entries (es : List Shared.Event) (i : Nat)
    (hfew : registrations (Shared.heard i .start es) < UInt64.size) :
    let s := Shared.start.after es
    let met := Shared.heard i .start es
    (s.cell i).registry.factoryList = (inForce met).filterMap (fun p => p.2.factory?) ∧
    (s.cell i).registry.observerList = (inForce met).filterMap (fun p => p.2.observer?) ∧
    ((inForce met).map Prod.fst).Pairwise (· < ·) ∧
    ∀ a k, s.handles[a]? = some i →
      let t := s.step (.via a (.drop k))
      let left := (inForce met).filter fun p => k != p.1
      (t.cell i).registry.factoryList = left.filterMap (fun p => p.2.factory?) ∧
      (t.cell i).registry.observerList = left.filterMap (fun p => p.2.observer?) ∧
      (∀ j, j ≠ i → t.cell j = s.cell j) ∧
      ∀ before later, met = before ++ .clear :: later → k < registrations before →
        t.cell i = s.cell i := by
  intro s met
  have hvalid : s.Valid := Shared.valid_start.after es
  have hcell : s.cell i = Guarded.start.after met := Shared.cell_after Shared.valid_start i es
  have hholds : (s.cell i).Holds (inForce met) := hcell ▸ Guarded.holds_after met hfew
  have hguards : (s.cell i).guards.length < UInt64.size := by
    rw [hcell, Guarded.length_guards_after]
    exact (Nat.zero_add _).symm ▸ hfew
  refine ⟨hholds.factoryList_eq, hholds.observerList_eq, (inForceFrom_sorted 0 met).1, fun a k ha => ?_⟩
  intro t left
  have hmet : ∀ j, t.cell j = (s.cell j).after (s.met j (.via a (.drop k))).toList := fun j =>
    Shared.cell_step hvalid j _
  have hdrop : t.cell i = (s.cell i).drop k := by
    have hi : s.met i (.via a (.drop k)) = some (.drop k) := if_pos ha
    rw [hmet, hi]
    rfl
  have hleft : (t.cell i).Holds left := hdrop ▸ hholds.drop hguards k
  refine ⟨hleft.factoryList_eq, hleft.observerList_eq, fun j hj => ?_, fun before later hclear hk => ?_⟩
  · have hi : s.met j (.via a (.drop k)) = none := if_neg fun h => hj (by
      rw [ha] at h
      exact (Option.some.inj h).symm)
    rw [hmet, hi]
    rfl
  · refine hdrop.trans (hholds.drop_of_gone hguards fun p hp => ?_)
    rw [hclear] at hp
    exact Nat.ne_of_gt (Nat.lt_of_lt_of_le hk (le_of_inForce_clear hp))

/-- a registry with two handles: the guard of an entry that was cleared away is dropped after the same
factory was registered again. -/
theorem guards_own_entries_cleared :
    let f : Factory := ⟨"text", Factory.bySuffix [".t"], fun _ => [], fun _ => .manual⟩
    let es : List Shared.Event := [.create, .clone 0, .via 0 (.register (.factory f)), .via 1 .clear,
      .via 1 (.register (.factory f)), .via 0 (.register (.observer ⟨"o"⟩))]
    let s := Shared.start.after es
    (s.cell 0).registry.factoryList = [f] ∧ (s.cell 0).registry.observerList = [⟨"o"⟩] ∧
      (s.step (.via 1 (.drop 0))).cell 0 = s.cell 0 := by
  intro f es s
  have hthree : registrations (Shared.heard 0 .start es) = 3 := rfl
  have hfew : registrations (Shared.heard 0 .start es) < UInt64.size := by
    rw [hthree]
    decide
  obtain ⟨hf, ho, -, hdrop⟩ := guards_own_entries es 0 hfew
  obtain ⟨-, -, -, hgone⟩ := hdrop 1 0 rfl
  exact ⟨hf, ho, hgone [.register (.factory f)] _ rfl (by decide)⟩

end Regen.Registry
