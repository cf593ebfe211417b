import Mathlib.Algebra.Ring.Nat
import Mathlib.Logic.Relation
import Regen.Pool

/-!
# How the jobs of a pool move

Jobs move one at a time. One that waits and is cancelled gives up; the first in line takes an idle
slot; one whose gate is open gives its slot back. Slots are counted here as they are taken and given
back, so a slot that got lost on the way would be missed.

* `Counted`            a pool with its idle slots counted;
* `Counted.Move`       one job moves;
* `Counted.AtRest`     no job can move;
* `Counted.Balanced`   the running jobs and the idle slots make up the capacity;
* `Counted.settled`    the pool settled, with the slots that it then calls available.

Main statements: `Move.settle_eq` (no move changes where the pool settles) and
`rest_iff_settled`: in whatever order the jobs move, they come to rest at `settled`, and nowhere
else.
-/

namespace Regen

/-- how often a job can still move. -/
def Job.left (j : Job) : Nat :=
  match j.stage with
  | .waiting => 2
  | .running => 1
  | .finished => 0
  | .refused => 0

namespace Pool

/-! ## settling -/

/-- a job that was cancelled or is done moves on. -/
def tidy (p : Pool) (j : Job) : Job := finish (p.refuse j)

/-- every job that was cancelled or is done has moved on. -/
def tidied (p : Pool) : Pool := { p with jobs := p.jobs.map p.tidy }

theorem settle_eq (p : Pool) : p.settle =
    { p with
      jobs := (grant p.tidied.available p.started p.tidied.jobs).1
      started := (grant p.tidied.available p.started p.tidied.jobs).2 } := rfl

theorem tidy_of_cancelled {p : Pool} {j : Job} (hw : j.stage = .waiting)
    (hc : p.isCancelled j = true) : p.tidy j = { j with stage := .refused } := by
  simp [tidy, refuse, finish, hw, hc]

theorem tidy_of_done {p : Pool} {j : Job} (hr : j.stage = .running) (hg : j.gateOpen = true) :
    p.tidy j = { j with stage := .finished } := by
  simp [tidy, refuse, finish, hr, hg]

theorem tidy_of_waiting {p : Pool} {j : Job} (hw : j.stage = .waiting)
    (hc : p.isCancelled j = false) : p.tidy j = j := by
  simp [tidy, refuse, finish, hw, hc]

theorem tidy_of_running {p : Pool} {j : Job} (hr : j.stage = .running) (hg : j.gateOpen = false) :
    p.tidy j = j := by
  simp [tidy, refuse, finish, hr, hg]

theorem tidy_of_refused {p : Pool} {j : Job} (h : j.stage = .refused) : p.tidy j = j := by
  simp [tidy, refuse, finish, h]

theorem tidy_of_finished {p : Pool} {j : Job} (h : j.stage = .finished) : p.tidy j = j := by
  simp [tidy, refuse, finish, h]

theorem waiting_tidy_iff (p : Pool) (j : Job) :
    (p.tidy j).stage = .waiting ↔ j.stage = .waiting ∧ p.isCancelled j = false := by
  cases hs : j.stage with
  | waiting =>
    cases hc : p.isCancelled j with
    | false => simp [tidy_of_waiting hs hc, hs]
    | true => simp [tidy_of_cancelled hs hc]
  | running =>
    cases hg : j.gateOpen with
    | false => simp [tidy_of_running hs hg, hs]
    | true => simp [tidy_of_done hs hg]
  | finished => simp [tidy_of_finished hs, hs]
  | refused => simp [tidy_of_refused hs, hs]

theorem running_of_running_tidy {p : Pool} {j : Job} (h : (p.tidy j).stage = .running) :
    j.stage = .running := by
  cases hs : j.stage with
  | waiting =>
    cases hc : p.isCancelled j with
    | false => simp [tidy_of_waiting hs hc, hs] at h
    | true => simp [tidy_of_cancelled hs hc] at h
  | running => rfl
  | finished => simp [tidy_of_finished hs, hs] at h
  | refused => simp [tidy_of_refused hs] at h; simp [hs] at h

theorem running_tidied_le (p : Pool) : p.tidied.running ≤ p.running := by
  show (p.jobs.map p.tidy).countP _ ≤ p.jobs.countP _
  rw [List.countP_map]
  refine List.countP_mono_left fun j _ h => ?_
  simp only [Function.comp_apply, decide_eq_true_eq] at h ⊢
  exact running_of_running_tidy h

theorem grant_append {before : List Job} (hb : ∀ b ∈ before, b.stage ≠ .waiting)
    (free started : Nat) (jobs : List Job) : grant free started (before ++ jobs)
      = (before ++ (grant free started jobs).1, (grant free started jobs).2) := by
  induction before with
  | nil => rfl
  | cons b bs ih =>
    obtain ⟨hw, hbs⟩ := List.forall_mem_cons.1 hb
    show grant free started (b :: (bs ++ jobs)) = _
    rw [grant, if_neg fun h => hw h.1, ih hbs]
    rfl

theorem grant_of_not_waiting {jobs : List Job} (h : ∀ j ∈ jobs, j.stage ≠ .waiting)
    (free started : Nat) : grant free started jobs = (jobs, started) := by
  have hg := grant_append h free started []
  rw [List.append_nil] at hg
  rw [hg]
  exact Prod.ext (List.append_nil jobs) rfl

theorem grant_zero (started : Nat) (jobs : List Job) : grant 0 started jobs = (jobs, started) := by
  induction jobs with
  | nil => rfl
  | cons j js ih => rw [grant, if_neg fun h => Nat.lt_irrefl 0 h.2, ih]

/-! ## moves -/

structure Counted where
  pool : Pool
  idle : Nat

namespace Counted

inductive Move : Counted → Counted → Prop where
  | refuse {p : Pool} {k : Nat} {before after : List Job} {j : Job}
      (jobs : p.jobs = before ++ j :: after) (waits : j.stage = .waiting)
      (cancelled : p.isCancelled j = true) :
      Move ⟨p, k⟩ ⟨{ p with jobs := before ++ { j with stage := .refused } :: after }, k⟩
  | start {p : Pool} {k : Nat} {before after : List Job} {j : Job}
      (jobs : p.jobs = before ++ j :: after) (waits : j.stage = .waiting)
      (live : p.isCancelled j = false)
      (first : ∀ b ∈ before, b.stage = .waiting → p.isCancelled b = true) :
      Move ⟨p, k + 1⟩ ⟨{ p with
        jobs := before ++ { j with stage := .running, start := p.started + 1 } :: after
        started := p.started + 1 }, k⟩
  /-- a running job whose gate is open gives its slot back. -/
  | finish {p : Pool} {k : Nat} {before after : List Job} {j : Job}
      (jobs : p.jobs = before ++ j :: after) (runs : j.stage = .running)
      (gate : j.gateOpen = true) :
      Move ⟨p, k⟩ ⟨{ p with jobs := before ++ { j with stage := .finished } :: after }, k + 1⟩

abbrev Moves : Counted → Counted → Prop := Relation.ReflTransGen Move

def AtRest (c : Counted) : Prop := ∀ d, ¬ c.Move d

def Balanced (c : Counted) : Prop := c.pool.running + c.idle = c.pool.capacity

/-- a pool with the slots that it calls available. -/
def ofPool (p : Pool) : Counted := ⟨p, p.available⟩

def settled (c : Counted) : Counted := ofPool c.pool.settle

theorem running_split {p : Pool} {before after : List Job} {j : Job}
    (h : p.jobs = before ++ j :: after) : p.running
      = before.countP (fun j => j.stage = .running) + after.countP (fun j => j.stage = .running)
        + if j.stage = .running then 1 else 0 := by
  unfold running
  rw [h, List.countP_append, List.countP_cons]
  simp only [decide_eq_true_eq, Nat.add_assoc]

theorem Balanced.idle_eq {c : Counted} (hc : c.Balanced) : c.idle = c.pool.available := by
  unfold Balanced at hc
  unfold available
  omega

theorem Balanced.eq_ofPool {c : Counted} (hc : c.Balanced) : c = ofPool c.pool := by
  unfold ofPool
  rw [← hc.idle_eq]

theorem Move.balanced {c d : Counted} (h : c.Move d) (hc : c.Balanced) : d.Balanced := by
  unfold Balanced at hc ⊢
  cases h with
  | refuse jobs waits _ =>
    rw [running_split jobs, waits] at hc
    rw [running_split rfl]
    simpa using hc
  | start jobs waits _ _ =>
    rw [running_split jobs, waits] at hc
    rw [running_split rfl]
    simp only [reduceCtorEq, if_false, if_true] at hc ⊢
    omega
  | finish jobs runs _ =>
    rw [running_split jobs, runs] at hc
    rw [running_split rfl]
    simp only [reduceCtorEq, if_false, if_true] at hc ⊢
    omega

theorem Moves.balanced {c d : Counted} (h : c.Moves d) (hc : c.Balanced) : d.Balanced := by
  induction h with
  | refl => exact hc
  | tail _ hm ih => exact hm.balanced ih

/-! ## where the pool settles -/

theorem settle_eq_of_tidy {p : Pool} {before after : List Job} {j j' : Job}
    (h : p.jobs = before ++ j :: after) (hj : p.tidy j' = p.tidy j) :
    { p with jobs := before ++ j' :: after }.settle = p.settle := by
  have ht : { p with jobs := before ++ j' :: after }.tidied = p.tidied := by
    unfold tidied
    rw [h, List.map_append, List.map_append, List.map_cons, List.map_cons, ← hj]
    rfl
  rw [settle_eq, settle_eq, ht]

/-- the first in line may take an idle slot at once. -/
theorem settle_eq_of_start {p : Pool} {before after : List Job} {j : Job}
    (h : p.jobs = before ++ j :: after) (hw : j.stage = .waiting) (hc : p.isCancelled j = false)
    (hb : ∀ b ∈ before, b.stage = .waiting → p.isCancelled b = true)
    (hidle : p.running < p.capacity) :
    { p with
      jobs := before ++ { j with stage := .running, start := p.started + 1 } :: after
      started := p.started + 1 }.settle = p.settle := by
  let q : Pool := { p with
    jobs := before ++ { j with stage := .running, start := p.started + 1 } :: after
    started := p.started + 1 }
  let j' : Job := { j with
    stage := if j.gateOpen then .finished else .running
    start := p.started + 1 }
  have hp : p.tidied.jobs = before.map p.tidy ++ j :: after.map p.tidy := by
    show p.jobs.map p.tidy = _
    rw [h, List.map_append, List.map_cons, tidy_of_waiting hw hc]
  have hj : p.tidy { j with stage := .running, start := p.started + 1 } = j' := by
    cases hg : j.gateOpen with
    | false => simp [tidy, refuse, finish, j', hg]
    | true => simp [tidy, refuse, finish, j', hg]
  have hq : q.tidied.jobs = before.map p.tidy ++ j' :: after.map p.tidy := by
    show (before ++ _ :: after).map p.tidy = _
    rw [List.map_append, List.map_cons, hj]
  have hline : ∀ b ∈ before.map p.tidy, b.stage ≠ .waiting := by
    intro b' hm hbw
    obtain ⟨b, hmem, rfl⟩ := List.mem_map.1 hm
    obtain ⟨hbw, hbc⟩ := (waiting_tidy_iff p b).1 hbw
    rw [hb b hmem hbw] at hbc
    exact Bool.noConfusion hbc
  have hfree : 0 < p.tidied.available := by
    have := p.running_tidied_le
    have : p.tidied.capacity = p.capacity := rfl
    unfold available
    omega
  have hnext : q.tidied.available
      = if j.gateOpen then p.tidied.available else p.tidied.available - 1 := by
    have hcap : q.tidied.capacity = p.tidied.capacity := rfl
    unfold available
    rw [running_split hp, running_split hq, hcap, hw]
    cases hg : j.gateOpen with
    | false => simp [j', hg]; omega
    | true => simp [j', hg]
  have hnw : j'.stage ≠ .waiting := by
    cases hg : j.gateOpen <;> simp [j', hg]
  have hgp : grant p.tidied.available p.started (j :: after.map p.tidy)
      = (j' :: (grant q.tidied.available q.started (after.map p.tidy)).1,
          (grant q.tidied.available q.started (after.map p.tidy)).2) := by
    rw [grant, if_pos ⟨hw, hfree⟩, hnext]
  have hgq : grant q.tidied.available q.started (j' :: after.map p.tidy)
      = (j' :: (grant q.tidied.available q.started (after.map p.tidy)).1,
          (grant q.tidied.available q.started (after.map p.tidy)).2) := by
    rw [grant, if_neg fun hn => hnw hn.1]
  show q.settle = p.settle
  rw [settle_eq, settle_eq, hp, hq, grant_append hline, grant_append hline, hgp, hgq]

theorem Move.settle_eq {c d : Counted} (h : c.Move d) (hc : c.Balanced) :
    d.pool.settle = c.pool.settle := by
  cases h with
  | refuse jobs waits cancelled =>
    refine settle_eq_of_tidy jobs ?_
    rw [tidy_of_cancelled waits cancelled]
    exact tidy_of_refused rfl
  | start jobs waits live first =>
    refine settle_eq_of_start jobs waits live first ?_
    unfold Balanced at hc
    simp only at hc
    omega
  | finish jobs runs gate =>
    refine settle_eq_of_tidy jobs ?_
    rw [tidy_of_done runs gate]
    exact tidy_of_finished rfl

theorem Moves.settle_eq {c d : Counted} (h : c.Moves d) (hc : c.Balanced) :
    d.pool.settle = c.pool.settle := by
  induction h with
  | refl => rfl
  | tail hs hm ih => exact (hm.settle_eq (Moves.balanced hs hc)).trans ih

/-! ## rest -/

def left (c : Counted) : Nat := (c.pool.jobs.map Job.left).sum

theorem Move.left_lt {c d : Counted} (h : c.Move d) : d.left < c.left := by
  have split : ∀ {before after : List Job} {j j' : Job}, j'.left < j.left →
      ((before ++ j' :: after).map Job.left).sum < ((before ++ j :: after).map Job.left).sum := by
    intro before after j j' hlt
    simp only [List.map_append, List.map_cons, List.sum_append, List.sum_cons]
    omega
  unfold left
  cases h with
  | refuse jobs waits _ =>
    rw [jobs]
    exact split (by simp [Job.left, waits])
  | start jobs waits _ _ =>
    rw [jobs]
    exact split (by simp [Job.left, waits])
  | finish jobs runs _ =>
    rw [jobs]
    exact split (by simp [Job.left, runs])

theorem exists_rest (c : Counted) : ∃ d, c.Moves d ∧ d.AtRest := by
  -- by the number of moves that are left
  induction hn : c.left using Nat.strongRecOn generalizing c with
  | ind n ih =>
    by_cases hc : c.AtRest
    · exact ⟨c, .refl, hc⟩
    · obtain ⟨d, hd⟩ : ∃ d, c.Move d :=
        Classical.byContradiction fun hn => hc fun d hd => hn ⟨d, hd⟩
      obtain ⟨e, hde, he⟩ := ih d.left (hn ▸ hd.left_lt) d rfl
      exact ⟨e, .head hd hde, he⟩

theorem atRest_of_no_jobs {c : Counted} (h : c.pool.jobs = []) : c.AtRest := by
  intro d hd
  cases hd with
  | refuse jobs _ _ => exact absurd (h.symm.trans jobs) (by simp)
  | start jobs _ _ _ => exact absurd (h.symm.trans jobs) (by simp)
  | finish jobs _ _ => exact absurd (h.symm.trans jobs) (by simp)

namespace AtRest

variable {c : Counted} (hc : c.AtRest)
include hc

theorem not_cancelled {j : Job} (hj : j ∈ c.pool.jobs) (hw : j.stage = .waiting) :
    c.pool.isCancelled j = false := by
  obtain ⟨before, after, hjobs⟩ := List.append_of_mem hj
  rw [← Bool.not_eq_true]
  exact fun hcan => hc _ (.refuse hjobs hw hcan)

theorem gate_closed {j : Job} (hj : j ∈ c.pool.jobs) (hr : j.stage = .running) :
    j.gateOpen = false := by
  obtain ⟨before, after, hjobs⟩ := List.append_of_mem hj
  rw [← Bool.not_eq_true]
  exact fun hg => hc _ (.finish hjobs hr hg)

theorem not_waiting (hidle : 0 < c.idle) {j : Job} (hj : j ∈ c.pool.jobs) :
    j.stage ≠ .waiting := by
  intro hw
  have hsome : (c.pool.jobs.find? fun j => j.stage = .waiting).isSome = true :=
    List.find?_isSome.2 ⟨j, hj, by simpa using hw⟩
  obtain ⟨first, hfind⟩ := Option.isSome_iff_exists.1 hsome
  obtain ⟨hfw, before, after, hjobs, hb⟩ := List.find?_eq_some_iff_append.1 hfind
  have hfw : first.stage = .waiting := by simpa using hfw
  have hmem : first ∈ c.pool.jobs := hjobs ▸ List.mem_append_right before List.mem_cons_self
  have hline : ∀ b ∈ before, b.stage = .waiting → c.pool.isCancelled b = true :=
    fun b hbm hbw => absurd hbw (by simpa using hb b hbm)
  obtain ⟨k, hk⟩ := Nat.exists_eq_succ_of_ne_zero (Nat.ne_of_gt hidle)
  obtain ⟨p, k'⟩ := c
  obtain rfl : k' = k + 1 := hk
  exact hc _ (.start hjobs hfw (hc.not_cancelled hmem hfw) hline)

theorem settle_eq (hb : c.Balanced) : c.pool.settle = c.pool := by
  have htidy : c.pool.tidied = c.pool := by
    have hj : ∀ j ∈ c.pool.jobs, c.pool.tidy j = j := fun j hj => by
      cases hs : j.stage with
      | waiting => exact tidy_of_waiting hs (hc.not_cancelled hj hs)
      | running => exact tidy_of_running hs (hc.gate_closed hj hs)
      | finished => exact tidy_of_finished hs
      | refused => exact tidy_of_refused hs
    unfold tidied
    rw [List.map_congr_left hj, List.map_id']
  have hg : grant c.pool.available c.pool.started c.pool.jobs = (c.pool.jobs, c.pool.started) := by
    rw [← hb.idle_eq]
    rcases Nat.eq_zero_or_pos c.idle with hz | hpos
    · rw [hz]
      exact grant_zero _ _
    · exact grant_of_not_waiting (fun j hj => hc.not_waiting hpos hj) _ _
  rw [Pool.settle_eq, htidy, hg]

end AtRest

/-- whatever the order in which the jobs move, they come to rest where the pool settles, and
nowhere else. -/
theorem rest_iff_settled {c : Counted} (hc : c.Balanced) (d : Counted) :
    c.Moves d ∧ d.AtRest ↔ d = c.settled := by
  have unique : ∀ {d : Counted}, c.Moves d → d.AtRest → d = c.settled := fun {d} hm hr => by
    have hd := Moves.balanced hm hc
    have hp : d.pool = c.pool.settle := (hr.settle_eq hd).symm.trans (Moves.settle_eq hm hc)
    unfold settled
    rw [← hp]
    exact hd.eq_ofPool
  refine ⟨fun h => unique h.1 h.2, ?_⟩
  rintro rfl
  obtain ⟨d, hm, hr⟩ := exists_rest c
  rw [← unique hm hr]
  exact ⟨hm, hr⟩

theorem moves_settled {c : Counted} (hc : c.Balanced) : c.Moves c.settled :=
  ((rest_iff_settled hc _).2 rfl).1

theorem atRest_settled {c : Counted} (hc : c.Balanced) : c.settled.AtRest :=
  ((rest_iff_settled hc _).2 rfl).2

theorem balanced_settled {c : Counted} (hc : c.Balanced) : c.settled.Balanced :=
  Moves.balanced (moves_settled hc) hc

end Counted
end Pool
end Regen
