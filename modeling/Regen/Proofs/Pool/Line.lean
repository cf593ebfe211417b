import Regen.Proofs.Pool.Moves

/-!
# The line in front of a pool

Jobs are submitted, gates open, tokens are cancelled, and after each of these the jobs move until
none can. They start in the order in which they were submitted, each once. One that was cancelled
before it started never starts; one that has started goes on until its gate opens.

* `Event`      what can happen to a pool from outside;
* `step`       an event, and what follows from it;
* `Orderly`    the line is kept, and every job is as far as its fields say;
* `Since`      what one pool tells of a later one, with the gates opened in between.

Main statements: `Counted.Move.orderly` and `Since.move` (what a move keeps), `Steady.step` and
`Steady.since_after` (what a history keeps), and `served_in_line`, which says all of it about every
history.
-/

namespace Regen

def Job.fresh (generation value : Nat) : Job := ⟨generation, false, .waiting, 0, value⟩

/-- the place of a job in the order of the starts, if it has started. -/
def Job.start? (j : Job) : Option Nat := if j.start = 0 then none else some j.start

namespace Pool

inductive Event where
  /-- a job is submitted, with a token of its own or that of an earlier job; the token may have been
  cancelled before. -/
  | submit (share : Option Nat) (cancelled : Bool) (value : Nat)
  | openGate (i : Nat)
  | cancel (i : Nat)
  deriving DecidableEq

def Event.value? : Event → Option Nat
  | .submit _ _ value => some value
  | _ => none

def act (p : Pool) : Event → Pool
  | .submit share cancelled value =>
    if cancelled then (p.submit share value).cancel p.jobs.length else p.submit share value
  | .openGate i => p.openGate i
  | .cancel i => p.cancel i

def step (p : Pool) (e : Event) : Pool := (p.act e).settle

def after : Pool → List Event → Pool
  | p, [] => p
  | p, e :: es => (p.step e).after es

/-! ## the three ways to act -/

theorem submit_eq (p : Pool) (share : Option Nat) (value : Nat) : ∃ generation issued,
    p.submit share value = { p with
      issued := issued
      jobs := p.jobs ++ [Job.fresh generation value] } := by
  unfold submit
  split <;> exact ⟨_, _, rfl⟩

theorem cancel_eq (p : Pool) (i : Nat) : ∃ more, p.cancel i = { p with
    cancelled := more ++ p.cancelled } := by
  unfold cancel
  split
  · exact ⟨[_], rfl⟩
  · exact ⟨[], rfl⟩

theorem openGate_cases (p : Pool) (i : Nat) : p.openGate i = p ∧ p.jobs.length ≤ i ∨
    ∃ before j after, p.jobs = before ++ j :: after ∧ before.length = i ∧
      p.openGate i = { p with jobs := before ++ { j with gateOpen := true } :: after } := by
  unfold openGate
  by_cases hi : i < p.jobs.length
  · obtain ⟨before, j, after, hjobs, hlen, hm⟩ :=
      List.exists_of_modify (fun j : Job => { j with gateOpen := true }) hi
    exact .inr ⟨before, j, after, hjobs, hlen, by rw [hm]⟩
  · have hle := Nat.le_of_not_lt hi
    exact .inl ⟨by rw [List.modify_eq_self hle], hle⟩

/-- what every event keeps: a job added at the end, tokens cancelled, and a gate opened are all that
an event can be. -/
theorem act_induction {P : Pool → Pool → Prop} (p : Pool)
    (trans : ∀ p q r, P p q → P q r → P p r)
    (add : ∀ p generation issued value, P p { p with
      issued := issued
      jobs := p.jobs ++ [Job.fresh generation value] })
    (cancel : ∀ p more, P p { p with cancelled := more ++ p.cancelled })
    {e : Event} (hopen : ∀ i, e = .openGate i → P p (p.openGate i)) : P p (p.act e) := by
  have cancels : ∀ (p : Pool) i, P p (p.cancel i) := fun p i => by
    obtain ⟨more, he⟩ := p.cancel_eq i
    rw [he]
    exact cancel p more
  have submits : ∀ share value, P p (p.submit share value) := fun share value => by
    obtain ⟨g, n, he⟩ := p.submit_eq share value
    rw [he]
    exact add p g n value
  cases e with
  | submit share cancelled value =>
    cases cancelled with
    | false => exact submits share value
    | true => exact trans _ _ _ (submits share value) (cancels _ _)
  | openGate i => exact hopen i rfl
  | cancel i => exact cancels p i

/-! ## the line -/

structure Orderly (p : Pool) : Prop where
  /-- read in the order of submission, the places of the started jobs are 1, 2, 3, …. -/
  numbered : p.jobs.filterMap Job.start? = List.range' 1 p.started
  line : p.jobs.Pairwise fun j k => j.stage = .waiting → p.isCancelled j = false → k.start = 0
  started_iff : ∀ j ∈ p.jobs, j.start = 0 ↔ j.stage = .waiting ∨ j.stage = .refused
  refused_cancelled : ∀ j ∈ p.jobs, j.stage = .refused → p.isCancelled j = true
  finished_open : ∀ j ∈ p.jobs, j.stage = .finished → j.gateOpen = true

theorem isCancelled_append {p : Pool} {more : List Nat} {j : Job} (h : p.isCancelled j = true) :
    { p with cancelled := more ++ p.cancelled }.isCancelled j = true := by
  unfold isCancelled at h ⊢
  rw [List.contains_eq_mem, decide_eq_true_eq] at h ⊢
  exact List.mem_append_right more h

theorem forall_mem_swap {before after : List Job} {j j' : Job} {P : Job → Prop}
    (h : ∀ k ∈ before ++ j :: after, P k) (hj : P j') : ∀ k ∈ before ++ j' :: after, P k := by
  intro k hk
  rw [List.mem_append, List.mem_cons] at hk
  rcases hk with hk | rfl | hk
  · exact h k (List.mem_append_left _ hk)
  · exact hj
  · exact h k (List.mem_append_right _ (List.mem_cons_of_mem _ hk))

namespace Orderly

variable {p : Pool}

theorem replace (hp : p.Orderly) {before after : List Job} {j j' : Job}
    (h : p.jobs = before ++ j :: after) (hstart : j'.start = j.start)
    (hwaits : j'.stage = .waiting → p.isCancelled j' = false →
      j.stage = .waiting ∧ p.isCancelled j = false)
    (hiff : j'.start = 0 ↔ j'.stage = .waiting ∨ j'.stage = .refused)
    (hrefused : j'.stage = .refused → p.isCancelled j' = true)
    (hfinished : j'.stage = .finished → j'.gateOpen = true) :
    { p with jobs := before ++ j' :: after }.Orderly := by
  obtain ⟨hn, hl, hs, hr, hf⟩ := hp
  rw [h] at hn hl hs hr hf
  have hstart' : Job.start? j' = Job.start? j := by
    unfold Job.start?
    rw [hstart]
  refine ⟨?_, ?_, forall_mem_swap hs hiff, forall_mem_swap hr hrefused,
    forall_mem_swap hf hfinished⟩
  · show (before ++ j' :: after).filterMap Job.start? = List.range' 1 p.started
    rw [← hn, List.filterMap_append, List.filterMap_append, List.filterMap_cons,
      List.filterMap_cons, hstart']
  · show (before ++ j' :: after).Pairwise _
    rw [List.pairwise_append, List.pairwise_cons] at hl ⊢
    obtain ⟨hbefore, ⟨hj, hafter⟩, hcross⟩ := hl
    refine ⟨hbefore, ⟨fun k hk hw hc => ?_, hafter⟩, fun b hb k hk hw hc => ?_⟩
    · obtain ⟨hw', hc'⟩ := hwaits hw hc
      exact hj k hk hw' hc'
    · rcases List.mem_cons.1 hk with rfl | hk
      · rw [hstart]
        exact hcross b hb j List.mem_cons_self hw hc
      · exact hcross b hb k (List.mem_cons_of_mem _ hk) hw hc

theorem start (hp : p.Orderly) {before after : List Job} {j : Job}
    (h : p.jobs = before ++ j :: after) (hw : j.stage = .waiting) (hc : p.isCancelled j = false)
    (hb : ∀ b ∈ before, b.stage = .waiting → p.isCancelled b = true) :
    { p with
      jobs := before ++ { j with stage := .running, start := p.started + 1 } :: after
      started := p.started + 1 }.Orderly := by
  obtain ⟨hn, hl, hs, hr, hf⟩ := hp
  rw [h] at hn hl hs hr hf
  rw [List.pairwise_append, List.pairwise_cons] at hl
  obtain ⟨hbefore, ⟨hj, hafter⟩, hcross⟩ := hl
  have hj0 : j.start = 0 := (hs j (List.mem_append_right _ List.mem_cons_self)).2 (.inl hw)
  refine ⟨?_, ?_, forall_mem_swap hs (by simp), forall_mem_swap hr (by simp),
    forall_mem_swap hf (by simp)⟩
  · have hnone : after.filterMap Job.start? = [] := by
      refine List.filterMap_eq_nil_iff.2 fun k hk => ?_
      unfold Job.start?
      rw [if_pos (hj k hk hw hc)]
    have hjn : Job.start? j = none := if_pos hj0
    have hjs : Job.start? { j with stage := .running, start := p.started + 1 }
        = some (p.started + 1) := if_neg (Nat.succ_ne_zero _)
    rw [List.filterMap_append, List.filterMap_cons, hjn, hnone, List.append_nil] at hn
    show (before ++ _ :: after).filterMap Job.start? = List.range' 1 (p.started + 1)
    rw [List.filterMap_append, List.filterMap_cons, hjs, hnone, hn, List.range'_1_concat,
      Nat.add_comm 1 p.started]
  · show (before ++ _ :: after).Pairwise _
    rw [List.pairwise_append, List.pairwise_cons]
    refine ⟨hbefore, ⟨fun k _ hw' => (nomatch hw'), hafter⟩, fun b hbm k hk hw' hc' => ?_⟩
    have hcb : p.isCancelled b = false := hc'
    rw [hb b hbm hw'] at hcb
    exact Bool.noConfusion hcb

theorem cancel (hp : p.Orderly) (more : List Nat) :
    { p with cancelled := more ++ p.cancelled }.Orderly := by
  have live : ∀ {j : Job}, { p with cancelled := more ++ p.cancelled }.isCancelled j = false →
      p.isCancelled j = false := fun {j} hc => by
    rw [← Bool.not_eq_true] at hc ⊢
    exact fun ht => hc (isCancelled_append ht)
  exact ⟨hp.numbered, hp.line.imp fun h hw hc => h hw (live hc), hp.started_iff,
    fun j hj hr => isCancelled_append (hp.refused_cancelled j hj hr), hp.finished_open⟩

theorem add (hp : p.Orderly) (generation issued value : Nat) :
    { p with
      issued := issued
      jobs := p.jobs ++ [Job.fresh generation value] }.Orderly := by
  have join : ∀ {P : Job → Prop}, (∀ k ∈ p.jobs, P k) → P (.fresh generation value) →
      ∀ k ∈ p.jobs ++ [Job.fresh generation value], P k := by
    intro P hall hj k hk
    rcases List.mem_append.1 hk with hk | hk
    · exact hall k hk
    · rw [List.mem_singleton.1 hk]
      exact hj
  refine ⟨?_, ?_, join hp.started_iff (by simp [Job.fresh]),
    join hp.refused_cancelled (by simp [Job.fresh]), join hp.finished_open (by simp [Job.fresh])⟩
  · show (p.jobs ++ _).filterMap Job.start? = List.range' 1 p.started
    rw [List.filterMap_append, hp.numbered]
    exact List.append_nil _
  · show (p.jobs ++ _).Pairwise _
    refine List.pairwise_append.2 ⟨hp.line, List.pairwise_singleton _ _, ?_⟩
    rintro j - k hk - -
    rw [List.mem_singleton.1 hk]
    rfl

theorem openGate (hp : p.Orderly) (i : Nat) : (p.openGate i).Orderly := by
  rcases p.openGate_cases i with ⟨he, -⟩ | ⟨before, j, after, hjobs, -, he⟩
  · rw [he]
    exact hp
  · have hj : j ∈ p.jobs := hjobs ▸ List.mem_append_right before List.mem_cons_self
    rw [he]
    exact hp.replace hjobs rfl (fun hw hc => ⟨hw, hc⟩) (hp.started_iff j hj)
      (hp.refused_cancelled j hj) fun _ => rfl

theorem act (hp : p.Orderly) (e : Event) : (p.act e).Orderly :=
  act_induction (P := fun p q => p.Orderly → q.Orderly) p (fun _ _ _ hpq hqr hp => hqr (hpq hp))
    (fun _ g n v hp => hp.add g n v) (fun _ more hp => hp.cancel more)
    (fun i _ hp => hp.openGate i) hp

end Orderly

theorem Counted.Move.orderly {c d : Counted} (h : c.Move d) (hc : c.pool.Orderly) :
    d.pool.Orderly := by
  cases h with
  | @refuse p k before after j jobs waits cancelled =>
    have hj : j ∈ p.jobs := jobs ▸ List.mem_append_right before List.mem_cons_self
    have h0 := (hc.started_iff j hj).2 (.inl waits)
    exact hc.replace jobs rfl (fun hw => nomatch hw) (by simp [h0]) (fun _ => cancelled)
      fun hf => nomatch hf
  | start jobs waits live first => exact hc.start jobs waits live first
  | @finish p k before after j jobs runs gate =>
    have hj : j ∈ p.jobs := jobs ▸ List.mem_append_right before List.mem_cons_self
    have h0 := hc.started_iff j hj
    rw [runs] at h0
    exact hc.replace jobs rfl (fun hw => nomatch hw) (by simpa using h0) (fun hr => nomatch hr)
      fun _ => gate

theorem Counted.Moves.orderly {c d : Counted} (h : c.Moves d) (hc : c.pool.Orderly) :
    d.pool.Orderly := by
  induction h with
  | refl => exact hc
  | tail _ hm ih => exact hm.orderly ih

/-! ## one pool and a later one -/

/-- what one pool tells of a later one: its jobs are all there, with their tokens and values; the
given gates were opened; a job that had started has not started again; a job that was cancelled
before it started has not started at all. -/
structure Since (opened : Nat → Prop) (p q : Pool) : Prop where
  cancelled : p.cancelled ⊆ q.cancelled
  jobs : ∀ i j, p.jobs[i]? = some j → ∃ j', q.jobs[i]? = some j' ∧
    j'.generation = j.generation ∧ j'.value = j.value ∧
    (j'.gateOpen = true ↔ j.gateOpen = true ∨ opened i) ∧
    (j.start ≠ 0 → j'.start = j.start) ∧
    (j.start = 0 → p.isCancelled j = true → j'.start = 0)

theorem isCancelled_mono {p q : Pool} (h : p.cancelled ⊆ q.cancelled) {j j' : Job}
    (hg : j'.generation = j.generation) (hc : p.isCancelled j = true) :
    q.isCancelled j' = true := by
  unfold isCancelled at hc ⊢
  rw [List.contains_eq_mem, decide_eq_true_eq] at hc ⊢
  exact hg ▸ h hc

namespace Since

theorem refl (p : Pool) : Since (fun _ => False) p p :=
  ⟨fun _ h => h, fun _ j hi => ⟨j, hi, rfl, rfl, (or_false _).symm ▸ Iff.rfl, fun _ => rfl,
    fun h _ => h⟩⟩

theorem trans {A B : Nat → Prop} {p q r : Pool} (hpq : Since A p q) (hqr : Since B q r) :
    Since (fun i => A i ∨ B i) p r := by
  refine ⟨fun _ h => hqr.cancelled (hpq.cancelled h), fun i j hi => ?_⟩
  obtain ⟨j', hi', hg, hv, ho, hs, hd⟩ := hpq.jobs i j hi
  obtain ⟨k, hk, hg', hv', ho', hs', hd'⟩ := hqr.jobs i j' hi'
  refine ⟨k, hk, hg'.trans hg, hv'.trans hv, ?_, fun h => ?_, fun h hc => ?_⟩
  · rw [ho', ho, or_assoc]
  · exact (hs' (hs h ▸ h)).trans (hs h)
  · exact hd' (hd h hc) (isCancelled_mono hpq.cancelled hg hc)

theorem replace {p : Pool} {before after : List Job} {j j' : Job} {started : Nat}
    (h : p.jobs = before ++ j :: after) {opened : Nat → Prop}
    (ho : ∀ i, i ≠ before.length → ¬ opened i) (hg : j'.generation = j.generation)
    (hv : j'.value = j.value)
    (hopen : j'.gateOpen = true ↔ j.gateOpen = true ∨ opened before.length)
    (hs : j.start ≠ 0 → j'.start = j.start)
    (hd : j.start = 0 → p.isCancelled j = true → j'.start = 0) :
    Since opened p { p with jobs := before ++ j' :: after, started := started } := by
  refine ⟨fun _ h => h, fun i k hi => ?_⟩
  show ∃ k', (before ++ j' :: after)[i]? = some k' ∧ _
  rw [h] at hi
  by_cases hib : i = before.length
  · rw [hib, List.getElem?_append_right (Nat.le_refl _), Nat.sub_self] at hi ⊢
    obtain rfl : j = k := Option.some.inj hi
    exact ⟨j', rfl, hg, hv, hopen, hs, hd⟩
  · refine ⟨k, ?_, rfl, rfl, by simp [ho i hib], fun _ => rfl, fun h _ => h⟩
    rw [← hi]
    rcases Nat.lt_or_gt_of_ne hib with hlt | hgt
    · rw [List.getElem?_append_left hlt, List.getElem?_append_left hlt]
    · obtain ⟨n, hn⟩ := Nat.exists_eq_add_of_lt hgt
      rw [List.getElem?_append_right (Nat.le_of_lt hgt),
        List.getElem?_append_right (Nat.le_of_lt hgt), hn, Nat.add_assoc, Nat.add_sub_cancel_left,
        List.getElem?_cons_succ, List.getElem?_cons_succ]

theorem move {c d : Counted} (h : c.Move d) (hc : c.pool.Orderly) :
    Since (fun _ => False) c.pool d.pool := by
  cases h with
  | refuse jobs _ _ =>
    exact replace jobs (fun _ _ h => h) rfl rfl (by simp) (fun _ => rfl) fun h _ => h
  | @start p k before after j jobs waits live _ =>
    have hj : j ∈ p.jobs := jobs ▸ List.mem_append_right before List.mem_cons_self
    have h0 := (hc.started_iff j hj).2 (.inl waits)
    refine replace jobs (fun _ _ h => h) rfl rfl (by simp) (fun h => absurd h0 h) fun _ hcan => ?_
    rw [live] at hcan
    exact Bool.noConfusion hcan
  | finish jobs _ _ =>
    exact replace jobs (fun _ _ h => h) rfl rfl (by simp) (fun _ => rfl) fun h _ => h

theorem moves {c d : Counted} (h : c.Moves d) (hc : c.pool.Orderly) :
    Since (fun _ => False) c.pool d.pool := by
  induction h with
  | refl => exact refl _
  | tail hs hm ih =>
    have ht := ih.trans (move hm (Counted.Moves.orderly hs hc))
    simp only [or_false] at ht
    exact ht

theorem add (p : Pool) (generation issued value : Nat) : Since (fun _ => False) p { p with
    issued := issued
    jobs := p.jobs ++ [Job.fresh generation value] } := by
  refine ⟨fun _ h => h, fun i j hi => ⟨j, ?_, rfl, rfl, by simp, fun _ => rfl, fun h _ => h⟩⟩
  obtain ⟨hlt, -⟩ := List.getElem?_eq_some_iff.1 hi
  exact (List.getElem?_append_left hlt).trans hi

theorem cancel (p : Pool) (more : List Nat) :
    Since (fun _ => False) p { p with cancelled := more ++ p.cancelled } :=
  ⟨List.subset_append_right more p.cancelled,
    fun _ j hi => ⟨j, hi, rfl, rfl, by simp, fun _ => rfl, fun h _ => h⟩⟩

theorem openGate (p : Pool) (i : Nat) : Since (fun k => k = i) p (p.openGate i) := by
  rcases p.openGate_cases i with ⟨he, hle⟩ | ⟨before, j, after, hjobs, hlen, he⟩
  · rw [he]
    refine ⟨fun _ h => h, fun k j hk => ⟨j, hk, rfl, rfl, ?_, fun _ => rfl, fun h _ => h⟩⟩
    obtain ⟨hlt, -⟩ := List.getElem?_eq_some_iff.1 hk
    have hne : k ≠ i := Nat.ne_of_lt (Nat.lt_of_lt_of_le hlt hle)
    simp [hne]
  · rw [he]
    exact replace hjobs (fun k hk he => hk (he.trans hlen.symm)) rfl rfl (by simp [hlen])
      (fun _ => rfl) fun h _ => h

theorem act (p : Pool) (e : Event) : Since (fun i => e = .openGate i) p (p.act e) := by
  have still : (∀ i, e ≠ .openGate i) → Since (fun i => e = .openGate i) p (p.act e) := fun he => by
    have hn : (fun i => e = .openGate i) = fun _ => False :=
      funext fun i => propext ⟨he i, False.elim⟩
    rw [hn]
    refine act_induction (P := fun p q => Since (fun _ => False) p q) p (fun p q r hpq hqr => ?_)
      add cancel fun i hi => absurd hi (he i)
    have ht := hpq.trans hqr
    simp only [or_false] at ht
    exact ht
  cases e with
  | submit share cancelled value => exact still fun _ h => nomatch h
  | openGate i =>
    have hn : (fun k => Event.openGate i = .openGate k) = fun k => k = i :=
      funext fun k => propext ⟨fun h => (Event.openGate.inj h).symm, fun h => h ▸ rfl⟩
    rw [hn]
    exact openGate p i
  | cancel i => exact still fun _ h => nomatch h

end Since

/-! ## histories -/

/-- what every pool is between two events: at rest, orderly, and within its capacity. -/
structure Steady (p : Pool) : Prop where
  orderly : p.Orderly
  within : p.running ≤ p.capacity
  rest : (Counted.ofPool p).AtRest

theorem balanced_ofPool {p : Pool} (h : p.running ≤ p.capacity) : (Counted.ofPool p).Balanced := by
  show p.running + (p.capacity - p.running) = p.capacity
  omega

/-- an event takes no slot and gives none back, and leaves the capacity alone. -/
theorem running_act (p : Pool) (e : Event) :
    (p.act e).running = p.running ∧ (p.act e).capacity = p.capacity := by
  refine act_induction (P := fun p q => q.running = p.running ∧ q.capacity = p.capacity) p
    (fun p q r hpq hqr => ⟨hqr.1.trans hpq.1, hqr.2.trans hpq.2⟩) (fun p g n v => ⟨?_, rfl⟩)
    (fun p more => ⟨rfl, rfl⟩) fun i _ => ⟨?_, rfl⟩
  · show (p.jobs ++ [Job.fresh g v]).countP _ = p.jobs.countP _
    rw [List.countP_append]
    rfl
  · show (p.openGate i).running = p.running
    rcases p.openGate_cases i with ⟨he, -⟩ | ⟨before, j, after, hjobs, -, he⟩
    · rw [he]
    · rw [he, Counted.running_split hjobs, Counted.running_split rfl]

theorem available_act (p : Pool) (e : Event) : (p.act e).available = p.available := by
  unfold available
  rw [(p.running_act e).1, (p.running_act e).2]

theorem ofPool_act (p : Pool) (e : Event) :
    Counted.ofPool (p.act e) = ⟨p.act e, p.available⟩ := by
  unfold Counted.ofPool
  rw [available_act]

theorem values_moves {c d : Counted} (h : c.Moves d) :
    d.pool.jobs.map Job.value = c.pool.jobs.map Job.value := by
  induction h with
  | refl => rfl
  | tail _ hm ih =>
    refine Eq.trans ?_ ih
    cases hm with
    | refuse jobs _ _ => rw [jobs, List.map_append, List.map_append]; rfl
    | start jobs _ _ _ => rw [jobs, List.map_append, List.map_append]; rfl
    | finish jobs _ _ => rw [jobs, List.map_append, List.map_append]; rfl

theorem values_act (p : Pool) (e : Event) :
    (p.act e).jobs.map Job.value = p.jobs.map Job.value ++ e.value?.toList := by
  have hcancel : ∀ (p : Pool) i, (p.cancel i).jobs = p.jobs := fun p i => by
    obtain ⟨more, he⟩ := p.cancel_eq i
    rw [he]
  have hsubmit : ∀ share value,
      (p.submit share value).jobs.map Job.value = p.jobs.map Job.value ++ [value] :=
    fun share value => by
      obtain ⟨g, n, he⟩ := p.submit_eq share value
      rw [he]
      exact List.map_append
  cases e with
  | submit share cancelled value =>
    cases cancelled with
    | false => exact hsubmit share value
    | true => exact (congrArg (List.map Job.value) (hcancel _ _)).trans (hsubmit share value)
  | openGate i =>
    refine Eq.trans ?_ (List.append_nil _).symm
    show (p.openGate i).jobs.map Job.value = p.jobs.map Job.value
    rcases p.openGate_cases i with ⟨he, -⟩ | ⟨before, j, after, hjobs, -, he⟩
    · rw [he]
    · rw [he, hjobs, List.map_append, List.map_append]
      rfl
  | cancel i =>
    refine (congrArg (List.map Job.value) (hcancel p i)).trans ?_
    exact (List.append_nil _).symm

namespace Steady

variable {p : Pool}

theorem create {capacity : Nat} (h : create? capacity = some p) :
    p.Steady ∧ p.capacity = max 1 capacity ∧ p.jobs = [] := by
  unfold create? at h
  split at h
  · obtain rfl := Option.some.inj h
    refine ⟨⟨⟨rfl, .nil, ?_, ?_, ?_⟩, Nat.zero_le _, Counted.atRest_of_no_jobs rfl⟩, rfl, rfl⟩
    all_goals exact fun j hj => absurd hj List.not_mem_nil
  · exact nomatch h

theorem balanced_act (hp : p.Steady) (e : Event) : (Counted.ofPool (p.act e)).Balanced := by
  have h := p.running_act e
  refine balanced_ofPool ?_
  rw [h.1, h.2]
  exact hp.within

theorem moves_step (hp : p.Steady) (e : Event) :
    (Counted.ofPool (p.act e)).Moves (Counted.ofPool (p.step e)) :=
  Counted.moves_settled (hp.balanced_act e)

/-- in whatever order the jobs move after an event, they come to rest after the same step, and with
the slots that are then available. -/
theorem rest_iff (hp : p.Steady) (e : Event) (c : Counted) :
    (⟨p.act e, p.available⟩ : Counted).Moves c ∧ c.AtRest ↔ c = Counted.ofPool (p.step e) := by
  rw [← ofPool_act]
  exact Counted.rest_iff_settled (hp.balanced_act e) c

theorem step (hp : p.Steady) (e : Event) : (p.step e).Steady := by
  have hb := hp.balanced_act e
  have hw : (p.step e).running + _ = (p.step e).capacity := Counted.balanced_settled hb
  exact ⟨Counted.Moves.orderly (hp.moves_step e) (hp.orderly.act e), hw ▸ Nat.le_add_right _ _,
    Counted.atRest_settled hb⟩

theorem after (hp : p.Steady) (es : List Event) : (p.after es).Steady := by
  induction es generalizing p with
  | nil => exact hp
  | cons e es ih => exact ih (hp.step e)

theorem since_settle (hp : p.Steady) (e : Event) :
    Since (fun _ => False) (p.act e) (p.step e) :=
  Since.moves (hp.moves_step e) (hp.orderly.act e)

theorem since_after (hp : p.Steady) (es : List Event) :
    Since (fun i => .openGate i ∈ es) p (p.after es) := by
  induction es generalizing p with
  | nil =>
    simp only [List.not_mem_nil]
    exact .refl p
  | cons e es ih =>
    have ht := ((Since.act p e).trans (hp.since_settle e)).trans (ih (hp.step e))
    simp only [or_false] at ht
    simp only [List.mem_cons, eq_comm (a := Event.openGate _) (b := e)]
    exact ht

theorem values_after (hp : p.Steady) (es : List Event) :
    (p.after es).jobs.map Job.value = p.jobs.map Job.value ++ es.filterMap Event.value? := by
  induction es generalizing p with
  | nil => exact (List.append_nil _).symm
  | cons e es ih =>
    have hs : (p.step e).jobs.map Job.value = (p.act e).jobs.map Job.value :=
      values_moves (hp.moves_step e)
    show ((p.step e).after es).jobs.map Job.value = _
    rw [ih (hp.step e), hs, values_act, List.append_assoc]
    cases e <;> rfl

theorem capacity_after (p : Pool) (es : List Event) : (p.after es).capacity = p.capacity := by
  induction es generalizing p with
  | nil => rfl
  | cons e es ih => exact (ih (p.step e)).trans (p.running_act e).2

theorem stage_of_started (hp : p.Steady) {j : Job} (hj : j ∈ p.jobs) (hs : j.start ≠ 0) :
    j.stage = if j.gateOpen then .finished else .running := by
  have hi := hp.orderly.started_iff j hj
  cases hst : j.stage with
  | waiting => exact absurd (hi.2 (.inl hst)) hs
  | running => rw [hp.rest.gate_closed hj hst]; rfl
  | finished => rw [hp.orderly.finished_open j hj hst]; rfl
  | refused => exact absurd (hi.2 (.inr hst)) hs

theorem stage_of_cancelled (hp : p.Steady) {j : Job} (hj : j ∈ p.jobs) (hs : j.start = 0)
    (hc : p.isCancelled j = true) : j.stage = .refused := by
  rcases (hp.orderly.started_iff j hj).1 hs with hw | hr
  · have hn : p.isCancelled j = false := hp.rest.not_cancelled hj hw
    rw [hc] at hn
    exact Bool.noConfusion hn
  · exact hr

end Steady

theorem available_of_results {p : Pool} (h : ∀ j ∈ p.jobs, result j ≠ none) :
    p.available = p.capacity := by
  have hz : p.running = 0 := by
    refine List.countP_eq_zero.2 fun j hj hr => h j hj ?_
    have hr : j.stage = .running := by simpa using hr
    unfold result
    rw [hr]
  unfold available
  rw [hz, Nat.sub_zero]

/-! ## the law -/

/-- **Jobs are served in line, within the capacity.** Whatever is submitted, opened and cancelled,
and in whatever order the jobs move in between:

* the running jobs and the available slots make up the capacity, of at least one;
* no job waits while a slot is available;
* the jobs are those submitted, and in the order of submission their places among the starts are
  1, 2, 3, …, each given once;
* a job that is cancelled before it starts never starts, and its handle yields nothing; no other
  handle does;
* a job that has started keeps its place, and runs until its gate opens; then its handle yields its
  own value, and it never runs again;
* when every handle has yielded, every slot is available;
* after an event, the jobs come to rest at one pool, with its available slots, and nowhere else. -/
theorem served_in_line {capacity : Nat} {p₀ : Pool} (h : create? capacity = some p₀)
    (es : List Event) :
    let p := p₀.after es
    p.running + p.available = p.capacity ∧ p.capacity = max 1 capacity ∧
    (0 < p.available → ∀ j ∈ p.jobs, j.stage ≠ .waiting) ∧
    p.jobs.map Job.value = es.filterMap Event.value? ∧
    p.jobs.filterMap Job.start? = List.range' 1 p.started ∧
    (∀ e fs (i : Nat) j, (p.act e).jobs[i]? = some j → j.start = 0 → (p.act e).isCancelled j = true →
      ∃ j', ((p.step e).after fs).jobs[i]? = some j' ∧ j'.start = 0 ∧ result j' = some none) ∧
    (∀ j ∈ p.jobs, result j = some none → j.start = 0 ∧ p.isCancelled j = true) ∧
    (∀ fs (i : Nat) j, p.jobs[i]? = some j → j.start ≠ 0 →
      ∃ j', (p.after fs).jobs[i]? = some j' ∧ j'.start = j.start ∧
        if j.gateOpen = true ∨ .openGate i ∈ fs then result j' = some (some j.value)
        else j'.stage = .running ∧ result j' = none) ∧
    ((∀ j ∈ p.jobs, result j ≠ none) → p.available = p.capacity) ∧
    ∀ e (c : Counted), (⟨p.act e, p.available⟩ : Counted).Moves c ∧ c.AtRest ↔
      c = ⟨p.step e, (p.step e).available⟩ := by
  intro p
  obtain ⟨hp₀, hcap, hnil⟩ := Steady.create h
  have hp : p.Steady := hp₀.after es
  have hvalues := hp₀.values_after es
  rw [hnil] at hvalues
  refine ⟨balanced_ofPool hp.within, (Steady.capacity_after p₀ es).trans hcap,
    fun hidle j hj => hp.rest.not_waiting hidle hj, hvalues, hp.orderly.numbered, ?cancelled,
    ?refused, ?started, available_of_results, hp.rest_iff⟩
  case cancelled =>
    intro e fs i j hi h0 hc
    have hq := (hp.step e).after fs
    have hs := (hp.since_settle e).trans ((hp.step e).since_after fs)
    obtain ⟨j', hi', hg, -, -, -, hd⟩ := hs.jobs i j hi
    have hstage := hq.stage_of_cancelled (List.mem_of_getElem? hi') (hd h0 hc)
      (isCancelled_mono hs.cancelled hg hc)
    refine ⟨j', hi', hd h0 hc, ?_⟩
    unfold result
    rw [hstage]
  case refused =>
    intro j hj hr
    have hstage : j.stage = .refused := by
      unfold result at hr
      cases hst : j.stage <;> simp [hst] at hr
      rfl
    exact ⟨(hp.orderly.started_iff j hj).2 (.inr hstage), hp.orderly.refused_cancelled j hj hstage⟩
  case started =>
    intro fs i j hi hs
    obtain ⟨j', hi', -, hv, ho, hkeep, -⟩ := (hp.since_after fs).jobs i j hi
    have hs' : j'.start ≠ 0 := fun h0 => hs ((hkeep hs).symm.trans h0)
    have hstage := (hp.after fs).stage_of_started (List.mem_of_getElem? hi') hs'
    refine ⟨j', hi', hkeep hs, ?_⟩
    unfold result
    by_cases hg : j.gateOpen = true ∨ Event.openGate i ∈ fs
    · rw [if_pos (ho.2 hg)] at hstage
      rw [if_pos hg, hstage, hv]
    · rw [if_neg fun hn => hg (ho.1 hn)] at hstage
      rw [if_neg hg, hstage]
      exact ⟨rfl, rfl⟩

/-- one slot, held by the first job; behind it wait two jobs with one token, the first of which has
its gate open, and a job that was cancelled from the start has been refused. If the shared token is
cancelled, both are refused; if the first job ends instead, one runs through and the other takes
over the slot. -/
theorem served_in_line_one_slot :
    let es : List Event := [.submit none false 5, .submit none false 6, .submit (some 1) false 7,
      .submit none true 8, .openGate 1]
    let p := (⟨1, 0, [], 0, []⟩ : Pool).after es
    create? 0 = some ⟨1, 0, [], 0, []⟩ ∧ p.running + p.available = 1 ∧
    (∃ j, ((p.step (.cancel 2)).after [.openGate 0]).jobs[1]? = some j ∧ j.start = 0 ∧
      result j = some none) ∧
    (∃ j, (p.after [.cancel 0, .openGate 0]).jobs[0]? = some j ∧ j.start = 1 ∧
      result j = some (some 5)) ∧
    (p.after [.openGate 0]).jobs.map result = [some (some 5), some (some 6), none, some none] ∧
    (⟨p.act (.openGate 0), 0⟩ : Counted).Moves ⟨p.step (.openGate 0), 0⟩ := by
  intro es p
  have hcreate : create? 0 = some ⟨1, 0, [], 0, []⟩ := by decide
  obtain ⟨hslots, -, -, -, -, hcancelled, -, hstarted, -, hrest⟩ := served_in_line hcreate es
  have hmoves := ((hrest (.openGate 0) _).2 rfl).1
  obtain ⟨j, hj, hs, hr⟩ := hstarted [.cancel 0, .openGate 0] 0 ⟨1, false, .running, 1, 5⟩
    (by decide) (by decide)
  rw [if_pos (by decide)] at hr
  exact ⟨hcreate, hslots, hcancelled (.cancel 2) [.openGate 0] 1 ⟨2, true, .waiting, 0, 6⟩
    (by decide) rfl (by decide), ⟨j, hj, hs, hr⟩, by decide, hmoves⟩

end Pool
end Regen
