import Regen.Proofs.Compiler.Delivery
import Regen.Proofs.Compiler.Frame

/-!
# The end of a compiler

A compiler that is torn down cancels all runs that are still out, and then waits for one after the
other, each time up to the same deadline. A latch that is released is seen at once, however late
the look at it comes. So the runs reported are those not released by the deadline, whatever the
order in which the others come to their end.

* `Sending`                  an answer that is sent after the teardown has begun, and when;
* `Compiler.wait`            the wait for one run;
* `Compiler.waitAll`         the wait for one run after the other;
* `Compiler.ReleasedBy`      the latch of a run is released by some moment;
* `Compiler.TearsDown`       what a teardown does.

Main statements: `waitAll_spec` (waiting one by one reports those that are late, and ends at the
deadline or with the last release) and `Setup.teardown_reaches_every_run`.
-/

namespace Regen

structure Sending where
  time : Instant
  completion : Completion

namespace Compiler

/-! ## the wait -/

/-- when the latch of a run will be released, if it is not yet and ever will be. -/
def release? (later : List Sending) (g : Nat) : Option Instant :=
  ((later.filter fun x => x.completion.generation = g).map Sending.time).min?

/-- the wait for a run up to a deadline: whether its latch was released, and when the wait is over.
A latch that is released by now is seen at once, even if the deadline has passed. -/
def wait (c : Compiler) (later : List Sending) (deadline now : Instant) (g : Nat) :
    Bool × Instant :=
  if c.isAnswered g then (true, now)
  else
    match release? later g with
    | some t => if t ≤ max now deadline then (true, max now t) else (false, max now deadline)
    | none => (false, max now deadline)

/-- the wait for one run after the other: those whose latch was not released, and when the wait is
over. -/
def waitAll (c : Compiler) (later : List Sending) (deadline : Instant) :
    Instant → List Nat → List Nat × Instant
  | now, [] => ([], now)
  | now, g :: gs =>
    let w := c.wait later deadline now g
    let r := c.waitAll later deadline w.2 gs
    (if w.1 then r.1 else g :: r.1, r.2)

def ReleasedBy (c : Compiler) (later : List Sending) (t : Instant) (g : Nat) : Prop :=
  c.isAnswered g = true ∨ ∃ x ∈ later, x.completion.generation = g ∧ x.time ≤ t

instance (c : Compiler) (later : List Sending) (t : Instant) (g : Nat) :
    Decidable (c.ReleasedBy later t g) := inferInstanceAs (Decidable (_ ∨ _))

section
variable (c : Compiler) (later : List Sending)

theorem ReleasedBy.mono {c : Compiler} {later : List Sending} {t t' : Instant} {g : Nat}
    (h : c.ReleasedBy later t g) (ht : t ≤ t') : c.ReleasedBy later t' g :=
  h.imp id fun ⟨x, hx, hg, hxt⟩ => ⟨x, hx, hg, Int.le_trans hxt ht⟩

theorem releasedBy_iff {g : Nat} (hn : c.isAnswered g = false) (t : Instant) :
    c.ReleasedBy later t g ↔ ∃ t', release? later g = some t' ∧ t' ≤ t := by
  have hf : ∀ x, (x ∈ later ∧ x.completion.generation = g) ↔
      x ∈ later.filter fun x => x.completion.generation = g := fun x => by simp
  unfold ReleasedBy
  rw [hn]
  simp only [Bool.false_eq_true, false_or]
  constructor
  · rintro ⟨x, hx, hg, hxt⟩
    have hm : x.time ∈ (later.filter fun x => x.completion.generation = g).map Sending.time :=
      List.mem_map_of_mem ((hf x).1 ⟨hx, hg⟩)
    cases hr : release? later g with
    | none =>
      rw [release?, List.min?_eq_none_iff] at hr
      rw [hr] at hm
      exact absurd hm List.not_mem_nil
    | some t' =>
      have hle := (List.min?_eq_some_iff.1 hr).2 x.time hm
      exact ⟨t', rfl, Int.le_trans hle hxt⟩
  · rintro ⟨t', hr, ht⟩
    obtain ⟨x, hx, rfl⟩ := List.mem_map.1 (List.min?_eq_some_iff.1 hr).1
    obtain ⟨hx, hg⟩ := (hf x).2 hx
    exact ⟨x, hx, hg, ht⟩

/-- how the wait for a run goes: its latch is released by now, or will be in time, or is late. -/
theorem wait_cases (deadline now : Instant) (g : Nat) :
    (c.isAnswered g = true ∧ c.wait later deadline now g = (true, now)) ∨
      (∃ t, t ≤ max now deadline ∧ c.ReleasedBy later t g ∧
        c.wait later deadline now g = (true, max now t)) ∨
      (¬ c.ReleasedBy later (max now deadline) g ∧
        c.wait later deadline now g = (false, max now deadline)) := by
  unfold wait
  cases ha : c.isAnswered g with
  | true => exact .inl ⟨rfl, rfl⟩
  | false =>
    have hr := c.releasedBy_iff later ha
    refine .inr ?_
    cases ht : release? later g with
    | none =>
      refine .inr ⟨fun h => ?_, rfl⟩
      obtain ⟨t, ht', -⟩ := (hr _).1 h
      rw [ht] at ht'
      exact nomatch ht'
    | some t =>
      by_cases hle : t ≤ max now deadline
      · exact .inl ⟨t, hle, (hr t).2 ⟨t, ht, Int.le_refl t⟩, by simp [hle]⟩
      · refine .inr ⟨fun h => ?_, by simp [hle]⟩
        obtain ⟨t', ht', hle'⟩ := (hr _).1 h
        rw [ht, Option.some.injEq] at ht'
        exact hle (ht' ▸ hle')

theorem wait_spec (deadline now : Instant) (g : Nat) :
    let w := c.wait later deadline now g
    now ≤ w.2 ∧ w.2 ≤ max now deadline ∧
      (w.1 = true ∧ c.ReleasedBy later w.2 g ∨
        w.1 = false ∧ w.2 = max now deadline ∧ ¬ c.ReleasedBy later (max now deadline) g) := by
  rcases c.wait_cases later deadline now g with ⟨ha, hw⟩ | ⟨t, ht, hr, hw⟩ | ⟨hn, hw⟩ <;> rw [hw]
  · exact ⟨Int.le_refl now, Int.le_max_left .., .inl ⟨rfl, .inl ha⟩⟩
  · exact ⟨Int.le_max_left .., Int.max_le.2 ⟨Int.le_max_left .., ht⟩,
      .inl ⟨rfl, hr.mono (Int.le_max_right ..)⟩⟩
  · exact ⟨Int.le_max_left .., Int.le_refl _, .inr ⟨rfl, rfl, hn⟩⟩

/-- **Waiting one by one reports those that are late**, in their order; it ends at the deadline, or
earlier if everything is released by then. -/
theorem waitAll_spec (deadline now : Instant) (gs : List Nat) :
    let r := c.waitAll later deadline now gs
    r.1 = gs.filter (fun g => ¬ c.ReleasedBy later (max now deadline) g) ∧
      now ≤ r.2 ∧ r.2 ≤ max now deadline ∧ (r.1 ≠ [] → r.2 = max now deadline) ∧
      ∀ g ∈ gs, g ∉ r.1 → c.ReleasedBy later r.2 g := by
  induction gs generalizing now with
  | nil => exact ⟨rfl, Int.le_refl now, Int.le_max_left .., fun h => absurd rfl h,
      fun g hg => absurd hg List.not_mem_nil⟩
  | cons g gs ih =>
    obtain ⟨h1, h2, h3⟩ := c.wait_spec later deadline now g
    obtain ⟨i1, i2, i3, i4, i5⟩ := ih (c.wait later deadline now g).2
    have hmax : max (c.wait later deadline now g).2 deadline = max now deadline :=
      Int.le_antisymm (Int.max_le.2 ⟨h2, Int.le_max_right ..⟩)
        (Int.max_le.2 ⟨Int.le_trans h1 (Int.le_max_left ..), Int.le_max_right ..⟩)
    rw [hmax] at i1 i3 i4
    have hend : now ≤ (c.waitAll later deadline (c.wait later deadline now g).2 gs).2 :=
      Int.le_trans h1 i2
    rcases h3 with ⟨hw, hr⟩ | ⟨hw, ht, hn⟩
    · have hrel : c.ReleasedBy later (max now deadline) g := hr.mono h2
      have he : c.waitAll later deadline now (g :: gs)
          = c.waitAll later deadline (c.wait later deadline now g).2 gs := by
        simp only [waitAll, hw, if_true]
      rw [he]
      refine ⟨?_, hend, i3, i4, List.forall_mem_cons.2 ⟨fun _ => hr.mono i2, i5⟩⟩
      rw [i1, List.filter_cons_of_neg (by simpa using hrel)]
    · have he : c.waitAll later deadline now (g :: gs)
          = (g :: (c.waitAll later deadline (c.wait later deadline now g).2 gs).1,
            (c.waitAll later deadline (c.wait later deadline now g).2 gs).2) := by
        simp only [waitAll, hw, Bool.false_eq_true, if_false]
      rw [he]
      refine ⟨?_, hend, i3, fun _ => ?_, List.forall_mem_cons.2 ⟨?_, fun g' hg' hn' => ?_⟩⟩
      · rw [i1, List.filter_cons_of_pos (by simpa using hn)]
      · exact Int.le_antisymm i3 (ht ▸ i2)
      · exact fun hg => absurd List.mem_cons_self hg
      · exact i5 g' hg' fun h => hn' (List.mem_cons_of_mem _ h)

end

/-! ## what a teardown does to the book -/

theorem isAnswered_answer_iff (c : Compiler) {g : Nat} (hg : g ∈ c.runs.map Run.generation)
    (m : Completion) : (c.answer m.generation m.outcome).isAnswered g = true ↔
      c.isAnswered g = true ∨ m.generation = g := by
  by_cases ha : c.awaits m.generation = true
  · rw [isAnswered_answer ha, eq_comm (a := g)]
  · rw [answer_of_not_awaits ha]
    refine ⟨.inl, fun h => h.elim id fun he => ?_⟩
    rw [he, awaits_iff, not_and, Bool.not_eq_false] at ha
    exact ha hg

theorem answers_frame (c : Compiler) (ms : List Completion) :
    let d := ms.foldl (fun d m => d.answer m.generation m.outcome) c
    d.active = c.active ∧ d.superseded = c.superseded ∧ d.effects = c.effects ∧
      (∀ g, d.isCancelled g = c.isCancelled g) ∧
      ∀ g ∈ c.runs.map Run.generation,
        d.isAnswered g = true ↔ c.isAnswered g = true ∨ g ∈ ms.map Completion.generation := by
  induction ms generalizing c with
  | nil => exact ⟨rfl, rfl, rfl, fun _ => rfl, fun g _ => by simp⟩
  | cons m ms ih =>
    obtain ⟨h1, h2, h3, h4, h5⟩ := ih (c.answer m.generation m.outcome)
    have hsame : (c.answer m.generation m.outcome).active = c.active ∧
        (c.answer m.generation m.outcome).superseded = c.superseded ∧
        (c.answer m.generation m.outcome).effects = c.effects := by
      obtain ⟨_, _, he⟩ := c.answer_frame m.generation m.outcome
      rw [he]
      exact ⟨rfl, rfl, rfl⟩
    refine ⟨h1.trans hsame.1, h2.trans hsame.2.1, h3.trans hsame.2.2,
      fun g => (h4 g).trans (isCancelled_answer c _ _ g), fun g hg => ?_⟩
    rw [List.foldl_cons, h5 g (by rwa [generations_answer]), isAnswered_answer_iff c hg,
      List.map_cons, List.mem_cons, or_assoc, eq_comm (a := g)]

theorem cancelAll_frame (c : Compiler) (gs : List Nat) (hs : ∀ g ∈ gs, g ∈ c.runs.map Run.generation) :
    let d := gs.foldl cancel c
    d.active = c.active ∧ d.superseded = c.superseded ∧ d.effects = c.effects ∧
      d.runs.map Run.generation = c.runs.map Run.generation ∧
      (∀ g, d.isAnswered g = c.isAnswered g) ∧
      ∀ g, d.isCancelled g = true ↔ c.isCancelled g = true ∨ g ∈ gs := by
  induction gs generalizing c with
  | nil => exact ⟨rfl, rfl, rfl, rfl, fun _ => rfl, fun g => by simp⟩
  | cons g gs ih =>
    obtain ⟨hg, hgs⟩ := List.forall_mem_cons.1 hs
    obtain ⟨h1, h2, h3, h4, h5, h6⟩ := ih (c.cancel g) (by rwa [generations_cancel])
    refine ⟨h1, h2, h3, h4.trans (generations_cancel c g),
      fun g' => (h5 g').trans (isAnswered_cancel c g g'), fun g' => ?_⟩
    rw [List.foldl_cons, h6, isCancelled_cancel_iff, and_iff_left hg, List.mem_cons, or_assoc]

theorem closeUp_eq (c : Compiler) : c.closeUp = { c with
    effects := c.effects ++ c.late.map fun g => .noted (.teardownTimeout g)
    active := none
    superseded := [] } := by
  have hf : ∀ (gs : List Nat) (d : Compiler),
      gs.foldl (fun d g => d.tell (.noted (.teardownTimeout g))) d
        = { d with effects := d.effects ++ gs.map fun g => .noted (.teardownTimeout g) } := by
    intro gs
    induction gs with
    | nil =>
      intro d
      rw [List.map_nil, List.append_nil]
      rfl
    | cons g gs ih =>
      intro d
      rw [List.foldl_cons, ih, List.map_cons, List.append_cons]
      rfl
  unfold closeUp
  rw [hf]

/-! ## the runs that are still out -/

/-- a run was asked for, and no poll has taken its answer out of the inbox. -/
def Undrained (c : Compiler) (is : List Incident) (g : Nat) : Prop :=
  g ∈ (c.through is).asked.map Request.generation ∧ g ∉ (c.handled is).map Completion.generation

/-- a run was answered or dropped after it had been asked for. -/
def Replied (c : Compiler) (is : List Incident) (g : Nat) : Prop :=
  ∃ before i after m, is = before ++ i :: after ∧ i.completion? = some m ∧ m.generation = g ∧
    g ∈ (c.through before).asked.map Request.generation

def sentBy (later : List Sending) (t : Instant) : List Completion :=
  (later.filter fun x => x.time ≤ t).map Sending.completion

theorem mem_sentBy_iff (later : List Sending) (t : Instant) (g : Nat) :
    g ∈ (sentBy later t).map Completion.generation ↔
      ∃ x ∈ later, x.completion.generation = g ∧ x.time ≤ t := by
  unfold sentBy
  simp only [List.map_map, List.mem_map, List.mem_filter, decide_eq_true_eq, Function.comp_apply]
  exact ⟨fun ⟨x, ⟨hx, ht⟩, hg⟩ => ⟨x, hx, hg, ht⟩, fun ⟨x, hx, hg, ht⟩ => ⟨x, ⟨hx, ht⟩, hg⟩⟩

theorem badge_through (c : Compiler) (is : List Incident) : (c.through is).badge = c.badge := by
  induction is generalizing c with
  | nil => rfl
  | cons i is ih =>
    refine (ih (c.meet i)).trans ?_
    cases i with
    | event e => exact c.badge_step e
    | cancel g => rfl

/-- the moment up to which a teardown that begins now waits. -/
def deadline (c : Compiler) (now : Instant) : Instant := now + c.teardownTimeout

def lastWait (c : Compiler) (now : Instant) (later : List Sending) : List Nat × Instant :=
  c.waitAll later (c.deadline now) now c.outstanding

section
variable {c : Compiler} {is : List Incident}

theorem Delivers.replied_iff (h : c.Delivers is) (g : Nat) :
    c.Replied is g ↔ (c.through is).isAnswered g = true := by
  constructor
  · rintro ⟨before, i, after, m, rfl, him, rfl, hg⟩
    rw [h.latch, ← List.count_pos_iff, (h.first before i after m rfl him hg).1]
    exact Nat.one_pos
  · intro ha
    obtain ⟨m, hm, rfl⟩ := List.mem_map.1 ((h.latch g).1 ha)
    obtain ⟨before, i, after, he, him, hg⟩ := h.only m hm
    exact ⟨before, i, after, m, he, him, rfl, hg⟩

/-- a run is tracked if it was asked for and its answer has not been taken out of the inbox. -/
theorem Delivers.undrained_iff (h : c.Delivers is) (hc : (c.through is).Sound) (g : Nat) :
    c.Undrained is g ↔ g ∈ (c.through is).outstanding := by
  have hl := h.latch g
  have hd := h.once
  have hi := hc.inbox_answered g
  rw [received, List.map_append] at hd hl
  have hapart := (List.nodup_append.1 hd).2.2
  unfold Undrained
  rw [hc.owed, awaits_iff, hc.generations_asked, ← Bool.not_eq_true, hl, List.mem_append, not_or]
  constructor
  · rintro ⟨hs, hn⟩
    by_cases hm : g ∈ (c.through is).inbox.map Completion.generation
    · exact .inr hm
    · exact .inl ⟨hs, hn, hm⟩
  · rintro (⟨hs, hn, -⟩ | hm)
    · exact ⟨hs, hn⟩
    · exact ⟨started_of_isAnswered (hi hm), fun hh => hapart g hh g hm rfl⟩

end

/-! ## the teardown -/

/-- the state in which a teardown that begins now leaves a compiler. -/
def torn (c : Compiler) (now : Instant) (later : List Sending) : Compiler :=
  c.teardown (sentBy later (c.deadline now))

structure TearsDown (c : Compiler) (is : List Incident) (now : Instant) (later : List Sending) :
    Prop where
  cancelled : ∀ g, ((c.through is).torn now later).isCancelled g = true ↔
    (c.through is).isCancelled g = true ∨ c.Undrained is g
  cancelled_first : ∀ g, (c.through is).cancelOutstanding.isCancelled g
    = ((c.through is).torn now later).isCancelled g
  /-- it tells about the runs for which it waited in vain, and nothing else. -/
  told : ((c.through is).torn now later).effects = (c.through is).effects
    ++ ((c.through is).lastWait now later).1.map fun g => .noted (.teardownTimeout g)
  late : ∀ g, g ∈ ((c.through is).lastWait now later).1 ↔
    g ∈ (c.through is).asked.map Request.generation ∧ ¬ c.Replied is g ∧
      ¬ ∃ x ∈ later, x.completion.generation = g ∧ x.time ≤ now + c.teardownTimeout
  once : ((c.through is).lastWait now later).1.Nodup
  in_order : ((c.through is).lastWait now later).1.Sublist
    ((c.through is).active.toList ++ (c.through is).superseded)
  superseded_sorted : (c.through is).superseded.Pairwise (· < ·)
  /-- it waits for every run that is still out, until it is answered or the deadline has come. -/
  waited : ∀ g, c.Undrained is g → g ∉ ((c.through is).lastWait now later).1 →
    (c.through is).ReleasedBy later ((c.through is).lastWait now later).2 g
  ends : now ≤ ((c.through is).lastWait now later).2 ∧
    ((c.through is).lastWait now later).2 ≤ now + c.teardownTimeout ∧
    (((c.through is).lastWait now later).1 ≠ [] →
      ((c.through is).lastWait now later).2 = now + c.teardownTimeout)
  /-- a run that was answered is seen at once, even after the deadline. -/
  overdue : ∀ g, c.Replied is g → ∀ deadline now,
    (c.through is).wait later deadline now g = (true, now)
  quiet : (∀ g ∈ (c.through is).asked.map Request.generation, c.Replied is g) →
    ((c.through is).torn now later).effects = (c.through is).effects
  none_left : ((c.through is).torn now later).outstanding = []

section
variable {c : Compiler} (now : Instant) (later : List Sending)

theorem lastWait_spec (c : Compiler) :
    (c.lastWait now later).1
        = c.outstanding.filter (fun g => ¬ c.ReleasedBy later (c.deadline now) g) ∧
      now ≤ (c.lastWait now later).2 ∧ (c.lastWait now later).2 ≤ c.deadline now ∧
      ((c.lastWait now later).1 ≠ [] → (c.lastWait now later).2 = c.deadline now) ∧
      ∀ g ∈ c.outstanding, g ∉ (c.lastWait now later).1 →
        c.ReleasedBy later (c.lastWait now later).2 g := by
  have hle : now ≤ c.deadline now := Int.le_add_of_nonneg_right (Int.natCast_nonneg _)
  have hspec := c.waitAll_spec later (c.deadline now) now c.outstanding
  rw [Int.max_eq_right hle] at hspec
  exact hspec

theorem Sound.torn_spec (hc : c.Sound) :
    (∀ g, c.cancelOutstanding.isCancelled g = true ↔ c.isCancelled g = true ∨ g ∈ c.outstanding) ∧
      (∀ g, (c.torn now later).isCancelled g = c.cancelOutstanding.isCancelled g) ∧
      (c.torn now later).effects = c.effects
        ++ (c.lastWait now later).1.map (fun g => .noted (.teardownTimeout g)) ∧
      (c.torn now later).outstanding = [] := by
  have hstarted : ∀ g ∈ c.outstanding, g ∈ c.runs.map Run.generation :=
    fun g hg => hc.outstanding_started hg
  obtain ⟨k1, k2, k3, k4, k5, k6⟩ := cancelAll_frame c c.outstanding hstarted
  obtain ⟨a1, a2, a3, a4, a5⟩ := answers_frame c.cancelOutstanding (sentBy later (c.deadline now))
  have hact : c.cancelOutstanding.active = c.active := k1
  have hsup : c.cancelOutstanding.superseded = c.superseded := k2
  have heff : c.cancelOutstanding.effects = c.effects := k3
  have hlate : ((sentBy later (c.deadline now)).foldl
      (fun d m => d.answer m.generation m.outcome) c.cancelOutstanding).late
        = (c.lastWait now later).1 := by
    rw [(c.lastWait_spec now later).1]
    unfold Compiler.late outstanding
    rw [a1, a2, hact, hsup]
    refine List.filter_congr fun g hg => ?_
    have hg' : g ∈ c.cancelOutstanding.runs.map Run.generation := by
      rw [show c.cancelOutstanding.runs.map Run.generation = c.runs.map Run.generation from k4]
      exact hstarted g hg
    have ha : c.cancelOutstanding.isAnswered g = c.isAnswered g := k5 g
    rw [Bool.eq_iff_iff, Bool.not_eq_true', decide_eq_true_eq, ← Bool.not_eq_true, a5 g hg', ha,
      mem_sentBy_iff]
    rfl
  unfold torn teardown
  rw [closeUp_eq, hlate, a3, heff]
  exact ⟨k6, a4, rfl, rfl⟩

end

theorem Delivers.tearsDown {c : Compiler} {is : List Incident} (h : c.Delivers is)
    (hc : (c.through is).Sound) (now : Instant) (later : List Sending) :
    c.TearsDown is now later := by
  obtain ⟨t1, t2, t3, t4⟩ := hc.torn_spec now later
  obtain ⟨w1, w2, w3, w4, w5⟩ := (c.through is).lastWait_spec now later
  have hdl : (c.through is).deadline now = now + c.teardownTimeout :=
    congrArg (fun b : Badge => now + (b.teardownTimeout : Int)) (c.badge_through is)
  have hlate : ∀ g, g ∈ ((c.through is).lastWait now later).1 ↔
      g ∈ (c.through is).asked.map Request.generation ∧ ¬ c.Replied is g ∧
        ¬ ∃ x ∈ later, x.completion.generation = g ∧ x.time ≤ now + c.teardownTimeout := by
    intro g
    rw [w1, List.mem_filter, decide_eq_true_eq, h.replied_iff, ← not_or, ← hdl]
    refine and_congr_left fun hn => ?_
    rw [hc.owed, awaits_iff, hc.generations_asked]
    refine ⟨fun hg => hg.elim And.left fun hi => absurd (.inl (hc.inbox_answered g hi)) hn,
      fun hg => .inl ⟨hg, ?_⟩⟩
    rw [← Bool.not_eq_true]
    exact fun ha => hn (.inl ha)
  constructor
  case cancelled =>
    intro g
    rw [t2, t1, h.undrained_iff hc]
  case cancelled_first => exact fun g => (t2 g).symm
  case told => exact t3
  case late => exact hlate
  case once =>
    rw [w1]
    exact hc.outstanding_nodup.filter _
  case in_order =>
    rw [w1]
    exact List.filter_sublist
  case superseded_sorted => exact hc.superseded_sorted
  case waited => exact fun g hu hn => w5 g ((h.undrained_iff hc g).1 hu) hn
  case ends => exact hdl ▸ ⟨w2, w3, w4⟩
  case overdue =>
    intro g hg deadline now
    unfold wait
    rw [if_pos ((h.replied_iff g).1 hg)]
  case quiet =>
    intro hall
    have hnone : ((c.through is).lastWait now later).1 = [] :=
      List.eq_nil_iff_forall_not_mem.2 fun g hg => ((hlate g).1 hg).2.1 (hall g ((hlate g).1 hg).1)
    rw [t3, hnone]
    exact List.append_nil _
  case none_left => exact t4

end Compiler

/-- **A teardown reaches every run that is still out.** Whatever a compiler has lived through, its
teardown cancels every run that was asked for and not drained, waits for all of them up to one
deadline, and tells about those that were not answered or dropped by then: each once, the active one
first, and the superseded ones in the order of their start. It never tells about a run that was
answered before, however late it looks at it. -/
theorem Setup.teardown_reaches_every_run (s : Setup) (is : List Incident) (now : Instant)
    (later : List Sending) : s.compiler.TearsDown is now later := by
  have hc : s.compiler.Sound := .create ..
  exact (s.delivers is).tearsDown (hc.through is) now later

/-- three runs: the first was answered in time, the second never, and the third is answered when
nobody waits any more; the fourth was answered before, and not polled. -/
example :
    let blank : Disk := ⟨fun _ => none, fun _ => .error (.code 2)⟩
    let host : Host := ⟨blank, fun _ => ⟨0, false, .unconfigured⟩, fun _ => [], .empty, 7⟩
    let s : Setup := ⟨0, ⟨0, 0⟩, ⟨1000, 200, 1, 100⟩, ⟨[115]⟩, [⟨[97]⟩], .manual, blank⟩
    let run (b : UInt8) : Incident := .event (.call host (.runContents [b]))
    let c := s.compiler.through [run 1, run 2, run 3, run 4, .event (.drop 4)]
    c.lastWait 5 [⟨50, 1, .error .panicked⟩, ⟨106, 3, .error .panicked⟩] = ([2, 3], 105) := by
  decide

end Regen
