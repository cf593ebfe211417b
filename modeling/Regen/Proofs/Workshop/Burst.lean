import Mathlib.Algebra.Ring.Nat
import Mathlib.Data.Nat.Pairing
import Regen.Proofs.Workshop.Newest

/-!
# A burst of requests

A host asks for runs in quick succession, and then lets time pass until no run is active. What is
shown in the end is what the last request alone would have brought: the other runs, and those that
were out before, leave no trace, in whichever order the pool lets them in and whenever they end.

That no run is active in the end can be relied on if the schedule is fair: time passes again and
again, and again and again every run gets its turn while others leave a slot. Every step of a run
takes it nearer to its end; so the runs that hold slots end, and the last one gets in.

* `Workshop.total`   how many steps all runs have left;
* `Workshop.upTo`    the first events of a schedule;
* `Workshop.Fair`    a schedule that is fair, such as `Workshop.inTurn`;
* `Workshop.burst`   the events of a burst.

Main statements: `total_work_lt` (a run that is not stuck comes nearer to its end),
`Underway.comes_to_rest`, and `Setup.burst_collapses_to_last_request`.
-/

namespace Regen
namespace Workshop

def total (w : Workshop) : Nat := (w.tasks.map Task.left).sum

def upTo (schedule : Nat → Event) (n : Nat) : List Event := (List.range n).map schedule

/-- a schedule that is fair: time passes again and again, and again and again every run gets its
turn while others leave a slot. -/
structure Fair (disk : Disk) (slots : Nat) (schedule : Nat → Event) : Prop where
  rests : ∀ n, (schedule n).Rests disk
  ticks : ∀ n, ∃ m, n ≤ m ∧ ∃ h now, schedule m = .call h (.tick now)
  turns : ∀ n i, ∃ m, n ≤ m ∧ ∃ others, others < slots ∧ schedule m = .work i disk others

/-- every run gets its turn, and time passes in between, with no end. -/
def inTurn (disk : Disk) (h : Host) (now : Instant) (n : Nat) : Event :=
  match n.unpair.1 with
  | 0 => .call h (.tick now)
  | i + 1 => .work i disk 0

def burst (rush : List Event) (h : Host) (last : Provider) (rest : List Event) : List Event :=
  rush ++ .call h (.asking last) :: rest

/-! ## schedules -/

theorem after_upTo_succ (w : Workshop) (schedule : Nat → Event) (n : Nat) :
    w.after (upTo schedule (n + 1)) = (w.after (upTo schedule n)).step (schedule n) := by
  unfold upTo
  rw [List.range_succ, List.map_append, after_append]
  rfl

theorem fair_inTurn (disk : Disk) (h : Host) (now : Instant) {slots : Nat} (hs : 0 < slots) :
    Fair disk slots (inTurn disk h now) where
  rests n := by
    unfold inTurn
    split
    · exact ⟨now, rfl⟩
    · rfl
  ticks n := by
    refine ⟨Nat.pair 0 n, Nat.right_le_pair 0 n, h, now, ?_⟩
    unfold inTurn
    rw [Nat.unpair_pair]
  turns n i := by
    refine ⟨Nat.pair (i + 1) n, Nat.right_le_pair (i + 1) n, 0, hs, ?_⟩
    unfold inTurn
    rw [Nat.unpair_pair]

/-! ## steps that are left -/

theorem total_congr {w v : Workshop} (h : w.tasks = v.tasks) : w.total = v.total :=
  congrArg (fun ts => (ts.map Task.left).sum) h

theorem held_congr {w v : Workshop} (h : w.tasks = v.tasks) : w.held = v.held :=
  congrArg (fun ts => ts.countP Task.holds) h

/-- a run that comes nearer to its end brings down the total. -/
theorem sum_set_lt {ts : List Task} {i : Nat} {t t' : Task} (hi : ts[i]? = some t)
    (hl : t'.left < t.left) : ((ts.set i t').map Task.left).sum < (ts.map Task.left).sum := by
  induction ts generalizing i with
  | nil => exact nomatch hi
  | cons u ts ih =>
    cases i with
    | zero =>
      obtain rfl : u = t := Option.some.inj hi
      simp only [List.set_cons_zero, List.map_cons, List.sum_cons]
      omega
    | succ i =>
      have hr := ih hi
      simp only [List.set_cons_succ, List.map_cons, List.sum_cons]
      omega

/-- a step of a run is nothing, for want of a run, of a slot, or as the run is over; or it takes the
run nearer to its end. -/
theorem work_eq_or_total_lt (w : Workshop) (i : Nat) (disk : Disk) (others : Nat) :
    w.work i disk others = w ∧ (∀ t, w.tasks[i]? = some t →
        t.phase = .done ∨ t.phase = .queued ∧ w.slots ≤ w.held + others) ∨
      (w.work i disk others).total < w.total := by
  rcases w.work_cases i disk others with ⟨he, hstuck⟩ | ⟨t, phase, hi, -, -, hl, he⟩ |
    ⟨t, o, hi, -, hp, he⟩
  · exact .inl ⟨he, fun t hi => (hstuck t hi).imp id fun ⟨hq, _, hfull⟩ => ⟨hq, hfull⟩⟩
  · rw [he]
    exact .inr (sum_set_lt hi hl)
  · rw [he]
    exact .inr (sum_set_lt hi (Task.left_done_lt hp))

/-- a run comes nearer to its end at its turn, if it holds a slot, or a slot is free. -/
theorem total_work_lt {w : Workshop} {i : Nat} {t : Task} (hi : w.tasks[i]? = some t)
    (hd : t.phase ≠ .done) {others : Nat} (hf : t.holds = true ∨ w.held + others < w.slots)
    (disk : Disk) : (w.work i disk others).total < w.total := by
  rcases w.work_eq_or_total_lt i disk others with ⟨-, hstuck⟩ | hlt
  · obtain ⟨hq, hfull⟩ := (hstuck t hi).resolve_left hd
    have hh : ¬ t.holds = true := by simp [Task.holds, hq]
    have := hf.resolve_left hh
    omega
  · exact hlt

theorem Sound.isAnswered_step {w : Workshop} (hw : w.Sound) {g : Nat}
    (hg : w.compiler.isAnswered g = true) (e : Event) :
    (w.step e).compiler.isAnswered g = true := by
  cases e with
  | call h k => exact ((hw.book.call_frame h k).2.1 g).trans hg
  | work i disk others =>
    show (w.work i disk others).compiler.isAnswered g = true
    rcases w.work_cases i disk others with ⟨he, -⟩ | ⟨t, phase, -, -, -, -, he⟩ |
      ⟨t, o, hi, -, hp, he⟩
    · rw [he]
      exact hg
    · rw [he]
      exact hg
    · have haw := hw.awaits_of_mem (List.mem_of_getElem? hi) hp
      rw [he]
      exact (Compiler.isAnswered_answer haw o g).2 (.inl hg)

namespace Underway

variable {w : Workshop} {disk : Disk} {g : Nat} {o : Outcome} {shown : Shown} {walls : List Time}

theorem tasks_step (hw : w.Underway disk g o shown walls) {e : Event} (he : e.Rests disk) :
    (w.step e).tasks = w.tasks ∨ (w.step e).total < w.total := by
  cases e with
  | call h k =>
    obtain ⟨now, rfl⟩ := he
    obtain ⟨b, -, hs⟩ := hw.sound.step_tick_eq hw.quiet h now
    rw [hs]
    exact .inl rfl
  | work i d others =>
    exact (w.work_eq_or_total_lt i d others).imp (fun he => congrArg tasks he.1) id

section
variable {schedule : Nat → Event} (hs : ∀ n, (schedule n).Rests disk)
include hs

theorem after_upTo (hw : w.Underway disk g o shown walls) (n : Nat) :
    ∃ walls', (w.after (upTo schedule n)).Underway disk g o shown walls' := by
  refine ⟨_, hw.after fun e he => ?_⟩
  obtain ⟨m, -, rfl⟩ := List.mem_map.1 he
  exact hs m

/-- as time goes by, the runs stay as they are, or come nearer to their ends. -/
theorem tasks_upTo (hw : w.Underway disk g o shown walls) {n m : Nat} (h : n ≤ m) :
    (w.after (upTo schedule m)).tasks = (w.after (upTo schedule n)).tasks ∨
      (w.after (upTo schedule m)).total < (w.after (upTo schedule n)).total := by
  induction h with
  | refl => exact .inl rfl
  | @step m _ ih =>
    obtain ⟨_, hm⟩ := hw.after_upTo hs m
    have hstep := hm.tasks_step (hs m)
    rw [after_upTo_succ]
    rcases ih with hsame | hlt <;> rcases hstep with hsame' | hlt'
    · exact .inl (hsame'.trans hsame)
    · exact .inr (total_congr hsame ▸ hlt')
    · exact .inr (total_congr hsame' ▸ hlt)
    · exact .inr (Nat.lt_trans hlt' hlt)

theorem isAnswered_upTo (hw : w.Underway disk g o shown walls) {n m : Nat} (h : n ≤ m)
    (hn : (w.after (upTo schedule n)).compiler.isAnswered g = true) :
    (w.after (upTo schedule m)).compiler.isAnswered g = true := by
  induction h with
  | refl => exact hn
  | @step m _ ih =>
    obtain ⟨_, hm⟩ := hw.after_upTo hs m
    rw [after_upTo_succ]
    exact hm.sound.isAnswered_step ih _

end

section
variable {schedule : Nat → Event} (hw : w.Underway disk g o shown walls)
  (hf : Fair disk w.slots schedule)
include hw hf

/-- until the newest run has answered, some run comes nearer to its end. -/
theorem total_decreases {n : Nat}
    (hn : ¬ (w.after (upTo schedule n)).compiler.isAnswered g = true) :
    ∃ m, n ≤ m ∧
      (w.after (upTo schedule m)).total < (w.after (upTo schedule n)).total := by
  obtain ⟨_, hv⟩ := hw.after_upTo hf.rests n
  obtain ⟨j, t, hj, ht, -, -⟩ := hv.submitted
  obtain ⟨i, u, hi, hd, hmoves⟩ : ∃ (i : Nat) (u : Task),
      (w.after (upTo schedule n)).tasks[i]? = some u ∧ u.phase ≠ .done ∧
        (u.holds = true ∨ (w.after (upTo schedule n)).held = 0) := by
    by_cases hh : (w.after (upTo schedule n)).held = 0
    · refine ⟨j, t, ht, fun hdone => hn ?_, .inr hh⟩
      have hg : t.request.generation = g := (hv.sound.generation_eq ht).trans hj
      exact hg ▸ (hv.sound.done_iff t (List.mem_of_getElem? ht)).1 hdone
    · obtain ⟨u, hu, hholds⟩ := List.countP_pos_iff.1 (Nat.pos_of_ne_zero hh)
      obtain ⟨i, hi⟩ := List.getElem?_of_mem hu
      refine ⟨i, u, hi, fun hdone => ?_, .inl hholds⟩
      simp [Task.holds, hdone] at hholds
  obtain ⟨m, hnm, others, hothers, hm⟩ := hf.turns n i
  rcases hw.tasks_upTo hf.rests hnm with hsame | hlt
  · refine ⟨m + 1, Nat.le_succ_of_le hnm, ?_⟩
    rw [after_upTo_succ, hm, ← total_congr hsame]
    refine total_work_lt (hsame ▸ hi) hd (hmoves.imp id fun hz => ?_) disk
    rw [held_congr hsame, hz, (w.after_fixed _).1, Nat.zero_add]
    exact hothers
  · exact ⟨m, hnm, hlt⟩

theorem answers (n : Nat) :
    ∃ m, n ≤ m ∧ (w.after (upTo schedule m)).compiler.isAnswered g = true := by
  -- on the steps that all runs have left: some run moves on until the newest has answered
  induction hk : (w.after (upTo schedule n)).total using Nat.strongRecOn
    generalizing n with
  | ind k ih =>
    by_cases hn : (w.after (upTo schedule n)).compiler.isAnswered g = true
    · exact ⟨n, Nat.le_refl n, hn⟩
    · obtain ⟨m, hnm, hlt⟩ := hw.total_decreases hf hn
      obtain ⟨m', hm', hans⟩ := ih _ (hk ▸ hlt) m rfl
      exact ⟨m', Nat.le_trans hnm hm', hans⟩

theorem comes_to_rest : ∃ n, (w.after (upTo schedule n)).compiler.isRunning = false := by
  obtain ⟨m, -, hans⟩ := hw.answers hf 0
  obtain ⟨k, hmk, h, now, hk⟩ := hf.ticks m
  obtain ⟨_, hv⟩ := hw.after_upTo hf.rests k
  have hans' := hw.isAnswered_upTo hf.rests hmk hans
  obtain ⟨b, -, hstep⟩ := hv.sound.step_tick_eq hv.quiet h now
  refine ⟨k + 1, ?_⟩
  rw [after_upTo_succ, hk]
  have hnext := hv.tick h now
  rcases hnext.progress with ⟨hact, -⟩ | ⟨hact, -⟩
  · rw [hstep] at hact
    obtain ⟨-, haw⟩ := (hv.sound.book.active_poll_iff h g).1 hact
    have := ((Compiler.awaits_iff _ g).1 haw).2
    rw [hans'] at this
    exact Bool.noConfusion this
  · unfold Compiler.isRunning
    rw [hact]
    rfl

end

end Underway

/-! ## bursts -/

namespace Ready

variable {w : Workshop} {f : Transform} {source : Path} {shown : Shown}
  (hw : w.Ready f source shown) {rush rest : List Event} (hrush : ∀ e ∈ rush, e.Rushes) (h : Host)
  (last : Provider) (disk : Disk)
include hw hrush

theorem underway :
    ∃ g, (w.after (burst rush h last [])).Underway disk g (answerTo f source last disk) shown [] := by
  have ha := (hw.after hrush).ask h last disk
  unfold burst
  rw [after_append]
  exact ⟨_, ha⟩

theorem shown_burst (hrest : ∀ e ∈ rest, e.Rests disk)
    (hi : (w.after (burst rush h last rest)).compiler.isRunning = false) :
    ∃ t ∈ rest.flatMap Event.walls, (w.after (burst rush h last rest)).compiler.shown
      = shown.adopt t (answerTo f source last disk) := by
  obtain ⟨g, hu⟩ := hw.underway hrush h last disk
  have hsplit : w.after (burst rush h last rest)
      = (w.after (burst rush h last [])).after rest := by
    rw [← after_append]
    unfold burst
    rw [List.append_assoc]
    rfl
  rw [hsplit] at hi ⊢
  exact (hu.after hrest).shown_of_idle hi

end Ready
end Workshop

theorem Shown.adopt_eq (v : Shown) (t t' : Time) (o : Outcome) :
    (v.adopt t o).store = (v.adopt t' o).store ∧ (v.adopt t o).issues = (v.adopt t' o).issues ∧
      ((v.adopt t o).watermark = (v.adopt t' o).watermark ∨
        (v.adopt t o).watermark = ⟨some t⟩ ∧ (v.adopt t' o).watermark = ⟨some t'⟩) := by
  cases o with
  | error abort => exact ⟨rfl, rfl, .inl rfl⟩
  | ok output =>
    by_cases he : output.contents.entries = []
    · have ha : ∀ t, v.adopt t (.ok output) = { v with issues := output.issues } :=
        fun t => if_pos he
      rw [ha, ha]
      exact ⟨rfl, rfl, .inl rfl⟩
    · have ha : ∀ t, v.adopt t (.ok output)
          = ⟨v.store.setAll output.contents.entries, output.issues, ⟨some t⟩⟩ :=
        fun t => if_neg he
      rw [ha, ha]
      exact ⟨rfl, rfl, .inr ⟨rfl, rfl⟩⟩

namespace Setup

open Workshop

/-- **A burst of requests collapses to its last one.** Two workshops have the same source and
transform and show the same, and no run is due; each may have gone through any life, with runs still
out. On one of them a burst of requests is made, on the other only its last request, while no file
changes. Once no run is active on either, both hold the same bytes for every target, the same issues
and the same pending notifications, and their watermarks are the same, or each is the time of a tick
of its own. This is what the answer of the last request brings, whatever the capacities of the
pools and whenever the runs move on. Under a fair schedule there comes a time when no run is
active. -/
theorem burst_collapses_to_last_request (s s' : Setup) (f : Transform) (capacity capacity' : Nat)
    (life life' : List Workshop.Event) (disk : Disk) (rush : List Workshop.Event) (h h' : Host)
    (last : Provider)
    (hquiet : ((s.workshop f capacity).after life).compiler.Quiet)
    (hquiet' : ((s'.workshop f capacity').after life').compiler.Quiet)
    (hsource : ((s'.workshop f capacity').after life').compiler.source
      = ((s.workshop f capacity).after life).compiler.source)
    (hshown : ((s'.workshop f capacity').after life').compiler.shown
      = ((s.workshop f capacity).after life).compiler.shown)
    (hrush : ∀ e ∈ rush, e.Rushes) :
    let w := (s.workshop f capacity).after life
    let v := (s'.workshop f capacity').after life'
    let o := answerTo f w.compiler.source last disk
    (∀ rest rest' : List Workshop.Event,
      (∀ e ∈ rest, e.Rests disk) → (∀ e ∈ rest', e.Rests disk) →
      let x := (w.after (burst rush h last rest)).compiler
      let y := (v.after (burst [] h' last rest')).compiler
      x.isRunning = false → y.isRunning = false →
        x.store = y.store ∧ x.issues = y.issues ∧ x.takeChanged.1 = y.takeChanged.1 ∧
        ∃ t ∈ rest.flatMap Event.walls, ∃ t' ∈ rest'.flatMap Event.walls,
          (x.watermark = y.watermark ∨ x.watermark = ⟨some t⟩ ∧ y.watermark = ⟨some t'⟩) ∧
          x.shown = w.compiler.shown.adopt t o ∧ y.shown = w.compiler.shown.adopt t' o) ∧
    ∀ schedule, Fair disk w.slots schedule →
      ∃ n, (w.after (burst rush h last (upTo schedule n))).compiler.isRunning = false := by
  intro w v o
  have hw : w.Ready f w.compiler.source w.compiler.shown :=
    ⟨(s.sound_workshop f capacity).after life, hquiet, (after_fixed _ life).2, rfl, rfl⟩
  have hv : v.Ready f w.compiler.source w.compiler.shown :=
    ⟨(s'.sound_workshop f capacity').after life', hquiet', (after_fixed _ life').2, hsource,
      hshown⟩
  refine ⟨?_, fun schedule hfair => ?_⟩
  · intro rest rest' hrest hrest' x y hx hy
    obtain ⟨t, ht, hxs⟩ := hw.shown_burst hrush h last disk hrest hx
    have hnone : ∀ e ∈ ([] : List Workshop.Event), e.Rushes := fun e he =>
      absurd he List.not_mem_nil
    obtain ⟨t', ht', hys⟩ := hv.shown_burst hnone h' last disk hrest' hy
    obtain ⟨hstore, hissues, hmark⟩ := w.compiler.shown.adopt_eq t t' o
    rw [← hxs, ← hys] at hstore hissues hmark
    exact ⟨hstore, hissues, congrArg ContentStore.changed hstore, t, ht, t', ht', hmark, hxs, hys⟩
  · obtain ⟨g, hu⟩ := hw.underway hrush h last disk
    rw [← (w.after_fixed (burst rush h last [])).1] at hfair
    obtain ⟨n, hn⟩ := hu.comes_to_rest hfair
    refine ⟨n, ?_⟩
    rw [← after_append] at hn
    unfold burst at hn ⊢
    rw [List.append_assoc] at hn
    exact hn

/-- the first run holds the only slot while three more are asked for; the first two of them end
before they do anything, and then the last one goes through. With two slots and the last request
alone the same bytes come out. -/
theorem burst_collapses_to_last_request_one_slot :
    let disk : Disk := ⟨fun _ => none, fun _ => .ok [9]⟩
    let host : Time → Host := fun wall =>
      ⟨disk, fun _ => ⟨0, false, .unconfigured⟩, fun _ => [], .empty, wall⟩
    let s : Setup := ⟨0, ⟨0, 0⟩, ⟨1000, 200, 1, 30000⟩, ⟨[115]⟩, [⟨[97]⟩], .manual, disk⟩
    let f : Transform := fun _ b => some ⟨.ofList [(⟨[97]⟩, 7 :: b)], []⟩
    let w := (s.workshop f 1).after [.call (host 1) (.tick 0), .work 0 disk 0]
    let v := (s.workshop f 2).after [.call (host 1) (.tick 0)]
    let rush : List Workshop.Event := [.call (host 1) (.runContents [1]), .work 0 disk 0,
      .call (host 1) (.runContents [2]), .work 1 disk 0]
    let rest : List Workshop.Event := [.work 3 disk 0, .work 2 disk 0, .work 0 disk 0,
      .work 3 disk 0, .call (host 5) (.tick 1), .work 3 disk 0, .work 3 disk 0, .work 3 disk 0,
      .call (host 6) (.tick 2)]
    let rest' : List Workshop.Event := [.work 1 disk 0, .work 1 disk 1, .work 1 disk 0,
      .work 1 disk 0, .call (host 8) (.tick 0)]
    let x := (w.after (burst rush (host 2) (.bytes [3]) rest)).compiler
    let y := (v.after (burst [] (host 2) (.bytes [3]) rest')).compiler
    x.store = y.store ∧ x.content ⟨[97]⟩ = [7, 3] ∧ x.watermark = ⟨some 6⟩ ∧
      y.watermark = ⟨some 8⟩ ∧
      ∃ n, (w.after (burst rush (host 2) (.bytes [3])
        (upTo (inTurn disk (host 5) 1) n))).compiler.isRunning = false := by
  intro disk host s f w v rush rest rest' x y
  have hrush : ∀ e ∈ rush, e.Rushes := by
    intro e he
    simp only [rush, List.mem_cons, List.not_mem_nil, or_false] at he
    rcases he with rfl | rfl | rfl | rfl
    · exact ⟨.bytes [1], rfl⟩
    · exact trivial
    · exact ⟨.bytes [2], rfl⟩
    · exact trivial
  obtain ⟨hsame, hrest⟩ := burst_collapses_to_last_request s s f 1 2
    [.call (host 1) (.tick 0), .work 0 disk 0] [.call (host 1) (.tick 0)] disk rush (host 2)
    (host 2) (.bytes [3]) ⟨by decide, by decide⟩ ⟨by decide, by decide⟩ (by decide) rfl hrush
  obtain ⟨hstore, -⟩ := hsame rest rest' (by simp [rest, Event.Rests])
    (by simp [rest', Event.Rests]) (by decide) (by decide)
  have hfair : Fair disk w.slots (inTurn disk (host 5) 1) := fair_inTurn disk (host 5) 1 (by decide)
  exact ⟨hstore, by decide, by decide, by decide, hrest _ hfair⟩

end Setup
end Regen
