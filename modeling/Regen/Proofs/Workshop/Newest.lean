import Regen.Proofs.Compiler.Frame
import Regen.Proofs.Compiler.Visible
import Regen.Proofs.Workshop.Life

/-!
# The newest run of a workshop

While a host only asks for runs, nothing that is shown changes, whatever the runs do meanwhile.
From its last request on, the run of this request is the newest one. Nobody cancels it, so it
answers what its transform makes of its source; and once its answer is polled, it is what is shown.
No other run has a say in this.

* `Shown`                what a compiler shows of its targets;
* `Shown.adopt`          it after an outcome was taken over;
* `Compiler.Quiet`       no run is due but for those that the host asks for;
* `Task.Faithful`        a run has read what is on the disk;
* `Workshop.Ready`       a quiet workshop, and what it shows;
* `Workshop.Underway`    the newest run is on its way, or was taken over.

Main statements: `Ready.step` (a rush of requests), `Ready.ask` (the last request),
`Underway.step` (the rest), and `Underway.shown_of_idle` (what is shown in the end).
-/

namespace Regen

/-- time that passes while no edit waits hands out nothing. -/
theorem Binding.tick_of_not_dirty {b : Binding} (hb : b.dirty = false) (bufs : Buffers) (now : Instant) :
    ∃ b' : Binding, b'.dirty = false ∧ b.tick bufs now = ⟨b', none, none⟩ := by
  have hw : b.waiting bufs = none := by
    unfold waiting
    cases b.bound <;> simp [hb]
  unfold tick
  rw [hw]
  by_cases hd : b.debounce.due now = true
  · exact ⟨{ b with debounce := b.debounce.fire now }, hb, if_pos hd⟩
  · exact ⟨b, hb, if_neg hd⟩

/-! ## what is shown -/

/-- what a compiler shows of its targets, with the notifications not yet taken. -/
structure Shown where
  store : ContentStore
  issues : List Issue
  watermark : Watermark

def Shown.adopt (v : Shown) (wall : Time) : Outcome → Shown
  | .error _ => v
  | .ok output =>
    if output.contents.entries = [] then { v with issues := output.issues }
    else ⟨v.store.setAll output.contents.entries, output.issues, ⟨some wall⟩⟩

namespace Compiler

def shown (c : Compiler) : Shown := ⟨c.store, c.issues, c.watermark⟩

theorem Started.shown_eq {c d : Compiler} (hd : c.Started d) : d.shown = c.shown := by
  obtain ⟨_, _, _, _, _, rfl⟩ := hd
  rfl

theorem shown_adopt (c : Compiler) (wall : Time) (o : Outcome) :
    (c.adopt wall o).shown = c.shown.adopt wall o := by
  cases o with
  | error abort => rfl
  | ok output =>
    have hi : (c.setIssues output.issues).shown = { c.shown with issues := output.issues } := by
      rw [setIssues_eq]
      rfl
    unfold adopt Shown.adopt
    by_cases he : output.contents.entries = []
    · simp only [he, if_true]
      exact hi
    · simp only [he, if_false]
      exact congrArg (fun v : Shown =>
        (⟨v.store.setAll output.contents.entries, v.issues, ⟨some wall⟩⟩ : Shown)) hi

theorem shown_poll_of_takes {c : Compiler} (hc : c.Sound) {m : Completion} (hm : m ∈ c.inbox)
    (ht : c.Takes m) (h : Host) : (c.poll h).1.shown = c.shown.adopt h.wall m.outcome := by
  show (c.poll h).1.visible.shown = _
  rw [visible_poll_of_takes hc hm ht h]
  exact shown_adopt c.idle h.wall m.outcome

theorem shown_poll_of_not_takes {c : Compiler} (hn : ∀ m ∈ c.inbox, ¬ c.Takes m) (h : Host) :
    (c.poll h).1.shown = c.shown := by
  show (c.poll h).1.visible.shown = c.visible.shown
  rw [visible_poll_of_not_takes hn h]

/-! ## quiet compilers -/

structure Quiet (c : Compiler) : Prop where
  not_due : c.initialPending = false
  not_dirty : c.binding.dirty = false

theorem Started.quiet {c d : Compiler} (hd : c.Started d) (hq : c.Quiet) : d.Quiet := by
  obtain ⟨_, _, _, _, _, rfl⟩ := hd
  exact ⟨hq.not_due, hq.not_dirty⟩

/-- an answer waits in the inbox, and changes nothing else that matters here. -/
theorem answer_fields (c : Compiler) (g : Nat) (o : Outcome) :
    (c.answer g o).clock = c.clock ∧ (c.answer g o).active = c.active ∧
      (c.answer g o).source = c.source ∧ (c.answer g o).shown = c.shown ∧
      (c.Quiet → (c.answer g o).Quiet) := by
  obtain ⟨_, _, ha⟩ := answer_frame c g o
  rw [ha]
  exact ⟨rfl, rfl, rfl, rfl, fun hq => ⟨hq.not_due, hq.not_dirty⟩⟩

theorem mem_inbox_answer {c : Compiler} {g : Nat} {o : Outcome} {m : Completion}
    (hm : m ∈ (c.answer g o).inbox) : m ∈ c.inbox ∨ m = ⟨g, o⟩ := by
  by_cases ha : c.awaits g = true
  · rw [answer_of_awaits ha] at hm
    exact (List.mem_append.1 hm).imp id List.mem_singleton.1
  · rw [answer_of_not_awaits ha] at hm
    exact .inl hm

theorem Quiet.tick_eq {c : Compiler} (hq : c.Quiet) (h : Host) (now : Instant) :
    ∃ b : Binding, b.dirty = false ∧ c.tick h now = { (c.poll h).1 with binding := b } := by
  have hp := polled_poll c h
  have hi : (c.poll h).1.initialPending = false := hp.initialPending_eq.trans hq.not_due
  have hb : (c.poll h).1.binding.dirty = false := by
    obtain ⟨_, _, _, _, _, _, _, he⟩ := hp
    rw [he]
    exact hq.not_dirty
  obtain ⟨b, hd, ht⟩ := Binding.tick_of_not_dirty hb h.buffers now
  refine ⟨b, hd, ?_⟩
  unfold tick
  simp only [initialRun_of_not_due hi, ht]
  rfl

end Compiler

/-! ## a run that nobody cancels -/

/-- what a run of a transform answers if nobody cancels it. -/
def answerTo (f : Transform) (source : Path) (p : Provider) (disk : Disk) : Outcome :=
  (Task.submit ⟨0, source, p, .empty⟩ f).outcome disk

namespace Task

def Faithful (t : Task) (disk : Disk) : Prop :=
  ∀ bytes, t.phase = .loaded bytes ∨ t.phase = .applying bytes →
    t.request.provider.load disk = some bytes

theorem Faithful.step {t : Task} {disk : Disk} (ht : t.Faithful disk) (slotFree : Bool) :
    (t.step disk false slotFree).1.Faithful disk ∧
      ∀ o, (t.step disk false slotFree).2 = some o → o = t.outcome disk := by
  obtain ⟨request, transform, phase⟩ := t
  cases phase with
  | queued => cases slotFree <;> simp [Task.step, Faithful]
  | granted => cases hl : request.provider.load disk <;> simp [Task.step, Faithful, outcome, hl]
  | loaded bytes =>
    have hl : request.provider.load disk = some bytes := ht bytes (.inl rfl)
    simp [Task.step, Faithful, hl]
  | applying bytes =>
    have hl : request.provider.load disk = some bytes := ht bytes (.inr rfl)
    simp [Task.step, Faithful, outcome, apply, hl]
  | done => simp [Task.step, Faithful]

end Task

/-! ## a rush of requests -/

def Call.asking : Provider → Call
  | .bytes bytes => .runContents bytes
  | .file path => .runFile path

namespace Workshop

/-- whether an event is one of a rush: the host asks for a run, or a run moves on. -/
def Event.Rushes : Event → Prop
  | .call _ k => ∃ p, k = .asking p
  | .work _ _ _ => True

/-- whether an event is one of the rest: time passes, or a run moves on and finds this disk. -/
def Event.Rests (disk : Disk) : Event → Prop
  | .call _ k => ∃ now, k = .tick now
  | .work _ d _ => d = disk

def Event.walls : Event → List Time
  | .call h (.tick _) => [h.wall]
  | _ => []

structure Ready (w : Workshop) (f : Transform) (source : Path) (shown : Shown) : Prop where
  sound : w.Sound
  quiet : w.compiler.Quiet
  transform_eq : w.transform = f
  source_eq : w.compiler.source = source
  shown_eq : w.compiler.shown = shown

/-- the newest run is on its way, and what was shown before is shown still; or it was taken over at
one of the given times. -/
structure Underway (w : Workshop) (disk : Disk) (g : Nat) (o : Outcome) (shown : Shown)
    (walls : List Time) : Prop where
  sound : w.Sound
  quiet : w.compiler.Quiet
  newest : w.compiler.clock = g
  not_cancelled : w.compiler.isCancelled g = false
  submitted : ∃ i t, i + 1 = g ∧ w.tasks[i]? = some t ∧ t.outcome disk = o ∧ t.Faithful disk
  answer : ∀ m ∈ w.compiler.inbox, m.generation = g → m.outcome = o
  progress : w.compiler.active = some g ∧ w.compiler.shown = shown ∨
    w.compiler.active = none ∧ ∃ t ∈ walls, w.compiler.shown = shown.adopt t o

theorem call_asking (c : Compiler) (h : Host) (p : Provider) :
    c.call h (.asking p) = c.start h p := by
  cases p <;> rfl

theorem Sound.hand_of_asked {w : Workshop} (hw : w.Sound) {c : Compiler}
    (ha : c.asked = w.compiler.asked) : w.hand c = { w with compiler := c } := by
  unfold Workshop.hand
  rw [ha, hw.length_tasks, List.drop_length, List.map_nil, List.append_nil]

theorem Sound.step_tick_eq {w : Workshop} (hw : w.Sound) (hq : w.compiler.Quiet) (h : Host)
    (now : Instant) : ∃ b : Binding, b.dirty = false ∧ w.step (.call h (.tick now))
      = { w with compiler := { (w.compiler.poll h).1 with binding := b } } := by
  have hb := Compiler.book_poll hw.book.active_not_superseded h
  obtain ⟨b, hd, ht⟩ := hq.tick_eq h now
  have hask : ({ (w.compiler.poll h).1 with binding := b } : Compiler).asked = w.compiler.asked :=
    congrArg Compiler.Book.asked hb
  refine ⟨b, hd, ?_⟩
  show w.hand (w.compiler.tick h now) = _
  rw [ht, hw.hand_of_asked hask]

namespace Ready

variable {w : Workshop} {f : Transform} {source : Path} {shown : Shown}

theorem step (hw : w.Ready f source shown) {e : Event} (he : e.Rushes) :
    (w.step e).Ready f source shown := by
  have hs := hw.sound.step e
  cases e with
  | call h k =>
    obtain ⟨p, rfl⟩ := he
    have hst := Compiler.started_start w.compiler h p
    have hc : (w.step (.call h (.asking p))).compiler = w.compiler.start h p := call_asking _ h p
    have hsource : (w.compiler.start h p).source = w.compiler.source := by
      obtain ⟨_, _, _, _, _, hq⟩ := hst
      rw [hq]
    refine ⟨hs, ?_, hw.transform_eq, ?_, ?_⟩
    · rw [hc]
      exact hst.quiet hw.quiet
    · rw [hc, hsource, hw.source_eq]
    · rw [hc, hst.shown_eq, hw.shown_eq]
  | work i disk others =>
    have hcases := w.work_cases i disk others
    rcases hcases with ⟨hq, -⟩ | ⟨t, phase, -, -, -, -, hq⟩ | ⟨t, o, -, -, -, hq⟩
    · have hq : w.step (.work i disk others) = w := hq
      rw [hq]
      exact hw
    all_goals
      have hq' : w.step (.work i disk others) = _ := hq
      rw [hq'] at hs ⊢
    · exact ⟨hs, hw.quiet, hw.transform_eq, hw.source_eq, hw.shown_eq⟩
    · obtain ⟨-, -, hso, hsh, hqu⟩ := Compiler.answer_fields w.compiler t.request.generation o
      exact ⟨hs, hqu hw.quiet, hw.transform_eq, hso.trans hw.source_eq, hsh.trans hw.shown_eq⟩

theorem after (hw : w.Ready f source shown) {es : List Event} (he : ∀ e ∈ es, e.Rushes) :
    (w.after es).Ready f source shown := by
  induction es generalizing w with
  | nil => exact hw
  | cons e es ih =>
    obtain ⟨h, hs⟩ := List.forall_mem_cons.1 he
    exact ih (hw.step h) hs

theorem ask (hw : w.Ready f source shown) (h : Host) (p : Provider) (disk : Disk) :
    (w.step (.call h (.asking p))).Underway disk (w.compiler.clock + 1)
      (answerTo f source p disk) shown [] := by
  have hn := hw.step (e := .call h (.asking p)) ⟨p, rfl⟩
  have hb := Compiler.book_start w.compiler h p
  have hstep : w.step (.call h (.asking p)) = w.hand (w.compiler.start h p) :=
    congrArg w.hand (call_asking _ h p)
  have hask : (w.compiler.start h p).asked
      = w.compiler.asked ++ [w.compiler.nextRequest h p] := congrArg Compiler.Book.asked hb
  have hbook := hw.sound.book
  have hnew : w.compiler.clock + 1 ∉ w.compiler.runs.map Run.generation := fun hm => by
    have := (hbook.mem_generations_iff _).1 hm
    omega
  rw [hstep] at hn ⊢
  refine ⟨hn.sound, hn.quiet, congrArg Compiler.Book.clock hb, ?_, ?_, fun m hm hg => ?_,
    .inl ⟨congrArg Compiler.Book.active hb, hn.shown_eq⟩⟩
  · rw [← Bool.not_eq_true]
    show ¬ (w.compiler.start h p).isCancelled _ = true
    rw [hbook.isCancelled_start_iff h p]
    rintro (hc | ha)
    · exact hnew (Compiler.started_of_isCancelled hc)
    · have := hbook.active_newest _ ha
      omega
  · refine ⟨w.compiler.clock, .submit (w.compiler.nextRequest h p) w.transform, rfl, ?_, ?_, ?_⟩
    · show (w.tasks ++ ((w.compiler.start h p).asked.drop w.tasks.length).map _)[_]? = _
      rw [hask, hw.sound.length_tasks, List.drop_left, ← hw.sound.length_tasks_eq_clock,
        List.getElem?_append_right (Nat.le_refl _), Nat.sub_self]
      rfl
    · rw [hw.transform_eq, ← hw.source_eq]
      rfl
    · rintro bytes (hp | hp) <;> exact nomatch hp
  · have hinbox : (w.compiler.start h p).inbox = w.compiler.inbox :=
      congrArg Compiler.Book.inbox hb
    have hm' : m ∈ w.compiler.inbox := by
      rw [← hinbox]
      exact hm
    have hans := hbook.inbox_answered m.generation (List.mem_map_of_mem hm')
    exact absurd (hg ▸ Compiler.started_of_isAnswered hans) hnew

end Ready

namespace Underway

variable {w : Workshop} {disk : Disk} {g : Nat} {o : Outcome} {shown : Shown} {walls : List Time}

theorem mono {walls' : List Time} (hw : w.Underway disk g o shown walls) (h : walls ⊆ walls') :
    w.Underway disk g o shown walls' :=
  { hw with progress := hw.progress.imp id fun ⟨ha, t, ht, hs⟩ => ⟨ha, t, h ht, hs⟩ }

theorem tick (hw : w.Underway disk g o shown walls) (h : Host) (now : Instant) :
    (w.step (.call h (.tick now))).Underway disk g o shown (walls ++ [h.wall]) := by
  have hs := hw.sound.step (.call h (.tick now))
  have hbook := hw.sound.book
  have hb := Compiler.book_poll hbook.active_not_superseded h
  obtain ⟨b, hd, hstep⟩ := hw.sound.step_tick_eq hw.quiet h now
  rw [hstep] at hs ⊢
  refine ⟨hs, ⟨?_, hd⟩, (congrArg Compiler.Book.clock hb).trans hw.newest, ?_, hw.submitted, ?_, ?_⟩
  · exact (Compiler.polled_poll _ h).initialPending_eq.trans hw.quiet.not_due
  · exact (Compiler.isCancelled_congr (congrArg Compiler.Book.runs hb) g).trans hw.not_cancelled
  · intro m hm
    have hi : (w.compiler.poll h).1.inbox = [] := congrArg Compiler.Book.inbox hb
    have hm' : m ∈ (w.compiler.poll h).1.inbox := hm
    rw [hi] at hm'
    exact absurd hm' List.not_mem_nil
  · have hact : (w.compiler.poll h).1.active
        = if ∃ m ∈ w.compiler.inbox, w.compiler.Takes m then none else w.compiler.active :=
      congrArg Compiler.Book.active hb
    show (w.compiler.poll h).1.active = some g ∧ (w.compiler.poll h).1.shown = shown ∨
      (w.compiler.poll h).1.active = none ∧
        ∃ t ∈ walls ++ [h.wall], (w.compiler.poll h).1.shown = shown.adopt t o
    rw [hact]
    by_cases htakes : ∃ m ∈ w.compiler.inbox, w.compiler.Takes m
    · obtain ⟨m, hm, htm⟩ := htakes
      rw [if_pos ⟨m, hm, htm⟩]
      rcases hw.progress with ⟨ha, hsh⟩ | ⟨ha, -⟩
      · have hg : m.generation = g := Option.some.inj (htm.symm.trans ha)
        refine .inr ⟨rfl, h.wall, by simp, ?_⟩
        rw [Compiler.shown_poll_of_takes hbook hm htm, hw.answer m hm hg, hsh]
      · exact absurd (htm.symm.trans ha) (Option.some_ne_none _)
    · rw [if_neg htakes, Compiler.shown_poll_of_not_takes fun m hm htm => htakes ⟨m, hm, htm⟩]
      exact (hw.mono (List.subset_append_left walls [h.wall])).progress

/-- the newest run after a step of run `i`, and what that run answers if it is the newest. -/
theorem submitted_set (hw : w.Underway disk g o shown walls) {i : Nat} {t : Task}
    (hi : w.tasks[i]? = some t) (others : Nat) :
    (∃ j t', j + 1 = g ∧ (w.tasks.set i (w.moved t disk others).1)[j]? = some t' ∧
      t'.outcome disk = o ∧ t'.Faithful disk) ∧
    ∀ o', (w.moved t disk others).2 = some o' → t.request.generation = g → o' = o := by
  obtain ⟨j, t', hj, ht', ho, hf⟩ := hw.submitted
  have hg := hw.sound.generation_eq hi
  by_cases hij : i = j
  · subst hij
    obtain rfl : t = t' := Option.some.inj (hi.symm.trans ht')
    obtain ⟨hlt, -⟩ := List.getElem?_eq_some_iff.1 hi
    have hm : w.moved t disk others = t.step disk false (w.held + others < w.slots) := by
      unfold moved
      rw [hg, hj, hw.not_cancelled]
    obtain ⟨hf', hans⟩ := hf.step (w.held + others < w.slots)
    obtain ⟨phase, hp⟩ := t.step_frame disk false (w.held + others < w.slots)
    rw [hm]
    refine ⟨⟨i, _, hj, List.getElem?_set_self hlt, ?_, hf'⟩, fun o' h _ => (hans o' h).trans ho⟩
    rw [hp]
    exact ho
  · refine ⟨⟨j, t', hj, ?_, ho, hf⟩, fun o' _ h => absurd h ?_⟩
    · rw [List.getElem?_set_ne hij]
      exact ht'
    · rw [hg]
      omega

/-- a step of a run takes the newest one to its answer, or lets it be. -/
theorem work (hw : w.Underway disk g o shown walls) (i others : Nat) :
    (w.work i disk others).Underway disk g o shown walls := by
  have hs := hw.sound.work i disk others
  rcases w.work_cases i disk others with ⟨hq, -⟩ | ⟨t, phase, hi, hm, -, -, hq⟩ |
    ⟨t, o', hi, hm, -, hq⟩
  · rw [hq]
    exact hw
  · obtain ⟨hsub, -⟩ := hw.submitted_set hi others
    rw [hm] at hsub
    rw [hq] at hs ⊢
    exact ⟨hs, hw.quiet, hw.newest, hw.not_cancelled, hsub, hw.answer, hw.progress⟩
  · obtain ⟨hsub, hans⟩ := hw.submitted_set hi others
    rw [hm] at hsub hans
    obtain ⟨hclock, hact, -, hshown, hquiet⟩ :=
      Compiler.answer_fields w.compiler t.request.generation o'
    rw [hq] at hs ⊢
    refine ⟨hs, hquiet hw.quiet, hclock.trans hw.newest,
      (Compiler.isCancelled_answer _ _ _ g).trans hw.not_cancelled, hsub, fun m hm' hg => ?_, ?_⟩
    · rcases Compiler.mem_inbox_answer hm' with hm' | rfl
      · exact hw.answer m hm' hg
      · exact hans o' rfl hg
    · show (w.compiler.answer _ o').active = some g ∧ (w.compiler.answer _ o').shown = shown ∨
        (w.compiler.answer _ o').active = none ∧
          ∃ t ∈ walls, (w.compiler.answer _ o').shown = shown.adopt t o
      rw [hact, hshown]
      exact hw.progress

theorem step (hw : w.Underway disk g o shown walls) {e : Event} (he : e.Rests disk) :
    (w.step e).Underway disk g o shown (walls ++ e.walls) := by
  cases e with
  | call h k =>
    obtain ⟨now, rfl⟩ := he
    exact hw.tick h now
  | work i d others =>
    obtain rfl : d = disk := he
    show (w.work i d others).Underway d g o shown (walls ++ [])
    rw [List.append_nil]
    exact hw.work i others

theorem after (hw : w.Underway disk g o shown walls) {es : List Event}
    (he : ∀ e ∈ es, e.Rests disk) :
    (w.after es).Underway disk g o shown (walls ++ es.flatMap Event.walls) := by
  induction es generalizing w walls with
  | nil =>
    rw [List.flatMap_nil, List.append_nil]
    exact hw
  | cons e es ih =>
    obtain ⟨h, hs⟩ := List.forall_mem_cons.1 he
    rw [List.flatMap_cons, ← List.append_assoc]
    exact ih (hw.step h) hs

theorem shown_of_idle (hw : w.Underway disk g o shown walls)
    (hi : w.compiler.isRunning = false) :
    ∃ t ∈ walls, w.compiler.shown = shown.adopt t o := by
  rcases hw.progress with ⟨ha, -⟩ | ⟨-, ht⟩
  · unfold Compiler.isRunning at hi
    rw [ha] at hi
    exact Bool.noConfusion hi
  · exact ht

end Underway
end Workshop
end Regen
