import Regen.Proofs.Compiler.Visible

/-!
# Answers that come too late

An answer is *late* if a newer run has been asked for by the poll that drains it. Nobody ever sees
anything of such an answer, nor of one that its run does not wait for. So a life may be told
without them.

* `View`                  what is seen of a compiler between two calls;
* `Compiler.views`        what is seen after each call of a life;
* `Compiler.nextDrain`    the newest generation when the next poll comes;
* `Compiler.wasted`       whether an answer is late, or not waited for;
* `Compiler.timely`       a life without these answers;
* `Compiler.Shadows`      how the compiler that never gets them goes along with the one that does.

Main statement: `views_timely`.
-/

namespace Regen

structure View where
  targets : List Path
  content : Path → Bytes
  issues : List Issue
  watermark : Watermark
  changed : List Path
  pushes : List Push
  running : Bool
  wakeup : Option Instant
  asked : List Request

namespace Compiler

/-- what is seen of a compiler between two calls. -/
def view (c : Compiler) : View :=
  ⟨c.targets, c.content, c.issues, c.watermark, c.store.changed, c.pushes, c.isRunning,
    c.nextWakeup?, c.asked⟩

/-- what is seen after an event: only calls give a chance to look. -/
def seen (c : Compiler) : Event → List View
  | .call _ _ => [c.view]
  | _ => []

def views : Compiler → List Event → List View
  | _, [] => []
  | c, e :: es => (c.step e).seen e ++ (c.step e).views es

def nextDrain : Compiler → List Event → Option Nat
  | _, [] => none
  | c, e :: es => if e.polls then some c.clock else (c.step e).nextDrain es

/-- whether a run has been superseded by the poll that drains its answer. -/
def isLate (next : Option Nat) (g : Nat) : Bool := next.any fun n => g < n

def wasted (c : Compiler) (e : Event) (es : List Event) : Bool :=
  match e.answers? with
  | none => false
  | some g => !c.awaits g || isLate ((c.step e).nextDrain es) g

def timely : Compiler → List Event → List Event
  | _, [] => []
  | c, e :: es => if c.wasted e es then (c.step e).timely es else e :: (c.step e).timely es

/-- an answer is wasted if its run does not wait for it, or no longer matters when it is read. -/
theorem wasted_iff {c : Compiler} {e : Event} {es : List Event} {g : Nat}
    (he : e.answers? = some g) : c.wasted e es = true ↔
      (c.awaits g = true → isLate ((c.step e).nextDrain es) g = true) := by
  unfold wasted
  rw [he]
  cases ha : c.awaits g <;> simp [ha]

theorem timely_sublist (c : Compiler) (es : List Event) : (c.timely es).Sublist es := by
  induction es generalizing c with
  | nil => exact .slnil
  | cons e es ih =>
    rw [timely]
    split
    · exact (ih _).cons e
    · exact (ih _).cons_cons e

/-! ## what is seen -/

theorem view_visible (c : Compiler) : c.visible.view = c.view :=
  congrArg₂ (View.mk c.targets c.content c.issues c.watermark c.store.changed · c.isRunning
    c.nextWakeup? ·) (pushes_visible c) (asked_visible c)

/-! ## which answers a compiler holds -/

/-- two compilers hold the same answers, from the same runs. -/
def SameAnswers (c c' : Compiler) : Prop :=
  c'.inbox = c.inbox ∧ ∀ g, c'.isAnswered g = c.isAnswered g

theorem SameAnswers.start {c₀ c : Compiler} (hs : SameAnswers c₀ c) (h : Host) (p : Provider) :
    SameAnswers c₀ (c.start h p) := by
  have hi : (c.start h p).inbox = c.inbox := congrArg Book.inbox (book_start c h p)
  exact ⟨hi.trans hs.1, fun g => (isAnswered_start c h p g).trans (hs.2 g)⟩

theorem SameAnswers.of_book {c₀ c c' : Compiler} (hb : c'.book = c.book) (hs : SameAnswers c₀ c) :
    SameAnswers c₀ c' := by
  have hr : c'.runs = c.runs := congrArg Book.runs hb
  have hi : c'.inbox = c.inbox := congrArg Book.inbox hb
  exact ⟨hi.trans hs.1, fun g => (isAnswered_congr hr g).trans (hs.2 g)⟩

theorem sameAnswers_follow (c : Compiler) (h : Host) (r : Binding.Reaction) :
    SameAnswers c (c.follow h r) :=
  follow_induction (P := SameAnswers c) (fun _ _ hb hs => hs.of_book hb)
    (fun _ h p hs => hs.start h p) h r ⟨rfl, fun _ => rfl⟩

theorem sameAnswers_restOfTick (c : Compiler) (h : Host) (now : Instant) :
    SameAnswers c (c.restOfTick h now) := by
  have hi : SameAnswers c (c.initialRun h) :=
    initialRun_induction (P := SameAnswers c) (fun _ _ hb hs => hs.of_book hb)
      (fun _ h p hs => hs.start h p) h ⟨rfl, fun _ => rfl⟩
  obtain ⟨h1, h2⟩ := sameAnswers_follow (c.initialRun h) h
    ((c.initialRun h).binding.tick h.buffers now)
  exact ⟨h1.trans hi.1, fun g => (h2 g).trans (hi.2 g)⟩

theorem sameAnswers_call (c : Compiler) (h : Host) (k : Call)
    (hk : (Event.call h k).polls = false) : SameAnswers c (c.call h k) := by
  have hs : SameAnswers c c := ⟨rfl, fun _ => rfl⟩
  cases k with
  | runContents bytes => exact hs.start h _
  | runFile path => exact hs.start h _
  | tick now => exact Bool.noConfusion hk
  | poll => exact Bool.noConfusion hk
  | editorChanged editor => exact sameAnswers_follow c h _
  | aboutToClose id => exact sameAnswers_follow c h _
  | edited id now => exact hs.of_book rfl
  | targetsBuilt project => exact hs.of_book (book_targetsBuilt c h project)
  | setContent target bytes => exact hs.of_book rfl
  | setIssues issues => exact hs.of_book (book_setIssues c issues)
  | setWatermark time => exact hs.of_book rfl
  | takeChanged => exact hs.of_book rfl

/-! ## going along -/

/-- `d` goes along with `c`, but gets no answer that is late when the newest generation is `next`
at the next poll. -/
structure Shadows (next : Option Nat) (c d : Compiler) : Prop where
  sound : c.Sound
  sound' : d.Sound
  visible : c.visible = d.visible
  inbox : d.inbox = c.inbox.filter fun m => !isLate next m.generation
  answered : ∀ g, d.isAnswered g = true → c.isAnswered g = true

namespace Shadows

variable {next : Option Nat} {c d : Compiler}

theorem view_eq (hs : Shadows next c d) : c.view = d.view := by
  rw [← view_visible c, hs.visible, view_visible]

theorem clock_eq (hs : Shadows next c d) : c.clock = d.clock := by
  have hv : c.visible.clock = d.visible.clock := by rw [hs.visible]
  exact hv

/-- what is seen of both stays the same if the answers are left alone. -/
theorem of_sameAnswers {c' d' : Compiler} (hs : Shadows next c d) (hc : c'.Sound) (hd : d'.Sound)
    (hv : c'.visible = d'.visible) (ac : SameAnswers c c') (ad : SameAnswers d d') :
    Shadows next c' d' := by
  refine ⟨hc, hd, hv, ?_, fun g hg => ?_⟩
  · rw [ad.1, hs.inbox, ac.1]
  · rw [ac.2]
    rw [ad.2] at hg
    exact hs.answered g hg

theorem call (hs : Shadows next c d) (h : Host) (k : Call)
    (hk : (Event.call h k).polls = false) : Shadows next (c.call h k) (d.call h k) := by
  have hv : (c.call h k).visible = (d.call h k).visible := by
    rw [visible_call c h k hk, hs.visible, ← visible_call d h k hk]
  exact hs.of_sameAnswers (hs.sound.step (.call h k)) (hs.sound'.step (.call h k)) hv
    (sameAnswers_call c h k hk) (sameAnswers_call d h k hk)

theorem poll (hs : Shadows (some c.clock) c d) (h : Host) (next : Option Nat) :
    Shadows next (c.poll h).1 (d.poll h).1 := by
  have bc := book_poll hs.sound.active_not_superseded h
  have bd := book_poll hs.sound'.active_not_superseded h
  have hruns : (c.poll h).1.runs = c.runs := congrArg Book.runs bc
  have hruns' : (d.poll h).1.runs = d.runs := congrArg Book.runs bd
  have hinbox : (c.poll h).1.inbox = [] := congrArg Book.inbox bc
  have hinbox' : (d.poll h).1.inbox = [] := congrArg Book.inbox bd
  refine ⟨hs.sound.poll h, hs.sound'.poll h, ?_, ?_, fun g hg => ?_⟩
  · have hactive : d.visible.active = c.visible.active := by rw [hs.visible]
    have hsub : ∀ m ∈ d.inbox, m ∈ c.inbox := fun m hm => by
      rw [hs.inbox] at hm
      exact (List.mem_filter.1 hm).1
    by_cases hn : ∀ m ∈ c.inbox, ¬ c.Takes m
    · have hn' : ∀ m ∈ d.inbox, ¬ d.Takes m := fun m hm ht =>
        hn m (hsub m hm) (hactive.symm.trans ht)
      rw [visible_poll_of_not_takes hn, visible_poll_of_not_takes hn', hs.visible]
    · obtain ⟨m, hm, ht⟩ : ∃ m ∈ c.inbox, c.Takes m := by simpa using hn
      have hg : m.generation = c.clock := hs.sound.active_newest _ ht
      have hm' : m ∈ d.inbox := by
        rw [hs.inbox]
        exact List.mem_filter.2 ⟨hm, by simp [isLate, hg]⟩
      have ht' : d.Takes m := hactive.trans ht
      have hi : c.idle.visible = d.idle.visible := congrArg idle hs.visible
      rw [visible_poll_of_takes hs.sound hm ht, visible_poll_of_takes hs.sound' hm' ht',
        visible_adopt, hi, ← visible_adopt]
  · rw [hinbox, hinbox']
    rfl
  · rw [isAnswered_congr hruns]
    rw [isAnswered_congr hruns'] at hg
    exact hs.answered g hg

theorem restOfTick (hs : Shadows next c d) (h : Host) (now : Instant)
    (hc : (c.restOfTick h now).Sound) (hd : (d.restOfTick h now).Sound) :
    Shadows next (c.restOfTick h now) (d.restOfTick h now) := by
  have hv : (c.restOfTick h now).visible = (d.restOfTick h now).visible := by
    rw [visible_restOfTick, hs.visible, ← visible_restOfTick]
  exact hs.of_sameAnswers hc hd hv (sameAnswers_restOfTick c h now) (sameAnswers_restOfTick d h now)

theorem answer (hs : Shadows next c d) {g : Nat} (ha : c.awaits g = true)
    (hn : isLate next g = false) (o : Outcome) :
    Shadows next (c.answer g o) (d.answer g o) := by
  have ha' : d.awaits g = true := by
    obtain ⟨hg, hf⟩ := (awaits_iff c g).1 ha
    refine (awaits_iff d g).2 ⟨?_, ?_⟩
    · rw [hs.sound'.mem_generations_iff, ← hs.clock_eq]
      exact (hs.sound.mem_generations_iff g).1 hg
    · cases hd : d.isAnswered g with
      | false => rfl
      | true => rw [hs.answered g hd] at hf; exact hf
  refine ⟨hs.sound.answer g o, hs.sound'.answer g o, ?_, ?_, fun g' hg => ?_⟩
  · rw [visible_answer, visible_answer, hs.visible]
  · rw [answer_of_awaits ha, answer_of_awaits ha', List.filter_append, hs.inbox,
      List.filter_cons_of_pos (by simp [hn]), List.filter_nil]
  · rw [isAnswered_answer ha'] at hg
    rw [isAnswered_answer ha]
    exact hg.imp (hs.answered g') id

theorem skip (hs : Shadows next c d) {g : Nat} (hw : c.awaits g = true → isLate next g = true)
    (o : Outcome) : Shadows next (c.answer g o) d := by
  by_cases ha : c.awaits g = true
  · refine ⟨hs.sound.answer g o, hs.sound', ?_, ?_, fun g' hg => ?_⟩
    · rw [visible_answer, hs.visible]
    · rw [answer_of_awaits ha, List.filter_append, hs.inbox,
        List.filter_cons_of_neg (by simp [hw ha]), List.filter_nil, List.append_nil]
    · rw [isAnswered_answer ha]
      exact .inl (hs.answered g' hg)
  · rw [answer_of_not_awaits ha]
    exact hs

theorem tick (hs : Shadows (some c.clock) c d) (h : Host) (now : Instant) (next : Option Nat) :
    Shadows next (c.tick h now) (d.tick h now) :=
  (hs.poll h next).restOfTick h now (hs.sound.step (.call h (.tick now)))
    (hs.sound'.step (.call h (.tick now)))

theorem step_of_wasted {e : Event} {es : List Event} (hs : Shadows (c.nextDrain (e :: es)) c d)
    (hw : c.wasted e es = true) : Shadows ((c.step e).nextDrain es) (c.step e) d := by
  cases e with
  | call h k => exact Bool.noConfusion hw
  | answer g o => exact skip hs ((wasted_iff rfl).1 hw) o
  | drop g => exact skip hs ((wasted_iff rfl).1 hw) (.error .cancelled)

theorem step_of_not_wasted {e : Event} {es : List Event} (hs : Shadows (c.nextDrain (e :: es)) c d)
    (hw : ¬ c.wasted e es = true) : Shadows ((c.step e).nextDrain es) (c.step e) (d.step e) := by
  cases e with
  | call h k =>
    by_cases hp : (Event.call h k).polls = true
    · rw [nextDrain, if_pos hp] at hs
      cases k with
      | poll => exact hs.poll h _
      | tick now => exact hs.tick h now _
      | _ => exact Bool.noConfusion hp
    · rw [nextDrain, if_neg hp] at hs
      exact hs.call h k (by simpa using hp)
  | answer g o =>
    rw [wasted_iff rfl] at hw
    obtain ⟨ha, hn⟩ := Classical.not_imp.1 hw
    exact answer hs ha (eq_false_of_ne_true hn) o
  | drop g =>
    rw [wasted_iff rfl] at hw
    obtain ⟨ha, hn⟩ := Classical.not_imp.1 hw
    exact answer hs ha (eq_false_of_ne_true hn) (.error .cancelled)

/-- after every call of a life, the same is seen of a compiler that goes along without the answers
that are wasted. -/
theorem views_eq {es : List Event} (hs : Shadows (c.nextDrain es) c d) :
    c.views es = d.views (c.timely es) := by
  induction es generalizing c d with
  | nil => rfl
  | cons e es ih =>
    by_cases hw : c.wasted e es = true
    · have hn : (c.step e).seen e = [] := by
        cases e with
        | call h k => exact Bool.noConfusion hw
        | answer g o => rfl
        | drop g => rfl
      rw [views, timely, if_pos hw, hn, List.nil_append]
      exact ih (hs.step_of_wasted hw)
    · have hs' := hs.step_of_not_wasted hw
      have hv : (c.step e).seen e = (d.step e).seen e := by
        cases e with
        | call h k => exact congrArg ([·]) hs'.view_eq
        | answer g o => rfl
        | drop g => rfl
      rw [views, timely, if_neg hw, views, hv, ih hs']

end Shadows

theorem Sound.views_timely {c : Compiler} (hc : c.Sound) (es : List Event) (hi : c.inbox = []) :
    c.views es = c.views (c.timely es) :=
  Shadows.views_eq ⟨hc, hc, rfl, by rw [hi]; rfl, fun _ hg => hg⟩

end Compiler
end Regen
