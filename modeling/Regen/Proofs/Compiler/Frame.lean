import Regen.Proofs.Compiler.Poll

/-!
# What an event leaves alone

An event of a compiler is made of a few operations, and each of them works on a part of the
compiler. The rest of it is said here to be as before, by an equation of whole states: a field that
is not named on its right side is the old one.

* `Compiler.Started`   how a compiler may change when runs are asked for;
* `Compiler.Polled`    how it may change when answers are handled;
* `Compiler.badge`     what a compiler is born with and keeps.

Main statements: `started_start`, `started_follow`, `polled_poll`, `started_tick`, `answer_frame`
and `badge_step`.
-/

namespace Regen.Compiler

/-- runs may have been asked for and the editor told; nothing else. -/
def Started (c d : Compiler) : Prop :=
  ∃ clock runs active superseded effects, d = { c with
    clock := clock
    runs := runs
    active := active
    superseded := superseded
    effects := effects }

/-- answers may have been handled; nothing else. -/
def Polled (c d : Compiler) : Prop :=
  ∃ store issues watermark inbox active superseded effects, d = { c with
    store := store
    issues := issues
    watermark := watermark
    inbox := inbox
    active := active
    superseded := superseded
    effects := effects }

theorem Started.trans {c d e : Compiler} (hd : c.Started d) (he : d.Started e) : c.Started e := by
  obtain ⟨_, _, _, _, _, rfl⟩ := hd
  obtain ⟨_, _, _, _, _, rfl⟩ := he
  exact ⟨_, _, _, _, _, rfl⟩

theorem Polled.trans {c d e : Compiler} (hd : c.Polled d) (he : d.Polled e) : c.Polled e := by
  obtain ⟨_, _, _, _, _, _, _, rfl⟩ := hd
  obtain ⟨_, _, _, _, _, _, _, rfl⟩ := he
  exact ⟨_, _, _, _, _, _, _, rfl⟩

theorem Started.initialPending_eq {c d : Compiler} (hd : c.Started d) :
    d.initialPending = c.initialPending := by
  obtain ⟨_, _, _, _, _, rfl⟩ := hd
  rfl

theorem Polled.initialPending_eq {c d : Compiler} (hd : c.Polled d) :
    d.initialPending = c.initialPending := by
  obtain ⟨_, _, _, _, _, _, _, rfl⟩ := hd
  rfl

theorem Started.binding_eq {c d : Compiler} (hd : c.Started d) : d.binding = c.binding := by
  obtain ⟨_, _, _, _, _, rfl⟩ := hd
  rfl

theorem Polled.binding_eq {c d : Compiler} (hd : c.Polled d) : d.binding = c.binding := by
  obtain ⟨_, _, _, _, _, _, _, rfl⟩ := hd
  rfl

theorem Started.rebind {c d : Compiler} (hd : c.Started d) (b : Binding) :
    { c with binding := b }.Started { d with binding := b } := by
  obtain ⟨_, _, _, _, _, rfl⟩ := hd
  exact ⟨_, _, _, _, _, rfl⟩

/-! ## runs -/

theorem started_start (c : Compiler) (h : Host) (p : Provider) : c.Started (c.start h p) := by
  unfold start supersede
  cases c.active <;> exact ⟨_, _, _, _, _, rfl⟩

theorem initialRun_of_due {c : Compiler} (hi : c.initialPending = true) (h : Host) :
    c.initialRun h = { c with initialPending := false }.start h (.file c.source) := if_pos hi

theorem initialRun_of_not_due {c : Compiler} (hi : c.initialPending = false) (h : Host) :
    c.initialRun h = c := if_neg (by simp [hi])

theorem started_initialRun (c : Compiler) (h : Host) :
    { c with initialPending := false }.Started (c.initialRun h) := by
  cases hi : c.initialPending with
  | true =>
    rw [initialRun_of_due hi]
    exact started_start _ h _
  | false =>
    rw [initialRun_of_not_due hi, ← hi]
    exact ⟨_, _, _, _, _, rfl⟩

theorem started_follow (c : Compiler) (h : Host) (r : Binding.Reaction) :
    { c with binding := r.binding }.Started (c.follow h r) := by
  have hp : { c with binding := r.binding }.Started
      ({ c with binding := r.binding }.tellPush r.push) := by
    cases r.push <;> exact ⟨_, _, _, _, _, rfl⟩
  unfold follow
  cases r.snapshot with
  | none => exact hp
  | some buffer => exact hp.trans (started_start _ h _)

theorem answer_frame (c : Compiler) (g : Nat) (o : Outcome) :
    ∃ runs inbox, c.answer g o = { c with runs := runs, inbox := inbox } := by
  unfold answer
  split <;> exact ⟨_, _, rfl⟩

/-! ## answers -/

theorem polled_setIssues (c : Compiler) (is : List Issue) : c.Polled (c.setIssues is) := by
  rw [setIssues_eq]
  exact ⟨_, _, _, _, _, _, _, rfl⟩

theorem polled_adopt (c : Compiler) (wall : Time) (o : Outcome) : c.Polled (c.adopt wall o) := by
  cases o with
  | error abort => exact ⟨_, _, _, _, _, _, _, rfl⟩
  | ok output =>
    have hi := polled_setIssues c output.issues
    unfold adopt
    by_cases he : output.contents.entries = []
    · simp only [he, if_true]
      exact hi.trans ⟨_, _, _, _, _, _, _, rfl⟩
    · simp only [he, if_false]
      exact hi.trans ⟨_, _, _, _, _, _, _, rfl⟩

theorem polled_handleAll (wall : Time) (c : Compiler) (ms : List Completion) :
    c.Polled (c.handleAll wall ms) := by
  induction ms generalizing c with
  | nil => exact ⟨_, _, _, _, _, _, _, rfl⟩
  | cons m ms ih =>
    have hm : c.Polled (c.handle wall m) := by
      by_cases ht : c.Takes m
      · have hi : c.Polled c.idle := ⟨_, _, _, _, _, _, _, rfl⟩
        rw [handle_of_takes wall ht]
        exact hi.trans (polled_adopt _ wall _)
      · rw [handle_of_not_takes wall ht]
        exact ⟨_, _, _, _, _, _, _, rfl⟩
    exact hm.trans (ih _)

theorem polled_poll (c : Compiler) (h : Host) : c.Polled (c.poll h).1 := by
  have he : c.Polled c.emptied := ⟨_, _, _, _, _, _, _, rfl⟩
  rw [poll_fst]
  exact he.trans (polled_handleAll h.wall _ _)

/-! ## time -/

/-- before a tick looks at the editor, it has left the binding alone. -/
theorem binding_initialRun_poll (c : Compiler) (h : Host) :
    ((c.poll h).1.initialRun h).binding = c.binding := by
  have hi : ((c.poll h).1.initialRun h).binding = (c.poll h).1.binding :=
    (started_initialRun (c.poll h).1 h).binding_eq
  rw [hi, (c.polled_poll h).binding_eq]

/-- after its poll, a tick asks for runs and follows the editor; nothing else. -/
theorem started_tick (c : Compiler) (h : Host) (now : Instant) :
    { (c.poll h).1 with
      initialPending := false
      binding := (c.binding.tick h.buffers now).binding }.Started (c.tick h now) := by
  have hi := (started_initialRun (c.poll h).1 h).rebind (c.binding.tick h.buffers now).binding
  have hf := started_follow ((c.poll h).1.initialRun h) h (c.binding.tick h.buffers now)
  have ht : c.tick h now = ((c.poll h).1.initialRun h).follow h (c.binding.tick h.buffers now) := by
    rw [← binding_initialRun_poll c h]
    rfl
  rw [ht]
  exact hi.trans hf

/-! ## what never changes -/

/-- what a compiler is born with and keeps. -/
structure Badge where
  number : Nat
  project : ProjectRef
  source : Path
  runner : Runner
  teardownTimeout : Nat

def badge (c : Compiler) : Badge := ⟨c.number, c.project, c.source, c.runner, c.teardownTimeout⟩

theorem Started.badge_eq {c d : Compiler} (hd : c.Started d) : d.badge = c.badge := by
  obtain ⟨_, _, _, _, _, rfl⟩ := hd
  rfl

theorem Polled.badge_eq {c d : Compiler} (hd : c.Polled d) : d.badge = c.badge := by
  obtain ⟨_, _, _, _, _, _, _, rfl⟩ := hd
  rfl

theorem badge_answer (c : Compiler) (g : Nat) (o : Outcome) : (c.answer g o).badge = c.badge := by
  obtain ⟨_, _, he⟩ := c.answer_frame g o
  rw [he]
  rfl

theorem badge_follow (c : Compiler) (h : Host) (r : Binding.Reaction) :
    (c.follow h r).badge = c.badge := (c.started_follow h r).badge_eq

theorem badge_call (c : Compiler) (h : Host) (k : Call) : (c.call h k).badge = c.badge := by
  cases k with
  | runContents bytes => exact (c.started_start h _).badge_eq
  | runFile path => exact (c.started_start h _).badge_eq
  | tick now =>
    calc (c.tick h now).badge = (c.poll h).1.badge := (c.started_tick h now).badge_eq
      _ = c.badge := (c.polled_poll h).badge_eq
  | poll => exact (c.polled_poll h).badge_eq
  | editorChanged editor => exact badge_follow c h _
  | aboutToClose id => exact badge_follow c h _
  | edited id now => rfl
  | targetsBuilt project =>
    show (c.targetsBuilt h project).badge = _
    unfold targetsBuilt
    split <;> rfl
  | setContent target bytes => rfl
  | setIssues issues => exact (c.polled_setIssues issues).badge_eq
  | setWatermark time => rfl
  | takeChanged => rfl

theorem badge_step (c : Compiler) (e : Event) : (c.step e).badge = c.badge := by
  cases e with
  | call h k => exact c.badge_call h k
  | answer g o => exact c.badge_answer g o
  | drop g => exact c.badge_answer g _

theorem badge_after (c : Compiler) (es : List Event) : (c.after es).badge = c.badge := by
  induction es generalizing c with
  | nil => rfl
  | cons e es ih => exact (ih (c.step e)).trans (c.badge_step e)

end Regen.Compiler
