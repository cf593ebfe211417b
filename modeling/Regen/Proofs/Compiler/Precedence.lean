import Regen.Proofs.Compiler.Story

/-!
# Which run yields to which

Runs may start in another order than they were asked for, as the first run waits for the first
tick. The run of an edit that was flushed before that is then asked for later and started earlier;
if it is still active at the tick, it yields to a run that is older than it.

* `Event.ticks`        whether time passes at an event;
* `Event.FirstTick`    the first tick of a life.

Main statements: `mem_story_initial_iff` (when the first run starts), and
`Setup.edits_yield_in_order_iff`, which says when the run of an edit yields to a run that was not
asked for after it.
-/

namespace Regen

def Event.ticks : Event → Bool
  | .call _ (.tick _) => true
  | _ => false

def Event.FirstTick (es before : List Event) (h : Host) : Prop :=
  (∀ e ∈ before, e.ticks = false) ∧ ∃ now after, es = before ++ .call h (.tick now) :: after

theorem Event.not_firstTick_nil (before : List Event) (h : Host) : ¬ FirstTick [] before h := by
  rintro ⟨-, now, after, he⟩
  exact absurd he.symm (List.append_ne_nil_of_right_ne_nil before (List.cons_ne_nil _ _))

theorem Event.firstTick_cons_iff {e : Event} {es before : List Event} {h : Host} :
    FirstTick (e :: es) before h ↔ (before = [] ∧ ∃ now, e = .call h (.tick now)) ∨
      (e.ticks = false ∧ ∃ before', before = e :: before' ∧ FirstTick es before' h) := by
  constructor
  · rintro ⟨hb, now, after, he⟩
    cases before with
    | nil => exact .inl ⟨rfl, now, (List.cons.inj he).1⟩
    | cons b before =>
      obtain ⟨rfl, hes⟩ := List.cons.inj he
      obtain ⟨ht, hb⟩ := List.forall_mem_cons.1 hb
      exact .inr ⟨ht, before, rfl, hb, now, after, hes⟩
  · rintro (⟨rfl, now, rfl⟩ | ⟨ht, before, rfl, hb, now, after, rfl⟩)
    · exact ⟨fun e he => absurd he List.not_mem_nil, now, es, rfl⟩
    · exact ⟨List.forall_mem_cons.2 ⟨ht, hb⟩, now, after, rfl⟩

namespace Compiler

/-! ## the first run -/

theorem initialPending_step (c : Compiler) (e : Event) :
    (c.step e).initialPending = (c.initialPending && !e.ticks) := by
  have same : c.initialPending = (c.initialPending && !false) := (Bool.and_true _).symm
  have answered : ∀ g o, (c.answer g o).initialPending = c.initialPending := fun g o => by
    obtain ⟨_, _, ha⟩ := answer_frame c g o
    rw [ha]
  have followed : ∀ (c : Compiler) h r, (c.follow h r).initialPending = c.initialPending :=
    fun c h r => (started_follow c h r).initialPending_eq
  cases e with
  | answer g o => exact (answered g o).trans same
  | drop g => exact (answered g _).trans same
  | call h k =>
    cases k with
    | runContents bytes => exact (started_start c h _).initialPending_eq.trans same
    | runFile path => exact (started_start c h _).initialPending_eq.trans same
    | tick now =>
      have ht : (c.tick h now).initialPending = false := (started_tick c h now).initialPending_eq
      exact ht.trans (Bool.and_false _).symm
    | poll => exact (polled_poll c h).initialPending_eq.trans same
    | editorChanged editor => exact (followed c h _).trans same
    | aboutToClose id => exact (followed c h _).trans same
    | edited id now => exact same
    | targetsBuilt project =>
      have ht : (c.targetsBuilt h project).initialPending = c.initialPending := by
        unfold targetsBuilt
        split <;> rfl
      exact ht.trans same
    | setContent target bytes => exact same
    | setIssues issues => exact (polled_setIssues c issues).initialPending_eq.trans same
    | setWatermark time => exact same
    | takeChanged => exact same

theorem cause_followStarts {c : Compiler} {h : Host} {n : Nat} {r : Binding.Reaction} {y : Start}
    (hy : y ∈ c.followStarts h n r) : y.cause ≠ .initial := by
  unfold followStarts at hy
  cases hs : r.snapshot with
  | none => simp [hs] at hy
  | some buffer =>
    simp only [hs, List.mem_singleton] at hy
    rw [hy]
    exact Cause.noConfusion

theorem mem_starts_initial_iff (c : Compiler) (n : Nat) (e : Event) (y : Start) :
    (y ∈ c.starts n e ∧ y.cause = .initial) ↔ c.initialPending = true ∧
      ∃ h now, e = .call h (.tick now) ∧ y = (c.poll h).1.startingInitial h := by
  have other : e.ticks = false → (∀ y ∈ c.starts n e, y.cause ≠ .initial) →
      ((y ∈ c.starts n e ∧ y.cause = .initial) ↔ c.initialPending = true ∧
        ∃ h now, e = .call h (.tick now) ∧ y = (c.poll h).1.startingInitial h) := by
    intro he hn
    refine ⟨fun ⟨hy, hi⟩ => absurd hi (hn y hy), ?_⟩
    rintro ⟨-, h, now, rfl, -⟩
    exact Bool.noConfusion he
  have asked : ∀ {h p}, ∀ y ∈ [c.starting h p .explicit n], y.cause ≠ .initial := by
    intro h p y hy
    rw [List.mem_singleton.1 hy]
    exact Cause.noConfusion
  have followed : ∀ {h r}, ∀ y ∈ c.followStarts h n r, y.cause ≠ .initial := fun y hy =>
    cause_followStarts hy
  cases e with
  | answer g o => exact other rfl fun y hy => absurd hy List.not_mem_nil
  | drop g => exact other rfl fun y hy => absurd hy List.not_mem_nil
  | call h k =>
    cases k with
    | runContents bytes => exact other rfl asked
    | runFile path => exact other rfl asked
    | editorChanged editor => exact other rfl followed
    | aboutToClose id => exact other rfl followed
    | tick now =>
      have hp : (c.poll h).1.initialPending = c.initialPending :=
        (polled_poll c h).initialPending_eq
      have hi : y ∈ (c.poll h).1.initialStarts h ↔
          c.initialPending = true ∧ y = (c.poll h).1.startingInitial h := by
        unfold initialStarts
        rw [hp]
        split <;> simp [*]
      constructor
      · rintro ⟨hy, hc⟩
        rcases List.mem_append.1 hy with hy | hy
        · exact ⟨(hi.1 hy).1, h, now, rfl, (hi.1 hy).2⟩
        · exact absurd hc (cause_followStarts hy)
      · rintro ⟨hd, h', now', he, rfl⟩
        cases he
        exact ⟨List.mem_append_left _ (hi.2 ⟨hd, rfl⟩), rfl⟩
    | _ => exact other rfl fun y hy => absurd hy List.not_mem_nil

theorem mem_story_initial_iff (c : Compiler) (n : Nat) (es : List Event) (y : Start) :
    (y ∈ c.story n es ∧ y.cause = .initial) ↔ c.initialPending = true ∧
      ∃ before h, Event.FirstTick es before h ∧
        y = ((c.after before).poll h).1.startingInitial h := by
  induction es generalizing c n with
  | nil => simp [story, Event.not_firstTick_nil]
  | cons e es ih =>
    have hm : y ∈ c.story n (e :: es) ↔ y ∈ c.starts n e ∨ y ∈ (c.step e).story (n + 1) es :=
      List.mem_append
    rw [hm, or_and_right, mem_starts_initial_iff, ih, initialPending_step]
    simp only [Bool.and_eq_true, Bool.not_eq_true']
    constructor
    · rintro (⟨hd, h, now, rfl, hy⟩ | ⟨⟨hd, ht⟩, before, h, hf, hy⟩)
      · exact ⟨hd, [], h, Event.firstTick_cons_iff.2 (.inl ⟨rfl, now, rfl⟩), hy⟩
      · exact ⟨hd, e :: before, h, Event.firstTick_cons_iff.2 (.inr ⟨ht, before, rfl, hf⟩), hy⟩
    · rintro ⟨hd, before, h, hf, hy⟩
      rcases Event.firstTick_cons_iff.1 hf with ⟨rfl, now, rfl⟩ | ⟨ht, before, rfl, hr⟩
      · exact .inl ⟨hd, h, now, rfl, hy⟩
      · exact .inr ⟨⟨hd, ht⟩, before, h, hr, hy⟩

end Compiler

namespace Setup

/-- **When the run of an edit yields to an older request.** The story of a life tells its requests
and which of their tokens are cancelled. In it a run yields to one that was asked for after it,
unless that is the first run. The run of an edit yields to the first run in one way only: the
targets were out of date at the creation, and when the first tick comes, the run of the edit is
active and has not been answered. The first run then compiles the source on disk in its place. -/
theorem edits_yield_in_order_iff (s : Setup) (es : List Event) :
    (s.after es).asked = (s.story es).map Start.request ∧
    (∀ g, (s.after es).isCancelled g = true ↔ ∃ y ∈ s.story es, y.supersedes = some g) ∧
    (∀ x ∈ s.story es, ∀ y ∈ s.story es, y.supersedes = some x.generation →
      (x.requested < y.requested ↔ y.cause ≠ .initial)) ∧
    ((∃ x ∈ s.story es, ∃ y ∈ s.story es,
        x.cause = .edit ∧ y.supersedes = some x.generation ∧ ¬ x.requested < y.requested) ↔
      s.compiler.initialPending = true ∧ ∃ before h, Event.FirstTick es before h ∧
        ∃ x ∈ s.story before, x.cause = .edit ∧
          (s.after before).active = some x.generation ∧
          (s.after before).awaits x.generation = true) := by
  have hl := s.recorded_story es
  refine ⟨hl.asked_eq, hl.cancelled_iff, fun x hx y hy => hl.requested_lt_iff hx hy, ?_⟩
  -- a story up to the first tick is the beginning of the whole story
  have mem_story : ∀ {before h}, Event.FirstTick es before h → ∀ x ∈ s.story before,
      x ∈ s.story es := by
    rintro before h ⟨-, now, after, rfl⟩ x hx
    show x ∈ s.compiler.story 1 _
    rw [Compiler.story_append]
    exact List.mem_append_left _ hx
  constructor
  · rintro ⟨x, hx, y, hy, hc, hs, hlt⟩
    have hi : y.cause = .initial := by
      by_contra hn
      exact hlt ((hl.requested_lt_iff hx hy hs).2 hn)
    obtain ⟨hd, before, h, hf, rfl⟩ := (Compiler.mem_story_initial_iff _ _ _ _).1 ⟨hy, hi⟩
    have hbr := s.recorded_story before
    have ha := (hbr.sound.active_poll_iff h x.generation).1 hs
    refine ⟨hd, before, h, hf, x, ?_, hc, ha⟩
    have hg : x.generation ∈ (s.story before).map Start.generation := by
      have h1 := (hl.le_clock hx).1
      have h2 := hbr.sound.active_newest _ ha.1
      exact (hbr.mem_generations_iff _).2 ⟨h1, Nat.le_of_eq h2⟩
    obtain ⟨x', hx', hgx⟩ := List.mem_map.1 hg
    exact hl.inj (mem_story hf x' hx') hx hgx ▸ hx'
  · rintro ⟨hd, before, h, hf, x, hx, hc, ha⟩
    have hbr := s.recorded_story before
    obtain ⟨hy, -⟩ := (Compiler.mem_story_initial_iff s.compiler 1 es
      (((s.after before).poll h).1.startingInitial h)).2 ⟨hd, before, h, hf, rfl⟩
    refine ⟨x, mem_story hf x hx, _, hy, hc, (hbr.sound.active_poll_iff h x.generation).2 ha, ?_⟩
    exact Nat.not_lt_zero _

/-- a target is missing, and an edit is flushed by closing its editor before the first tick: its run
yields to the first run, which was asked for before it, and the target is made of the file on disk
in the end, not of the live buffer. -/
theorem flushed_edit_yields_to_initial_run :
    let disk : Disk := ⟨fun p => if p = ⟨[115]⟩ then some 0 else none,
      fun p => if p = ⟨[115]⟩ then .ok [1] else .error (.code 2)⟩
    let host : Host := ⟨disk, fun _ => ⟨0, false, .unconfigured⟩, fun _ => [2], .empty, 7⟩
    let s : Setup := ⟨0, ⟨0, 0⟩, ⟨1000, 200, 1, 30000⟩, ⟨[115]⟩, [⟨[97]⟩], .manual, disk⟩
    let es : List Event := [.call host (.editorChanged (some ⟨0, 1, ⟨[115]⟩⟩)),
      .call host (.edited 1 0), .call host (.aboutToClose 1), .call host (.tick 10)]
    let made : Bytes → Outcome := fun b => .ok ⟨.ofList [(⟨[97]⟩, b)], []⟩
    (s.story es).map (fun x => (x.generation, x.cause, x.requested, x.supersedes))
        = [(1, .edit, 3, none), (2, .initial, 0, some 1)] ∧
      (s.story es).map (fun x => x.request.provider) = [.bytes [2], .file ⟨[115]⟩] ∧
      (s.after es).isCancelled 1 = true ∧
      (s.after (es ++ [.answer 1 (made [2]), .answer 2 (made [1]), .call host .poll])).content ⟨[97]⟩
        = [1] := by decide

end Setup
end Regen
