import Mathlib.Data.List.Nodup
import Regen.Proofs.Compiler.Bookkeeping

/-!
# What others see of a compiler

A compiler keeps a book on its runs, holds answers that still wait, and takes notes. None of this
is seen by the host or by an editor, and no call lets it through, but for the answer that a poll
takes.

* `Effect.isNote`       whether an effect is a note;
* `Compiler.visible`    a compiler without its runs, its inbox and its notes;
* `Compiler.restOfTick` what a tick does after it has polled.

Main statements: `visible_poll_of_takes` and `visible_poll_of_not_takes` (what is seen of a poll)
and `visible_call` (what is seen of any other call is made of what was seen before).
-/

namespace Regen

def Effect.isNote : Effect → Bool
  | .noted _ => true
  | _ => false

/-- the annotations that are sent to an editor. -/
def Effect.push? : Effect → Option Push
  | .pushed push => some push
  | _ => none

namespace Compiler

/-- a compiler as others see it: without the book on its runs, the inbox and the notes. -/
def visible (c : Compiler) : Compiler :=
  { c with
      runs := []
      inbox := []
      superseded := []
      effects := c.effects.filter fun e => !e.isNote }

/-- the annotations sent to editors, in order. -/
def pushes (c : Compiler) : List Push := c.effects.filterMap Effect.push?

def restOfTick (c : Compiler) (h : Host) (now : Instant) : Compiler :=
  (c.initialRun h).follow h ((c.initialRun h).binding.tick h.buffers now)

theorem filterMap_not_note {α : Type} {f : Effect → Option α} (hf : ∀ n, f (.noted n) = none)
    (es : List Effect) : (es.filter fun e => !e.isNote).filterMap f = es.filterMap f := by
  have hg : (fun e : Effect => if !e.isNote then f e else none) = f := by
    funext e
    cases e with
    | noted n => exact (hf n).symm
    | started r => rfl
    | pushed p => rfl
  rw [List.filterMap_filter, hg]

theorem pushes_visible (c : Compiler) : c.visible.pushes = c.pushes :=
  filterMap_not_note (fun _ => rfl) c.effects

theorem asked_visible (c : Compiler) : c.visible.asked = c.asked :=
  filterMap_not_note (fun _ => rfl) c.effects

/-! ## small changes -/

@[simp] theorem visible_visible (c : Compiler) : c.visible.visible = c.visible := by
  have hf : (c.effects.filter fun e => !e.isNote).filter (fun e => !e.isNote)
      = c.effects.filter fun e => !e.isNote := by
    rw [List.filter_filter]
    simp only [Bool.and_self]
  unfold visible
  rw [hf]

theorem visible_tell (c : Compiler) {e : Effect} (h : e.isNote = false) :
    (c.tell e).visible = c.visible.tell e := by
  have he : (c.effects ++ [e]).filter (fun e => !e.isNote)
      = (c.effects.filter fun e => !e.isNote) ++ [e] := by
    rw [List.filter_append, List.filter_cons_of_pos (by rw [h]; rfl), List.filter_nil]
  unfold visible tell
  rw [he]

theorem visible_noted (c : Compiler) (ns : List Note) :
    { c with effects := c.effects ++ ns.map Effect.noted }.visible = c.visible := by
  have hn : (ns.map Effect.noted).filter (fun e => !e.isNote) = [] := by
    refine List.filter_eq_nil_iff.2 fun e he => ?_
    obtain ⟨n, _, rfl⟩ := List.mem_map.1 he
    simp [Effect.isNote]
  unfold visible
  simp only [List.filter_append, hn, List.append_nil]

theorem visible_note (c : Compiler) (n : Note) : (c.tell (.noted n)).visible = c.visible :=
  visible_noted c [n]

@[simp] theorem visible_tellPush (c : Compiler) (p : Option Push) :
    (c.tellPush p).visible = c.visible.tellPush p := by
  cases p with
  | none => rfl
  | some p => exact visible_tell c rfl

@[simp] theorem visible_setIssues (c : Compiler) (is : List Issue) :
    (c.setIssues is).visible = c.visible.setIssues is :=
  visible_tellPush _ _

theorem visible_withdraw (c : Compiler) (ms : List Completion) :
    (c.withdraw ms).visible = c.visible := by
  have hn : ms.map staleNote
      = (ms.map fun m => Note.staleDropped m.generation).map Effect.noted := by
    rw [List.map_map]
    rfl
  unfold withdraw
  rw [hn]
  exact visible_noted c _

theorem visible_adopt (c : Compiler) (wall : Time) (o : Outcome) :
    (c.adopt wall o).visible = (c.visible.adopt wall o).visible := by
  cases o with
  | error abort =>
    unfold adopt
    rw [visible_note, visible_note, visible_visible]
  | ok out =>
    have hi : (c.setIssues out.issues).visible = (c.visible.setIssues out.issues).visible := by
      rw [visible_setIssues, visible_setIssues, visible_visible]
    unfold adopt
    by_cases he : out.contents.entries = []
    · simp only [he, if_true]
      rw [visible_note, visible_note, hi]
    · simp only [he, if_false]
      exact congrArg (fun d => (d.setContents out.contents.entries).setWatermark wall) hi

/-! ## the poll -/

/-- the inbox holds one answer of the active run; those before it are not taken. -/
theorem Sound.split_inbox {c : Compiler} (hc : c.Sound) {m : Completion} (hm : m ∈ c.inbox)
    (ht : c.Takes m) :
    ∃ before after, c.inbox = before ++ m :: after ∧ ∀ b ∈ before, ¬ c.emptied.Takes b := by
  rcases takes_cases c.emptied c.inbox with hn | ⟨before, m', after, hi, hb, hm'⟩
  · exact absurd ht (hn m hm)
  · have hmem : m' ∈ c.inbox := hi ▸ List.mem_append_right before List.mem_cons_self
    have hg : m.generation = m'.generation := Option.some.inj (ht.symm.trans hm')
    have he : m = m' := List.inj_on_of_nodup_map hc.inbox_nodup hm hmem hg
    exact ⟨before, after, he ▸ hi, hb⟩

theorem visible_poll_of_takes {c : Compiler} (hc : c.Sound) {m : Completion} (hm : m ∈ c.inbox)
    (ht : c.Takes m) (h : Host) :
    (c.poll h).1.visible = (c.idle.adopt h.wall m.outcome).visible := by
  obtain ⟨before, after, hi, hb⟩ := hc.split_inbox hm ht
  have ht' : c.emptied.Takes m := ht
  have hv : (c.emptied.withdraw before).idle.visible = c.idle.visible :=
    congrArg idle (visible_withdraw c before)
  rw [poll_fst, hi, handleAll_of_takes h.wall hb ht', visible_withdraw, visible_adopt, hv,
    ← visible_adopt]

theorem visible_poll_of_not_takes {c : Compiler} (hn : ∀ m ∈ c.inbox, ¬ c.Takes m) (h : Host) :
    (c.poll h).1.visible = c.visible := by
  have hn' : ∀ m ∈ c.inbox, ¬ c.emptied.Takes m := hn
  rw [poll_fst, handleAll_of_not_takes h.wall hn', visible_withdraw]
  rfl

/-! ## the other calls -/

theorem visible_enter_supersede (c : Compiler) (r : Request) : (c.supersede.enter r).visible
    = { c.visible with clock := r.generation, active := some r.generation } := by
  unfold supersede
  cases c.active <;> rfl

theorem visible_start (c : Compiler) (h : Host) (p : Provider) :
    (c.start h p).visible = (c.visible.start h p).visible := by
  have hr : c.visible.nextRequest h p = c.nextRequest h p := rfl
  unfold start
  rw [visible_tell _ rfl, visible_tell _ rfl, hr, visible_enter_supersede, visible_enter_supersede,
    visible_visible]

theorem visible_answer (c : Compiler) (g : Nat) (o : Outcome) :
    (c.answer g o).visible = c.visible := by
  unfold answer
  split <;> rfl

theorem visible_follow (c : Compiler) (h : Host) (r : Binding.Reaction) :
    (c.follow h r).visible = (c.visible.follow h r).visible := by
  have hp : ({ c with binding := r.binding }.tellPush r.push).visible
      = ({ c.visible with binding := r.binding }.tellPush r.push).visible := by
    have hv := (visible_visible c).symm
    rw [visible_tellPush, visible_tellPush]
    exact congrArg (fun d => { d with binding := r.binding }.tellPush r.push) hv
  unfold follow
  cases r.snapshot with
  | none => exact hp
  | some buffer =>
    show (start _ h _).visible = (start _ h _).visible
    rw [visible_start, hp, ← visible_start]

theorem visible_initialRun (c : Compiler) (h : Host) :
    (c.initialRun h).visible = (c.visible.initialRun h).visible := by
  have hi : c.visible.initialPending = c.initialPending := rfl
  unfold initialRun
  rw [hi]
  split
  · exact visible_start _ h _
  · exact (visible_visible c).symm

theorem visible_restOfTick (c : Compiler) (h : Host) (now : Instant) :
    (c.restOfTick h now).visible = (c.visible.restOfTick h now).visible := by
  have hi := visible_initialRun c h
  have hb : (c.initialRun h).visible.binding = (c.visible.initialRun h).visible.binding := by
    rw [hi]
  replace hb : (c.initialRun h).binding = (c.visible.initialRun h).binding := hb
  unfold restOfTick
  rw [visible_follow, hi, ← visible_follow, hb]

theorem visible_targetsBuilt (c : Compiler) (h : Host) (project : Nat) :
    (c.targetsBuilt h project).visible = (c.visible.targetsBuilt h project).visible := by
  have hp : c.visible.project = c.project := rfl
  unfold targetsBuilt
  rw [hp]
  split
  · exact (visible_visible c).symm
  · exact congrArg
      (fun d => { d with
        watermark := (reconcile h.disk c.source c.watermark c.targets).watermark }.setContents
          (reconcile h.disk c.source c.watermark c.targets).adopted) (visible_visible c).symm

theorem visible_call (c : Compiler) (h : Host) (k : Call) (hk : (Event.call h k).polls = false) :
    (c.call h k).visible = (c.visible.call h k).visible := by
  have hv := (visible_visible c).symm
  cases k with
  | runContents bytes => exact visible_start c h _
  | runFile path => exact visible_start c h _
  | tick now => exact Bool.noConfusion hk
  | poll => exact Bool.noConfusion hk
  | editorChanged editor => exact visible_follow c h _
  | aboutToClose id => exact visible_follow c h _
  | edited id now => exact congrArg (fun d => { d with binding := c.binding.edited id now }) hv
  | targetsBuilt project => exact visible_targetsBuilt c h project
  | setContent target bytes => exact congrArg (fun d => d.setContent target bytes) hv
  | setIssues issues =>
    show (c.setIssues issues).visible = (c.visible.setIssues issues).visible
    rw [visible_setIssues, visible_setIssues, visible_visible]
  | setWatermark time => exact congrArg (fun d => d.setWatermark time) hv
  | takeChanged => exact congrArg (fun d => d.takeChanged.2) hv

end Compiler
end Regen
