import Regen.Proofs.Compiler.Frame
import Regen.Proofs.Editor.Burst

/-!
# The editor of a compiler

A compiler passes on to its editor binding what concerns an editor, and nothing else touches the
binding. So what holds of every history of a binding holds of every life of a compiler.

* `Event.moment?`   what the editor binding meets in an event.

Main statements: `binding_step` and `Setup.inStep_after`.
-/

namespace Regen

def Event.moment? (issues : List Issue) : Event → Option Binding.Moment
  | .call h (.editorChanged editor) => some ⟨h.buffers, .editorChanged editor issues⟩
  | .call h (.aboutToClose id) => some ⟨h.buffers, .aboutToClose id⟩
  | .call h (.edited id now) => some ⟨h.buffers, .edited id now⟩
  | .call h (.tick now) => some ⟨h.buffers, .tick now⟩
  | _ => none

namespace Compiler

theorem binding_follow (c : Compiler) (h : Host) (r : Binding.Reaction) :
    (c.follow h r).binding = r.binding := (c.started_follow h r).binding_eq

theorem binding_answer (c : Compiler) (g : Nat) (o : Outcome) :
    (c.answer g o).binding = c.binding := by
  obtain ⟨_, _, he⟩ := c.answer_frame g o
  rw [he]

theorem binding_tick (c : Compiler) (h : Host) (now : Instant) :
    (c.tick h now).binding = (c.binding.tick h.buffers now).binding :=
  (c.started_tick h now).binding_eq

/-- **The binding of a compiler lives a life of its own**: an event does to it what its moment does,
if it has one. -/
theorem binding_step (c : Compiler) (e : Event) :
    (c.step e).binding = c.binding.after (e.moment? c.issues).toList := by
  cases e with
  | answer g o => exact c.binding_answer g o
  | drop g => exact c.binding_answer g _
  | call h k =>
    cases k with
    | runContents bytes => exact (c.started_start h _).binding_eq
    | runFile path => exact (c.started_start h _).binding_eq
    | tick now => exact c.binding_tick h now
    | poll => exact (c.polled_poll h).binding_eq
    | editorChanged editor => exact c.binding_follow h _
    | aboutToClose id => exact c.binding_follow h _
    | edited id now => rfl
    | targetsBuilt project =>
      show (c.targetsBuilt h project).binding = c.binding
      unfold targetsBuilt
      split <;> rfl
    | setContent target bytes => rfl
    | setIssues issues => exact (c.polled_setIssues issues).binding_eq
    | setWatermark time => rfl
    | takeChanged => rfl

theorem binding_induction {P : Binding → Prop}
    (after : ∀ (b : Binding) (ms : List Binding.Moment), P b → P (b.after ms))
    {c : Compiler} (es : List Event) (hc : P c.binding) : P (c.after es).binding := by
  induction es generalizing c with
  | nil => exact hc
  | cons e es ih =>
    have hs : P (c.step e).binding := by
      rw [binding_step]
      exact after c.binding _ hc
    exact ih hs

end Compiler

namespace Setup

/-- in every life, an edit waits as long as a deadline is set, and then an editor is bound that shows
the source. -/
theorem inStep_after (s : Setup) (es : List Event) : (s.after es).binding.InStep :=
  Compiler.binding_induction (fun _ ms hb => hb.after ms) es (.unbound s.source s.config.debounce)

theorem source_after (s : Setup) (es : List Event) : (s.after es).source = s.source :=
  congrArg Compiler.Badge.source (s.compiler.badge_after es)

theorem binding_fixed_after {α : Type} {f : Binding → α}
    (hf : ∀ b bound dirty debounce,
      f { b with bound := bound, dirty := dirty, debounce := debounce } = f b)
    (s : Setup) (es : List Event) :
    f (s.after es).binding = f (.unbound s.source s.config.debounce) :=
  Compiler.binding_induction (P := fun b => f b = _)
    (fun b ms hb => (Binding.fixed_after hf b ms).trans hb) es rfl

theorem binding_source_after (s : Setup) (es : List Event) :
    (s.after es).binding.source = s.source :=
  binding_fixed_after (f := Binding.source) (fun _ _ _ _ => rfl) s es

theorem quantum_after (s : Setup) (es : List Event) :
    (s.after es).binding.quantum = s.config.debounce :=
  binding_fixed_after (f := Binding.quantum) (fun _ _ _ _ => rfl) s es

end Setup
end Regen
