import Mathlib.Data.List.Induction
import Regen.Editor

/-!
# Bursts of edits

The edits of the bound editor come in *bursts*. A burst begins with an edit that counts, and it
lasts as long as nothing ends the wait of its last edit: a tick when the quiet period is over,
another editor, or the end of the bound one. Which events these are can be said without looking at
the edit that waits or at the deadline; so the two are compared here with what happened.

* `Binding.Moment`      an event, and the live text of the editors when it happens;
* `Binding.react`       what an event does;
* `Binding.snapshots`   the buffers that a list of events hands out;
* `Binding.editAt`      the time of an edit that counts;
* `Binding.Ends`        whether an event ends the wait of an edit;
* `Binding.Burst`       a burst, and the time of its last edit;
* `Binding.InStep`      the edit that waits, the deadline and the bound editor go together.

Main statements: `Burst.after_eq` (what a burst leaves behind), `burst_of_dirty` (an edit that
waits is that of a burst) and `bursts_answered_once`, which says what comes of every burst.
-/

namespace Regen.Binding

inductive Event where
  | editorChanged (editor : Option Editor) (issues : List Issue)
  | aboutToClose (id : Nat)
  | edited (id : Nat) (now : Instant)
  | tick (now : Instant)

/-- an event, and the live text of the editors when it happens. -/
structure Moment where
  buffers : Buffers
  event : Event

def react (b : Binding) (m : Moment) : Reaction :=
  match m.event with
  | .editorChanged editor issues => b.editorChanged m.buffers editor issues
  | .aboutToClose id => b.aboutToClose m.buffers id
  | .edited id now => ⟨b.edited id now, none, none⟩
  | .tick now => b.tick m.buffers now

def step (b : Binding) (m : Moment) : Binding := (b.react m).binding

def after : Binding → List Moment → Binding
  | b, [] => b
  | b, m :: ms => (b.step m).after ms

/-- the buffers that a list of events hands out to be compiled, in order. -/
def snapshots : Binding → List Moment → List Bytes
  | _, [] => []
  | b, m :: ms => (b.react m).snapshot.toList ++ (b.step m).snapshots ms

/-- the time of an edit that counts: one of the bound editor. -/
def editAt (b : Binding) (m : Moment) : Option Instant :=
  match m.event with
  | .edited id now => if b.isBoundTo id then some now else none
  | _ => none

/-- whether an event ends the wait of an edit made at `t`. -/
def Ends (b : Binding) (t : Instant) (m : Moment) : Prop :=
  match m.event with
  | .editorChanged _ _ => True
  | .aboutToClose id => b.isBoundTo id = true
  | .edited _ _ => False
  | .tick now => t + b.quantum ≤ now

instance (b : Binding) (t : Instant) : (m : Moment) → Decidable (b.Ends t m)
  | ⟨_, .editorChanged _ _⟩ => isTrue trivial
  | ⟨_, .aboutToClose id⟩ => inferInstanceAs (Decidable (b.isBoundTo id = true))
  | ⟨_, .edited _ _⟩ => isFalse False.elim
  | ⟨_, .tick now⟩ => inferInstanceAs (Decidable (t + b.quantum ≤ now))

/-- a burst: it begins with an edit that counts, its last edit is made at the given time, and none
of its events ends the wait of the edit before it. -/
inductive Burst (b : Binding) : List Moment → Instant → Prop
  | first {m : Moment} {t : Instant} : b.editAt m = some t → Burst b [m] t
  | again {ms : List Moment} {m : Moment} {t u : Instant} :
      Burst b ms t → (b.after ms).editAt m = some u → Burst b (ms ++ [m]) u
  | calm {ms : List Moment} {m : Moment} {t : Instant} :
      Burst b ms t → (b.after ms).editAt m = none → ¬ (b.after ms).Ends t m →
      Burst b (ms ++ [m]) t

/-! ## lists of events -/

theorem after_append (b : Binding) (ms ns : List Moment) :
    b.after (ms ++ ns) = (b.after ms).after ns := by
  induction ms generalizing b with
  | nil => rfl
  | cons m ms ih => exact ih (b.step m)

theorem after_concat (b : Binding) (ms : List Moment) (m : Moment) :
    b.after (ms ++ [m]) = (b.after ms).step m := after_append b ms [m]

/-- what does not look at the bound editor, the edit that waits and the deadline stays as it is. -/
theorem fixed_after {α : Type} {f : Binding → α}
    (hf : ∀ b bound dirty debounce,
      f { b with bound := bound, dirty := dirty, debounce := debounce } = f b)
    (b : Binding) (ms : List Moment) : f (b.after ms) = f b := by
  have hr : ∀ b : Binding, f b.release = f b := fun b => by
    unfold release
    cases b.bound with
    | none => rfl
    | some e => exact hf b none false .idle
  have hstep : ∀ (b : Binding) (m : Moment), f (b.step m) = f b := fun b m => by
    obtain ⟨bufs, e⟩ := m
    cases e with
    | editorChanged editor issues =>
      refine Eq.trans ?_ (hr b)
      show f (b.release.bind editor) = f b.release
      unfold bind
      cases editor with
      | none => rfl
      | some e => exact (apply_ite f ..).trans ((congrArg₂ _ (hf _ _ _ _) rfl).trans (ite_self _))
    | aboutToClose id =>
      show f (b.aboutToClose bufs id).binding = f b
      unfold aboutToClose
      split
      · exact hr b
      · rfl
    | edited id now =>
      show f (b.edited id now) = f b
      unfold edited
      split
      · exact hf ..
      · rfl
    | tick now =>
      show f (b.tick bufs now).binding = f b
      unfold tick
      dsimp only
      split
      · split
        · exact hf b _ _ _
        · exact hf b _ _ _
      · rfl
  induction ms generalizing b with
  | nil => rfl
  | cons m ms ih => exact (ih (b.step m)).trans (hstep b m)

theorem snapshots_append (b : Binding) (ms ns : List Moment) :
    b.snapshots (ms ++ ns) = b.snapshots ms ++ (b.after ms).snapshots ns := by
  induction ms generalizing b with
  | nil => rfl
  | cons m ms ih =>
    show _ ++ (b.step m).snapshots (ms ++ ns) = (_ ++ (b.step m).snapshots ms) ++ _
    rw [ih, List.append_assoc]
    rfl

theorem snapshots_concat (b : Binding) (ms : List Moment) (m : Moment) :
    b.snapshots (ms ++ [m]) = b.snapshots ms ++ ((b.after ms).react m).snapshot.toList := by
  rw [snapshots_append]
  exact congrArg (b.snapshots ms ++ ·) (List.append_nil _)

/-! ## one event -/

/-- what an edit made at `t` leaves behind: it waits, up to the end of its quiet period. -/
def waitingSince (b : Binding) (t : Instant) : Binding :=
  { b with dirty := true, debounce := .pending (t + b.quantum) }

theorem react_of_editAt {b : Binding} {m : Moment} {t : Instant} (h : b.editAt m = some t) :
    b.step m = b.waitingSince t ∧ (b.react m).snapshot = none ∧ b.bound.isSome = true := by
  obtain ⟨bufs, e⟩ := m
  cases e with
  | edited id now =>
    by_cases hb : b.isBoundTo id = true
    · have ht : now = t := by simpa [editAt, hb] using h
      have hs : b.step ⟨bufs, .edited id now⟩ = b.waitingSince now := if_pos hb
      refine ⟨ht ▸ hs, rfl, ?_⟩
      cases hn : b.bound with
      | none => simp [isBoundTo, hn] at hb
      | some ed => rfl
    · simp [editAt, hb] at h
  | editorChanged editor issues => exact nomatch h
  | aboutToClose id => exact nomatch h
  | tick now => exact nomatch h

theorem dirty_bind (b : Binding) (editor : Option Editor) : (b.bind editor).dirty = b.dirty := by
  unfold bind
  cases editor with
  | none => rfl
  | some e => exact apply_ite Binding.dirty _ _ _ |>.trans (ite_self _)

section
variable {b : Binding} {m : Moment} {t : Instant} {ed : Editor}

/-- an event that neither is an edit that counts nor ends the wait changes nothing. -/
theorem react_of_calm (he : (b.waitingSince t).editAt m = none)
    (hn : ¬ (b.waitingSince t).Ends t m) :
    (b.waitingSince t).step m = b.waitingSince t ∧
      ((b.waitingSince t).react m).snapshot = none := by
  obtain ⟨bufs, e⟩ := m
  cases e with
  | editorChanged editor issues => exact absurd trivial hn
  | aboutToClose id =>
    have hr : (b.waitingSince t).react ⟨bufs, .aboutToClose id⟩ = ⟨b.waitingSince t, none, none⟩ :=
      if_neg hn
    exact ⟨congrArg Reaction.binding hr, congrArg Reaction.snapshot hr⟩
  | edited id now =>
    have hb : ¬ (b.waitingSince t).isBoundTo id = true := fun hb => by simp [editAt, hb] at he
    exact ⟨if_neg hb, rfl⟩
  | tick now =>
    have hd : ¬ (b.waitingSince t).debounce.due now = true := fun hd =>
      hn (of_decide_eq_true (p := t + b.quantum ≤ now) hd)
    have hr : (b.waitingSince t).react ⟨bufs, .tick now⟩ = ⟨b.waitingSince t, none, none⟩ :=
      if_neg hd
    exact ⟨congrArg Reaction.binding hr, congrArg Reaction.snapshot hr⟩

/-- an event that ends the wait hands out the live text of the bound editor, and nothing waits. -/
theorem react_of_ends (hb : b.bound = some ed) (he : (b.waitingSince t).Ends t m) :
    ((b.waitingSince t).react m).snapshot = some (m.buffers ed.slot) ∧
      ((b.waitingSince t).step m).dirty = false := by
  have hw : ∀ bufs, (b.waitingSince t).waiting bufs = some (bufs ed.slot) := fun bufs => by
    simp [waiting, waitingSince, hb]
  have hf : (b.waitingSince t).release.dirty = false := by
    simp [release, waitingSince, hb]
  obtain ⟨bufs, e⟩ := m
  cases e with
  | editorChanged editor issues => exact ⟨hw bufs, (dirty_bind _ editor).trans hf⟩
  | aboutToClose id =>
    have hr : (b.waitingSince t).react ⟨bufs, .aboutToClose id⟩
        = ⟨(b.waitingSince t).release, (b.waitingSince t).waiting bufs, none⟩ := if_pos he
    refine ⟨?_, ?_⟩
    · rw [hr]
      exact hw bufs
    · rw [step, hr]
      exact hf
  | edited id now => exact False.elim he
  | tick now =>
    have hd : (b.waitingSince t).debounce.due now = true :=
      decide_eq_true (p := t + b.quantum ≤ now) he
    have hr : (b.waitingSince t).react ⟨bufs, .tick now⟩
        = ⟨{ b with dirty := false, debounce := .idle }, some (bufs ed.slot), none⟩ := by
      show (b.waitingSince t).tick bufs now = _
      unfold tick
      simp only [hd, if_true, hw, Debounce.fire]
      rfl
    rw [step, hr]
    exact ⟨rfl, rfl⟩

end

/-! ## what goes together -/

/-- an edit waits if and only if a deadline is set, and only while an editor is bound, which shows
the source. -/
structure InStep (b : Binding) : Prop where
  shows_source : ∀ e, b.bound = some e → Path.Same e.path b.source
  dirty_iff : b.dirty = true ↔ b.deadline?.isSome = true
  bound_of_dirty : b.dirty = true → b.bound.isSome = true

namespace InStep

variable {b : Binding}

theorem unbound (source : Path) (quantum : Nat) : (unbound source quantum).InStep where
  shows_source _ h := nomatch h
  dirty_iff := by simp [Binding.unbound, deadline?, Debounce.deadline?]
  bound_of_dirty h := Bool.noConfusion h

/-- nothing waits once the bound editor is let go of. -/
theorem release_eq (hb : b.InStep) :
    b.release = { b with bound := none, dirty := false, debounce := .idle } := by
  unfold release
  cases hn : b.bound with
  | some e => rfl
  | none =>
    have hd : b.dirty = false := by
      cases hd : b.dirty with
      | false => rfl
      | true => simpa [hn] using hb.bound_of_dirty hd
    have hi : b.debounce = .idle := by
      cases hi : b.debounce with
      | idle => rfl
      | pending d =>
        have : b.dirty = true := hb.dirty_iff.2 (by simp [deadline?, hi, Debounce.deadline?])
        rw [hd] at this
        exact Bool.noConfusion this
    obtain ⟨s, q, bd, d, w⟩ := b
    subst hn hd hi
    rfl

/-- a binding without a wait goes together with any editor that shows the source. -/
theorem of_quiet (hd : b.dirty = false) (hi : b.debounce = .idle)
    (hs : ∀ e, b.bound = some e → Path.Same e.path b.source) : b.InStep where
  shows_source := hs
  dirty_iff := by simp [hd, hi, deadline?, Debounce.deadline?]
  bound_of_dirty h := by simp [hd] at h

theorem release (hb : b.InStep) : b.release.InStep := by
  rw [hb.release_eq]
  exact of_quiet rfl rfl fun e h => nomatch h

theorem editorChanged (hb : b.InStep) (bufs : Buffers) (editor : Option Editor)
    (issues : List Issue) : (b.editorChanged bufs editor issues).binding.InStep := by
  show (b.release.bind editor).InStep
  unfold bind
  cases editor with
  | none => exact hb.release
  | some e =>
    by_cases hs : Path.Same e.path b.release.source
    · simp only [hs, if_true]
      rw [hb.release_eq] at hs ⊢
      refine of_quiet rfl rfl fun e' h => ?_
      rw [← Option.some.inj h]
      exact hs
    · simp only [hs, if_false]
      exact hb.release

/-- a deadline that has come hands out the live text of the bound editor, and nothing waits. -/
theorem tick_of_due (hb : b.InStep) {now : Instant} (hd : b.debounce.due now = true) :
    ∃ ed, b.bound = some ed ∧ ∀ bufs, b.tick bufs now
      = ⟨{ b with debounce := .idle, dirty := false }, some (bufs ed.slot), none⟩ := by
  have hset : b.deadline?.isSome = true := by
    obtain ⟨d, hd, -⟩ := (Debounce.due_iff b.debounce now).1 hd
    exact Option.isSome_iff_exists.2 ⟨d, hd⟩
  have hdirty := hb.dirty_iff.2 hset
  obtain ⟨ed, hed⟩ := Option.isSome_iff_exists.1 (hb.bound_of_dirty hdirty)
  refine ⟨ed, hed, fun bufs => ?_⟩
  unfold Binding.tick
  simp only [hd, if_true, waiting, hed, hdirty, Debounce.fire]

theorem tick (hb : b.InStep) (bufs : Buffers) (now : Instant) :
    (b.tick bufs now).binding.InStep := by
  by_cases hd : b.debounce.due now = true
  · obtain ⟨ed, -, hr⟩ := hb.tick_of_due hd
    rw [hr]
    exact of_quiet rfl rfl hb.shows_source
  · have hr : b.tick bufs now = ⟨b, none, none⟩ := if_neg hd
    rw [hr]
    exact hb

theorem step (hb : b.InStep) (m : Moment) : (b.step m).InStep := by
  obtain ⟨bufs, e⟩ := m
  cases e with
  | editorChanged editor issues => exact hb.editorChanged bufs editor issues
  | aboutToClose id =>
    show (b.aboutToClose bufs id).binding.InStep
    unfold aboutToClose
    split
    · exact hb.release
    · exact hb
  | edited id now =>
    show (b.edited id now).InStep
    unfold edited
    split
    · case isTrue h =>
      refine ⟨hb.shows_source, ?_, fun _ => ?_⟩
      · simp [deadline?, Debounce.restart, Debounce.deadline?]
      · cases hn : b.bound with
        | none => simp [isBoundTo, hn] at h
        | some e => rfl
    · exact hb
  | tick now => exact hb.tick bufs now

theorem after (hb : b.InStep) (ms : List Moment) : (b.after ms).InStep := by
  induction ms generalizing b with
  | nil => exact hb
  | cons m ms ih => exact ih (hb.step m)

end InStep

/-! ## bursts -/

theorem Burst.after_eq {b : Binding} {ms : List Moment} {t : Instant} (h : b.Burst ms t) :
    b.after ms = b.waitingSince t ∧ b.snapshots ms = [] ∧ b.bound.isSome = true := by
  induction h with
  | @first m t he =>
    obtain ⟨hs, hn, hb⟩ := react_of_editAt he
    refine ⟨hs, ?_, hb⟩
    show (b.react m).snapshot.toList ++ [] = []
    rw [hn]
    rfl
  | @again ms m t u _ he ih =>
    obtain ⟨ha, hq, hb⟩ := ih
    obtain ⟨hs, hn, -⟩ := react_of_editAt he
    refine ⟨?_, ?_, hb⟩
    · rw [after_concat, hs, ha]
      rfl
    · rw [snapshots_concat, hq, hn]
      rfl
  | @calm ms m t _ he hn ih =>
    obtain ⟨ha, hq, hb⟩ := ih
    rw [ha] at he hn
    obtain ⟨hs, hr⟩ := react_of_calm he hn
    refine ⟨?_, ?_, hb⟩
    · rw [after_concat, ha, hs]
    · rw [snapshots_concat, ha, hq, hr]
      rfl

theorem dirty_release (b : Binding) (h : b.release.dirty = true) : b.dirty = true := by
  unfold release at h
  cases hb : b.bound with
  | none => simpa [hb] using h
  | some e => simp [hb] at h

theorem dirty_of_dirty_step {b : Binding} {m : Moment} (he : b.editAt m = none)
    (h : (b.step m).dirty = true) : b.dirty = true := by
  obtain ⟨bufs, e⟩ := m
  cases e with
  | editorChanged editor issues =>
    have hr : (b.release.bind editor).dirty = true := h
    exact b.dirty_release (dirty_bind b.release editor ▸ hr)
  | aboutToClose id =>
    replace h : (b.aboutToClose bufs id).binding.dirty = true := h
    unfold aboutToClose at h
    split at h
    · exact b.dirty_release h
    · exact h
  | edited id now =>
    have hb : ¬ b.isBoundTo id = true := fun hb => by simp [editAt, hb] at he
    have hs : b.step ⟨bufs, .edited id now⟩ = b := if_neg hb
    rw [← hs]
    exact h
  | tick now =>
    replace h : (b.tick bufs now).binding.dirty = true := h
    unfold tick at h
    split at h
    · split at h
      · exact nomatch h
      · exact h
    · exact h

/-- what is handed out is the live text of an editor whose edit waits. -/
theorem dirty_of_snapshot {b : Binding} {m : Moment} {x : Bytes}
    (h : (b.react m).snapshot = some x) : b.dirty = true := by
  have hw : ∀ bufs y, b.waiting bufs = some y → b.dirty = true := fun bufs y hy => by
    unfold waiting at hy
    cases hb : b.bound with
    | none => simp [hb] at hy
    | some e =>
      cases hd : b.dirty with
      | false => simp [hb, hd] at hy
      | true => rfl
  obtain ⟨bufs, e⟩ := m
  cases e with
  | editorChanged editor issues => exact hw bufs x h
  | aboutToClose id =>
    replace h : (b.aboutToClose bufs id).snapshot = some x := h
    unfold aboutToClose at h
    split at h
    · exact hw bufs x h
    · exact nomatch h
  | edited id now => exact nomatch h
  | tick now =>
    replace h : (b.tick bufs now).snapshot = some x := h
    unfold tick at h
    split at h
    · split at h
      · case h_1 y hy => exact hw bufs y hy
      · exact nomatch h
    · exact nomatch h

theorem burst_of_dirty {b : Binding} (hb : b.dirty = false) (ms : List Moment)
    (h : (b.after ms).dirty = true) :
    ∃ before burst t, ms = before ++ burst ∧ (b.after before).Burst burst t := by
  induction ms using List.reverseRecOn with
  | nil => exact absurd h (by rw [after, hb]; exact Bool.false_ne_true)
  | append_singleton ms m ih =>
    rw [after_concat] at h
    cases he : (b.after ms).editAt m with
    | some t => exact ⟨ms, [m], t, rfl, .first he⟩
    | none =>
      obtain ⟨before, burst, t, rfl, hburst⟩ := ih (dirty_of_dirty_step he h)
      obtain ⟨ha, -, hbound⟩ := hburst.after_eq
      obtain ⟨ed, hed⟩ := Option.isSome_iff_exists.1 hbound
      rw [after_append] at he h
      have hn : ¬ ((b.after before).after burst).Ends t m := fun hends => by
        rw [ha] at hends h
        rw [(react_of_ends hed hends).2] at h
        exact Bool.noConfusion h
      exact ⟨before, burst ++ [m], t, List.append_assoc .., .calm hburst he hn⟩

/-- while an edit waits, exactly the events that end its wait hand something out. -/
theorem snapshot_waitingSince {b : Binding} {ed : Editor} (hb : b.bound = some ed) (t : Instant)
    (m : Moment) (x : Bytes) : ((b.waitingSince t).react m).snapshot = some x ↔
      (b.waitingSince t).Ends t m ∧ x = m.buffers ed.slot := by
  by_cases he : (b.waitingSince t).Ends t m
  · rw [(react_of_ends hb he).1, Option.some.injEq]
    exact ⟨fun h => ⟨he, h.symm⟩, fun h => h.2.symm⟩
  · have hn : ((b.waitingSince t).react m).snapshot = none := by
      cases hedit : (b.waitingSince t).editAt m with
      | none => exact (react_of_calm hedit he).2
      | some u => exact (react_of_editAt hedit).2.1
    rw [hn]
    exact iff_of_false (fun h => nomatch h) fun h => he h.1

/-- **Every burst of edits is answered once.** In any history of a binding the quiet period keeps
its length, and an edit waits exactly as long as a deadline is set; then an editor is bound that
shows the source. A burst hands out nothing while it lasts; the first event that ends it hands out
the text that its editor has at that moment. And what is handed out ends a burst, in which nothing
has been handed out. -/
theorem bursts_answered_once (source : Path) (quantum : Nat) (ms : List Moment) :
    let start := unbound source quantum
    let b := start.after ms
    b.quantum = quantum ∧
    (b.dirty = true ↔ b.deadline?.isSome = true) ∧
    (b.dirty = true → ∃ ed, b.bound = some ed ∧ Path.Same ed.path source) ∧
    (∀ burst t, b.Burst burst t → b.snapshots burst = [] ∧
      ∃ ed, b.bound = some ed ∧ ∀ m x, ((b.after burst).react m).snapshot = some x ↔
        (b.after burst).Ends t m ∧ x = m.buffers ed.slot) ∧
    (∀ m x, (b.react m).snapshot = some x →
      ∃ before burst t, ms = before ++ burst ∧ (start.after before).Burst burst t ∧
        (start.after before).snapshots burst = [] ∧ b.Ends t m) := by
  intro start b
  have hb : b.InStep := (InStep.unbound source quantum).after ms
  refine ⟨fixed_after (f := Binding.quantum) (fun _ _ _ _ => rfl) start ms, hb.dirty_iff,
    fun hd => ?_, fun burst t hburst => ?_, fun m x hx => ?_⟩
  · obtain ⟨ed, hed⟩ := Option.isSome_iff_exists.1 (hb.bound_of_dirty hd)
    have hs : Path.Same ed.path b.source := hb.shows_source ed hed
    have hsource : b.source = source :=
      fixed_after (f := Binding.source) (fun _ _ _ _ => rfl) start ms
    exact ⟨ed, hed, hsource ▸ hs⟩
  · obtain ⟨ha, hn, hbound⟩ := hburst.after_eq
    obtain ⟨ed, hed⟩ := Option.isSome_iff_exists.1 hbound
    refine ⟨hn, ed, hed, fun m x => ?_⟩
    rw [ha]
    exact snapshot_waitingSince hed t m x
  · obtain ⟨before, burst, t, rfl, hburst⟩ := burst_of_dirty rfl ms (dirty_of_snapshot hx)
    obtain ⟨ha, hn, hbound⟩ := hburst.after_eq
    obtain ⟨ed, hed⟩ := Option.isSome_iff_exists.1 hbound
    have hw : b = (start.after before).waitingSince t := (after_append start before burst).trans ha
    rw [hw] at hx ⊢
    exact ⟨before, burst, t, rfl, hburst, hn, ((snapshot_waitingSince hed t m x).1 hx).1⟩

/-- a burst of two edits, the second one at an earlier time, and the tick that ends it. -/
theorem bursts_answered_once_twice :
    let ed : Editor := ⟨0, 1, ⟨[115]⟩⟩
    let live (c : UInt8) : Buffers := fun _ => [c]
    let b := (unbound ⟨[115]⟩ 1000).after [⟨live 0, .editorChanged (some ed) []⟩]
    let burst : List Moment := [⟨live 1, .edited 1 500⟩, ⟨live 2, .tick 900⟩,
      ⟨live 3, .edited 1 300⟩, ⟨live 4, .tick 1299⟩]
    b.snapshots burst = [] ∧
      ((b.after burst).react ⟨live 5, .tick 1300⟩).snapshot = some [5] := by
  intro ed live b burst
  have hburst : b.Burst burst 300 :=
    .calm (.again (.calm (.first rfl) rfl (by decide)) rfl) rfl (by decide)
  obtain ⟨-, -, -, h, -⟩ :=
    bursts_answered_once ⟨[115]⟩ 1000 [⟨live 0, .editorChanged (some ed) []⟩]
  obtain ⟨hn, ed', hed, hm⟩ := h burst 300 hburst
  refine ⟨hn, (hm _ _).2 ⟨?_, ?_⟩⟩
  · show (300 : Int) + (1000 : Nat) ≤ 1300
    decide
  · rfl

end Regen.Binding
