import Regen.Proofs.Compiler.Bookkeeping
import Regen.Transform

/-!
# Workshops

A *workshop* is a compiler with its in-process runs, and the pool that they share with other
compilers. The host calls the compiler, and what the compiler then asks for is handed to the pool.
The runs move on one step at a time, in any order and at any time between the calls; a run that is
over answers the compiler. A run may have a slot whenever one is free, so every order in which a
pool can let runs in is one of these orders.

* `Workshop`             a compiler, its runs and the pool;
* `Workshop.Event`       the host calls, or a run moves on;
* `Workshop.step`        one event;
* `Workshop.after`       a list of events;
* `Task.left`            how many steps a run has left;
* `Workshop.Sound`       the runs are those asked for, and those that are over were answered;
* `Setup.workshop`       the workshop of a setup, before anything happened.

Main statements: `Task.step_cases` (all that a step of a run can do) and `Sound.step` (every event
keeps the invariant).
-/

namespace Regen

/-! ## one run -/

namespace Task

def holds (t : Task) : Bool :=
  match t.phase with
  | .queued => false
  | .done => false
  | _ => true

def left (t : Task) : Nat :=
  match t.phase with
  | .queued => 4
  | .granted => 3
  | .loaded _ => 2
  | .applying _ => 1
  | .done => 0

theorem left_eq_zero_iff (t : Task) : t.left = 0 ↔ t.phase = .done := by
  unfold left
  cases t.phase <;> simp

theorem left_done_lt {t : Task} (h : t.phase ≠ .done) : { t with phase := .done }.left < t.left :=
  Nat.pos_of_ne_zero fun hz => h ((left_eq_zero_iff t).1 hz)

/-- all that a step can do: the run stays as it is, for want of a slot or as it is over; it moves
on; or it ends with an answer. -/
theorem step_cases (t : Task) (disk : Disk) (cancelled slotFree : Bool) :
    t.step disk cancelled slotFree = (t, none) ∧
        (t.phase = .done ∨ t.phase = .queued ∧ cancelled = false ∧ slotFree = false) ∨
      (∃ phase, t.step disk cancelled slotFree = ({ t with phase := phase }, none) ∧
        phase ≠ .done ∧ { t with phase := phase }.left < t.left) ∨
      (∃ o, t.step disk cancelled slotFree = ({ t with phase := .done }, some o) ∧
        t.phase ≠ .done) := by
  obtain ⟨request, transform, phase⟩ := t
  cases phase with
  | queued => cases cancelled <;> cases slotFree <;> simp [step, left]
  | granted => cases hl : request.provider.load disk <;> simp [step, left, hl]
  | loaded bytes => cases cancelled <;> simp [step, left]
  | applying bytes => simp [step]
  | done => simp [step]

theorem step_frame (t : Task) (disk : Disk) (cancelled slotFree : Bool) :
    ∃ phase, (t.step disk cancelled slotFree).1 = { t with phase := phase } := by
  rcases step_cases t disk cancelled slotFree with ⟨hs, -⟩ | ⟨p, hs, -⟩ | ⟨o, hs, -⟩ <;> rw [hs]
  · exact ⟨t.phase, rfl⟩
  · exact ⟨p, rfl⟩
  · exact ⟨.done, rfl⟩

end Task

/-! ## workshops -/

/-- a compiler with its in-process runs, and the pool they share with others. -/
structure Workshop where
  slots : Nat
  transform : Transform
  compiler : Compiler
  tasks : List Task

inductive Workshop.Event where
  | call (h : Host) (k : Call)
  /-- a run moves on, while so many slots are held by the runs of others. -/
  | work (i : Nat) (disk : Disk) (others : Nat)

def Compiler.receive (c : Compiler) (g : Nat) : Option Outcome → Compiler
  | some o => c.answer g o
  | none => c

namespace Workshop

/-- the number of slots held by the runs. -/
def held (w : Workshop) : Nat := w.tasks.countP Task.holds

/-- the runs that a compiler has asked for since are handed to the pool. -/
def hand (w : Workshop) (c : Compiler) : Workshop :=
  { w with
      compiler := c
      tasks := w.tasks ++ (c.asked.drop w.tasks.length).map fun r => .submit r w.transform }

/-- what a step of a run comes to. -/
def moved (w : Workshop) (t : Task) (disk : Disk) (others : Nat) : Task × Option Outcome :=
  t.step disk (w.compiler.isCancelled t.request.generation) (w.held + others < w.slots)

def work (w : Workshop) (i : Nat) (disk : Disk) (others : Nat) : Workshop :=
  match w.tasks[i]? with
  | none => w
  | some t =>
    { w with
        compiler := w.compiler.receive t.request.generation (w.moved t disk others).2
        tasks := w.tasks.set i (w.moved t disk others).1 }

def step (w : Workshop) : Event → Workshop
  | .call h k => w.hand (w.compiler.call h k)
  | .work i disk others => w.work i disk others

def after : Workshop → List Event → Workshop
  | w, [] => w
  | w, e :: es => (w.step e).after es

theorem after_append (w : Workshop) (es fs : List Event) :
    w.after (es ++ fs) = (w.after es).after fs := by
  induction es generalizing w with
  | nil => rfl
  | cons e es ih => exact ih (w.step e)

theorem step_fixed (w : Workshop) (e : Event) :
    (w.step e).slots = w.slots ∧ (w.step e).transform = w.transform := by
  cases e with
  | call h k => exact ⟨rfl, rfl⟩
  | work i disk others =>
    show (w.work i disk others).slots = w.slots ∧ (w.work i disk others).transform = w.transform
    unfold work
    split <;> exact ⟨rfl, rfl⟩

theorem after_induction {P : Workshop → Prop} (step : ∀ w e, P w → P (w.step e)) {w : Workshop}
    (es : List Event) (hw : P w) : P (w.after es) := by
  induction es generalizing w with
  | nil => exact hw
  | cons e es ih => exact ih (step w e hw)

/-- all that a step of a run can do to a workshop: nothing, for want of a run, of a slot, or as the
run is over; the run moves on; or it ends with an answer. -/
theorem work_cases (w : Workshop) (i : Nat) (disk : Disk) (others : Nat) :
    w.work i disk others = w ∧ (∀ t, w.tasks[i]? = some t → t.phase = .done ∨
        t.phase = .queued ∧ w.compiler.isCancelled t.request.generation = false ∧
          w.slots ≤ w.held + others) ∨
      (∃ t phase, w.tasks[i]? = some t ∧
        w.moved t disk others = ({ t with phase := phase }, none) ∧
        phase ≠ .done ∧ { t with phase := phase }.left < t.left ∧
        w.work i disk others = { w with tasks := w.tasks.set i { t with phase := phase } }) ∨
      (∃ t o, w.tasks[i]? = some t ∧ w.moved t disk others = ({ t with phase := .done }, some o) ∧
        t.phase ≠ .done ∧
        w.work i disk others = { w with
          compiler := w.compiler.answer t.request.generation o
          tasks := w.tasks.set i { t with phase := .done } }) := by
  unfold work
  cases hi : w.tasks[i]? with
  | none => exact .inl ⟨rfl, fun t ht => nomatch ht⟩
  | some t =>
    simp only [Option.some.injEq]
    rcases Task.step_cases t disk (w.compiler.isCancelled t.request.generation)
      (w.held + others < w.slots) with ⟨hs, hw⟩ | ⟨phase, hs, hp, hl⟩ | ⟨o, hs, hp⟩
    · obtain ⟨hlt, rfl⟩ := List.getElem?_eq_some_iff.1 hi
      refine .inl ⟨?_, fun t' ht' => ?_⟩
      · unfold moved
        rw [hs, List.set_getElem_self]
        rfl
      · rw [← ht']
        simpa using hw
    · refine .inr (.inl ⟨t, phase, rfl, hs, hp, hl, ?_⟩)
      unfold moved
      rw [hs]
      rfl
    · refine .inr (.inr ⟨t, o, rfl, hs, hp, ?_⟩)
      unfold moved
      rw [hs]
      rfl

theorem after_fixed (w : Workshop) (es : List Event) :
    (w.after es).slots = w.slots ∧ (w.after es).transform = w.transform :=
  after_induction (P := fun v => v.slots = w.slots ∧ v.transform = w.transform)
    (fun v e hv => ⟨(v.step_fixed e).1.trans hv.1, (v.step_fixed e).2.trans hv.2⟩) es ⟨rfl, rfl⟩

/-! ## the invariant -/

structure Sound (w : Workshop) : Prop where
  book : w.compiler.Sound
  requests : w.tasks.map Task.request = w.compiler.asked
  transforms : ∀ t ∈ w.tasks, t.transform = w.transform
  done_iff : ∀ t ∈ w.tasks,
    t.phase = .done ↔ w.compiler.isAnswered t.request.generation = true

theorem generation_of_getElem? {c : Compiler} (hc : c.Sound) {ts : List Task}
    (hr : ts.map Task.request = c.asked) {i : Nat} {t : Task} (hi : ts[i]? = some t) :
    t.request.generation = i + 1 ∧ i < c.clock := by
  have hg : ts.map (fun t => t.request.generation) = List.range' 1 c.clock := by
    have hm : ts.map (fun t => t.request.generation)
        = (ts.map Task.request).map Request.generation := by
      rw [List.map_map]
      rfl
    rw [hm, hr, hc.asked_numbered]
  have he : (ts.map fun t => t.request.generation)[i]? = some t.request.generation := by
    rw [List.getElem?_map, hi]
    rfl
  rw [hg, List.getElem?_eq_some_iff] at he
  obtain ⟨hlt, he⟩ := he
  rw [List.getElem_range'] at he
  rw [List.length_range'] at hlt
  exact ⟨by omega, hlt⟩

namespace Sound

variable {w : Workshop}

theorem length_tasks (hw : w.Sound) : w.tasks.length = w.compiler.asked.length := by
  rw [← hw.requests, List.length_map]

theorem length_tasks_eq_clock (hw : w.Sound) : w.tasks.length = w.compiler.clock := by
  have hl := congrArg List.length hw.book.asked_numbered
  rw [List.length_map, List.length_range'] at hl
  exact hw.length_tasks.trans hl

theorem generation_eq (hw : w.Sound) {i : Nat} {t : Task} (hi : w.tasks[i]? = some t) :
    t.request.generation = i + 1 := (generation_of_getElem? hw.book hw.requests hi).1

theorem awaits_of_mem (hw : w.Sound) {t : Task} (ht : t ∈ w.tasks) (hd : t.phase ≠ .done) :
    w.compiler.awaits t.request.generation = true := by
  rw [Compiler.awaits_iff, ← hw.book.generations_asked, ← hw.requests]
  refine ⟨List.mem_map_of_mem (List.mem_map_of_mem ht), ?_⟩
  rw [← Bool.not_eq_true]
  exact fun ha => hd ((hw.done_iff t ht).2 ha)

theorem hand (hw : w.Sound) {c : Compiler} (hc : c.Sound)
    (hk : ∀ g, c.isAnswered g = w.compiler.isAnswered g) {new : List Request}
    (ha : c.asked = w.compiler.asked ++ new) : (w.hand c).Sound := by
  have ht : (w.hand c).tasks = w.tasks ++ new.map fun r => .submit r w.transform := by
    show w.tasks ++ (c.asked.drop w.tasks.length).map _ = _
    rw [ha, hw.length_tasks, List.drop_left]
  have hr : (w.hand c).tasks.map Task.request = c.asked := by
    have hn : (Task.request ∘ fun r => Task.submit r w.transform) = id := rfl
    rw [ht, List.map_append, List.map_map, hw.requests, hn, List.map_id, ha]
  refine ⟨hc, hr, fun t hm => ?_, fun t hm => ?_⟩
  · rw [ht, List.mem_append] at hm
    rcases hm with hm | hm
    · exact hw.transforms t hm
    · obtain ⟨r, -, rfl⟩ := List.mem_map.1 hm
      rfl
  · show _ ↔ c.isAnswered _ = true
    rw [hk]
    obtain ⟨i, hi⟩ := List.getElem?_of_mem hm
    by_cases hlt : i < w.tasks.length
    · rw [ht, List.getElem?_append_left hlt] at hi
      exact hw.done_iff t (List.mem_of_getElem? hi)
    · have hg := (generation_of_getElem? hc hr hi).1
      have hq : t.phase = .queued := by
        rw [ht, List.getElem?_append_right (Nat.le_of_not_lt hlt)] at hi
        obtain ⟨r, -, rfl⟩ := List.mem_map.1 (List.mem_of_getElem? hi)
        rfl
      rw [hq]
      refine ⟨fun hd => (nomatch hd), fun hans => ?_⟩
      have hs := (hw.book.mem_generations_iff _).1 (Compiler.started_of_isAnswered hans)
      have hn := hw.length_tasks_eq_clock
      omega

theorem call (hw : w.Sound) (h : Host) (k : Call) : (w.step (.call h k)).Sound := by
  obtain ⟨hc, hk, -, new, ha⟩ := hw.book.call_frame h k
  exact hw.hand hc hk ha

/-- one run goes on to another phase; the compiler knows of its answer if that phase is the last. -/
theorem set (hw : w.Sound) {i : Nat} {t : Task} (hi : w.tasks[i]? = some t) {phase : Task.Phase}
    {c : Compiler} (hc : c.Sound) (ha : c.asked = w.compiler.asked)
    (hk : ∀ g, g ≠ t.request.generation → c.isAnswered g = w.compiler.isAnswered g)
    (hd : phase = .done ↔ c.isAnswered t.request.generation = true) :
    Sound { w with compiler := c, tasks := w.tasks.set i { t with phase := phase } } := by
  have hg := hw.generation_eq hi
  obtain ⟨hlt, -⟩ := List.getElem?_eq_some_iff.1 hi
  refine ⟨hc, ?_, fun t' ht' => ?_, fun t' ht' => ?_⟩
  · show (w.tasks.set i { t with phase := phase }).map Task.request = c.asked
    rw [ha, ← hw.requests]
    refine List.ext_getElem? fun j => ?_
    rw [List.getElem?_map, List.getElem?_map, List.getElem?_set]
    by_cases hij : i = j
    · rw [if_pos hij, if_pos hlt, ← hij, hi]
      rfl
    · rw [if_neg hij]
  · rcases List.mem_or_eq_of_mem_set ht' with hm | rfl
    · exact hw.transforms t' hm
    · exact hw.transforms t (List.mem_of_getElem? hi)
  · obtain ⟨j, hj⟩ := List.getElem?_of_mem ht'
    rw [List.getElem?_set] at hj
    by_cases hji : i = j
    · rw [if_pos hji, if_pos hlt, Option.some.injEq] at hj
      rw [← hj]
      exact hd
    · rw [if_neg hji] at hj
      have hne : t'.request.generation ≠ t.request.generation := by
        rw [hw.generation_eq hj, hg]
        omega
      rw [hk _ hne]
      exact hw.done_iff t' (List.mem_of_getElem? hj)

theorem work (hw : w.Sound) (i : Nat) (disk : Disk) (others : Nat) :
    (w.work i disk others).Sound := by
  rcases w.work_cases i disk others with ⟨he, -⟩ | ⟨t, phase, hi, -, hp, hl, he⟩ |
    ⟨t, o, hi, -, hp, he⟩
  · rw [he]
    exact hw
  · have hd : t.phase ≠ .done := fun hd => by
      rw [← Task.left_eq_zero_iff] at hd
      omega
    have hn := hw.done_iff t (List.mem_of_getElem? hi)
    rw [he]
    exact hw.set hi hw.book rfl (fun _ _ => rfl)
      ⟨fun h => absurd h hp, fun h => absurd (hn.2 h) hd⟩
  · have haw := hw.awaits_of_mem (List.mem_of_getElem? hi) hp
    have ha : (w.compiler.answer t.request.generation o).asked = w.compiler.asked := by
      rw [Compiler.answer_of_awaits haw]
      rfl
    have hk := Compiler.isAnswered_answer haw o
    rw [he]
    refine hw.set hi (hw.book.answer _ o) ha (fun g hg => ?_) ⟨fun _ => ?_, fun _ => rfl⟩
    · rw [Bool.eq_iff_iff, hk]
      exact or_iff_left hg
    · exact (hk _).2 (.inr rfl)

theorem step (hw : w.Sound) (e : Event) : (w.step e).Sound := by
  cases e with
  | call h k => exact hw.call h k
  | work i disk others => exact hw.work i disk others

theorem after (hw : w.Sound) (es : List Event) : (w.after es).Sound :=
  after_induction (fun _ e hw => hw.step e) es hw

end Sound
end Workshop

/-- the workshop of a setup: its compiler, with a transform for a runner, and a pool of at least one
slot. -/
def Setup.workshop (s : Setup) (f : Transform) (capacity : Nat) : Workshop :=
  ⟨max 1 capacity, f, { s with runner := .transform f }.compiler, []⟩

theorem Setup.sound_workshop (s : Setup) (f : Transform) (capacity : Nat) :
    (s.workshop f capacity).Sound where
  book := .create ..
  requests := rfl
  transforms _ ht := absurd ht List.not_mem_nil
  done_iff _ ht := absurd ht List.not_mem_nil

end Regen
