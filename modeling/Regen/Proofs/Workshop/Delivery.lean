import Regen.Proofs.Compiler.Delivery
import Regen.Proofs.Workshop.Course

/-!
# One completion per run

A workshop lives through calls, turns of its runs, and tokens that are cancelled. What its compiler
meets meanwhile is a life of its own, so every run is answered at most once, and its latch tells
whether it was. Each run takes one of the courses of a task, whatever the other runs, those of other
compilers and the host do, and what reaches the compiler of it is what it answered on its course.

* `Workshop.Incident`    an event, or a token that is cancelled;
* `Workshop.through`     a list of incidents, one after the other;
* `Workshop.hears`       what the compiler meets meanwhile;
* `Workshop.turns`       what one run finds at its turns;
* `Workshop.Serves`      what becomes of one run.

Main statements: `compiler_through` (a workshop's compiler is a compiler), `Sound.course_of_run`
(a run in a workshop goes its way as if alone) and `Setup.one_completion_per_run`.
-/

namespace Regen
namespace Workshop

inductive Incident where
  | event (e : Event)
  | cancel (generation : Nat)

def meet (w : Workshop) : Incident → Workshop
  | .event e => w.step e
  | .cancel g => { w with compiler := w.compiler.cancel g }

def through : Workshop → List Incident → Workshop
  | w, [] => w
  | w, e :: es => (w.meet e).through es

/-- what a run finds at a turn, while so many slots are held by the runs of others. -/
def moment (w : Workshop) (i : Nat) (disk : Disk) (others : Nat) : Moment :=
  ⟨disk, w.compiler.isCancelled (i + 1), w.held + others < w.slots⟩

def turn (w : Workshop) (i : Nat) : Incident → List Moment
  | .event (.work j disk others) =>
    if j = i ∧ i < w.tasks.length then [w.moment i disk others] else []
  | .event (.call _ _) => []
  | .cancel _ => []

def turns : Workshop → Nat → List Incident → List Moment
  | _, _, [] => []
  | w, i, e :: es => w.turn i e ++ (w.meet e).turns i es

/-- what the compiler meets when a run moves on: its answer, if that is the end of it. -/
def reports (w : Workshop) (i : Nat) (disk : Disk) (others : Nat) : List Regen.Incident :=
  match w.tasks[i]? with
  | none => []
  | some t => (w.moved t disk others).2.toList.map fun o => .event (.answer t.request.generation o)

def heard (w : Workshop) : Incident → List Regen.Incident
  | .event (.call h k) => [.event (.call h k)]
  | .event (.work i disk others) => w.reports i disk others
  | .cancel g => [.cancel g]

def hears : Workshop → List Incident → List Regen.Incident
  | _, [] => []
  | w, e :: es => w.heard e ++ (w.meet e).hears es

/-- a run as it is; if it has not been asked for yet, as it will be handed in. -/
def runAt (w : Workshop) (i : Nat) (r : Request) : Task :=
  w.tasks[i]?.getD (.submit r w.transform)

theorem through_append (w : Workshop) (es fs : List Incident) :
    w.through (es ++ fs) = (w.through es).through fs := by
  induction es generalizing w with
  | nil => rfl
  | cons e es ih => exact ih (w.meet e)

theorem turns_cons (w : Workshop) (i : Nat) (e : Incident) (es : List Incident) :
    w.turns i (e :: es) = w.turn i e ++ (w.meet e).turns i es := rfl

theorem hears_cons (w : Workshop) (e : Incident) (es : List Incident) :
    w.hears (e :: es) = w.heard e ++ (w.meet e).hears es := rfl

theorem turns_append (w : Workshop) (i : Nat) (es fs : List Incident) :
    w.turns i (es ++ fs) = w.turns i es ++ (w.through es).turns i fs := by
  induction es generalizing w with
  | nil => rfl
  | cons e es ih =>
    rw [List.cons_append, turns_cons, turns_cons, ih, List.append_assoc]
    rfl

/-! ## the compiler of a workshop -/

section
variable {w : Workshop} {i : Nat} (disk : Disk) (others : Nat)

theorem work_of_none (hi : w.tasks[i]? = none) : w.work i disk others = w := by
  unfold work
  rw [hi]

theorem work_of_some {t : Task} (hi : w.tasks[i]? = some t) : w.work i disk others = { w with
    compiler := w.compiler.receive t.request.generation (w.moved t disk others).2
    tasks := w.tasks.set i (w.moved t disk others).1 } := by
  unfold work
  rw [hi]

theorem reports_of_none (hi : w.tasks[i]? = none) : w.reports i disk others = [] := by
  unfold reports
  rw [hi]

theorem reports_of_some {t : Task} (hi : w.tasks[i]? = some t) : w.reports i disk others
    = (w.moved t disk others).2.toList.map fun o => .event (.answer t.request.generation o) := by
  unfold reports
  rw [hi]

end

theorem compiler_meet (w : Workshop) (e : Incident) :
    (w.meet e).compiler = w.compiler.through (w.heard e) := by
  rcases e with (⟨h, k⟩ | ⟨i, disk, others⟩) | g
  · rfl
  · show (w.work i disk others).compiler = w.compiler.through (w.reports i disk others)
    cases hi : w.tasks[i]? with
    | none =>
      rw [work_of_none disk others hi, reports_of_none disk others hi]
      rfl
    | some t =>
      rw [work_of_some disk others hi, reports_of_some disk others hi]
      cases (w.moved t disk others).2 <;> rfl
  · rfl

theorem transform_meet (w : Workshop) (e : Incident) : (w.meet e).transform = w.transform := by
  cases e with
  | event e => exact (w.step_fixed e).2
  | cancel g => rfl

theorem transform_through (w : Workshop) (es : List Incident) :
    (w.through es).transform = w.transform := by
  induction es generalizing w with
  | nil => rfl
  | cons e es ih => exact (ih (w.meet e)).trans (w.transform_meet e)

/-- **The compiler of a workshop lives as a compiler does.** -/
theorem compiler_through (w : Workshop) (es : List Incident) :
    (w.through es).compiler = w.compiler.through (w.hears es) := by
  induction es generalizing w with
  | nil => rfl
  | cons e es ih =>
    rw [hears_cons, Compiler.through_append, ← compiler_meet]
    exact ih (w.meet e)

namespace Sound

variable {w : Workshop}

theorem cancel (hw : w.Sound) (g : Nat) : (w.meet (.cancel g)).Sound where
  book := hw.book.cancel g
  requests := hw.requests
  transforms := hw.transforms
  done_iff t ht := by
    show _ ↔ (w.compiler.cancel g).isAnswered _ = true
    rw [Compiler.isAnswered_cancel]
    exact hw.done_iff t ht

theorem meet (hw : w.Sound) (e : Incident) : (w.meet e).Sound := by
  cases e with
  | event e => exact hw.step e
  | cancel g => exact hw.cancel g

theorem through (hw : w.Sound) (es : List Incident) : (w.through es).Sound := by
  induction es generalizing w with
  | nil => exact hw
  | cons e es ih => exact ih (hw.meet e)

theorem getElem?_tasks (hw : w.Sound) {i : Nat} {r : Request}
    (hr : w.compiler.asked[i]? = some r) : w.tasks[i]? = some (w.runAt i r) := by
  rw [← hw.requests, List.getElem?_map, Option.map_eq_some_iff] at hr
  obtain ⟨t, ht, -⟩ := hr
  unfold runAt
  rw [ht]
  rfl

theorem held_eq_zero (hw : w.Sound)
    (ha : ∀ r ∈ w.compiler.asked, w.compiler.isAnswered r.generation = true) : w.held = 0 := by
  refine List.countP_eq_zero.2 fun t ht => ?_
  have hr : t.request ∈ w.compiler.asked := hw.requests ▸ List.mem_map_of_mem ht
  have hd := (hw.done_iff t ht).2 (ha _ hr)
  simp [Task.holds, hd]

theorem moved_eq (hw : w.Sound) {i : Nat} {t : Task} (hi : w.tasks[i]? = some t) (disk : Disk)
    (others : Nat) : w.moved t disk others = t.turn (w.moment i disk others) := by
  unfold moved Task.turn moment
  rw [hw.generation_eq hi]

/-! ### one run among the others -/

theorem sent_reports (hw : w.Sound) {i : Nat} {t : Task} (hi : w.tasks[i]? = some t) (disk : Disk)
    (others : Nat) : w.compiler.sent (w.reports i disk others)
      = (t.answer (w.moment i disk others)).map (Completion.mk (i + 1)) := by
  have hg := hw.generation_eq hi
  rw [reports_of_some disk others hi, hw.moved_eq hi, hg]
  unfold Task.answer
  cases ho : (t.turn (w.moment i disk others)).2 with
  | none => rfl
  | some o =>
    have hd : t.phase ≠ .done := fun hd => by
      rw [Task.turn_of_done hd] at ho
      exact nomatch ho
    have haw := hw.awaits_of_mem (List.mem_of_getElem? hi) hd
    rw [hg] at haw
    show w.compiler.sends (.event (.answer (i + 1) o)) ++ [] = [⟨i + 1, o⟩]
    simp [Compiler.sends, Regen.Incident.completion?, haw]

theorem run_work (hw : w.Sound) (j : Nat) (disk : Disk) (others i : Nat) (r : Request) :
    (w.work j disk others).runAt i r
        = (w.runAt i r).through (w.turn i (.event (.work j disk others))) ∧
      (w.compiler.sent (w.reports j disk others)).filter (fun m => m.generation == i + 1)
        = ((w.runAt i r).answers (w.turn i (.event (.work j disk others)))).map
            (Completion.mk (i + 1)) := by
  have other : ¬ (j = i ∧ i < w.tasks.length) → w.turn i (.event (.work j disk others)) = [] :=
    fun h => if_neg h
  cases hj : w.tasks[j]? with
  | none =>
    have ht := other fun ⟨he, hi⟩ => by
      have := List.getElem?_eq_none_iff.1 hj
      omega
    rw [work_of_none disk others hj, reports_of_none disk others hj, ht]
    exact ⟨rfl, rfl⟩
  | some t =>
    obtain ⟨hlt, -⟩ := List.getElem?_eq_some_iff.1 hj
    have hm := hw.moved_eq hj disk others
    rw [work_of_some disk others hj, hw.sent_reports hj, hm]
    by_cases hji : j = i
    · subst hji
      have ht : w.turn j (.event (.work j disk others)) = [w.moment j disk others] :=
        if_pos ⟨rfl, hlt⟩
      have hr : w.runAt j r = t := by
        unfold runAt
        rw [hj]
        rfl
      rw [ht, hr]
      refine ⟨?_, ?_⟩
      · show ((w.tasks.set j _)[j]?).getD _ = _
        rw [List.getElem?_set_self hlt]
        rfl
      · show _ = (t.answer (w.moment j disk others) ++ []).map _
        rw [List.append_nil]
        exact List.filter_eq_self.2 fun m hm => by
          obtain ⟨o, -, rfl⟩ := List.mem_map.1 hm
          exact beq_self_eq_true _
    · rw [other fun h => hji h.1]
      refine ⟨?_, ?_⟩
      · show ((w.tasks.set j _)[i]?).getD _ = _
        rw [List.getElem?_set_ne hji]
        rfl
      · refine List.filter_eq_nil_iff.2 fun m hm => ?_
        obtain ⟨o, -, rfl⟩ := List.mem_map.1 hm
        simp [hji]

end Sound

theorem run_hand (w : Workshop) (c : Compiler) {i : Nat} {r : Request}
    (hr : ∀ r', c.asked[i]? = some r' → r' = r) : (w.hand c).runAt i r = w.runAt i r := by
  unfold runAt hand
  by_cases hi : i < w.tasks.length
  · rw [List.getElem?_append_left hi, List.getElem?_eq_getElem hi]
  · have hle := Nat.le_of_not_lt hi
    rw [List.getElem?_append_right hle, List.getElem?_eq_none hle, List.getElem?_map,
      List.getElem?_drop, Nat.add_sub_cancel' hle]
    cases ha : c.asked[i]? with
    | none => rfl
    | some r' =>
      rw [hr r' ha]
      rfl

namespace Sound

variable {w : Workshop}

theorem run_meet (hw : w.Sound) (e : Incident) {i : Nat} {r : Request}
    (hr : ∀ r', (w.meet e).compiler.asked[i]? = some r' → r' = r) :
    (w.meet e).runAt i r = (w.runAt i r).through (w.turn i e) ∧
      (w.compiler.sent (w.heard e)).filter (fun m => m.generation == i + 1)
        = ((w.runAt i r).answers (w.turn i e)).map (Completion.mk (i + 1)) := by
  rcases e with (⟨h, k⟩ | ⟨j, disk, others⟩) | g
  · exact ⟨w.run_hand _ hr, rfl⟩
  · exact hw.run_work j disk others i r
  · exact ⟨rfl, rfl⟩

/-- **A run in a workshop goes its way as if alone**, through the moments at which it has its
turns, and what is sent of it is what it answers. -/
theorem course_of_run (hw : w.Sound) (es : List Incident) {i : Nat} {r : Request}
    (hr : (w.through es).compiler.asked[i]? = some r) :
    (w.through es).tasks[i]? = some ((w.runAt i r).through (w.turns i es)) ∧
      (w.compiler.sent (w.hears es)).filter (fun m => m.generation == i + 1)
        = ((w.runAt i r).answers (w.turns i es)).map (Completion.mk (i + 1)) := by
  induction es generalizing w with
  | nil => exact ⟨hw.getElem?_tasks hr, rfl⟩
  | cons e es ih =>
    have hm := hw.meet e
    have hsame : ∀ r', (w.meet e).compiler.asked[i]? = some r' → r' = r := fun r' hr' => by
      obtain ⟨new, hn⟩ := hm.book.asked_through ((w.meet e).hears es)
      rw [← compiler_through] at hn
      have hlt := (List.getElem?_eq_some_iff.1 hr').1
      have hr : ((w.meet e).through es).compiler.asked[i]? = some r := hr
      rw [hn, List.getElem?_append_left hlt, hr', Option.some.injEq] at hr
      exact hr
    obtain ⟨h1, h2⟩ := hw.run_meet e hsame
    obtain ⟨h3, h4⟩ := ih hm hr
    refine ⟨?_, ?_⟩
    · rw [turns_cons, Task.through_append, ← h1]
      exact h3
    · rw [hears_cons, Compiler.sent_append, List.filter_append, ← compiler_meet, h2, h4, h1,
        turns_cons, Task.answers_append, List.map_append]

end Sound
end Workshop

/-! ## a whole life -/

namespace Workshop

/-- what becomes of a run of a workshop: with what it found at its turns, it took one of the courses
of a task, and has the completion that it answered there. -/
structure Serves (w : Workshop) (es : List Incident) (i : Nat) (r : Request) : Prop where
  channel : (w.compiler.received (w.hears es)).filter (fun m => m.generation == r.generation)
    = ((Task.submit r w.transform).answers (w.turns i es)).map (Completion.mk r.generation)
  course : Task.Course r w.transform (w.turns i es)
    ((Task.submit r w.transform).deeds (w.turns i es))
    ((Task.submit r w.transform).answers (w.turns i es))
    ((w.through es).tasks[i]?.any Task.holds)
  /-- cancelled before it got a slot, it never does anything. -/
  refused : ∀ before after, es = before ++ after →
    (w.through before).compiler.isCancelled r.generation = true →
    (Task.submit r w.transform).deeds (w.turns i before) = [] →
      (Task.submit r w.transform).deeds (w.turns i es) = [] ∧
      ∀ o ∈ (Task.submit r w.transform).answers (w.turns i es), o = .error .cancelled
  served : ∀ ahead m rest, w.turns i es = ahead ++ m :: rest → ¬ m.Waits → 3 ≤ rest.length →
    ((w.compiler.received (w.hears es)).map Completion.generation).count r.generation = 1

theorem mem_turn {w : Workshop} {i : Nat} {e : Incident} {m : Moment} (hm : m ∈ w.turn i e) :
    ∃ disk others, m = w.moment i disk others := by
  rcases e with (⟨h, k⟩ | ⟨j, disk, others⟩) | g
  · exact absurd hm List.not_mem_nil
  · have hm : m ∈ if j = i ∧ i < w.tasks.length then [w.moment i disk others] else [] := hm
    split at hm
    · exact ⟨disk, others, List.mem_singleton.1 hm⟩
    · exact absurd hm List.not_mem_nil
  · exact absurd hm List.not_mem_nil

theorem Sound.cancelled_turns {w : Workshop} (hw : w.Sound) {i : Nat}
    (hc : w.compiler.isCancelled (i + 1) = true) (es : List Incident) :
    ∀ m ∈ w.turns i es, m.cancelled = true := by
  induction es generalizing w with
  | nil => exact fun m hm => absurd hm List.not_mem_nil
  | cons e es ih =>
    have hc' : (w.meet e).compiler.isCancelled (i + 1) = true := by
      rw [compiler_meet]
      exact hw.book.isCancelled_through hc _
    intro m hm
    rcases List.mem_append.1 hm with hm | hm
    · obtain ⟨disk, others, rfl⟩ := mem_turn hm
      exact hc
    · exact ih (hw.meet e) hc' m hm

end Workshop

namespace Setup

open Compiler Workshop

theorem serves (s : Setup) (f : Transform) (capacity : Nat) (es : List Workshop.Incident)
    {i : Nat} {r : Request}
    (hr : ((s.workshop f capacity).through es).compiler.asked[i]? = some r) :
    (s.workshop f capacity).Serves es i r := by
  have hw := s.sound_workshop f capacity
  have he := hw.through es
  obtain ⟨ht, hs⟩ := hw.course_of_run es hr
  have hg : r.generation = i + 1 := by
    rw [← he.requests, List.getElem?_map, Option.map_eq_some_iff] at hr
    obtain ⟨t, hi, rfl⟩ := hr
    exact he.generation_eq hi
  have hrun : (s.workshop f capacity).runAt i r = .submit r f := rfl
  rw [hrun] at ht hs
  have hrec : (s.workshop f capacity).compiler.received ((s.workshop f capacity).hears es)
      = (s.workshop f capacity).compiler.sent ((s.workshop f capacity).hears es) :=
    hw.book.received_eq _
  have hcourse := Task.course r f ((s.workshop f capacity).turns i es)
  refine ⟨?channel, ?course, ?refused, ?served⟩
  case channel =>
    rw [hrec, hg]
    exact hs
  case course =>
    rw [ht]
    exact hcourse
  case refused =>
    rintro before after rfl hc hd
    have hwait := Task.course r f ((s.workshop f capacity).turns i before)
    have hd : (Task.submit r f).deeds ((s.workshop f capacity).turns i before) = [] := hd
    rw [hd] at hwait
    rw [hg] at hc
    have hlate := (hw.through before).cancelled_turns hc after
    have hall : (Task.submit r f).deeds ((s.workshop f capacity).turns i (before ++ after)) = [] := by
      rw [turns_append, Task.deeds_append, hd, Task.deeds_of_cancelled hwait.of_nil.1 hlate]
      rfl
    rw [hall] at hcourse
    exact ⟨hall, hcourse.of_nil.2⟩
  case served =>
    intro ahead m rest hturns hm hrest
    rw [hturns] at ht
    have hdone := Task.done_of_turns (.submit r f) ahead hm hrest
    have hans := (he.done_iff _ (List.mem_of_getElem? ht)).1 hdone
    rw [he.generation_eq ht, ← hg, compiler_through] at hans
    exact (delivers { s with runner := .transform f } _).count_eq_one hans

/-- **Exactly one completion per run, on every path.** Whatever is answered and dropped, and
whichever tokens are cancelled, every run that a runner was asked for and answered or dropped sends
one completion, and its latch is released if and only if that has been sent. In a workshop, whatever
the pool, its other runs and the host do, the runs in the pool are those asked for, each with the
transform; every one takes one of the courses of a task, has the completion of that course, and no
slot once it is over. What is written down as its deeds is all that it asks of its provider and its
transform. -/
theorem one_completion_per_run (s : Setup) :
    (∀ is, s.compiler.Delivers is) ∧
    (∀ (f : Transform) (capacity : Nat) (es : List Workshop.Incident),
      let w₀ := s.workshop f capacity
      let w := w₀.through es
      w.compiler = w₀.compiler.through (w₀.hears es) ∧
      w₀.compiler.Delivers (w₀.hears es) ∧
      w.tasks.map Task.request = w.compiler.asked ∧
      (∀ t ∈ w.tasks, t.transform = f) ∧
      (∀ i r, w.compiler.asked[i]? = some r → w₀.Serves es i r) ∧
      ((∀ r ∈ w.compiler.asked, w.compiler.isAnswered r.generation = true) → w.held = 0)) ∧
    ∀ (t : Task) (m : Moment) disk f,
      (.loaded ∈ t.deed m → t.request.provider.load disk = t.request.provider.load m.disk) →
      (∀ p b, .applied p b ∈ t.deed m → f p b = t.transform p b) →
        { t with transform := f }.turn { m with disk := disk }
          = ({ (t.turn m).1 with transform := f }, (t.turn m).2) := by
  refine ⟨s.delivers, fun f capacity es => ?_, fun t m disk f => t.turn_congr m⟩
  have hw := (s.sound_workshop f capacity).through es
  refine ⟨compiler_through _ es, delivers { s with runner := .transform f } _, hw.requests,
    fun t ht => ?_, fun i r hr => s.serves f capacity es hr, hw.held_eq_zero⟩
  exact (hw.transforms t ht).trans (transform_through _ es)

/-- two runs and one slot: the first is superseded after it has read its source, and lets the
second in. -/
theorem one_completion_per_run_one_slot :
    let blank : Disk := ⟨fun _ => none, fun _ => .error (.code 2)⟩
    let host : Host := ⟨blank, fun _ => ⟨0, false, .unconfigured⟩, fun _ => [], .empty, 7⟩
    let s : Setup := ⟨0, ⟨0, 0⟩, ⟨1000, 200, 1, 30000⟩, ⟨[115]⟩, [⟨[97]⟩], .manual, blank⟩
    let w₀ := s.workshop (fun _ _ => none) 1
    let turn (i : Nat) : Workshop.Incident := .event (.work i blank 0)
    let es : List Workshop.Incident := [.event (.call host (.runContents [1])), turn 0, turn 0,
      .event (.call host (.runContents [2])), turn 1, turn 0, turn 0, turn 1, turn 1, turn 1, turn 1]
    let generations := (w₀.compiler.received (w₀.hears es)).map Completion.generation
    (w₀.through es).tasks.map (fun t => t.request.generation) = [1, 2] ∧
    generations.count 1 = 1 ∧ generations.count 2 = 1 ∧ (w₀.through es).held = 0 := by
  intro blank host s w₀ turn es generations
  obtain ⟨-, hworkshop, -⟩ := one_completion_per_run s
  obtain ⟨-, -, hrequests, -, hserves, hheld⟩ := hworkshop (fun _ _ => none) 1 es
  have hasked : (w₀.through es).compiler.asked.map Request.generation = [1, 2] := by decide
  have hturns : ∀ i : Fin 2, (w₀.turns i es).map (fun m => (m.cancelled, m.slotFree)) =
      [[(false, true), (false, false), (true, false), (true, true)],
        [(false, false), (false, true), (false, false), (false, false), (false, false)]][i] := by
    decide
  refine ⟨?_, ?_, ?_, hheld (by decide)⟩
  · rw [← hasked, ← hrequests, List.map_map]
    rfl
  · obtain ⟨r, _, hr, hg, -⟩ := List.map_eq_cons_iff.1 hasked
    obtain ⟨m, later, hm, hfree, hlater⟩ := List.map_eq_cons_iff.1 (hturns 0)
    have hlength : later.length = 3 := by simpa using congrArg List.length hlater
    have hserved := (hserves 0 r (by rw [hr]; rfl)).served [] m later hm
      (fun hwaits => by simp [hwaits.2] at hfree) (Nat.le_of_eq hlength.symm)
    rwa [hg] at hserved
  · obtain ⟨_, _, hr, -, hmore⟩ := List.map_eq_cons_iff.1 hasked
    obtain ⟨r, _, rfl, hg, -⟩ := List.map_eq_cons_iff.1 hmore
    obtain ⟨waiting, _, hm, -, hafter⟩ := List.map_eq_cons_iff.1 (hturns 1)
    obtain ⟨m, later, rfl, hfree, hlater⟩ := List.map_eq_cons_iff.1 hafter
    have hlength : later.length = 3 := by simpa using congrArg List.length hlater
    have hserved := (hserves 1 r (by rw [hr]; rfl)).served [waiting] m later hm
      (fun hwaits => by simp [hwaits.2] at hfree) (Nat.le_of_eq hlength.symm)
    rwa [hg] at hserved

end Setup
end Regen
