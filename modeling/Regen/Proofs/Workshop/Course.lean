import Regen.Proofs.Workshop.Life

/-!
# The course of an in-process run

A run gets its turns whenever the pool comes to it, and finds things as they are at that moment.
Up to its slot it may be refused; from then on it reads its source, asks its token once more, and
applies the transform. There are eight courses that it can take, four of which end with an answer;
and whatever ends it, it holds no slot afterwards.

* `Moment`            what a run finds at a turn;
* `Deed`              what it does there that others can tell;
* `Task.through`      its turns, one after the other;
* `Task.deeds`, `Task.answers`   what it has done and answered by then;
* `Task.Course`       the courses that there are.

Main statements: `Task.turn_congr` (the deeds of a turn are all that it asks for), `Task.course`
(every run takes one of the courses) and `Task.done_of_turns` (a run is over three turns after the
first one at which it does not have to wait).
-/

namespace Regen

structure Moment where
  disk : Disk
  cancelled : Bool
  slotFree : Bool

def Moment.Waits (m : Moment) : Prop := m.cancelled = false ∧ m.slotFree = false

/-- a run in the queue gets a slot. -/
def Moment.Admits (m : Moment) : Prop := m.cancelled = false ∧ m.slotFree = true

theorem Moment.cases (m : Moment) : m.Waits ∨ m.cancelled = true ∨ m.Admits := by
  unfold Waits Admits
  cases m.cancelled <;> cases m.slotFree <;> simp

inductive Deed where
  | took
  /-- it asks its provider for the bytes of the source. -/
  | loaded
  | applied (source : Path) (bytes : Bytes)
  deriving DecidableEq, Repr

namespace Task

def turn (t : Task) (m : Moment) : Task × Option Outcome := t.step m.disk m.cancelled m.slotFree

def through : Task → List Moment → Task
  | t, [] => t
  | t, m :: ms => (t.turn m).1.through ms

def deed (t : Task) (m : Moment) : List Deed :=
  match t.phase with
  | .queued => if !m.cancelled && m.slotFree then [.took] else []
  | .granted => [.loaded]
  | .loaded _ => []
  | .applying bytes => [.applied t.request.source bytes]
  | .done => []

def answer (t : Task) (m : Moment) : List Outcome := (t.turn m).2.toList

section
variable {α : Type} (g : Task → Moment → List α)

/-- what is written down turn by turn. -/
def log : Task → List Moment → List α
  | _, [] => []
  | t, m :: ms => g t m ++ (t.turn m).1.log ms

theorem log_cons (t : Task) (m : Moment) (ms : List Moment) :
    t.log g (m :: ms) = g t m ++ (t.turn m).1.log g ms := rfl

theorem log_append (t : Task) (ms ns : List Moment) :
    t.log g (ms ++ ns) = t.log g ms ++ (t.through ms).log g ns := by
  induction ms generalizing t with
  | nil => rfl
  | cons m ms ih => rw [List.cons_append, log_cons, log_cons, ih, List.append_assoc]; rfl

end

def deeds (t : Task) (ms : List Moment) : List Deed := t.log deed ms

def answers (t : Task) (ms : List Moment) : List Outcome := t.log answer ms

theorem through_append (t : Task) (ms ns : List Moment) :
    t.through (ms ++ ns) = (t.through ms).through ns := by
  induction ms generalizing t with
  | nil => rfl
  | cons m ms ih => exact ih (t.turn m).1

theorem deeds_append (t : Task) (ms ns : List Moment) :
    t.deeds (ms ++ ns) = t.deeds ms ++ (t.through ms).deeds ns := log_append deed t ms ns

theorem answers_append (t : Task) (ms ns : List Moment) :
    t.answers (ms ++ ns) = t.answers ms ++ (t.through ms).answers ns := log_append answer t ms ns

/-- **The deeds of a turn are all that it asks for.** With another disk and another transform it
comes to the same, if they agree with the old ones on what the run loads and applies there. -/
theorem turn_congr (t : Task) (m : Moment) {disk : Disk} {f : Transform}
    (hl : .loaded ∈ t.deed m → t.request.provider.load disk = t.request.provider.load m.disk)
    (hf : ∀ p b, .applied p b ∈ t.deed m → f p b = t.transform p b) :
    { t with transform := f }.turn { m with disk := disk }
      = ({ (t.turn m).1 with transform := f }, (t.turn m).2) := by
  obtain ⟨r, f', phase⟩ := t
  cases phase with
  | queued => cases hc : m.cancelled <;> cases hs : m.slotFree <;> simp [turn, step, hc, hs]
  | granted =>
    have he := hl List.mem_cons_self
    simp only [turn, step, he]
    cases r.provider.load m.disk <;> rfl
  | loaded bytes => cases hc : m.cancelled <;> simp [turn, step, hc]
  | applying bytes =>
    have he := hf r.source bytes List.mem_cons_self
    simp only [turn, step, apply, he]
  | done => rfl

/-! ## turns at which nothing happens -/

theorem turn_of_waits {t : Task} (hq : t.phase = .queued) {m : Moment} (hm : m.Waits) :
    t.turn m = (t, none) := by simp [turn, step, hq, hm.1, hm.2]

theorem turn_of_done {t : Task} (hd : t.phase = .done) (m : Moment) : t.turn m = (t, none) := by
  simp [turn, step, hd]

theorem idle_of_waits {t : Task} (hq : t.phase = .queued) {ms : List Moment}
    (hm : ∀ m ∈ ms, m.Waits) : t.through ms = t ∧ t.deeds ms = [] ∧ t.answers ms = [] := by
  induction ms with
  | nil => exact ⟨rfl, rfl, rfl⟩
  | cons m ms ih =>
    obtain ⟨hm, hms⟩ := List.forall_mem_cons.1 hm
    obtain ⟨h1, h2, h3⟩ := ih hms
    have ht := turn_of_waits hq hm
    have hd : t.deed m = [] := by simp [deed, hq, hm.1, hm.2]
    simp only [through, deeds, answers, log_cons, answer, ht, hd] at *
    exact ⟨h1, h2, h3⟩

theorem idle_of_done {t : Task} (hd : t.phase = .done) (ms : List Moment) :
    t.through ms = t ∧ t.deeds ms = [] ∧ t.answers ms = [] := by
  induction ms with
  | nil => exact ⟨rfl, rfl, rfl⟩
  | cons m ms ih =>
    have ht := turn_of_done hd m
    have hn : t.deed m = [] := by simp [deed, hd]
    simp only [through, deeds, answers, log_cons, answer, ht, hn] at *
    exact ih

/-! ## the courses -/

/-- the courses that a run can take: its turns, what it has done and answered by then, and whether
it holds a slot. -/
inductive Course (r : Request) (f : Transform) :
    List Moment → List Deed → List Outcome → Bool → Prop
  | waiting {ahead : List Moment} (hw : ∀ m ∈ ahead, m.Waits) : Course r f ahead [] [] false
  | refused {ahead : List Moment} {m : Moment} {rest : List Moment} (hw : ∀ m ∈ ahead, m.Waits)
      (hm : m.cancelled = true) : Course r f (ahead ++ m :: rest) [] [.error .cancelled] false
  | admitted {ahead : List Moment} {m : Moment} (hw : ∀ m ∈ ahead, m.Waits) (hm : m.Admits) :
      Course r f (ahead ++ [m]) [.took] [] true
  | unreadable {ahead : List Moment} {m l : Moment} {rest : List Moment}
      (hw : ∀ m ∈ ahead, m.Waits) (hm : m.Admits) (hl : r.provider.load l.disk = none) :
      Course r f (ahead ++ m :: l :: rest) [.took, .loaded] [.error .noContent] false
  | loaded {ahead : List Moment} {m l : Moment} {bytes : Bytes} (hw : ∀ m ∈ ahead, m.Waits)
      (hm : m.Admits) (hl : r.provider.load l.disk = some bytes) :
      Course r f (ahead ++ [m, l]) [.took, .loaded] [] true
  | cancelled {ahead : List Moment} {m l k : Moment} {bytes : Bytes} {rest : List Moment}
      (hw : ∀ m ∈ ahead, m.Waits) (hm : m.Admits) (hl : r.provider.load l.disk = some bytes)
      (hk : k.cancelled = true) :
      Course r f (ahead ++ m :: l :: k :: rest) [.took, .loaded] [.error .cancelled] false
  | applying {ahead : List Moment} {m l k : Moment} {bytes : Bytes} (hw : ∀ m ∈ ahead, m.Waits)
      (hm : m.Admits) (hl : r.provider.load l.disk = some bytes) (hk : k.cancelled = false) :
      Course r f (ahead ++ [m, l, k]) [.took, .loaded] [] true
  /-- the transform was applied once, and gave output or panicked. -/
  | applied {ahead : List Moment} {m l k a : Moment} {bytes : Bytes} {rest : List Moment}
      (hw : ∀ m ∈ ahead, m.Waits) (hm : m.Admits) (hl : r.provider.load l.disk = some bytes)
      (hk : k.cancelled = false) :
      Course r f (ahead ++ m :: l :: k :: a :: rest)
        [.took, .loaded, .applied r.source bytes]
        [match f r.source bytes with
          | some output => .ok output
          | none => .error .panicked] false

theorem waits_cases (ms : List Moment) : (∀ m ∈ ms, m.Waits) ∨
    ∃ ahead m rest, ms = ahead ++ m :: rest ∧ (∀ m ∈ ahead, m.Waits) ∧ ¬ m.Waits := by
  induction ms with
  | nil => exact .inl fun m hm => absurd hm List.not_mem_nil
  | cons m ms ih =>
    by_cases hm : m.Waits
    · rcases ih with h | ⟨ahead, m', rest, rfl, ha, hn⟩
      · exact .inl (List.forall_mem_cons.2 ⟨hm, h⟩)
      · exact .inr ⟨m :: ahead, m', rest, rfl, List.forall_mem_cons.2 ⟨hm, ha⟩, hn⟩
    · exact .inr ⟨[], m, ms, rfl, fun _ h => absurd h List.not_mem_nil, hm⟩

/-! ## what a turn comes to -/

section
variable {r : Request} {f : Transform} {m : Moment} (ms : List Moment)

theorem course_of_end {t t' : Task} {o : Outcome} (ht : t.turn m = (t', some o))
    (hd : t'.phase = .done) : t.deeds (m :: ms) = t.deed m ∧ t.answers (m :: ms) = [o] ∧
      (t.through (m :: ms)).holds = false := by
  obtain ⟨h1, h2, h3⟩ := idle_of_done hd ms
  have hh : t'.holds = false := by simp [holds, hd]
  simp only [deeds, answers] at h2 h3
  simp only [deeds, answers, through, log_cons, answer, ht, h1, h2, h3, hh, List.append_nil,
    Option.toList_some, and_self]

theorem course_of_step {t t' : Task} (ht : t.turn m = (t', none)) :
    t.deeds (m :: ms) = t.deed m ++ t'.deeds ms ∧ t.answers (m :: ms) = t'.answers ms ∧
      t.through (m :: ms) = t'.through ms := by
  simp only [deeds, answers, through, log_cons, answer, ht, Option.toList_none, List.nil_append,
    and_self]

end

section
variable (r : Request) (f : Transform) {ahead : List Moment} {m l : Moment} {bytes : Bytes}
  (hw : ∀ m ∈ ahead, m.Waits) (hm : m.Admits) (hl : r.provider.load l.disk = some bytes)
  (rest : List Moment)

include hw hm hl in
theorem course_of_source : Course r f (ahead ++ m :: l :: rest)
    (.took :: .loaded :: (⟨r, f, .loaded bytes⟩ : Task).deeds rest)
    ((⟨r, f, .loaded bytes⟩ : Task).answers rest)
    ((⟨r, f, .loaded bytes⟩ : Task).through rest).holds := by
  rcases rest with - | ⟨k, rest⟩
  · exact .loaded hw hm hl
  cases hk : k.cancelled with
  | true =>
    have ht : (⟨r, f, .loaded bytes⟩ : Task).turn k = (⟨r, f, .done⟩, some (.error .cancelled)) := by
      simp [turn, step, hk]
    obtain ⟨hd, ha, hh⟩ := course_of_end rest ht rfl
    rw [hd, ha, hh]
    exact .cancelled hw hm hl hk
  | false =>
    have ht : (⟨r, f, .loaded bytes⟩ : Task).turn k = (⟨r, f, .applying bytes⟩, none) := by
      simp [turn, step, hk]
    obtain ⟨hd, ha, hh⟩ := course_of_step rest ht
    rw [hd, ha, hh]
    rcases rest with - | ⟨a, rest⟩
    · exact .applying hw hm hl hk
    · obtain ⟨hd, ha, hh⟩ := course_of_end (t := ⟨r, f, .applying bytes⟩) (m := a) rest rfl rfl
      rw [hd, ha, hh]
      exact .applied hw hm hl hk

include hw hm in
theorem course_of_slot : Course r f (ahead ++ m :: rest)
    (.took :: (⟨r, f, .granted⟩ : Task).deeds rest) ((⟨r, f, .granted⟩ : Task).answers rest)
    ((⟨r, f, .granted⟩ : Task).through rest).holds := by
  rcases rest with - | ⟨l, rest⟩
  · exact .admitted hw hm
  cases hl : r.provider.load l.disk with
  | none =>
    have ht : (⟨r, f, .granted⟩ : Task).turn l = (⟨r, f, .done⟩, some (.error .noContent)) := by
      simp [turn, step, hl]
    obtain ⟨hd, ha, hh⟩ := course_of_end rest ht rfl
    rw [hd, ha, hh]
    exact .unreadable hw hm hl
  | some bytes =>
    have ht : (⟨r, f, .granted⟩ : Task).turn l = (⟨r, f, .loaded bytes⟩, none) := by
      simp [turn, step, hl]
    obtain ⟨hd, ha, hh⟩ := course_of_step rest ht
    rw [hd, ha, hh]
    exact course_of_source r f hw hm hl rest

end

/-- **Every run takes one of the courses.** -/
theorem course (r : Request) (f : Transform) (ms : List Moment) :
    Course r f ms ((submit r f).deeds ms) ((submit r f).answers ms)
      ((submit r f).through ms).holds := by
  rcases waits_cases ms with hw | ⟨ahead, m, rest, rfl, hw, hn⟩
  · obtain ⟨ht, hd, ha⟩ := idle_of_waits (t := submit r f) rfl hw
    rw [ht, hd, ha]
    exact .waiting hw
  obtain ⟨ht, hd, ha⟩ := idle_of_waits (t := submit r f) rfl hw
  rw [deeds_append, answers_append, through_append, ht, hd, ha, List.nil_append, List.nil_append]
  rcases m.cases.resolve_left hn with hc | hm
  · have ht : (submit r f).turn m = (⟨r, f, .done⟩, some (.error .cancelled)) := by
      simp [turn, step, submit, hc]
    have hnone : (submit r f).deed m = [] := by simp [deed, submit, hc]
    obtain ⟨hd, ha, hh⟩ := course_of_end rest ht rfl
    rw [hd, ha, hh, hnone]
    exact .refused hw hc
  · have ht : (submit r f).turn m = (⟨r, f, .granted⟩, none) := by
      simp [turn, step, submit, hm.1, hm.2]
    have htook : (submit r f).deed m = [.took] := by simp [deed, submit, hm.1, hm.2]
    obtain ⟨hd, ha, hh⟩ := course_of_step rest ht
    rw [hd, ha, hh, htook]
    exact course_of_slot r f hw hm rest

/-- a run that has done nothing has no slot, and is not over unless it was cancelled. -/
theorem Course.of_nil {r : Request} {f : Transform} {ms : List Moment} {os : List Outcome}
    {holds : Bool} (h : Course r f ms [] os holds) :
    holds = false ∧ ∀ o ∈ os, o = .error .cancelled := by
  cases h with
  | waiting hw => exact ⟨rfl, fun o ho => absurd ho List.not_mem_nil⟩
  | refused hw hm => exact ⟨rfl, fun o ho => List.mem_singleton.1 ho⟩

theorem deeds_of_cancelled {t : Task} (ht : t.holds = false) {ms : List Moment}
    (hm : ∀ m ∈ ms, m.cancelled = true) : t.deeds ms = [] := by
  obtain ⟨r, f, phase⟩ := t
  cases phase with
  | done => exact (idle_of_done rfl ms).2.1
  | granted | loaded | applying => exact Bool.noConfusion ht
  | queued =>
    rcases ms with - | ⟨m, ms⟩
    · rfl
    · have hc : m.cancelled = true := hm m List.mem_cons_self
      have ht : (⟨r, f, .queued⟩ : Task).turn m = (⟨r, f, .done⟩, some (.error .cancelled)) := by
        simp [turn, step, hc]
      rw [(course_of_end ms ht rfl).1]
      simp [deed, hc]

/-! ## how long it takes -/

/-- a turn brings a run nearer to its end, unless it waits. -/
theorem left_turn_le (t : Task) (m : Moment) (h : t.phase ≠ .queued ∨ ¬ m.Waits) :
    (t.turn m).1.left ≤ t.left - 1 := by
  unfold turn
  rcases t.step_cases m.disk m.cancelled m.slotFree with
    ⟨he, hd | ⟨hq, hw⟩⟩ | ⟨phase, he, -, hlt⟩ | ⟨o, he, -⟩ <;> rw [he]
  · have hz : t.left = 0 := (left_eq_zero_iff t).2 hd
    show t.left ≤ t.left - 1
    omega
  · exact absurd hw (h.resolve_left (not_not_intro hq))
  · exact Nat.le_sub_one_of_lt hlt
  · exact Nat.zero_le _

theorem left_through_le (t : Task) (h : t.left ≤ 3) (ms : List Moment) :
    (t.through ms).left ≤ t.left - ms.length := by
  induction ms generalizing t with
  | nil => exact Nat.le_refl _
  | cons m ms ih =>
    have hq : t.phase ≠ .queued := fun hq => by simp [left, hq] at h
    have h1 := t.left_turn_le m (.inl hq)
    have h2 := ih (t.turn m).1 (by omega)
    rw [through, List.length_cons]
    omega

/-- **A run is over three turns after the first one at which it need not wait.** -/
theorem done_of_turns (t : Task) (ahead : List Moment) {m : Moment} (hm : ¬ m.Waits)
    {rest : List Moment} (hr : 3 ≤ rest.length) :
    (t.through (ahead ++ m :: rest)).phase = .done := by
  rw [through_append, ← left_eq_zero_iff]
  -- four steps are left at most, one of them is done now, and each turn that follows does one
  have h4 : (t.through ahead).left ≤ 4 := by
    unfold left
    split <;> omega
  have h1 := (t.through ahead).left_turn_le m (.inr hm)
  have h2 := left_through_le ((t.through ahead).turn m).1 (by omega) rest
  rw [through]
  omega

end Task
end Regen
