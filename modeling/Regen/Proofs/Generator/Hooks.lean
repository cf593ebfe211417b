import Mathlib.Data.List.Nodup
import Regen.Generator.Execution

/-!
# The hooks of a run

A run of a generator stops at the first stage that fails, and the hooks that it calls tell how far it
came. There are six courses that it can take up to the start of its program, and eight from there on.

* `Generator.Attended`    what a run does once its program was started, and how it ends;
* `Generator.Course`      the same from the beginning;
* `Hook`, `Action.hook?`  the five hooks of a generator, and which of them an action calls;
* `Generator.Protocol`    the calls of hooks that there can be, with the ends that go with them;
* `Generator.obstacles`   what stands in the way of a start, stage by stage.

Main statements: `wait_eq` (the first look that is no vain one decides), `execute_course` (every run
takes one of the courses) and `hooks_in_protocol`.
-/

namespace Regen

def Look.ends : Look → Bool
  | .elapsed cancelled => cancelled
  | _ => true

namespace Outside

/-- the look that ended the wait for the child, if one did. -/
def verdict? (o : Outside) : Option Look := o.looks.find? Look.ends

end Outside

namespace Generator

/-! ## the courses -/

inductive Attended (g : Generator) (o : Outside) (source : Bytes) :
    List Action → Option Outcome → Prop
  | stillborn (hc : o.cancelledAtStart = true) :
      Attended g o source [.killed, .pipesAbandoned] (some (.error .cancelled))
  | waiting (hc : o.cancelledAtStart = false) (hv : o.verdict? = none) :
      Attended g o source [.asked source] none
  | killed (hc : o.cancelledAtStart = false) (hv : o.verdict? = some (.elapsed true)) :
      Attended g o source [.asked source, .killed, .pipesAbandoned] (some (.error .cancelled))
  | lost {error : SystemError} (hc : o.cancelledAtStart = false)
      (hv : o.verdict? = some (.failed error)) :
      Attended g o source [.asked source, .killed, .pipesAbandoned] (some (.error (.wait error)))
  | dropped {status : ExitStatus} (hc : o.cancelledAtStart = false)
      (hv : o.verdict? = some (.exited status)) (hx : o.cancelledAtExit = true) :
      Attended g o source [.asked source, .reaped status, .pipesAbandoned]
        (some (.error .cancelled))
  | reading {status : ExitStatus} (hc : o.cancelledAtStart = false)
      (hv : o.verdict? = some (.exited status)) (hx : o.cancelledAtExit = false)
      (hp : o.pipes = .pending) :
      Attended g o source [.asked source, .reaped status] none
  | abandoned {status : ExitStatus} (hc : o.cancelledAtStart = false)
      (hv : o.verdict? = some (.exited status)) (hx : o.cancelledAtExit = false)
      (hp : o.pipes = .cancelled) :
      Attended g o source [.asked source, .reaped status, .pipesAbandoned]
        (some (.error .cancelled))
  | finished {status : ExitStatus} {stdout stderr : Bytes} (hc : o.cancelledAtStart = false)
      (hv : o.verdict? = some (.exited status)) (hx : o.cancelledAtExit = false)
      (hp : o.pipes = .drained stdout stderr) :
      Attended g o source [.asked source, .reaped status, .pipesEnded, .readIssues stderr,
          .readResult ⟨status, stdout, stderr⟩]
        (some (.ok ⟨g.result ⟨status, stdout, stderr⟩, g.issues stderr⟩))

inductive Course (g : Generator) (o : Outside) : List Action → Option Outcome → Prop
  | noCommand (hc : g.command? = none) : Course g o [] (some (.error .missingCommand))
  | notExecutable {command : Path} (hc : g.command? = some command)
      (he : o.isExecutable command = false) :
      Course g o [.checked command] (some (.error (.notExecutable command)))
  | noContent {command : Path} (hc : g.command? = some command)
      (he : o.isExecutable command = true) (hs : o.source = none) :
      Course g o [.checked command, .loaded] (some (.error .noContent))
  | rejected {command : Path} {source : Bytes} (hc : g.command? = some command)
      (he : o.isExecutable command = true) (hs : o.source = some source)
      (hp : g.prepare source = false) :
      Course g o [.checked command, .loaded, .prepared source false] (some (.error .rejected))
  | notStarted {command : Path} {source : Bytes} {error : SystemError}
      (hc : g.command? = some command) (he : o.isExecutable command = true)
      (hs : o.source = some source) (hp : g.prepare source = true)
      (hx : o.startError = some error) :
      Course g o [.checked command, .loaded, .prepared source true, .startFailed error]
        (some (.error (.spawn command error)))
  | started {command : Path} {source : Bytes} {actions : List Action} {outcome : Option Outcome}
      (hc : g.command? = some command) (he : o.isExecutable command = true)
      (hs : o.source = some source) (hp : g.prepare source = true) (hx : o.startError = none)
      (ha : Attended g o source actions outcome) :
      Course g o ([.checked command, .loaded, .prepared source true, .spawned command] ++ actions)
        outcome

/-! ## every run takes one of them -/

theorem after_actions (actions : List Action) (t : Trace) :
    (Trace.after actions t).actions = actions ++ t.actions := rfl

theorem after_outcome (actions : List Action) (t : Trace) :
    (Trace.after actions t).outcome = t.outcome := rfl

/-- **The first look that is no vain one decides**: the child has exited, or it is killed. -/
theorem wait_eq (g : Generator) (o : Outside) (looks : List Look) : g.wait o looks =
    match looks.find? Look.ends with
    | none => ⟨[], none⟩
    | some (.exited status) => g.afterExit o status
    | some (.failed error) => terminate (.wait error)
    | some (.elapsed _) => terminate .cancelled := by
  induction looks with
  | nil => rfl
  | cons l looks ih =>
    cases l with
    | exited status => rfl
    | failed error => rfl
    | elapsed cancelled =>
      cases cancelled with
      | true => rfl
      | false => exact ih

theorem attended_afterStart (g : Generator) (o : Outside) (source : Bytes) :
    Attended g o source (g.afterStart o source).actions (g.afterStart o source).outcome := by
  unfold afterStart
  cases hc : o.cancelledAtStart with
  | true => exact .stillborn hc
  | false =>
    rw [if_neg Bool.false_ne_true, after_actions, after_outcome, wait_eq]
    cases hv : o.looks.find? Look.ends with
    | none => exact .waiting hc hv
    | some l =>
      cases l with
      | failed error => exact .lost hc hv
      | elapsed cancelled =>
        have hl : cancelled = true := List.find?_some hv
        exact .killed hc (hl ▸ hv)
      | exited status =>
        dsimp only
        unfold afterExit
        rw [after_actions, after_outcome]
        cases hx : o.cancelledAtExit with
        | true => exact .dropped hc hv hx
        | false =>
          cases hp : o.pipes with
          | pending => exact .reading hc hv hx hp
          | cancelled => exact .abandoned hc hv hx hp
          | drained stdout stderr => exact .finished hc hv hx hp

theorem execute_course (g : Generator) (o : Outside) :
    Course g o (g.execute o).actions (g.execute o).outcome := by
  unfold execute
  cases hc : g.command? with
  | none => exact .noCommand hc
  | some command =>
    rw [after_actions, after_outcome]
    cases he : o.isExecutable command with
    | false => exact .notExecutable hc he
    | true =>
      rw [if_pos rfl, after_actions, after_outcome]
      cases hs : o.source with
      | none => exact .noContent hc he hs
      | some source =>
        dsimp only
        unfold afterLoad
        rw [after_actions, after_outcome]
        cases hp : g.prepare source with
        | false => exact .rejected hc he hs hp
        | true =>
          rw [if_pos rfl]
          cases hx : o.startError with
          | some error => exact .notStarted hc he hs hp hx
          | none =>
            dsimp only
            rw [after_actions, after_outcome]
            exact .started hc he hs hp hx (attended_afterStart g o source)

/-! ## the hooks -/

end Generator

inductive Hook where
  | prepareToRun
  | handleStartFailure
  | startedInput
  | parseIssues
  | parseResult
  deriving DecidableEq, Repr

def Action.hook? : Action → Option Hook
  | .prepared _ _ => some .prepareToRun
  | .startFailed _ => some .handleStartFailure
  | .asked _ => some .startedInput
  | .readIssues _ => some .parseIssues
  | .readResult _ => some .parseResult
  | _ => none

namespace Generator

/-- the calls of hooks that a run can make, and the end that goes with them, if it ended. -/
inductive Protocol (g : Generator) (o : Outside) : List Action → Option Outcome → Prop
  | silent {abort : Abort}
      (ha : abort = .missingCommand ∨ (∃ command, abort = .notExecutable command) ∨
        abort = .noContent) : Protocol g o [] (some (.error abort))
  | prepared {source : Bytes} {accepted : Bool} (hs : o.source = some source) :
      Protocol g o [.prepared source accepted]
        (some (.error (if accepted then .cancelled else .rejected)))
  | notStarted {source : Bytes} {command : Path} {error : SystemError}
      (hs : o.source = some source) :
      Protocol g o [.prepared source true, .startFailed error]
        (some (.error (.spawn command error)))
  | going {source : Bytes} (hs : o.source = some source) :
      Protocol g o [.prepared source true, .asked source] none
  | aborted {source : Bytes} {abort : Abort} (hs : o.source = some source)
      (ha : abort = .cancelled ∨ ∃ error, abort = .wait error) :
      Protocol g o [.prepared source true, .asked source] (some (.error abort))
  | finished {source : Bytes} {output : ChildOutput} (hs : o.source = some source) :
      Protocol g o [.prepared source true, .asked source, .readIssues output.stderr,
          .readResult output]
        (some (.ok ⟨g.result output, g.issues output.stderr⟩))

/-- what stands in the way of a start: the aborts of the stages that fail, in the order of the
stages. -/
def obstacles (g : Generator) (o : Outside) : List Abort :=
  (match g.command? with
    | none => [.missingCommand]
    | some command => if o.isExecutable command then [] else [.notExecutable command]) ++
  (match o.source with
    | none => [.noContent]
    | some source => if g.prepare source then [] else [.rejected]) ++
  (match g.command?, o.startError with
    | some command, some error => [.spawn command error]
    | _, _ => [])

section
variable {g : Generator} {o : Outside} {source : Bytes} {actions : List Action}
  {outcome : Option Outcome}

theorem Attended.protocol (h : Attended g o source actions outcome) (hs : o.source = some source) :
    Protocol g o (.prepared source true :: actions.filter Trace.isHook) outcome := by
  cases h with
  | stillborn => exact .prepared hs
  | waiting => exact .going hs
  | killed => exact .aborted hs (.inl rfl)
  | lost => exact .aborted hs (.inr ⟨_, rfl⟩)
  | dropped => exact .aborted hs (.inl rfl)
  | reading => exact .going hs
  | abandoned => exact .aborted hs (.inl rfl)
  | @finished status stdout stderr => exact @Protocol.finished g o source ⟨status, stdout, stderr⟩ hs

theorem Course.protocol (h : Course g o actions outcome) :
    Protocol g o (actions.filter Trace.isHook) outcome := by
  cases h with
  | noCommand => exact .silent (.inl rfl)
  | notExecutable => exact .silent (.inr (.inl ⟨_, rfl⟩))
  | noContent => exact .silent (.inr (.inr rfl))
  | rejected hc he hs => exact .prepared hs
  | notStarted hc he hs => exact .notStarted hs
  | started hc he hs hp hx ha => exact ha.protocol hs

theorem Protocol.nodup {calls : List Action} (h : Protocol g o calls outcome) :
    (calls.map Action.hook?).Nodup := by
  cases h <;> simp [Action.hook?]

/-- **The first obstacle is the end of the run.** -/
theorem Course.obstacle (h : Course g o actions outcome) :
    (∀ abort, (obstacles g o).head? = some abort → outcome = some (.error abort)) ∧
      (obstacles g o = [] ↔ ∃ command, .spawned command ∈ actions) := by
  cases h with
  | noCommand hc => simp [obstacles, hc]
  | notExecutable hc he => simp [obstacles, hc, he]
  | noContent hc he hs => simp [obstacles, hc, he, hs]
  | rejected hc he hs hp => simp [obstacles, hc, he, hs, hp]
  | notStarted hc he hs hp hx => simp [obstacles, hc, he, hs, hp, hx]
  | started hc he hs hp hx => simp [obstacles, hc, he, hs, hp, hx]

theorem Attended.settled (h : Attended g o source actions outcome) :
    .loaded ∉ actions ∧ ∀ command, .spawned command ∉ actions := by
  cases h <;> simp

/-- the source is read when its program has passed the check, and at no other time. -/
theorem Course.loaded_after (h : Course g o actions outcome) {before after : List Action}
    (hl : actions = before ++ .loaded :: after) :
    ∃ command, g.command? = some command ∧ o.isExecutable command = true ∧
      before = [.checked command] := by
  have split {command : Path} {rest : List Action} (hr : .loaded ∉ rest)
      (ha : [.checked command] ++ .loaded :: rest = before ++ .loaded :: after) :
      before = [.checked command] :=
    ((List.append_cons_inj_of_notMem (by simp) hr).mp ha).1.symm
  cases h with
  | noCommand => simp at hl
  | notExecutable => simp [List.cons_eq_append_iff] at hl
  | noContent hc he => exact ⟨_, hc, he, split (by simp) hl⟩
  | rejected hc he => exact ⟨_, hc, he, split (by simp) hl⟩
  | notStarted hc he => exact ⟨_, hc, he, split (by simp) hl⟩
  | started hc he hs hp hx ha => exact ⟨_, hc, he, split (by simpa using ha.settled.1) hl⟩

/-- the program is started when its generator has accepted the source, and at no other time. -/
theorem Course.spawned_after (h : Course g o actions outcome) {before after : List Action}
    {command : Path} (hl : actions = before ++ .spawned command :: after) :
    ∃ source, o.source = some source ∧ g.prepare source = true ∧
      before = [.checked command, .loaded, .prepared source true] := by
  have absent {as : List Action} (hn : .spawned command ∉ as)
      (ha : as = before ++ .spawned command :: after) : False := hn (by simp [ha])
  cases h with
  | noCommand => exact (absent (by simp) hl).elim
  | notExecutable => exact (absent (by simp) hl).elim
  | noContent => exact (absent (by simp) hl).elim
  | rejected => exact (absent (by simp) hl).elim
  | notStarted => exact (absent (by simp) hl).elim
  | started hc he hs hp hx ha =>
    have hl' : [.checked _, .loaded, .prepared _ true] ++ .spawned _ :: _ =
      before ++ .spawned command :: after := hl
    obtain ⟨hb, hcommand, -⟩ :=
      (List.append_cons_inj_of_notMem (by simp) (ha.settled.2 command)).mp hl'
    cases hcommand
    exact ⟨_, hs, hp, hb.symm⟩

end

/-- **The hooks of a run keep to their protocol.** They are called in one of the given orders, with
the bytes that were loaded and printed and with the end that goes with them, and none is called
twice. The first stage that fails gives the abort; if none fails, and only then, the program is
started. The source is read after the program has passed its check, and the program is started
after the generator has accepted the source. -/
theorem hooks_in_protocol (g : Generator) (o : Outside) :
    Protocol g o (g.execute o).hooks (g.execute o).outcome ∧
    ((g.execute o).hooks.map Action.hook?).Nodup ∧
    (∀ abort, (obstacles g o).head? = some abort →
      (g.execute o).outcome = some (.error abort)) ∧
    (obstacles g o = [] ↔ ∃ command, .spawned command ∈ (g.execute o).actions) ∧
    (∀ before after, (g.execute o).actions = before ++ .loaded :: after →
      ∃ command, g.command? = some command ∧ o.isExecutable command = true ∧
        before = [.checked command]) ∧
    (∀ before command after, (g.execute o).actions = before ++ .spawned command :: after →
      ∃ source, o.source = some source ∧ g.prepare source = true ∧
        before = [.checked command, .loaded, .prepared source true]) := by
  have course := execute_course g o
  have protocol : Protocol g o (g.execute o).hooks (g.execute o).outcome := course.protocol
  exact ⟨protocol, protocol.nodup, course.obstacle.1, course.obstacle.2,
    fun _ _ hl => course.loaded_after hl, fun _ _ _ hl => course.spawned_after hl⟩

end Generator
end Regen
