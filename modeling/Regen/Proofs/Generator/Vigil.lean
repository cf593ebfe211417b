import Mathlib.Data.List.Induction
import Regen.Proofs.Generator.Hooks

/-!
# Watching a child

While its child runs, a run gets a turn now and then, and between two turns anything can happen: the
child exits, its pipes end, the poll interval goes by, the token is cancelled. What a run finds at its
turns are the answers of the outside world, so every order of happenings and turns makes a run of its
own.

* `Happening`          what happens while a child is watched, the turns of the run among it;
* `Vigil`              what has happened so far, and what the run has seen of it;
* `Outside.watching`   an outside world whose answers come from what happened;
* `Vigil.Standing`     how far a run can have come, with what it knows there;
* `Vigil.needs`        what a cancelled run still waits for.

Main statements: `standing_step`, `returned_of_cancelled` (an interval and two turns end a cancelled run)
and `Generator.cleans_up_after_child`.
-/

namespace Regen

inductive Happening where
  | cancel
  | exit (status : ExitStatus)
  | lose (error : SystemError)
  | endStdout (bytes : Bytes)
  | endStderr (bytes : Bytes)
  | interval
  | turn
  deriving DecidableEq

/-- how far a run has come with its child. -/
inductive Vigil.Stage where
  | waiting
  /-- an interval has gone by; its token is to be looked at. -/
  | lapsed
  /-- the exit was seen; its token is to be looked at. -/
  | exited
  | reading
  | returned
  deriving DecidableEq, Repr

/-- what has happened to a child and to the token of its run, and what the run has seen of it. -/
structure Vigil where
  cancelled : Bool
  exit : Option (Except SystemError ExitStatus)
  stdout : Option Bytes
  stderr : Option Bytes
  elapsed : Bool
  stage : Vigil.Stage
  looks : List Look
  cancelledAtExit : Bool
  pipes : Drain

namespace Vigil

/-- the child was just started, and its token was not cancelled. -/
def start : Vigil := ⟨false, none, none, none, false, .waiting, [], false, .pending⟩

/-- the run gets a turn: an exit comes before the end of an interval, a cancelled token before the
end of the pipes. -/
def turn (v : Vigil) : Vigil :=
  match v.stage with
  | .waiting =>
    match v.exit with
    | some (.ok status) => { v with looks := v.looks ++ [.exited status], stage := .exited }
    | some (.error e) => { v with looks := v.looks ++ [.failed e], stage := .returned }
    | none => if v.elapsed then { v with stage := .lapsed } else v
  | .lapsed =>
    { v with
        looks := v.looks ++ [.elapsed v.cancelled]
        elapsed := false
        stage := if v.cancelled then .returned else .waiting }
  | .exited =>
    { v with cancelledAtExit := v.cancelled, stage := if v.cancelled then .returned else .reading }
  | .reading =>
    if v.cancelled then { v with pipes := .cancelled, stage := .returned }
    else
      match v.stdout, v.stderr with
      | some stdout, some stderr => { v with pipes := .drained stdout stderr, stage := .returned }
      | _, _ => v
  | .returned => v

def step (v : Vigil) : Happening → Vigil
  | .cancel => { v with cancelled := true }
  | .exit status => { v with exit := v.exit <|> some (.ok status) }
  | .lose e => { v with exit := v.exit <|> some (.error e) }
  | .endStdout bytes => { v with stdout := v.stdout <|> some bytes }
  | .endStderr bytes => { v with stderr := v.stderr <|> some bytes }
  | .interval => { v with elapsed := true }
  | .turn => v.turn

def through (v : Vigil) (es : List Happening) : Vigil := es.foldl step v

/-- the look that ended the wait for the child, if one did. -/
def verdict? (v : Vigil) : Option Look := v.looks.find? Look.ends

end Vigil

def Outside.watching (o : Outside) (es : List Happening) : Outside :=
  let v := Vigil.start.through es
  { o with looks := v.looks, cancelledAtExit := v.cancelledAtExit, pipes := v.pipes }

namespace Vigil

variable {v w : Vigil} {es : List Happening} {e : Happening}

/-! ## what has happened -/

theorem through_cons (v : Vigil) (e : Happening) (es : List Happening) :
    v.through (e :: es) = (v.step e).through es := rfl

theorem through_append (v : Vigil) (es more : List Happening) :
    v.through (es ++ more) = (v.through es).through more := List.foldl_append

theorem through_snoc (v : Vigil) (es : List Happening) (e : Happening) :
    v.through (es ++ [e]) = (v.through es).step e := List.foldl_concat ..

theorem turn_world (v : Vigil) :
    v.turn.cancelled = v.cancelled ∧ v.turn.exit = v.exit ∧ v.turn.stdout = v.stdout ∧
      v.turn.stderr = v.stderr := by
  unfold turn
  repeat' split
  all_goals exact ⟨rfl, rfl, rfl, rfl⟩

/-- all that is known about the world happened. -/
structure Happened (es : List Happening) (v : Vigil) : Prop where
  cancelled : v.cancelled = true ↔ .cancel ∈ es
  exit : ∀ status, v.exit = some (.ok status) → .exit status ∈ es
  lost : ∀ error, v.exit = some (.error error) → .lose error ∈ es
  stdout : ∀ bytes, v.stdout = some bytes → .endStdout bytes ∈ es
  stderr : ∀ bytes, v.stderr = some bytes → .endStderr bytes ∈ es

theorem happened_step (h : Happened es v) (e : Happening) : Happened (es ++ [e]) (v.step e) := by
  obtain ⟨hc, hx, hl, ho, hr⟩ := h
  cases e with
  | turn =>
    obtain ⟨tc, tx, hto, htr⟩ := v.turn_world
    constructor <;> simp_all [step]
  | exit status => constructor <;> cases hv : v.exit <;> simp_all [step]
  | lose error => constructor <;> cases hv : v.exit <;> simp_all [step]
  | endStdout bytes => constructor <;> cases hv : v.stdout <;> simp_all [step]
  | endStderr bytes => constructor <;> cases hv : v.stderr <;> simp_all [step]
  | cancel => constructor <;> simp_all [step]
  | interval => constructor <;> simp_all [step]

theorem happened (es : List Happening) : Happened es (start.through es) := by
  induction es using List.reverseRecOn with
  | nil => constructor <;> simp [through, start]
  | append_singleton es e ih => rw [through_snoc]; exact happened_step ih e

/-! ## how far a run has come -/

/-- how far a run can have come with its child after so much has happened, and what it has seen by
then. -/
inductive Standing (es : List Happening) (v : Vigil) : Prop
  | waiting (hs : v.stage = .waiting ∨ v.stage = .lapsed) (hv : v.verdict? = none)
      (hx : v.cancelledAtExit = false) (hp : v.pipes = .pending)
  | exited {status : ExitStatus} (hs : v.stage = .exited ∨ v.stage = .reading)
      (he : .exit status ∈ es) (hv : v.verdict? = some (.exited status))
      (hx : v.cancelledAtExit = false) (hp : v.pipes = .pending)
  | killed (hs : v.stage = .returned) (hc : .cancel ∈ es) (hv : v.verdict? = some (.elapsed true))
  | lost {error : SystemError} (hs : v.stage = .returned) (he : .lose error ∈ es)
      (hv : v.verdict? = some (.failed error))
  | dropped {status : ExitStatus} (hs : v.stage = .returned) (hc : .cancel ∈ es)
      (hv : v.verdict? = some (.exited status)) (hx : v.cancelledAtExit = true)
  | abandoned {status : ExitStatus} (hs : v.stage = .returned) (hc : .cancel ∈ es)
      (hv : v.verdict? = some (.exited status)) (hx : v.cancelledAtExit = false)
      (hp : v.pipes = .cancelled)
  /-- it had not been cancelled at the turn at which it saw the end of the pipes. -/
  | finished {status : ExitStatus} {stdout stderr : Bytes} {before after : List Happening}
      (hs : v.stage = .returned) (hes : es = before ++ .turn :: after) (hc : .cancel ∉ before)
      (he : .exit status ∈ before) (ho : .endStdout stdout ∈ before)
      (hr : .endStderr stderr ∈ before) (hv : v.verdict? = some (.exited status))
      (hx : v.cancelledAtExit = false) (hp : v.pipes = .drained stdout stderr)

theorem standing_start : Standing [] start := .waiting (.inl rfl) rfl rfl rfl

/-- whatever happens, a run stands where it stood as long as it has seen nothing of it. -/
theorem Standing.of_seen (h : Standing es v) (e : Happening) (hs : w.stage = v.stage)
    (hl : w.looks = v.looks) (hx : w.cancelledAtExit = v.cancelledAtExit)
    (hp : w.pipes = v.pipes) : Standing (es ++ [e]) w := by
  have hv : w.verdict? = v.verdict? := congrArg (List.find? Look.ends) hl
  have grow {x : Happening} (hm : x ∈ es) : x ∈ es ++ [e] := List.mem_append_left _ hm
  cases h with
  | waiting hs' hv' hx' hp' =>
    exact .waiting (hs ▸ hs') (hv ▸ hv') (hx ▸ hx') (hp ▸ hp')
  | exited hs' he hv' hx' hp' =>
    exact .exited (hs ▸ hs') (grow he) (hv ▸ hv') (hx ▸ hx') (hp ▸ hp')
  | killed hs' hc hv' => exact .killed (hs ▸ hs') (grow hc) (hv ▸ hv')
  | lost hs' he hv' => exact .lost (hs ▸ hs') (grow he) (hv ▸ hv')
  | dropped hs' hc hv' hx' => exact .dropped (hs ▸ hs') (grow hc) (hv ▸ hv') (hx ▸ hx')
  | abandoned hs' hc hv' hx' hp' =>
    exact .abandoned (hs ▸ hs') (grow hc) (hv ▸ hv') (hx ▸ hx') (hp ▸ hp')
  | @finished _ _ _ before after hs' hes hc he ho hr hv' hx' hp' =>
    have hes' : es ++ [e] = before ++ .turn :: (after ++ [e]) := by simp [hes]
    exact .finished (hs ▸ hs') hes' hc he ho hr (hv ▸ hv') (hx ▸ hx') (hp ▸ hp')

/-! ## one turn -/

theorem turn_of_returned (hs : v.stage = .returned) : v.turn = v := by simp [turn, hs]

theorem verdict?_snoc (hv : v.verdict? = none) (l : Look) :
    (v.looks ++ [l]).find? Look.ends = if l.ends then some l else none := by
  have hl : v.looks.find? Look.ends = none := hv
  rw [List.find?_append, hl, List.find?_singleton]
  rfl

theorem standing_turn_waiting (hw : Happened es v) (hs : v.stage = .waiting)
    (hv : v.verdict? = none) (hx : v.cancelledAtExit = false) (hp : v.pipes = .pending) :
    Standing (es ++ [.turn]) v.turn := by
  rcases he : v.exit with _ | error | status
  · cases ht : v.elapsed with
    | false =>
      have hturn : v.turn = v := by simp [turn, hs, he, ht]
      rw [hturn]
      exact .waiting (.inl hs) hv hx hp
    | true =>
      have hturn : v.turn = { v with stage := .lapsed } := by simp [turn, hs, he, ht]
      rw [hturn]
      exact .waiting (.inr rfl) hv hx hp
  · have hturn : v.turn = { v with looks := v.looks ++ [.failed error], stage := .returned } := by
      simp [turn, hs, he]
    rw [hturn]
    exact .lost rfl (List.mem_append_left _ (hw.lost error he)) (verdict?_snoc hv _)
  · have hturn : v.turn = { v with looks := v.looks ++ [.exited status], stage := .exited } := by
      simp [turn, hs, he]
    rw [hturn]
    exact .exited (.inl rfl) (List.mem_append_left _ (hw.exit status he)) (verdict?_snoc hv _) hx hp

theorem standing_turn_lapsed (hw : Happened es v) (hs : v.stage = .lapsed)
    (hv : v.verdict? = none) (hx : v.cancelledAtExit = false) (hp : v.pipes = .pending) :
    Standing (es ++ [.turn]) v.turn := by
  have hturn : v.turn =
      { v with
          looks := v.looks ++ [.elapsed v.cancelled]
          elapsed := false
          stage := if v.cancelled then .returned else .waiting } := by simp [turn, hs]
  rw [hturn]
  cases hc : v.cancelled with
  | true =>
    exact .killed rfl (List.mem_append_left _ (hw.cancelled.mp hc))
      (verdict?_snoc hv (.elapsed true))
  | false => exact .waiting (.inl rfl) (verdict?_snoc hv (.elapsed false)) hx hp

theorem standing_turn_exited {status : ExitStatus} (hw : Happened es v) (hs : v.stage = .exited)
    (he : .exit status ∈ es) (hv : v.verdict? = some (.exited status))
    (hp : v.pipes = .pending) : Standing (es ++ [.turn]) v.turn := by
  have hturn : v.turn =
      { v with cancelledAtExit := v.cancelled,
               stage := if v.cancelled then .returned else .reading } := by simp [turn, hs]
  rw [hturn]
  cases hc : v.cancelled with
  | true => exact .dropped rfl (List.mem_append_left _ (hw.cancelled.mp hc)) hv rfl
  | false => exact .exited (.inr rfl) (List.mem_append_left _ he) hv rfl hp

theorem standing_turn_reading {status : ExitStatus} (hw : Happened es v) (hs : v.stage = .reading)
    (he : .exit status ∈ es) (hv : v.verdict? = some (.exited status))
    (hx : v.cancelledAtExit = false) (hp : v.pipes = .pending) :
    Standing (es ++ [.turn]) v.turn := by
  cases hc : v.cancelled with
  | true =>
    have hturn : v.turn = { v with pipes := .cancelled, stage := .returned } := by
      simp [turn, hs, hc]
    rw [hturn]
    exact .abandoned rfl (List.mem_append_left _ (hw.cancelled.mp hc)) hv hx rfl
  | false =>
    have still (hturn : v.turn = v) : Standing (es ++ [.turn]) v.turn := by
      rw [hturn]
      exact .exited (.inr hs) (List.mem_append_left _ he) hv hx hp
    cases ho : v.stdout with
    | none => exact still (by simp [turn, hs, hc, ho])
    | some stdout =>
      cases hr : v.stderr with
      | none => exact still (by simp [turn, hs, hc, hr])
      | some stderr =>
        have hturn : v.turn = { v with pipes := .drained stdout stderr, stage := .returned } := by
          simp [turn, hs, hc, ho, hr]
        have hcancel : .cancel ∉ es := by simp [← hw.cancelled, hc]
        rw [hturn]
        exact .finished rfl rfl hcancel he (hw.stdout _ ho) (hw.stderr _ hr) hv hx rfl

/-- **One turn**: the run looks at one thing, and goes on or returns. -/
theorem standing_turn (h : Standing es v) (hw : Happened es v) :
    Standing (es ++ [.turn]) v.turn := by
  have stays (hs : v.stage = .returned) : Standing (es ++ [.turn]) v.turn := by
    rw [turn_of_returned hs]
    exact h.of_seen .turn rfl rfl rfl rfl
  cases h with
  | waiting hs hv hx hp =>
    obtain hs | hs := hs
    · exact standing_turn_waiting hw hs hv hx hp
    · exact standing_turn_lapsed hw hs hv hx hp
  | exited hs he hv hx hp =>
    obtain hs | hs := hs
    · exact standing_turn_exited hw hs he hv hp
    · exact standing_turn_reading hw hs he hv hx hp
  | killed hs => exact stays hs
  | lost hs => exact stays hs
  | dropped hs => exact stays hs
  | abandoned hs => exact stays hs
  | finished hs => exact stays hs

theorem standing_step (h : Standing es v) (hw : Happened es v) (e : Happening) :
    Standing (es ++ [e]) (v.step e) := by
  cases e with
  | turn => exact standing_turn h hw
  | _ => exact h.of_seen _ rfl rfl rfl rfl

theorem standing (es : List Happening) : Standing es (start.through es) := by
  induction es using List.reverseRecOn with
  | nil => exact standing_start
  | append_singleton es e ih => rw [through_snoc]; exact standing_step ih (happened es) e

/-! ## the end -/

theorem seen_of_returned (hs : v.stage = .returned) (es : List Happening) :
    (v.through es).stage = .returned ∧ (v.through es).looks = v.looks ∧
      (v.through es).cancelledAtExit = v.cancelledAtExit ∧ (v.through es).pipes = v.pipes := by
  induction es using List.reverseRecOn with
  | nil => exact ⟨hs, rfl, rfl, rfl⟩
  | append_singleton es e ih =>
    rw [through_snoc]
    cases e with
    | turn => rw [step, turn_of_returned ih.1]; exact ih
    | _ => exact ih

def needs (v : Vigil) : List Happening :=
  match v.stage with
  | .waiting => if v.elapsed then [.turn, .turn] else [.interval, .turn, .turn]
  | .returned => []
  | _ => [.turn]

theorem cancelled_step (hc : v.cancelled = true) (e : Happening) : (v.step e).cancelled = true := by
  cases e with
  | turn => exact v.turn_world.1.trans hc
  | cancel => rfl
  | _ => exact hc

theorem needs_step_sublist (hc : v.cancelled = true) (e : Happening) :
    (v.step e).needs.Sublist v.needs := by
  cases e with
  | turn =>
    cases hs : v.stage with
    | waiting =>
      rcases he : v.exit with _ | _ | _ <;> cases ht : v.elapsed <;>
        simp [needs, step, turn, hs, he, ht]
    | _ => simp [needs, step, turn, hs, hc]
  | interval =>
    cases hs : v.stage with
    | waiting => cases ht : v.elapsed <;> simp [needs, step, hs, ht]
    | _ => simp [needs, step, hs]
  | _ => exact .refl _

theorem needs_step_of_head (hc : v.cancelled = true) {rest : List Happening}
    (h : v.needs = e :: rest) : (v.step e).needs.Sublist rest := by
  cases hs : v.stage with
  | waiting =>
    cases ht : v.elapsed with
    | false =>
      obtain ⟨rfl, rfl⟩ : .interval = e ∧ [.turn, .turn] = rest := by simpa [needs, hs, ht] using h
      simp [needs, step, hs]
    | true =>
      obtain ⟨rfl, rfl⟩ : .turn = e ∧ [.turn] = rest := by simpa [needs, hs, ht] using h
      rcases he : v.exit with _ | _ | _ <;> simp [needs, step, turn, hs, he, ht]
  | returned => simp [needs, hs] at h
  | _ =>
    obtain ⟨rfl, rfl⟩ : .turn = e ∧ [] = rest := by simpa [needs, hs] using h
    simp [needs, step, turn, hs, hc]

theorem returned_of_needs_nil (h : v.needs = []) : v.stage = .returned := by
  unfold needs at h
  split at h
  · split at h <;> simp at h
  · assumption
  · simp at h

/-- **A cancelled run ends**, whatever its child does: an interval and two turns are enough. -/
theorem returned_of_cancelled (hc : v.cancelled = true) (h : v.needs.Sublist es) :
    (v.through es).stage = .returned := by
  induction es generalizing v with
  | nil => exact returned_of_needs_nil (List.sublist_nil.mp h)
  | cons e es ih =>
    refine ih (cancelled_step hc e) ?_
    obtain h | ⟨rest, hn, h⟩ := List.sublist_cons_iff.mp h
    · exact (needs_step_sublist hc e).trans h
    · exact (needs_step_of_head hc hn).trans h

theorem not_drained_of_cancelled (hc : v.cancelled = true) {stdout stderr : Bytes}
    (hp : v.pipes ≠ .drained stdout stderr) (es : List Happening) :
    (v.through es).pipes ≠ .drained stdout stderr := by
  induction es generalizing v with
  | nil => exact hp
  | cons e es ih =>
    refine ih (cancelled_step hc e) ?_
    cases e with
    | turn =>
      cases hs : v.stage with
      | waiting =>
        rcases he : v.exit with _ | _ | _ <;> cases ht : v.elapsed <;>
          simpa [step, turn, hs, he, ht] using hp
      | reading => simp [step, turn, hs, hc]
      | _ => simpa [step, turn, hs] using hp
    | _ => exact hp

theorem needs_sublist (v : Vigil) : v.needs.Sublist [.interval, .turn, .turn] := by
  unfold needs
  split
  · split <;> decide
  · decide
  · decide

/-- **Cancelled at some moment, a run ends without an answer**, an interval and two turns later at the
latest. -/
theorem cancelled_through {before after : List Happening}
    (hs : (start.through before).stage ≠ .returned) :
    (∀ stdout stderr,
      (start.through (before ++ .cancel :: after)).pipes ≠ .drained stdout stderr) ∧
    ([.interval, .turn, .turn].Sublist after →
      (start.through (before ++ .cancel :: after)).stage = .returned) := by
  rw [through_append, through_cons]
  have hc : ((start.through before).step .cancel).cancelled = true := rfl
  refine ⟨fun stdout stderr => not_drained_of_cancelled hc ?_ after,
    fun h => returned_of_cancelled hc ((needs_sublist _).trans h)⟩
  have hp : (start.through before).pipes = .pending := by
    cases standing before with
    | waiting _ _ _ hp => exact hp
    | exited _ _ _ _ hp => exact hp
    | _ hs' => exact absurd hs' hs
  rw [step, hp]
  exact Drain.noConfusion

theorem lose_mem {error : SystemError} (hv : (start.through es).verdict? = some (.failed error)) :
    .lose error ∈ es := by
  cases standing es <;> simp_all

theorem exists_last_turn {stdout stderr : Bytes} {status : ExitStatus}
    (hv : (start.through es).verdict? = some (.exited status))
    (hx : (start.through es).cancelledAtExit = false)
    (hp : (start.through es).pipes = .drained stdout stderr) :
    ∃ before after, es = before ++ .turn :: after ∧ .cancel ∉ before ∧ .exit status ∈ before ∧
      .endStdout stdout ∈ before ∧ .endStderr stderr ∈ before := by
  cases standing es with
  | @finished _ _ _ before after hs hes hc he ho hr hv' hx' hp' =>
    refine ⟨before, after, hes, hc, ?_⟩
    simp_all
  | _ => simp_all

end Vigil

/-! ## the run -/

/-- whether a run still waits for an answer once its child was started. -/
def Outside.Awaits (o : Outside) : Prop :=
  o.verdict? = none ∨
    (∃ status, o.verdict? = some (.exited status)) ∧ o.cancelledAtExit = false ∧ o.pipes = .pending

theorem Vigil.awaits_iff (o : Outside) (es : List Happening) :
    (o.watching es).Awaits ↔ (start.through es).stage ≠ .returned := by
  have hv : (o.watching es).verdict? = (start.through es).verdict? := rfl
  have hx : (o.watching es).cancelledAtExit = (start.through es).cancelledAtExit := rfl
  have hp : (o.watching es).pipes = (start.through es).pipes := rfl
  unfold Outside.Awaits
  rw [hv, hx, hp]
  cases Vigil.standing es with
  | waiting hs hv => obtain hs | hs := hs <;> simp [hs, hv]
  | exited hs he hv hx hp => obtain hs | hs := hs <;> simp [hs, hv, hx, hp]
  | killed hs hc hv => simp [hs, hv]
  | lost hs he hv => simp [hs, hv]
  | dropped hs hc hv hx => simp [hs, hv, hx]
  | abandoned hs hc hv hx hp => simp [hs, hv, hx, hp]
  | finished hs hes hc he ho hr hv hx hp => simp [hs, hv, hx, hp]

namespace Generator

variable {g : Generator} {o : Outside} {source : Bytes} {actions : List Action}
  {outcome : Option Outcome} {command : Path}

/-- a run that started its program did what a started run does, and nothing else after that. -/
theorem attended_of_spawned (h : .spawned command ∈ (g.execute o).actions) :
    ∃ source actions, Attended g o source actions (g.execute o).outcome ∧
      (g.execute o).actions =
        [.checked command, .loaded, .prepared source true, .spawned command] ++ actions := by
  have course := execute_course g o
  generalize (g.execute o).actions = all at *
  generalize (g.execute o).outcome = outcome at *
  cases course with
  | started hc he hs hp hx ha =>
    refine ⟨_, _, ha, ?_⟩
    have hm := ha.settled.2 command
    simp_all
  | _ => simp at h

theorem spawned_of_none (h : (g.execute o).outcome = none) :
    ∃ command, .spawned command ∈ (g.execute o).actions := by
  have course := execute_course g o
  rw [h] at course
  generalize (g.execute o).actions = all at *
  cases course with
  | @started command => exact ⟨command, by simp⟩

theorem Attended.none_iff (h : Attended g o source actions outcome) :
    outcome = none ↔ o.cancelledAtStart = false ∧ o.Awaits := by
  unfold Outside.Awaits
  cases h <;> simp_all

/-- whatever ends a run, its child is gone then and its pipes are let go of. -/
theorem Attended.released (h : Attended g o source actions outcome) (ho : outcome ≠ none) :
    (.killed ∈ actions ∨ ∃ status, .reaped status ∈ actions) ∧
      (.pipesEnded ∈ actions ∨ .pipesAbandoned ∈ actions) := by
  cases h <;> simp_all

theorem Attended.answered {output : Output} (h : Attended g o source actions outcome)
    (ho : outcome = some (.ok output)) :
    ∃ status stdout stderr, o.cancelledAtStart = false ∧ o.verdict? = some (.exited status) ∧
      o.cancelledAtExit = false ∧ o.pipes = .drained stdout stderr ∧ .reaped status ∈ actions ∧
      .pipesEnded ∈ actions ∧ output = ⟨g.result ⟨status, stdout, stderr⟩, g.issues stderr⟩ := by
  cases h <;> simp_all

theorem Attended.aborted {abort : Abort} (h : Attended g o source actions outcome)
    (ho : outcome = some (.error abort)) :
    abort = .cancelled ∨
      ∃ error, o.verdict? = some (.failed error) ∧ abort = .wait error := by
  cases h <;> simp_all

theorem Attended.cancelled (h : Attended g o source actions outcome)
    (hc : o.cancelledAtStart = true) : outcome = some (.error .cancelled) := by
  cases h <;> simp_all

theorem execute_of_cancelledAtStart (hc : o.cancelledAtStart = true) (es : List Happening) :
    g.execute (o.watching es) = g.execute o := by
  have hw : (o.watching es).cancelledAtStart = true := hc
  simp only [execute, afterLoad, afterStart, hc, hw]
  rfl

theorem watching_of_returned {es : List Happening}
    (hs : (Vigil.start.through es).stage = .returned) (more : List Happening) :
    o.watching (es ++ more) = o.watching es := by
  obtain ⟨-, hl, hx, hp⟩ := Vigil.seen_of_returned hs more
  simp only [Outside.watching, Vigil.through_append, hl, hx, hp]

/-- **A run that started its program cleans up after it.** When it returns, however it returns, the
child was killed or waited for, and its pipes were read to the end or abandoned. It answers only if it
saw the exit and the end of both pipes and was not cancelled up to the turn at which it saw them, and
then with what the generator makes of exactly that. Cancelled before, it returns an abort: at once if
its program has just come up, and otherwise after an interval and two turns at the latest, whoever
still holds the pipes. What happens after it returned changes nothing. -/
theorem cleans_up_after_child (g : Generator) (o : Outside) (es : List Happening) {command : Path}
    (h : .spawned command ∈ (g.execute (o.watching es)).actions) :
    (∀ outcome, (g.execute (o.watching es)).outcome = some outcome →
      (.killed ∈ (g.execute (o.watching es)).actions ∨
        ∃ status, .reaped status ∈ (g.execute (o.watching es)).actions) ∧
      (.pipesEnded ∈ (g.execute (o.watching es)).actions ∨
        .pipesAbandoned ∈ (g.execute (o.watching es)).actions)) ∧
    (∀ output, (g.execute (o.watching es)).outcome = some (.ok output) →
      ∃ before after status stdout stderr, es = before ++ .turn :: after ∧
        o.cancelledAtStart = false ∧ .cancel ∉ before ∧
        .exit status ∈ before ∧ .endStdout stdout ∈ before ∧ .endStderr stderr ∈ before ∧
        .reaped status ∈ (g.execute (o.watching es)).actions ∧
        .pipesEnded ∈ (g.execute (o.watching es)).actions ∧
        output = ⟨g.result ⟨status, stdout, stderr⟩, g.issues stderr⟩) ∧
    (o.cancelledAtStart = true →
      (g.execute (o.watching es)).outcome = some (.error .cancelled)) ∧
    (∀ before after, es = before ++ .cancel :: after →
      (g.execute (o.watching before)).outcome = none →
      (∀ outcome, (g.execute (o.watching es)).outcome = some outcome →
        outcome = .error .cancelled ∨
          ∃ error, .lose error ∈ es ∧ outcome = .error (.wait error)) ∧
      ([.interval, .turn, .turn].Sublist after → (g.execute (o.watching es)).outcome ≠ none)) ∧
    (∀ more, (g.execute (o.watching es)).outcome ≠ none →
      g.execute (o.watching (es ++ more)) = g.execute (o.watching es)) := by
  obtain ⟨source, actions, attended, hactions⟩ := attended_of_spawned h
  have hmem {a : Action} (ha : a ∈ actions) : a ∈ (g.execute (o.watching es)).actions := by
    rw [hactions]
    exact List.mem_append_right _ ha
  refine ⟨fun outcome ho => ?_, fun output ho => ?_, fun hc => ?_, ?_, fun more ho => ?_⟩
  · obtain ⟨hchild, hpipes⟩ := attended.released (by simp [ho])
    exact ⟨hchild.imp hmem fun ⟨status, hm⟩ => ⟨status, hmem hm⟩, hpipes.imp hmem hmem⟩
  · obtain ⟨status, stdout, stderr, hc, hv, hx, hp, hreaped, hended, rfl⟩ := attended.answered ho
    obtain ⟨before, after, hes, hcancel, hexit, hstdout, hstderr⟩ :=
      Vigil.exists_last_turn hv hx hp
    exact ⟨before, after, status, stdout, stderr, hes, hc, hcancel, hexit, hstdout, hstderr,
      hmem hreaped, hmem hended, rfl⟩
  · exact attended.cancelled hc
  · rintro before after rfl hbefore
    obtain ⟨command', h'⟩ := spawned_of_none hbefore
    obtain ⟨_, _, attended', -⟩ := attended_of_spawned h'
    obtain ⟨hstart, hgoing⟩ := attended'.none_iff.mp hbefore
    obtain ⟨hpipes, hreturned⟩ := Vigil.cancelled_through ((Vigil.awaits_iff o before).mp hgoing)
    refine ⟨fun outcome ho => ?_, fun hafter hn => ?_⟩
    · cases outcome with
      | ok output =>
        obtain ⟨_, stdout, stderr, -, -, -, hp, -⟩ := attended.answered ho
        exact absurd hp (hpipes stdout stderr)
      | error abort =>
        obtain rfl | ⟨error, hv, rfl⟩ := attended.aborted ho
        · exact .inl rfl
        · exact .inr ⟨error, Vigil.lose_mem hv, rfl⟩
    · exact (Vigil.awaits_iff o _).mp (attended.none_iff.mp hn).2 (hreturned hafter)
  · cases hc : o.cancelledAtStart with
    | true => rw [execute_of_cancelledAtStart hc, execute_of_cancelledAtStart hc]
    | false =>
      have hs : (Vigil.start.through es).stage = .returned := by
        by_contra hs
        exact ho (attended.none_iff.mpr ⟨hc, (Vigil.awaits_iff o es).mpr hs⟩)
      rw [watching_of_returned hs]

/-- a child has exited, another process holds its error stream, and the run is cancelled then. -/
theorem cleans_up_after_child_orphaned :
    let g := Generator.simple (some ⟨[103]⟩) fun _ => .empty
    let o : Outside := ⟨fun _ => true, some [], none, false, [], false, .pending⟩
    let before : List Happening := [.interval, .turn, .turn, .exit (.code 0), .turn, .turn,
      .endStdout [111], .turn]
    let es := before ++ .cancel :: [.interval, .turn, .turn]
    (g.execute (o.watching before)).outcome = none ∧
      .reaped (.code 0) ∈ (g.execute (o.watching before)).actions ∧
      (g.execute (o.watching es)).outcome = some (.error .cancelled) := by
  intro g o before es
  have hbefore : (g.execute (o.watching before)).outcome = none := rfl
  have hspawned : .spawned ⟨[103]⟩ ∈ (g.execute (o.watching es)).actions := by decide
  obtain ⟨-, -, -, hcancel, -⟩ := cleans_up_after_child g o es hspawned
  obtain ⟨habort, hends⟩ := hcancel before _ rfl hbefore
  obtain ⟨outcome, ho⟩ := Option.ne_none_iff_exists'.mp (hends (.refl _))
  refine ⟨hbefore, by decide, ?_⟩
  obtain rfl | ⟨error, hlost, -⟩ := habort outcome ho
  · exact ho
  · simp [es, before] at hlost

end Generator
end Regen
