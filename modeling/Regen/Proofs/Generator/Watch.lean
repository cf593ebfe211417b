import Regen.Child
import Regen.Proofs.Generator.Vigil

/-!
# A watch is a vigil

A watch knows when its child exited, when its pipes ended and when its token was cancelled, and
works out from these times what a run has been answered by a moment. The same answers come from the
happenings in their order: so all that holds for every order of happenings holds for a watch.

* `Watch.beats`        whether the token was cancelled, at the end of each poll interval;
* `Watch.happenings`   what has happened by a moment, in order.

Main statement: `Watch.execute_watching`.
-/

namespace Regen

namespace Generator

/-- a run depends on its looks by the one that ends its wait, and on what comes after an exit only
if there is one. -/
theorem execute_congr (g : Generator) {o : Outside} {looks : List Look} {cancelledAtExit : Bool}
    {pipes : Drain} (hv : looks.find? Look.ends = o.verdict?)
    (hx : ∀ status, o.verdict? = some (.exited status) →
      cancelledAtExit = o.cancelledAtExit ∧ (o.cancelledAtExit = false → pipes = o.pipes)) :
    g.execute { o with looks := looks, cancelledAtExit := cancelledAtExit, pipes := pipes } =
      g.execute o := by
  have hwait : g.wait { o with looks := looks, cancelledAtExit := cancelledAtExit, pipes := pipes }
      looks = g.wait o o.looks := by
    rw [wait_eq, wait_eq, hv, Outside.verdict?] at *
    cases hl : o.looks.find? Look.ends with
    | none => rfl
    | some l =>
      cases l with
      | exited status =>
        obtain ⟨rfl, hp⟩ := hx status hl
        cases hc : o.cancelledAtExit <;> simp_all [afterExit]
      | failed error => rfl
      | elapsed cancelled => rfl
  simp only [execute, afterLoad, afterStart, hwait]

end Generator

namespace Vigil

variable {v : Vigil}

/-- the end of a poll interval, and the two turns that follow. -/
def beat (cancelled : Bool) : List Happening :=
  (if cancelled then [.cancel] else []) ++ [.interval, .turn, .turn]

/-- a run that was not cancelled and has only looked so far. -/
def looking (looks : List Look) : Vigil := { start with looks := looks }

theorem find?_beats (beats : List Bool) (looks : List Look) :
    (beats.map Look.elapsed ++ looks).find? Look.ends =
      if true ∈ beats then some (.elapsed true) else looks.find? Look.ends := by
  induction beats with
  | nil => simp
  | cons b beats ih => cases b <;> simp [List.find?_cons, Look.ends, ih]

/-- a run comes through the poll intervals at the end of which it is not cancelled. -/
theorem through_beats (looks : List Look) {beats : List Bool} (hb : true ∉ beats) :
    (looking looks).through (beats.flatMap beat) = looking (looks ++ beats.map .elapsed) := by
  induction beats generalizing looks with
  | nil => rw [List.map_nil, List.append_nil]; rfl
  | cons b beats ih =>
    obtain ⟨hb, hbs⟩ := not_or.mp (List.mem_cons.not.mp hb)
    obtain rfl : b = false := by simpa using hb
    rw [List.flatMap_cons, through_append, List.map_cons, List.append_cons]
    exact ih (looks ++ [.elapsed false]) hbs

theorem returned_of_beats {beats : List Bool} (hb : true ∈ beats) :
    (start.through (beats.flatMap beat)).stage = .returned ∧
      (start.through (beats.flatMap beat)).verdict? = some (.elapsed true) := by
  obtain ⟨early, late, rfl, hearly⟩ := List.eq_append_cons_of_mem hb
  have hcame : start.through (early.flatMap beat) = looking (early.map .elapsed) :=
    through_beats [] hearly
  rw [List.flatMap_append, through_append, hcame, List.flatMap_cons, through_append]
  obtain ⟨hs, hlooks, -⟩ :=
    seen_of_returned (v := (looking (early.map Look.elapsed)).through (beat true)) rfl (late.flatMap beat)
  have hfind : (early.map Look.elapsed ++ [Look.elapsed true]).find? Look.ends =
      some (.elapsed true) := by
    rw [find?_beats, if_neg hearly]
    rfl
  exact ⟨hs, (congrArg (List.find? Look.ends) hlooks).trans hfind⟩

end Vigil

namespace Watch

/-- whether the token was cancelled, at the end of each poll interval. -/
def beats (w : Watch) (now : Nat) : List Bool :=
  (List.range (w.intervals now)).map fun k => w.cancelledBy (w.start + (k + 1) * w.pollInterval)

/-- the exit of the child, the turn that sees it, and the look at the token. -/
def departure (w : Watch) (now : Nat) : List Happening :=
  match w.exit with
  | some (t, status) =>
    if t ≤ now then
      .exit status :: .turn :: (if w.cancelledBy t then [.cancel] else []) ++ [.turn]
    else []
  | none => []

/-- the end of the pipes, and the turn that sees it. -/
def ebb (w : Watch) (now : Nat) : List Happening :=
  match w.pipes now with
  | .pending => []
  | .cancelled => [.cancel, .turn]
  | .drained stdout stderr => [.endStdout stdout, .endStderr stderr, .turn]

def happenings (w : Watch) (now : Nat) : List Happening :=
  (w.beats now).flatMap Vigil.beat ++ w.departure now ++ w.ebb now

theorem looks_eq (w : Watch) (now : Nat) : w.looks now = (w.beats now).map .elapsed ++
    match w.exit with
    | some (t, status) => if t ≤ now then [.exited status] else []
    | none => [] := by
  simp only [looks, beats, List.map_map]
  rfl

theorem looks_ebb (w : Watch) (now : Nat) (looks : List Look) :
    ((Vigil.looking looks).through (w.ebb now)).looks = looks := by
  unfold ebb
  cases w.pipes now <;> rfl

theorem pipes_ebb (w : Watch) (now : Nat) (looks : List Look) (status : ExitStatus) :
    let v := ((Vigil.looking looks).through [.exit status, .turn, .turn]).through (w.ebb now)
    v.looks = looks ++ [.exited status] ∧ v.cancelledAtExit = false ∧ v.pipes = w.pipes now := by
  unfold ebb
  cases w.pipes now <;> exact ⟨rfl, rfl, rfl⟩

/-- a run that finds its token cancelled at the exit does not read the pipes. -/
theorem cancelled_ebb (w : Watch) (now : Nat) (looks : List Look) (status : ExitStatus) :
    let v := ((Vigil.looking looks).through [.exit status, .turn, .cancel, .turn]).through
      (w.ebb now)
    v.looks = looks ++ [.exited status] ∧ v.cancelledAtExit = true := by
  unfold ebb
  cases w.pipes now <;> exact ⟨rfl, rfl⟩

section
variable (w : Watch) (g : Generator) (now : Nat)

theorem verdict?_outside : (w.outside now).verdict? =
    if true ∈ w.beats now then some (.elapsed true)
    else
      (match w.exit with
        | some (t, status) => if t ≤ now then [Look.exited status] else []
        | none => []).find? Look.ends := by
  have hlooks : (w.outside now).verdict? = (w.looks now).find? Look.ends := rfl
  rw [hlooks, looks_eq, Vigil.find?_beats]

theorem execute_watching_of_beat (hb : true ∈ w.beats now) :
    g.execute ((w.outside now).watching (w.happenings now)) = g.execute (w.outside now) := by
  have hverdict : (w.outside now).verdict? = some (.elapsed true) :=
    (w.verdict?_outside now).trans (if_pos hb)
  obtain ⟨hs, hv⟩ := Vigil.returned_of_beats hb
  rw [happenings, List.append_assoc, Generator.watching_of_returned hs]
  refine g.execute_congr (hv.trans hverdict.symm) fun status hx => ?_
  simp [hverdict] at hx

variable {w now}

theorem through_happenings (hb : true ∉ w.beats now) : Vigil.start.through (w.happenings now) =
    ((Vigil.looking ((w.beats now).map .elapsed)).through (w.departure now)).through
      (w.ebb now) := by
  have hbeats : Vigil.start.through ((w.beats now).flatMap Vigil.beat) =
      Vigil.looking ((w.beats now).map .elapsed) := Vigil.through_beats [] hb
  rw [happenings, Vigil.through_append, Vigil.through_append, hbeats]

theorem find?_vain (hb : true ∉ w.beats now) (looks : List Look) :
    ((w.beats now).map Look.elapsed ++ looks).find? Look.ends = looks.find? Look.ends :=
  (Vigil.find?_beats _ _).trans (if_neg hb)

theorem execute_watching_of_stay (hb : true ∉ w.beats now) (hd : w.departure now = [])
    (hv : (w.outside now).verdict? = none) :
    g.execute ((w.outside now).watching (w.happenings now)) = g.execute (w.outside now) := by
  refine g.execute_congr ?_ fun status hx => ?_
  · have hlooks := find?_vain hb []
    rw [List.append_nil] at hlooks
    rw [through_happenings hb, hd, hv]
    exact (congrArg _ (looks_ebb w now _)).trans hlooks
  · simp [hv] at hx

theorem execute_watching_of_exit (hb : true ∉ w.beats now) {t : Nat} {status : ExitStatus}
    (hexit : w.exit = some (t, status)) (ht : t ≤ now) :
    g.execute ((w.outside now).watching (w.happenings now)) = g.execute (w.outside now) := by
  have hv : (w.outside now).verdict? = some (.exited status) := by
    simp [verdict?_outside, hb, hexit, ht, Look.ends]
  have hcancelled : (w.outside now).cancelledAtExit = w.cancelledBy t := by
    simp [outside, exitAt?, hexit]
  cases hc : w.cancelledBy t with
  | true =>
    have hd : w.departure now = [.exit status, .turn, .cancel, .turn] := by
      simp [departure, hexit, ht, hc]
    obtain ⟨hlooks, hx⟩ := cancelled_ebb w now ((w.beats now).map .elapsed) status
    refine g.execute_congr ?_ fun _ _ => ?_
    · rw [through_happenings hb, hd, hv, hlooks]
      exact find?_vain hb [.exited status]
    · rw [through_happenings hb, hd, hx, hcancelled, hc]
      exact ⟨rfl, Bool.noConfusion⟩
  | false =>
    have hd : w.departure now = [.exit status, .turn, .turn] := by
      simp [departure, hexit, ht, hc]
    obtain ⟨hlooks, hx, hp⟩ := pipes_ebb w now ((w.beats now).map .elapsed) status
    refine g.execute_congr ?_ fun _ _ => ?_
    · rw [through_happenings hb, hd, hv, hlooks]
      exact find?_vain hb [.exited status]
    · rw [through_happenings hb, hd, hx, hp, hcancelled, hc]
      exact ⟨rfl, fun _ => rfl⟩

variable (w now)

/-- **The answers of a watch are those of its happenings.** -/
theorem execute_watching :
    g.execute ((w.outside now).watching (w.happenings now)) = g.execute (w.outside now) := by
  by_cases hb : true ∈ w.beats now
  · exact execute_watching_of_beat w g now hb
  obtain hexit | ⟨⟨t, status⟩, hexit⟩ := w.exit.eq_none_or_eq_some
  · exact execute_watching_of_stay g hb (by simp [departure, hexit])
      (by simp [verdict?_outside, hb, hexit])
  by_cases ht : t ≤ now
  · exact execute_watching_of_exit g hb hexit ht
  · exact execute_watching_of_stay g hb (by simp [departure, hexit, ht])
      (by simp [verdict?_outside, hb, hexit, ht])

end

end Watch
end Regen
