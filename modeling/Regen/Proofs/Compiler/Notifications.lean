import Mathlib.Data.List.DropRight
import Regen.Proofs.Compiler.Frame

/-!
# Notifications

The targets of a compiler are written in three ways: an answer that is taken brings bytes, the
targets of an external build are taken, or the host writes one itself. What was loaded when the
compiler was created is no write. Here all that a life writes is one list, and the notifications are
those of its writes that changed something, one for each, in their order.

* `ContentStore.altering`   the writes of a list that change what a target holds;
* `Event.drains`            whether an event takes the notifications;
* `Compiler.delivered`      what a poll writes;
* `Compiler.writes`         what an event writes;
* `Compiler.written`        what a list of events writes.

Main statements: `ContentStore.changed_setAll_altering` and `get_setAll_of_spared` (lists of
writes), `store_step` (an event is its writes), and `Setup.notifications_exact`.
-/

namespace Regen

namespace ContentStore

/-- the writes of a list that change what a target holds, each judged when its turn comes. -/
def altering : ContentStore → List (Path × Bytes) → List (Path × Bytes)
  | _, [] => []
  | s, w :: ws =>
    if (s.set w.1 w.2).get w.1 = s.get w.1 then (s.set w.1 w.2).altering ws
    else w :: (s.set w.1 w.2).altering ws

/-- a write changes its target if it brings new bytes and the target is declared. -/
theorem get_set_eq_iff (s : ContentStore) (p : Path) (bytes : Bytes) :
    (s.set p bytes).get p = s.get p ↔ ¬ s.changes p bytes = true := by
  have hp := Path.Same.refl p
  rw [get_set, changes_iff]
  by_cases hc : s.contains p = true
  · simp [hp, hc, eq_comm]
  · simp [hp, hc]

theorem set_of_not_changes {s : ContentStore} {p : Path} {bytes : Bytes}
    (h : ¬ s.changes p bytes = true) : s.set p bytes = s := if_neg h

section
variable {s : ContentStore} {w : Path × Bytes}

theorem altering_cons_of_changes (h : s.changes w.1 w.2 = true) (ws : List (Path × Bytes)) :
    s.altering (w :: ws) = w :: (s.set w.1 w.2).altering ws :=
  if_neg fun he => (get_set_eq_iff s w.1 w.2).1 he h

theorem altering_cons_of_not_changes (h : ¬ s.changes w.1 w.2 = true) (ws : List (Path × Bytes)) :
    s.altering (w :: ws) = s.altering ws := by
  have he : s.altering (w :: ws) = (s.set w.1 w.2).altering ws :=
    if_pos ((get_set_eq_iff s w.1 w.2).2 h)
  rw [he, set_of_not_changes h]

end

theorem setAll_append (s : ContentStore) (ws vs : List (Path × Bytes)) :
    s.setAll (ws ++ vs) = (s.setAll ws).setAll vs := List.foldl_append

theorem changed_setAll_altering (s : ContentStore) (ws : List (Path × Bytes)) :
    (s.setAll ws).changed = s.changed ++ (s.altering ws).map Prod.fst := by
  induction ws generalizing s with
  | nil => exact (List.append_nil _).symm
  | cons w ws ih =>
    rw [setAll_cons, ih, changed_set]
    by_cases hc : s.changes w.1 w.2 = true
    · rw [if_pos hc, altering_cons_of_changes hc, List.append_assoc]
      rfl
    · rw [if_neg hc, altering_cons_of_not_changes hc, set_of_not_changes hc, List.append_nil]

theorem contains_of_mem_altering {s : ContentStore} {ws : List (Path × Bytes)}
    {w : Path × Bytes} (hw : w ∈ s.altering ws) : s.contains w.1 = true := by
  induction ws generalizing s with
  | nil => exact absurd hw List.not_mem_nil
  | cons v ws ih =>
    by_cases hc : s.changes v.1 v.2 = true
    · rw [altering_cons_of_changes hc, List.mem_cons] at hw
      rcases hw with rfl | hw
      · exact ((changes_iff s w.1 w.2).1 hc).1
      · have hs := ih hw
        rwa [contains_set] at hs
    · rw [altering_cons_of_not_changes hc] at hw
      exact ih hw

theorem get_setAll_of_spared {s : ContentStore} {ws : List (Path × Bytes)} {t : Path}
    (ht : ∀ w ∈ s.altering ws, ¬ Path.Same w.1 t) : (s.setAll ws).get t = s.get t := by
  induction ws generalizing s with
  | nil => rfl
  | cons w ws ih =>
    rw [setAll_cons]
    by_cases hc : s.changes w.1 w.2 = true
    · rw [altering_cons_of_changes hc] at ht
      obtain ⟨hw, hws⟩ := List.forall_mem_cons.1 ht
      rw [ih hws, get_set, if_neg fun h => hw h.1]
    · rw [altering_cons_of_not_changes hc] at ht
      rw [set_of_not_changes hc, ih ht]

theorem altering_eq_nil {s : ContentStore} {ws : List (Path × Bytes)}
    (h : ∀ w ∈ ws, s.contains w.1 = true → s.get w.1 = w.2) : s.altering ws = [] := by
  induction ws with
  | nil => rfl
  | cons w ws ih =>
    obtain ⟨hw, hws⟩ := List.forall_mem_cons.1 h
    have hc : ¬ s.changes w.1 w.2 = true := fun hc => by
      obtain ⟨hd, hn⟩ := (changes_iff s w.1 w.2).1 hc
      exact hn (hw hd)
    rw [altering_cons_of_not_changes hc]
    exact ih hws

end ContentStore

def Event.drains : Event → Bool
  | .call _ .takeChanged => true
  | _ => false

namespace Compiler

/-- the target bytes that an outcome brings, in order. -/
def brought : Outcome → List (Path × Bytes)
  | .error _ => []
  | .ok output => output.contents.entries

/-- what a poll writes: what the answer of the active run brings, if it has arrived. -/
def delivered (c : Compiler) : List (Path × Bytes) :=
  match c.inbox.find? fun m => c.Takes m with
  | some m => brought m.outcome
  | none => []

def writes (c : Compiler) : Event → List (Path × Bytes)
  | .call _ .poll => c.delivered
  | .call _ (.tick _) => c.delivered
  | .call h (.targetsBuilt project) =>
    if project ≠ c.project.id ∨ (h.projects c.project.slot).building then []
    else (reconcile h.disk c.source c.watermark c.targets).adopted
  | .call _ (.setContent target bytes) => [(target, bytes)]
  | _ => []

def written : Compiler → List Event → List (Path × Bytes)
  | _, [] => []
  | c, e :: es => c.writes e ++ (c.step e).written es

/-! ## one event -/

theorem store_adopt (c : Compiler) (wall : Time) (o : Outcome) :
    (c.adopt wall o).store = c.store.setAll (brought o) := by
  cases o with
  | error abort => rfl
  | ok output =>
    have hi : (c.setIssues output.issues).store = c.store := by
      rw [setIssues_eq]
    unfold adopt
    by_cases he : output.contents.entries = []
    · simp only [he, if_true, brought]
      exact hi
    · simp only [he, if_false]
      exact congrArg (fun s => s.setAll output.contents.entries) hi

theorem store_poll (c : Compiler) (h : Host) : (c.poll h).1.store = c.store.setAll c.delivered := by
  unfold delivered
  rw [poll_fst]
  rcases takes_cases c c.inbox with hn | ⟨before, m, after, hi, hb, hm⟩
  · have hf : c.inbox.find? (fun m => c.Takes m) = none :=
      List.find?_eq_none.2 fun m hm => by simpa using hn m hm
    have hn' : ∀ m ∈ c.inbox, ¬ c.emptied.Takes m := hn
    rw [hf, handleAll_of_not_takes h.wall hn']
    rfl
  · have hf : c.inbox.find? (fun m => c.Takes m) = some m :=
      List.find?_eq_some_iff_append.2
        ⟨decide_eq_true hm, before, after, hi, fun b hb' => by simpa using hb b hb'⟩
    have hb' : ∀ b ∈ before, ¬ c.emptied.Takes b := hb
    have hm' : c.emptied.Takes m := hm
    rw [hf, hi, handleAll_of_takes h.wall hb' hm']
    exact store_adopt _ h.wall m.outcome

theorem Started.store_eq {c d : Compiler} (hd : c.Started d) : d.store = c.store := by
  obtain ⟨_, _, _, _, _, rfl⟩ := hd
  rfl

theorem store_follow (c : Compiler) (h : Host) (r : Binding.Reaction) :
    (c.follow h r).store = c.store := (started_follow c h r).store_eq

theorem store_answer (c : Compiler) (g : Nat) (o : Outcome) :
    (c.answer g o).store = c.store := by
  obtain ⟨_, _, ha⟩ := answer_frame c g o
  rw [ha]

theorem store_step (c : Compiler) {e : Event} (he : e.drains = false) :
    (c.step e).store = c.store.setAll (c.writes e) := by
  cases e with
  | answer g o => exact store_answer c g o
  | drop g => exact store_answer c g _
  | call h k =>
    cases k with
    | runContents bytes => exact (started_start c h _).store_eq
    | runFile path => exact (started_start c h _).store_eq
    | tick now =>
      have ht : (c.tick h now).store = (c.poll h).1.store := (started_tick c h now).store_eq
      exact ht.trans (store_poll c h)
    | poll => exact store_poll c h
    | editorChanged editor => exact store_follow c h _
    | aboutToClose id => exact store_follow c h _
    | edited id now => rfl
    | targetsBuilt project =>
      show (c.targetsBuilt h project).store = c.store.setAll (if _ then _ else _)
      unfold targetsBuilt
      split <;> rfl
    | setContent target bytes => rfl
    | setIssues issues =>
      show (c.setIssues issues).store = c.store
      rw [setIssues_eq]
    | setWatermark time => rfl
    | takeChanged => exact Bool.noConfusion he

theorem changed_of_drains (c : Compiler) {e : Event} (he : e.drains = true) :
    (c.step e).store.changed = [] := by
  unfold Event.drains at he
  split at he
  · rfl
  · exact Bool.noConfusion he

/-! ## lists of events -/

theorem store_after (c : Compiler) {es : List Event} (he : ∀ e ∈ es, e.drains = false) :
    (c.after es).store = c.store.setAll (c.written es) := by
  induction es generalizing c with
  | nil => rfl
  | cons e es ih =>
    obtain ⟨h, hs⟩ := List.forall_mem_cons.1 he
    show ((c.step e).after es).store = _
    rw [ih (c.step e) hs, store_step c h, written, ContentStore.setAll_append]

end Compiler

namespace Setup

theorem changed_compiler (s : Setup) : s.compiler.store.changed = [] := by
  have hl : ∀ (st : ContentStore) (ws : List (Path × Bytes)),
      (st.loadAll ws).changed = st.changed := fun st ws => by
    induction ws generalizing st with
    | nil => rfl
    | cons w ws ih => exact ih (st.load w.1 w.2)
  exact hl _ _

/-- the events up to the last one that takes the notifications; none, if there is no such event. -/
def upToDrain (es : List Event) : List Event := es.rdropWhile fun e => !e.drains

/-- the events after the last one that takes the notifications. -/
def sinceDrain (es : List Event) : List Event := es.rtakeWhile fun e => !e.drains

theorem changed_upToDrain (s : Setup) (es : List Event) :
    (s.after (upToDrain es)).store.changed = [] := by
  by_cases hn : upToDrain es = []
  · rw [hn]
    exact s.changed_compiler
  · have hl : ¬ (!((upToDrain es).getLast hn).drains) = true := List.rdropWhile_last_not _ es hn
    rw [Bool.not_eq_true, Bool.not_eq_false'] at hl
    rw [← List.dropLast_append_getLast hn]
    show (s.compiler.after _).store.changed = []
    rw [Compiler.after_append]
    exact Compiler.changed_of_drains _ hl

/-- **Notifications are complete and exact.** Take any life of any compiler, and the part of it
after the last event that took the notifications, or since the creation. The store holds what the
writes of this part made of it, and the notifications are the paths of those writes that changed
what a target held, one for each, in order, and spelled as in the write. So whatever holds other
bytes than at the last such event is told, what is not told holds the same bytes, and only declared
targets are told. An event adds nothing if each of its writes brings the bytes that are there or
names no target; what is loaded at the creation is not told. -/
theorem notifications_exact (s : Setup) (es : List Event) :
    let c := s.after (upToDrain es)
    let d := s.after es
    let told := d.takeChanged.1
    d.store = c.store.setAll (c.written (sinceDrain es)) ∧
    told = (c.store.altering (c.written (sinceDrain es))).map Prod.fst ∧
    (∀ t, d.content t ≠ c.content t → ∃ p ∈ told, Path.Same p t) ∧
    (∀ t, (∀ p ∈ told, ¬ Path.Same p t) → d.content t = c.content t) ∧
    (∀ p ∈ told, d.hasTarget p = true) ∧
    (∀ e, e.drains = false →
      (∀ w ∈ d.writes e, d.hasTarget w.1 = true → d.content w.1 = w.2) →
      (d.step e).takeChanged.1 = told) ∧
    (∀ e, e.drains = true → (d.step e).takeChanged.1 = []) ∧
    s.compiler.takeChanged.1 = [] := by
  intro c d told
  have hd : d = c.after (sinceDrain es) := by
    show s.compiler.after es = (s.compiler.after (upToDrain es)).after (sinceDrain es)
    rw [← Compiler.after_append]
    exact congrArg s.compiler.after List.rdropWhile_append_rtakeWhile.symm
  have hs : d.store = c.store.setAll (c.written (sinceDrain es)) := by
    rw [hd]
    refine Compiler.store_after c fun e he => ?_
    simpa using List.mem_rtakeWhile_imp he
  have htold : told = (c.store.altering (c.written (sinceDrain es))).map Prod.fst := by
    show d.store.changed = _
    rw [hs, ContentStore.changed_setAll_altering, s.changed_upToDrain, List.nil_append]
  have spared : ∀ t, (∀ p ∈ told, ¬ Path.Same p t) → d.content t = c.content t := by
    intro t ht
    rw [htold, List.forall_mem_map] at ht
    show d.store.get t = _
    rw [hs]
    exact ContentStore.get_setAll_of_spared ht
  refine ⟨hs, htold, fun t ht => ?_, spared, fun p hp => ?_, fun e he hw => ?_, fun e he => ?_, ?_⟩
  · by_contra hn
    exact ht (spared t fun p hp hpt => hn ⟨p, hp, hpt⟩)
  · rw [htold] at hp
    obtain ⟨w, hw, rfl⟩ := List.mem_map.1 hp
    have hc := ContentStore.contains_of_mem_altering hw
    have hk : d.store.contains w.1 = c.store.contains w.1 := by
      rw [hs]
      exact ContentStore.contains_setAll _ _ _
    exact hk.trans hc
  · show (d.step e).store.changed = d.store.changed
    rw [Compiler.store_step d he, ContentStore.changed_setAll_altering,
      ContentStore.altering_eq_nil hw]
    exact List.append_nil _
  · exact Compiler.changed_of_drains d he
  · exact s.changed_compiler

/-- a target that is changed and changed back is told twice, an unchanged one and a path that is no
target not at all. -/
example :
    let blank : Disk := ⟨fun _ => none, fun _ => .error (.code 2)⟩
    let host : Host := ⟨blank, fun _ => ⟨0, false, .unconfigured⟩, fun _ => [], .empty, 7⟩
    let s : Setup :=
      ⟨0, ⟨0, 0⟩, ⟨1000, 200, 1, 30000⟩, ⟨[115]⟩, [⟨[97]⟩, ⟨[98]⟩], .manual, blank⟩
    let write : Path → Bytes → Event := fun t bytes => .call host (.setContent t bytes)
    (s.after [write ⟨[97]⟩ [1], write ⟨[98]⟩ [], write ⟨[99]⟩ [1], write ⟨[97]⟩ []]).takeChanged.1
      = [⟨[97]⟩, ⟨[97]⟩] := by decide

end Setup
end Regen
