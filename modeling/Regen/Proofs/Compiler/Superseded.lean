import Mathlib.Data.List.Forall2
import Regen.Proofs.Compiler.Late

/-!
# Superseded runs are invisible

Two lives of a compiler look the same if they differ only in answers that come too late. This is
still so if the wall clock shows other times in the second life, as long as no time stamp on the
disk tells these times apart: then the watermarks differ as the clocks do, and nothing else.

* `Event.Alike`       the same event, at a time near the other;
* `View.Alike`        the same view, with a watermark near the other;
* `Disk.Blurs`        no time stamp of the disk stands between two times that are near;
* `Compiler.Alike`    the same compiler, with a watermark near the other.

Main statements: `Compiler.Alike.views` (lives that differ in the wall clock) and
`Setup.superseded_runs_invisible`.
-/

namespace Regen

section
variable (near : Time → Time → Prop)

def Watermark.Alike (w v : Watermark) : Prop :=
  w = v ∨ ∃ t u, near t u ∧ w = ⟨some t⟩ ∧ v = ⟨some u⟩

def Reconciled.Alike (r q : Reconciled) : Prop :=
  r.adopted = q.adopted ∧ r.watermark.Alike near q.watermark

inductive Event.Alike : Event → Event → Prop
  | call (h : Host) (wall : Time) (k : Call) :
      near h.wall wall → Alike (.call h k) (.call { h with wall := wall } k)
  | answer (g : Nat) (o : Outcome) : Alike (.answer g o) (.answer g o)
  | drop (g : Nat) : Alike (.drop g) (.drop g)

def View.Alike (v w : View) : Prop :=
  v = { w with watermark := v.watermark } ∧ v.watermark.Alike near w.watermark

def Compiler.dated (c : Compiler) (w : Watermark) : Compiler := { c with watermark := w }

def Compiler.Alike (c d : Compiler) : Prop :=
  c = d.dated c.watermark ∧ c.watermark.Alike near d.watermark

/-- no time stamp of a disk stands between two times that are near. -/
def Disk.Blurs (disk : Disk) : Prop :=
  ∀ p s t u, disk.modified p = some s → near t u → (s ≤ t ↔ s ≤ u)

end

/-! ## time stamps -/

section
variable {near : Time → Time → Prop} {disk : Disk} (hb : disk.Blurs near)
include hb

theorem Watermark.Alike.isCurrentFor_eq {w v : Watermark} (hw : w.Alike near v) (p : Path) :
    w.isCurrentFor (disk.modified p) = v.isCurrentFor (disk.modified p) := by
  rcases hw with rfl | ⟨t, u, hn, rfl, rfl⟩
  · rfl
  · cases hs : disk.modified p with
    | none => rfl
    | some s => exact decide_eq_decide.2 (hb p s t u hs hn)

theorem Watermark.Alike.isSupersededBy_eq {w v : Watermark} (hw : w.Alike near v) {p : Path}
    {s : Time} (hs : disk.modified p = some s) : w.isSupersededBy s = v.isSupersededBy s := by
  rcases hw with rfl | ⟨t, u, hn, rfl, rfl⟩
  · rfl
  · have hlt : t < s ↔ u < s := by rw [← Int.not_le, ← Int.not_le, hb p s t u hs hn]
    exact decide_eq_decide.2 hlt

theorem Reconciled.Alike.judge (source : Option Time) {r q : Reconciled} (ha : r.Alike near q)
    (target : Path) : (r.judge disk source target).Alike near (q.judge disk source target) := by
  obtain ⟨hr, hw⟩ := ha
  unfold Reconciled.judge
  cases hs : disk.modified target with
  | none => exact ⟨hr, hw⟩
  | some s =>
    simp only
    rw [hw.isSupersededBy_eq hb hs]
    split
    · cases disk.read? target with
      | none => exact ⟨hr, hw⟩
      | some bytes => exact ⟨by rw [hr], .inl rfl⟩
    · exact ⟨hr, hw⟩

theorem Reconciled.Alike.judgeAll (source : Option Time) {r q : Reconciled} (ha : r.Alike near q)
    (ts : List Path) : (ts.foldl (Reconciled.judge disk source) r).Alike near
      (ts.foldl (Reconciled.judge disk source) q) := by
  induction ts generalizing r q with
  | nil => exact ha
  | cons t ts ih => exact ih (ha.judge hb source t)

theorem reconcile_alike (source : Path) {w v : Watermark} (hw : w.Alike near v)
    (targets : List Path) : (reconcile disk source w targets).Alike near
      (reconcile disk source v targets) := by
  have h0 : Reconciled.Alike near ⟨w, []⟩ ⟨v, []⟩ := ⟨rfl, hw⟩
  unfold reconcile
  simp only
  rw [hw.isCurrentFor_eq hb source]
  split
  · exact h0
  · exact h0.judgeAll hb (disk.modified source) targets

end

/-! ## lives that differ in the wall clock -/

namespace Compiler

/-! ### what does not look at the watermark -/

theorem dated_start (c : Compiler) (w : Watermark) (h : Host) (p : Provider) :
    (c.dated w).start h p = (c.start h p).dated w := by
  have ha : (c.dated w).active = c.active := rfl
  unfold start supersede
  rw [ha]
  cases c.active <;> rfl

theorem dated_answer (c : Compiler) (w : Watermark) (g : Nat) (o : Outcome) :
    (c.dated w).answer g o = (c.answer g o).dated w := by
  have ha : (c.dated w).awaits g = c.awaits g := rfl
  unfold answer
  rw [ha]
  split <;> rfl

theorem dated_drop (c : Compiler) (w : Watermark) (g : Nat) :
    (c.dated w).drop g = (c.drop g).dated w :=
  dated_answer c w g _

theorem dated_tellPush (c : Compiler) (w : Watermark) (p : Option Push) :
    (c.dated w).tellPush p = (c.tellPush p).dated w := by
  cases p <;> rfl

theorem dated_setIssues (c : Compiler) (w : Watermark) (is : List Issue) :
    (c.dated w).setIssues is = (c.setIssues is).dated w :=
  dated_tellPush { c with issues := is } w _

theorem dated_follow (c : Compiler) (w : Watermark) (h : Host) (r : Binding.Reaction) :
    (c.dated w).follow h r = (c.follow h r).dated w := by
  have hp := dated_tellPush { c with binding := r.binding } w r.push
  unfold follow
  cases r.snapshot with
  | none => exact hp
  | some buffer =>
    have hs := dated_start ({ c with binding := r.binding }.tellPush r.push) w h (.bytes buffer)
    rw [← hp] at hs
    exact hs

theorem dated_initialRun (c : Compiler) (w : Watermark) (h : Host) :
    (c.dated w).initialRun h = (c.initialRun h).dated w := by
  have hi : (c.dated w).initialPending = c.initialPending := rfl
  unfold initialRun
  rw [hi]
  split
  · exact dated_start { c with initialPending := false } w h _
  · rfl

theorem dated_restOfTick (c : Compiler) (w : Watermark) (h : Host) (now : Instant) :
    (c.dated w).restOfTick h now = (c.restOfTick h now).dated w := by
  unfold restOfTick
  rw [dated_initialRun, dated_follow]
  rfl

namespace Alike

variable {near : Time → Time → Prop} {c d : Compiler}

theorem map {f : Compiler → Compiler} (hf : ∀ c w, f (c.dated w) = (f c).dated w)
    (hs : c.Alike near d) : (f c).Alike near (f d) := by
  obtain ⟨hr, hw⟩ := hs
  have own : ∀ e : Compiler, (f e).watermark = e.watermark := fun e => by
    have he : (f (e.dated e.watermark)).watermark = ((f e).dated e.watermark).watermark := by
      rw [hf]
    exact he
  refine ⟨?_, ?_⟩
  · rw [own c, ← hf, ← hr]
  · rw [own c, own d]
    exact hw

theorem field {α : Type} (f : Compiler → α) (hf : ∀ c w, f (c.dated w) = f c)
    (hs : c.Alike near d) : f c = f d := by
  rw [hs.1]
  exact hf d _

/-! ### what sets it -/

theorem set {wall wall' : Time} (hn : near wall wall') (hs : c.Alike near d) :
    (c.setWatermark wall).Alike near (d.setWatermark wall') := by
  refine ⟨?_, .inr ⟨wall, wall', hn, rfl, rfl⟩⟩
  rw [hs.1]
  rfl

theorem adopt {wall wall' : Time} (hn : near wall wall') (hs : c.Alike near d) (o : Outcome) :
    (c.adopt wall o).Alike near (d.adopt wall' o) := by
  cases o with
  | error abort => exact hs.map (f := fun c => c.tell _) fun _ _ => rfl
  | ok out =>
    have hi : (c.setIssues out.issues).Alike near (d.setIssues out.issues) :=
      hs.map (f := fun c => c.setIssues out.issues) fun c w => dated_setIssues c w _
    unfold Compiler.adopt
    by_cases he : out.contents.entries = []
    · simp only [he, if_true]
      exact hi.map (f := fun c => c.tell _) fun _ _ => rfl
    · simp only [he, if_false]
      exact (hi.map (f := fun c => c.setContents _) fun _ _ => rfl).set hn

theorem handle {wall wall' : Time} (hn : near wall wall') (hs : c.Alike near d) (m : Completion) :
    (c.handle wall m).Alike near (d.handle wall' m) := by
  have ha : c.active = d.active := hs.field active fun _ _ => rfl
  by_cases ht : c.Takes m
  · have ht' : d.Takes m := ha.symm.trans ht
    rw [handle_of_takes wall ht, handle_of_takes wall' ht']
    exact (hs.map (f := idle) fun _ _ => rfl).adopt hn m.outcome
  · have ht' : ¬ d.Takes m := fun h => ht (ha.trans h)
    rw [handle_of_not_takes wall ht, handle_of_not_takes wall' ht']
    exact hs.map (f := fun c => c.withdraw [m]) fun _ _ => rfl

theorem handleAll {wall wall' : Time} (hn : near wall wall') (hs : c.Alike near d)
    (ms : List Completion) : (c.handleAll wall ms).Alike near (d.handleAll wall' ms) := by
  induction ms generalizing c d with
  | nil => exact hs
  | cons m ms ih => exact ih (hs.handle hn m)

theorem poll (hs : c.Alike near d) (h : Host) {wall : Time} (hn : near h.wall wall) :
    (c.poll h).1.Alike near (d.poll { h with wall := wall }).1 := by
  have hi : c.inbox = d.inbox := hs.field inbox fun _ _ => rfl
  have he : c.emptied.Alike near d.emptied := hs.map fun _ _ => rfl
  rw [poll_fst, poll_fst, hi]
  exact he.handleAll hn d.inbox

/-! ### what looks at it -/

theorem targetsBuilt (hs : c.Alike near d) {h : Host} (hb : h.disk.Blurs near) (project : Nat) :
    (c.targetsBuilt h project).Alike near (d.targetsBuilt h project) := by
  have hp : c.project = d.project := hs.field Compiler.project fun _ _ => rfl
  have hr := reconcile_alike hb d.source hs.2 d.targets
  unfold Compiler.targetsBuilt
  rw [hp]
  split
  · exact hs
  · have hsource : c.source = d.source := hs.field Compiler.source fun _ _ => rfl
    have htargets : c.targets = d.targets := hs.field Compiler.targets fun _ _ => rfl
    simp only [hsource, htargets, hr.1]
    refine ⟨?_, hr.2⟩
    rw [hs.1]
    rfl

theorem call (hs : c.Alike near d) {h : Host} {wall : Time} (hn : near h.wall wall) (k : Call)
    (hb : ∀ project, k = .targetsBuilt project → h.disk.Blurs near) :
    (c.call h k).Alike near (d.call { h with wall := wall } k) := by
  cases k with
  | runContents bytes => exact hs.map (f := fun c => c.start h _) fun c w => dated_start c w h _
  | runFile path => exact hs.map (f := fun c => c.start h _) fun c w => dated_start c w h _
  | tick now =>
    exact (hs.poll h hn).map (f := fun c => c.restOfTick h now) fun c w =>
      dated_restOfTick c w h now
  | poll => exact hs.poll h hn
  | editorChanged editor =>
    exact hs.map (f := fun c => c.editorChanged h editor) fun c w => dated_follow c w h _
  | aboutToClose id =>
    exact hs.map (f := fun c => c.aboutToClose h id) fun c w => dated_follow c w h _
  | edited id now => exact hs.map (f := fun c => c.edited id now) fun _ _ => rfl
  | targetsBuilt project => exact hs.targetsBuilt (hb project rfl) project
  | setContent target bytes => exact hs.map (f := fun c => c.setContent target bytes) fun _ _ => rfl
  | setIssues issues =>
    exact hs.map (f := fun c => c.setIssues issues) fun c w => dated_setIssues c w issues
  | setWatermark time =>
    refine ⟨?_, .inl rfl⟩
    rw [hs.1]
    rfl
  | takeChanged => exact hs.map (f := fun c => c.takeChanged.2) fun _ _ => rfl

theorem view (hs : c.Alike near d) : c.view.Alike near d.view := by
  refine ⟨?_, hs.2⟩
  rw [hs.1]
  rfl

theorem views {es fs : List Event} (hs : c.Alike near d) (he : es.Forall₂ (Event.Alike near) fs)
    (hb : ∀ h project, .call h (.targetsBuilt project) ∈ es → h.disk.Blurs near) :
    (c.views es).Forall₂ (View.Alike near) (d.views fs) := by
  induction he generalizing c d with
  | nil => exact .nil
  | cons ha _ ih =>
    have hb' := fun h project hm => hb h project (List.mem_cons_of_mem _ hm)
    cases ha with
    | call h wall k hn =>
      have hk := hs.call hn k fun project hk => hb h project (hk ▸ List.mem_cons_self)
      exact .cons hk.view (ih hk hb')
    | answer g o =>
      exact ih (hs.map (f := fun c => c.answer g o) fun c w => dated_answer c w g o) hb'
    | drop g => exact ih (hs.map (f := fun c => c.drop g) fun c w => dated_drop c w g) hb'

end Alike
end Compiler

namespace Setup

open Compiler

/-- **Superseded runs are invisible.** Two lives of a compiler that are equal once the answers
that are late are left out look the same after every call. If they are equal but for the times of
the wall clock, they look the same but for the watermark, which differs as these times do: no time
stamp that an external build is judged by may stand between them. -/
theorem superseded_runs_invisible (s : Setup) (es fs : List Event) :
    let c := s.compiler
    (c.timely es = c.timely fs → c.views es = c.views fs) ∧
    ∀ near : Time → Time → Prop, (c.timely es).Forall₂ (Event.Alike near) (c.timely fs) →
      (∀ h project, .call h (.targetsBuilt project) ∈ es → h.disk.Blurs near) →
      (c.views es).Forall₂ (View.Alike near) (c.views fs) := by
  intro c
  have hc : c.Sound := Sound.create ..
  have forget : ∀ es, c.views es = c.views (c.timely es) := fun es => hc.views_timely es rfl
  refine ⟨fun h => ?_, fun near ha hb => ?_⟩
  · rw [forget es, h, ← forget fs]
  · have hs : c.Alike near c := ⟨rfl, .inl rfl⟩
    rw [forget es, forget fs]
    exact hs.views ha fun h project hm => hb h project ((c.timely_sublist es).subset hm)

/-- two lives of two runs: the first run is answered early, or dropped after the second one was
answered. -/
theorem superseded_runs_invisible_twice :
    let disk : Disk := ⟨fun _ => some 3, fun _ => .ok []⟩
    let host (wall : Time) : Host :=
      ⟨disk, fun _ => ⟨0, false, .unconfigured⟩, fun _ => [], .empty, wall⟩
    let s : Setup := ⟨0, ⟨0, 0⟩, ⟨1000, 200, 1, 30000⟩, ⟨[115]⟩, [⟨[97]⟩], .manual, disk⟩
    let out (b : UInt8) : Outcome := .ok ⟨.ofList [(⟨[97]⟩, [b])], []⟩
    let run (wall : Time) (b : UInt8) : Event := .call (host wall) (.runContents [b])
    let es := [run 7 1, .answer 1 (out 1), run 7 2, .answer 2 (out 2), .call (host 7) .poll,
      .call (host 7) (.targetsBuilt 0)]
    let fs (wall : Time) := [run wall 1, run wall 2, .answer 2 (out 2), .drop 1,
      .call (host wall) .poll, .call (host wall) (.targetsBuilt 0)]
    s.compiler.views es = s.compiler.views (fs 7) ∧
      (s.compiler.views es).Forall₂ (View.Alike fun t u => t = 7 ∧ u = 9)
        (s.compiler.views (fs 9)) := by
  intro disk host s out run es fs
  let rest (wall : Time) := [run wall 1, run wall 2, .answer 2 (out 2), .call (host wall) .poll,
    .call (host wall) (.targetsBuilt 0)]
  have he : s.compiler.timely es = rest 7 := rfl
  have hf : s.compiler.timely (fs 7) = rest 7 := rfl
  have hf' : s.compiler.timely (fs 9) = rest 9 := rfl
  refine ⟨(superseded_runs_invisible s es (fs 7)).1 (he.trans hf.symm),
    (superseded_runs_invisible s es (fs 9)).2 _ ?_ ?_⟩
  · have near : ∀ k, Event.Alike (fun t u => t = 7 ∧ u = 9) (.call (host 7) k) (.call (host 9) k) :=
      fun k => .call (host 7) 9 k ⟨rfl, rfl⟩
    rw [he, hf']
    exact .cons (near _) (.cons (near _) (.cons (.answer ..)
      (.cons (near _) (.cons (near _) .nil))))
  · intro h project hm
    obtain ⟨hd, -⟩ : h = host 7 ∧ project = 0 := by simpa [es, run] using hm
    rintro p t _ _ ht ⟨rfl, rfl⟩
    have h3 : t = 3 := by simpa [hd, host, disk] using ht.symm
    rw [h3]
    decide

end Setup
end Regen
