import Mathlib.Data.List.Forall2
import Regen.Proofs.Compiler.Editor
import Regen.Proofs.Compiler.Outcome

/-!
# What the bound editor shows

An editor shows the annotations that were sent to it last. A compiler sends some on two occasions:
an editor is bound, or its issues are replaced while one is bound. Both send the issues as they are
afterwards; so the editor that is bound shows the current ones.

* `Issue.ShownAs`        how an issue looks in an editor;
* `Event.binds?`         the editor that an event binds;
* `Compiler.replaces?`   the issues that an event puts in place of the old ones;
* `Compiler.shows`       what an event sends to editors;
* `Compiler.Displays`    the bound editor was sent the current issues last.

Main statements: `pushes_step` (an event sends what it shows, and nothing else), `Displays.step` and
`Setup.bound_editor_shows_issues`.
-/

namespace Regen

/-- how an issue looks in an editor: lines count from zero there, and what is about line zero, which
is none, is shown on the first. -/
structure Issue.ShownAs (i : Issue) (a : Annotation) : Prop where
  line : a.line.toNat = i.line.toNat - 1
  severity : a.severity = i.severity
  tooltip : a.tooltip = i.message

theorem Issue.shownAs_annotateAll (is : List Issue) :
    List.Forall₂ Issue.ShownAs is (Issue.annotateAll is) := by
  unfold annotateAll
  rw [List.forall₂_map_right_iff, List.forall₂_same]
  intro i _
  exact ⟨i.annotate_line_toNat, rfl, rfl⟩

def Event.binds? (source : Path) : Event → Option Editor
  | .call _ (.editorChanged (some ed)) => if Path.Same ed.path source then some ed else none
  | _ => none

namespace Compiler

def issuesOf : Outcome → Option (List Issue)
  | .ok output => some output.issues
  | .error _ => none

/-- the issues that the next poll brings: those of the active run, if its output has arrived. -/
def reported (c : Compiler) : Option (List Issue) :=
  (c.inbox.find? fun m => c.Takes m).bind fun m => issuesOf m.outcome

def replaces? (c : Compiler) : Event → Option (List Issue)
  | .call _ (.setIssues issues) => some issues
  | .call _ .poll => c.reported
  | .call _ (.tick _) => c.reported
  | _ => none

/-- what an event sends to editors: the issues to the editor that it binds, and new issues to the
editor that is bound. -/
def shows (c : Compiler) (e : Event) : List Push :=
  ((e.binds? c.source).map fun ed => ⟨ed.slot, Issue.annotateAll c.issues⟩).toList ++
    ((c.replaces? e).bind c.binding.push?).toList

/-! ## small changes -/

theorem pushes_tell (c : Compiler) (e : Effect) : (c.tell e).pushes = c.pushes ++ e.push?.toList := by
  show (c.effects ++ [e]).filterMap Effect.push? = _
  rw [List.filterMap_append]
  cases h : e.push? <;> simp [h, pushes]

theorem pushes_tellPush (c : Compiler) (p : Option Push) :
    (c.tellPush p).pushes = c.pushes ++ p.toList := by
  cases p with
  | none => exact (List.append_nil _).symm
  | some p => exact pushes_tell c _

theorem pushes_start (c : Compiler) (h : Host) (p : Provider) : (c.start h p).pushes = c.pushes := by
  have hs : (c.supersede.enter (c.nextRequest h p)).pushes = c.pushes := by
    unfold supersede
    cases c.active <;> rfl
  have ht : (c.start h p).pushes = (c.supersede.enter (c.nextRequest h p)).pushes ++ [] :=
    pushes_tell _ _
  rw [ht, hs, List.append_nil]

theorem pushes_initialRun (c : Compiler) (h : Host) : (c.initialRun h).pushes = c.pushes := by
  cases hi : c.initialPending with
  | true =>
    rw [initialRun_of_due hi]
    exact pushes_start _ h _
  | false => rw [initialRun_of_not_due hi]

theorem pushes_follow (c : Compiler) (h : Host) (r : Binding.Reaction) :
    (c.follow h r).pushes = c.pushes ++ r.push.toList := by
  have hp : ({ c with binding := r.binding }.tellPush r.push).pushes = c.pushes ++ r.push.toList :=
    pushes_tellPush _ _
  unfold follow
  cases r.snapshot with
  | none => exact hp
  | some buffer => exact (pushes_start _ h _).trans hp

theorem pushes_answer (c : Compiler) (g : Nat) (o : Outcome) : (c.answer g o).pushes = c.pushes := by
  obtain ⟨_, _, he⟩ := c.answer_frame g o
  rw [he]
  rfl

/-! ## the poll -/

/-- a poll that brings issues puts them in place of the old ones and sends them to the bound editor;
any other poll leaves the issues alone and sends nothing. -/
theorem Sound.display_poll {c : Compiler} (hc : c.Sound) (h : Host) :
    (c.poll h).1.issues = c.reported.getD c.issues ∧
      (c.poll h).1.pushes = c.pushes ++ (c.reported.bind c.binding.push?).toList := by
  unfold reported
  cases hf : c.inbox.find? fun m => c.Takes m with
  | none =>
    have hn : ∀ m ∈ c.inbox, ¬ c.Takes m := fun m hm ht => by
      simpa [ht] using List.find?_eq_none.1 hf m hm
    have hv := visible_poll_of_not_takes hn h
    have hi : (c.poll h).1.visible.issues = c.visible.issues := by rw [hv]
    have hp : (c.poll h).1.visible.pushes = c.visible.pushes := by rw [hv]
    rw [pushes_visible, pushes_visible] at hp
    exact ⟨hi, hp.trans (List.append_nil _).symm⟩
  | some m =>
    have hm : m ∈ c.inbox := List.mem_of_find?_eq_some hf
    have ht : c.Takes m := by simpa using List.find?_some hf
    rw [Option.bind_some]
    cases ho : m.outcome with
    | ok output => exact ⟨issues_poll_of_ok hc hm ht ho h, pushes_poll_of_ok hc hm ht ho h⟩
    | error abort =>
      have hu := poll_of_abort hc hm ht ho h
      have hi : (c.poll h).1.unnoted.issues = c.issues := by
        rw [hu]
        rfl
      have hp : (c.poll h).1.unnoted.pushes = c.settled.unnoted.pushes := by rw [hu]
      rw [pushes_unnoted, pushes_unnoted] at hp
      exact ⟨hi, hp.trans (List.append_nil _).symm⟩

/-! ## one event -/

/-- time that passes neither binds an editor nor lets go of one, and sends nothing. -/
theorem display_tick (b : Binding) (bufs : Buffers) (now : Instant) :
    (b.tick bufs now).binding.bound = b.bound ∧ (b.tick bufs now).push = none := by
  unfold Binding.tick
  dsimp only
  split
  · split <;> exact ⟨rfl, rfl⟩
  · exact ⟨rfl, rfl⟩

theorem issues_follow (c : Compiler) (h : Host) (r : Binding.Reaction) :
    (c.follow h r).issues = c.issues := by
  obtain ⟨_, _, _, _, _, he⟩ := c.started_follow h r
  rw [he]

theorem issues_step {c : Compiler} (hc : c.Sound) (e : Event) :
    (c.step e).issues = (c.replaces? e).getD c.issues := by
  have started : ∀ {d : Compiler}, c.Started d → d.issues = c.issues := by
    rintro d ⟨_, _, _, _, _, rfl⟩
    rfl
  have answered : ∀ g o, (c.answer g o).issues = c.issues := fun g o => by
    obtain ⟨_, _, he⟩ := c.answer_frame g o
    rw [he]
  cases e with
  | answer g o => exact answered g o
  | drop g => exact answered g _
  | call h k =>
    cases k with
    | runContents bytes => exact started (c.started_start h _)
    | runFile path => exact started (c.started_start h _)
    | tick now =>
      have ht : (c.tick h now).issues = (c.poll h).1.issues := by
        obtain ⟨_, _, _, _, _, he⟩ := c.started_tick h now
        rw [he]
      exact ht.trans (hc.display_poll h).1
    | poll => exact (hc.display_poll h).1
    | editorChanged editor => exact issues_follow c h _
    | aboutToClose id => exact issues_follow c h _
    | edited id now => rfl
    | targetsBuilt project =>
      show (c.targetsBuilt h project).issues = c.issues
      unfold targetsBuilt
      split <;> rfl
    | setContent target bytes => rfl
    | setIssues issues =>
      show (c.setIssues issues).issues = issues
      rw [setIssues_eq]
    | setWatermark time => rfl
    | takeChanged => rfl

theorem bound_bind_release (b : Binding) (editor : Option Editor) :
    (b.release.bind editor).bound
      = editor.bind fun ed => if Path.Same ed.path b.source then some ed else none := by
  have hr : b.release.bound = none ∧ b.release.source = b.source := by
    unfold Binding.release
    cases hb : b.bound with
    | none => exact ⟨hb, rfl⟩
    | some ed => exact ⟨rfl, rfl⟩
  unfold Binding.bind
  cases editor with
  | none => exact hr.1
  | some ed =>
    show Binding.bound (if Path.Same ed.path b.release.source then _ else _) = if _ then _ else _
    rw [hr.2]
    split
    · rfl
    · exact hr.1

theorem bound_step {c : Compiler} (hs : c.binding.source = c.source) (e : Event) :
    (∃ ed, e.binds? c.source = some ed ∧ (c.step e).binding.bound = some ed) ∨
      (e.binds? c.source = none ∧
        ∀ ed, (c.step e).binding.bound = some ed → c.binding.bound = some ed) := by
  have released : ∀ ed, c.binding.release.bound = some ed → c.binding.bound = some ed := by
    intro ed h
    unfold Binding.release at h
    cases hb : c.binding.bound with
    | none => simp [hb] at h
    | some e => simp [hb] at h
  rw [binding_step]
  cases e with
  | answer g o => exact .inr ⟨rfl, fun ed h => h⟩
  | drop g => exact .inr ⟨rfl, fun ed h => h⟩
  | call h k =>
    cases k with
    | editorChanged editor =>
      have hb : (c.binding.after
          ((Event.call h (.editorChanged editor)).moment? c.issues).toList).bound
            = (Event.call h (.editorChanged editor)).binds? c.source := by
        show (c.binding.release.bind editor).bound = _
        rw [bound_bind_release, hs]
        cases editor <;> rfl
      cases hn : (Event.call h (.editorChanged editor)).binds? c.source with
      | some ed => exact .inl ⟨ed, rfl, hb.trans hn⟩
      | none =>
        refine .inr ⟨rfl, fun ed he => ?_⟩
        rw [hb, hn] at he
        exact nomatch he
    | aboutToClose id =>
      refine .inr ⟨rfl, fun ed he => ?_⟩
      replace he : (c.binding.aboutToClose h.buffers id).binding.bound = some ed := he
      unfold Binding.aboutToClose at he
      split at he
      · exact released ed he
      · exact he
    | edited id now =>
      refine .inr ⟨rfl, fun ed he => ?_⟩
      replace he : (c.binding.edited id now).bound = some ed := he
      unfold Binding.edited at he
      split at he <;> exact he
    | tick now =>
      refine .inr ⟨rfl, fun ed he => ?_⟩
      rw [← (display_tick c.binding h.buffers now).1]
      exact he
    | _ => exact .inr ⟨rfl, fun ed h => h⟩

theorem pushes_step {c : Compiler} (hc : c.Sound) (hs : c.binding.source = c.source) (e : Event) :
    (c.step e).pushes = c.pushes ++ c.shows e := by
  have quiet : ∀ {d : Compiler}, d.pushes = c.pushes → d.pushes = c.pushes ++ [] := fun h => by
    rw [h, List.append_nil]
  cases e with
  | answer g o => exact quiet (pushes_answer c g o)
  | drop g => exact quiet (pushes_answer c g _)
  | call h k =>
    cases k with
    | runContents bytes => exact quiet (pushes_start c h _)
    | runFile path => exact quiet (pushes_start c h _)
    | tick now =>
      have hf : (c.tick h now).pushes = ((c.poll h).1.initialRun h).pushes ++ [] := by
        rw [← Option.toList_none,
          ← (display_tick ((c.poll h).1.initialRun h).binding h.buffers now).2]
        exact pushes_follow _ h _
      rw [List.append_nil, pushes_initialRun] at hf
      exact hf.trans (hc.display_poll h).2
    | poll => exact (hc.display_poll h).2
    | editorChanged editor =>
      have hb : (c.binding.release.bind editor).push? c.issues
          = (Event.binds? c.source (.call h (.editorChanged editor))).map fun ed =>
              ⟨ed.slot, Issue.annotateAll c.issues⟩ := by
        unfold Binding.push?
        rw [bound_bind_release, hs]
        cases editor <;> rfl
      have hf : (c.editorChanged h editor).pushes
          = c.pushes ++ ((c.binding.release.bind editor).push? c.issues).toList := pushes_follow c h _
      rw [hb] at hf
      exact hf.trans (congrArg (c.pushes ++ ·) (List.append_nil _).symm)
    | aboutToClose id =>
      have hn : (c.binding.aboutToClose h.buffers id).push = none := by
        unfold Binding.aboutToClose
        split <;> rfl
      have hf : (c.aboutToClose h id).pushes
          = c.pushes ++ (c.binding.aboutToClose h.buffers id).push.toList := pushes_follow c h _
      rw [hn] at hf
      exact hf
    | edited id now => exact quiet rfl
    | targetsBuilt project =>
      refine quiet (d := c.targetsBuilt h project) ?_
      unfold targetsBuilt
      split <;> rfl
    | setContent target bytes => exact quiet rfl
    | setIssues issues => exact pushes_setIssues c issues
    | setWatermark time => exact quiet rfl
    | takeChanged => exact quiet rfl

/-! ## what is shown -/

/-- the bound editor was sent the current issues, and nobody was sent anything since. -/
structure Displays (c : Compiler) : Prop where
  source_eq : c.binding.source = c.source
  last : ∀ ed, c.binding.bound = some ed →
    c.pushes.getLast? = some ⟨ed.slot, Issue.annotateAll c.issues⟩

namespace Displays

variable {c : Compiler}

theorem step (hd : c.Displays) (hc : c.Sound) (e : Event) : (c.step e).Displays := by
  have hsource : (c.step e).binding.source = (c.step e).source := by
    have hb : (c.step e).source = c.source := congrArg Badge.source (c.badge_step e)
    rw [hb, ← hd.source_eq, binding_step]
    exact Binding.fixed_after (f := Binding.source) (fun _ _ _ _ => rfl) _ _
  refine ⟨hsource, fun ed hed => ?_⟩
  rw [pushes_step hc hd.source_eq, issues_step hc, List.getLast?_append]
  unfold shows
  rcases bound_step hd.source_eq e with ⟨ed', hb, hn⟩ | ⟨hb, hold⟩
  · have hr : c.replaces? e = none := by
      unfold Event.binds? at hb
      split at hb
      · rfl
      · exact nomatch hb
    have he : ed' = ed := Option.some.inj (hn.symm.trans hed)
    rw [hb, hr, he]
    rfl
  · have hbound := hold ed hed
    rw [hb]
    cases hr : c.replaces? e with
    | none => exact hd.last ed hbound
    | some issues =>
      have hp : c.binding.push? issues = some ⟨ed.slot, Issue.annotateAll issues⟩ := by
        unfold Binding.push?
        rw [hbound]
        rfl
      rw [Option.bind_some, hp]
      rfl

theorem after (hd : c.Displays) (hc : c.Sound) (es : List Event) : (c.after es).Displays := by
  induction es generalizing c with
  | nil => exact hd
  | cons e es ih => exact ih (hd.step hc e) (hc.step e)

end Displays

theorem bound_of_replaces {c : Compiler} {e : Event} {issues : List Issue}
    (hr : c.replaces? e = some issues) : (c.step e).binding.bound = c.binding.bound := by
  rw [binding_step]
  unfold replaces? at hr
  split at hr
  · rfl
  · rfl
  · exact (display_tick c.binding _ _).1
  · exact nomatch hr

theorem bound_of_mem_shows {c : Compiler} (hs : c.binding.source = c.source) {e : Event} {p : Push}
    (hp : p ∈ c.shows e) : ∃ ed, (c.step e).binding.bound = some ed ∧ p.slot = ed.slot := by
  unfold shows at hp
  rcases List.mem_append.1 hp with hp | hp
  · obtain ⟨ed, hb, rfl⟩ := Option.map_eq_some_iff.1 (Option.mem_toList.1 hp)
    rcases bound_step hs e with ⟨ed', hb', hn⟩ | ⟨hb', -⟩
    · rw [hb] at hb'
      exact ⟨ed, Option.some.inj hb' ▸ hn, rfl⟩
    · rw [hb] at hb'
      exact nomatch hb'
  · obtain ⟨issues, hr, hpush⟩ := Option.bind_eq_some_iff.1 (Option.mem_toList.1 hp)
    obtain ⟨ed, hed, rfl⟩ := Option.map_eq_some_iff.1 hpush
    exact ⟨ed, (bound_of_replaces hr).trans hed, rfl⟩

/-- an event sends once for an editor that it binds, and once for issues that it replaces while an
editor is bound. -/
theorem length_shows (c : Compiler) (e : Event) : (c.shows e).length =
    (if (e.binds? c.source).isSome then 1 else 0) +
      if (c.replaces? e).isSome ∧ c.binding.bound.isSome then 1 else 0 := by
  unfold shows Binding.push?
  cases e.binds? c.source <;> cases c.replaces? e <;> cases c.binding.bound <;> simp

end Compiler

namespace Setup

theorem displays_after (s : Setup) (es : List Event) : (s.after es).Displays := by
  have h0 : s.compiler.Displays := ⟨rfl, fun ed hed => nomatch hed⟩
  exact h0.after (Compiler.Sound.create ..) es

/-- **The bound editor shows the current issues.** In any life of a compiler, the annotations sent
last to the editor that is bound are those of the current issues, one for each and in their order.
They are sent on two occasions, once on each: an editor that shows the source comes up, which is
bound then, or the issues are replaced while an editor is bound. What is sent always goes to the
editor that is bound. -/
theorem bound_editor_shows_issues (s : Setup) (es : List Event) :
    let c := s.after es
    (∀ ed, c.binding.bound = some ed →
      ∃ p, (c.pushes.filter fun p => p.slot = ed.slot).getLast? = some p ∧
        List.Forall₂ Issue.ShownAs c.issues p.annotations) ∧
    s.compiler.pushes = [] ∧
    ∀ e, let d := c.step e
      (∀ ed, e.binds? s.source = some ed → d.binding.bound = some ed) ∧
      d.issues = (c.replaces? e).getD c.issues ∧
      ∃ sent, d.pushes = c.pushes ++ sent ∧
        sent.length = (if (e.binds? s.source).isSome then 1 else 0) +
          (if (c.replaces? e).isSome ∧ c.binding.bound.isSome then 1 else 0) ∧
        ∀ p ∈ sent, ∃ ed, d.binding.bound = some ed ∧ p.slot = ed.slot := by
  intro c
  have hc : c.Sound := (s.soundWith_after es).1
  have hd : c.Displays := s.displays_after es
  have hsource : c.source = s.source := s.source_after es
  refine ⟨fun ed hed => ?_, rfl, fun e => ⟨fun ed hb => ?_, Compiler.issues_step hc e,
    c.shows e, Compiler.pushes_step hc hd.source_eq e, ?_, fun p hp => ?_⟩⟩
  · have hlast := hd.last ed hed
    obtain ⟨before, hp⟩ := List.getLast?_eq_some_iff.1 hlast
    refine ⟨⟨ed.slot, Issue.annotateAll c.issues⟩, ?_, Issue.shownAs_annotateAll c.issues⟩
    rw [hp, List.filter_append, List.filter_cons_of_pos (by simp), List.filter_nil,
      List.getLast?_concat]
  · rw [← hsource] at hb
    rcases Compiler.bound_step hd.source_eq e with ⟨ed', hb', hn⟩ | ⟨hb', -⟩
    · rw [hb] at hb'
      exact Option.some.inj hb' ▸ hn
    · rw [hb] at hb'
      exact nomatch hb'
  · rw [← hsource]
    exact c.length_shows e
  · exact Compiler.bound_of_mem_shows hd.source_eq hp

/-- issues that a run reports before its source is shown, one about line zero among them, and the
issues that replace them. -/
example :
    let blank : Disk := ⟨fun _ => none, fun _ => .error (.code 2)⟩
    let host : Host := ⟨blank, fun _ => ⟨0, false, .unconfigured⟩, fun _ => [], .empty, 7⟩
    let s : Setup := ⟨0, ⟨0, 0⟩, ⟨1000, 200, 1, 30000⟩, ⟨[115]⟩, [], .manual, blank⟩
    let es : List Event := [.call host (.runContents [0]),
      .answer 1 (.ok ⟨.ofList [], [⟨0, .error, "a"⟩, ⟨3, .warning, "b"⟩]⟩), .call host .poll,
      .call host (.editorChanged (some ⟨4, 1, ⟨[115]⟩⟩)), .call host (.setIssues [])]
    (s.after es).pushes = [⟨4, [⟨0, .error, "a"⟩, ⟨2, .warning, "b"⟩]⟩, ⟨4, []⟩] := by decide

end Setup
end Regen
