import Mathlib.Data.List.Induction
import Regen.Proofs.Compiler.Display
import Regen.Proofs.Session.Wakeup

/-!
# Who speaks last is shown

The compilers of one source are bound to the same editor, and each sends it annotations that replace
what it showed. So the editor shows the issues of the compiler that sent some last: the issues of the
others are shown only as far as they are among those.

* `Session.Event.rebinds`   the editor that is bound after an event;
* `Session.sends`           what the compilers of a session send in an event, in their order;
* `Session.sent`            what they send in a list of events;
* `Session.Chorus`          the bound compilers share an editor, which shows what one of them said.

Main statements: `draws_eq`, `Chorus.step`, `last_speaker_is_shown` and
`later_speaker_hides_issues`.
-/

namespace Regen.Session

/-! ## what the compilers send -/

def Event.on (e : Event) (c : Compiler) : Compiler := c.after (e.told c.number).toList

/-- what a compiler sends to editors in an event of its session. -/
def Event.draws (e : Event) (c : Compiler) : List Push := (e.on c).pushes.drop c.pushes.length

def sends (s : Session) (e : Event) : List (Nat × Push) :=
  s.compilers.flatMap fun c => (e.draws c).map fun p => (c.number, p)

def sent : Session → List Event → List (Nat × Push)
  | _, [] => []
  | s, e :: es => s.sends e ++ (s.step e).sent es

theorem sent_append (s : Session) (es fs : List Event) :
    s.sent (es ++ fs) = s.sent es ++ (s.after es).sent fs := by
  induction es generalizing s with
  | nil => rfl
  | cons e es ih =>
    rw [List.cons_append, sent, sent, ih, List.append_assoc]
    rfl

/-! ## one compiler in an event of its session -/

def Event.rebinds (source : Path) (bound : Option Editor) : Event → Option Editor
  | .call _ (.editorChanged editor) =>
    editor.bind fun ed => if Path.Same ed.path source then some ed else none
  | .call _ (.aboutToClose id) => bound.filter fun ed => ed.id != id
  | _ => bound

theorem bound_aboutToClose (b : Binding) (bufs : Buffers) (id : Nat) :
    (b.aboutToClose bufs id).binding.bound = b.bound.filter fun ed => ed.id != id := by
  unfold Binding.aboutToClose Binding.isBoundTo Binding.release
  cases hb : b.bound with
  | none => simp [hb]
  | some ed => by_cases hid : ed.id = id <;> simp [hb, hid, Option.filter]

theorem bound_edited (b : Binding) (id : Nat) (now : Instant) :
    (b.edited id now).bound = b.bound := by
  unfold Binding.edited
  split <;> rfl

theorem bound_on {c : Compiler} (hs : c.binding.source = c.source) (e : Event) :
    (e.on c).binding.bound = e.rebinds c.source c.binding.bound := by
  have answered (n g : Nat) (e' : Regen.Event) (he : ∀ issues, e'.moment? issues = none) :
      (c.after (if n = c.number then some e' else none).toList).binding.bound =
        c.binding.bound := by
    split
    · show (c.step e').binding.bound = _
      rw [Compiler.binding_step, he]
      rfl
    · rfl
  cases e with
  | answer n g outcome => exact answered n g _ fun _ => rfl
  | drop n g => exact answered n g _ fun _ => rfl
  | registry r => rfl
  | call h k =>
    cases k with
    | projectAdded project files => rfl
    | projectRemoved project => rfl
    | editorChanged editor =>
      show (c.step (.call h (.editorChanged editor))).binding.bound = _
      rw [Compiler.binding_step]
      exact (Compiler.bound_bind_release c.binding editor).trans (hs ▸ rfl)
    | aboutToClose id =>
      show (c.step (.call h (.aboutToClose id))).binding.bound = _
      rw [Compiler.binding_step]
      exact bound_aboutToClose c.binding h.buffers id
    | edited id now => exact bound_edited c.binding id now
    | buildStateChanged project =>
      show (c.step (.call h (.targetsBuilt project))).binding.bound = _
      rw [Compiler.binding_step]
      rfl
    | tick now =>
      show (c.step (.call h (.tick now))).binding.bound = _
      rw [Compiler.binding_step]
      exact (Compiler.display_tick c.binding h.buffers now).1
    | takeChanged => rfl

/-- two compilers that are bound to editors are bound to the same one. -/
def Share (c d : Compiler) : Prop :=
  ∀ ed ed', c.binding.bound = some ed → d.binding.bound = some ed' → ed = ed'

theorem Share.on {c d : Compiler} (h : Share c d) (hc : c.binding.source = c.source)
    (hd : d.binding.source = d.source) (e : Event) :
    Share (e.on c) (e.on d) := by
  intro ed ed' hed hed'
  rw [bound_on hc] at hed
  rw [bound_on hd] at hed'
  unfold Event.rebinds at hed hed'
  split at hed
  · simp only [Option.bind_eq_some_iff, Option.ite_none_right_eq_some, Option.some.injEq] at hed hed'
    obtain ⟨ed₁, h₁, -, rfl⟩ := hed
    obtain ⟨ed₂, h₂, -, rfl⟩ := hed'
    exact Option.some.inj (h₁.symm.trans h₂)
  · exact h ed ed' (Option.filter_eq_some_iff.mp hed).1 (Option.filter_eq_some_iff.mp hed').1
  · rename_i hchanged hclosed
    split at hed'
    · exact (hchanged _ _ rfl).elim
    · exact (hclosed _ _ rfl).elim
    · exact h ed ed' hed hed'

theorem draws_eq {c : Compiler} (hc : c.Sound) (hs : c.binding.source = c.source) (e : Event) :
    e.draws c = (e.told c.number).toList.flatMap c.shows := by
  unfold Event.draws Event.on
  cases e.told c.number with
  | none => exact List.drop_length
  | some e' =>
    show (c.step e').pushes.drop c.pushes.length = c.shows e' ++ []
    rw [Compiler.pushes_step hc hs, List.drop_left, List.append_nil]

theorem last_of_draws {c : Compiler} (hc : c.Sound) (hd : c.Displays) {e : Event} {p : Push}
    (hp : (e.draws c).getLast? = some p) :
    ∃ ed, (e.on c).binding.bound = some ed ∧
      p = ⟨ed.slot, Issue.annotateAll (e.on c).issues⟩ := by
  rw [draws_eq hc hd.source_eq] at hp
  unfold Event.on
  cases ht : e.told c.number with
  | none => simp [ht] at hp
  | some e' =>
    rw [ht] at hp
    replace hp : (c.shows e').getLast? = some p := by simpa using hp
    obtain ⟨ed, hed, -⟩ :=
      Compiler.bound_of_mem_shows hd.source_eq (List.mem_of_getLast? hp)
    have hlast := (hd.step hc e').last ed hed
    rw [Compiler.pushes_step hc hd.source_eq, List.getLast?_append, hp] at hlast
    exact ⟨ed, hed, Option.some.inj hlast⟩

theorem issues_of_silent {c : Compiler} (hc : c.Sound) (hs : c.binding.source = c.source)
    {e : Event} (hn : e.draws c = []) {ed : Editor} (hb : c.binding.bound = some ed) :
    (e.on c).issues = c.issues := by
  rw [draws_eq hc hs] at hn
  unfold Event.on
  cases ht : e.told c.number with
  | none => rfl
  | some e' =>
    have hshows : c.shows e' = [] := by simpa [ht] using hn
    have hr : c.replaces? e' = none := by
      cases hr : c.replaces? e' with
      | none => rfl
      | some issues => simp [Compiler.shows, hr, Binding.push?, hb] at hshows
    show (c.step e').issues = c.issues
    rw [Compiler.issues_step hc, hr]
    rfl

/-- a compiler that sends nothing and is bound to an editor was bound to it before, and whoever else
was bound to it still is. -/
theorem rebinds_of_silent {c : Compiler} (hc : c.Sound) (hs : c.binding.source = c.source)
    {e : Event} (hn : e.draws c = []) {ed : Editor} (hb : (e.on c).binding.bound = some ed) :
    c.binding.bound = some ed ∧ ∀ source, e.rebinds source (some ed) = some ed := by
  rw [bound_on hs] at hb
  unfold Event.rebinds at hb ⊢
  split at hb
  · rename_i h editor
    have hshows : c.shows (.call h (.editorChanged editor)) = [] := by
      simpa [draws_eq hc hs, Event.told, Call.each?] using hn
    cases editor with
    | none => simp at hb
    | some ed' =>
      have hsame : ¬ Path.Same ed'.path c.source := fun hsame => by
        simp [Compiler.shows, Event.binds?, hsame] at hshows
      simp [hsame] at hb
  · obtain ⟨hbound, hid⟩ := Option.filter_eq_some_iff.mp hb
    exact ⟨hbound, fun _ => Option.filter_eq_some_iff.mpr ⟨rfl, hid⟩⟩
  · exact ⟨hb, fun _ => rfl⟩

/-! ## all of them -/

/-- the compilers of a session share the editor that they are bound to, and it was sent the issues of
one of them last, which are current if this compiler is still there. -/
structure Chorus (s : Session) (log : List (Nat × Push)) : Prop where
  share : ∀ c ∈ s.compilers, ∀ d ∈ s.compilers, Share c d
  last : ∀ c ∈ s.compilers, ∀ ed, c.binding.bound = some ed →
    ∃ n p, log.getLast? = some (n, p) ∧ p.slot = ed.slot ∧ n < s.created ∧
      ∀ d ∈ s.compilers, d.number = n →
        d.binding.bound = some ed ∧ p.annotations = Issue.annotateAll d.issues

theorem mem_step {s : Session} {e : Event} {d : Compiler} : d ∈ (s.step e).compilers ↔
    (∃ c ∈ s.compilers, e.spares c.projectId = true ∧ e.on c = d) ∨
      ∃ u ∈ s.born e, u.compiler = d := by
  rw [compilers_step, List.mem_append, List.mem_map, List.mem_map]
  simp only [List.mem_filter, Event.on, and_assoc]

theorem spares_of_draws {c : Compiler} {e : Event} (hn : e.draws c ≠ []) (project : Nat) :
    e.spares project = true := by
  rcases e with ⟨h, k⟩ | _ | _ | _
  · cases k with
    | projectRemoved p => exact absurd (List.drop_length) hn
    | _ => rfl
  all_goals rfl

theorem Numbered.eq_of_number {s : Session} (hs : s.Numbered) {c d : Compiler}
    (hc : c ∈ s.compilers) (hd : d ∈ s.compilers) (hn : c.number = d.number) : c = d :=
  List.inj_on_of_nodup_map (hs.sorted.imp fun h => Nat.ne_of_lt h) hc hd hn

/-- the compilers of a session are sound and show their issues. -/
structure Fit (s : Session) : Prop where
  numbered : s.Numbered
  sound : ∀ c ∈ s.compilers, c.Sound
  displays : ∀ c ∈ s.compilers, c.Displays

theorem fit_after (registry : Registry) (config : Config) (es : List Event) :
    ((start registry config).after es).Fit := by
  refine ⟨(numbered_start registry config).after es, fun c hc => ?_, fun c hc => ?_⟩
  · obtain ⟨u, met, rfl⟩ := exists_setup hc
    exact (u.soundWith_after met).1
  · obtain ⟨u, met, rfl⟩ := exists_setup hc
    exact u.displays_after met

section
variable {s : Session} {log : List (Nat × Push)} (e : Event)

theorem Chorus.share_step (h : s.Chorus log) (hs : s.Fit) :
    ∀ c ∈ (s.step e).compilers, ∀ d ∈ (s.step e).compilers, Share c d := by
  intro c' hc' d' hd'
  obtain ⟨c, hc, -, rfl⟩ | ⟨u, -, rfl⟩ := mem_step.mp hc'
  · obtain ⟨d, hd, -, rfl⟩ | ⟨u, -, rfl⟩ := mem_step.mp hd'
    · exact (h.share c hc d hd).on (hs.displays c hc).source_eq (hs.displays d hd).source_eq e
    · exact fun _ _ _ hn => nomatch hn
  · exact fun _ _ hn => nomatch hn

theorem created_le_number {u : Setup} (hu : u ∈ s.born e) : s.created ≤ u.number := by
  have hm : u.number ∈ (s.born e).map Setup.number := List.mem_map_of_mem hu
  rw [numbers_born] at hm
  exact (List.mem_range'_1.mp hm).1

variable {e} {c' : Compiler} {ed : Editor}

theorem Chorus.last_of_silent (h : s.Chorus log) (hs : s.Fit) (hn : s.sends e = [])
    (hc' : c' ∈ (s.step e).compilers) (hed : c'.binding.bound = some ed) :
    ∃ n p, log.getLast? = some (n, p) ∧ p.slot = ed.slot ∧ n < (s.step e).created ∧
      ∀ d ∈ (s.step e).compilers, d.number = n →
        d.binding.bound = some ed ∧ p.annotations = Issue.annotateAll d.issues := by
  have silent : ∀ c ∈ s.compilers, e.draws c = [] := fun c hc =>
    List.map_eq_nil_iff.mp (List.flatMap_eq_nil_iff.mp hn c hc)
  obtain ⟨c, hc, -, rfl⟩ | ⟨u, -, rfl⟩ := mem_step.mp hc'
  · obtain ⟨hbound, hkept⟩ :=
      rebinds_of_silent (hs.sound c hc) (hs.displays c hc).source_eq (silent c hc) hed
    obtain ⟨n, p, hlast, hslot, hlt, hshown⟩ := h.last c hc ed hbound
    refine ⟨n, p, hlast, hslot, ?_, fun d' hd' hnumber => ?_⟩
    · rw [created_step]
      exact Nat.lt_add_right _ hlt
    · obtain ⟨d, hd, -, rfl⟩ | ⟨u, hu, rfl⟩ := mem_step.mp hd'
      · have hsource := (hs.displays d hd).source_eq
        obtain ⟨hdbound, hannotations⟩ := hshown d hd ((number_after d _).symm.trans hnumber)
        rw [bound_on hsource, hdbound, hkept,
          issues_of_silent (hs.sound d hd) hsource (silent d hd) hdbound]
        exact ⟨rfl, hannotations⟩
      · have hle := created_le_number e hu
        have heq : u.number = n := hnumber
        omega
  · exact nomatch hed

theorem Chorus.last_of_speaker (h : s.Chorus log) (hs : s.Fit) {n : Nat} {p : Push}
    (hn : (s.sends e).getLast? = some (n, p)) (hc' : c' ∈ (s.step e).compilers)
    (hed : c'.binding.bound = some ed) :
    p.slot = ed.slot ∧ n < (s.step e).created ∧
      ∀ d ∈ (s.step e).compilers, d.number = n →
        d.binding.bound = some ed ∧ p.annotations = Issue.annotateAll d.issues := by
  unfold sends at hn
  rw [List.getLast?_flatMap] at hn
  obtain ⟨c, hc, hlast⟩ := List.exists_of_findSome?_eq_some hn
  rw [List.getLast?_map] at hlast
  obtain ⟨_, hdraws, heq⟩ := Option.map_eq_some_iff.mp hlast
  cases heq
  have hc := List.mem_reverse.mp hc
  have hspoke : e.draws c ≠ [] := fun hnil => by simp [hnil] at hdraws
  have hspares := spares_of_draws hspoke c.projectId
  have hon : e.on c ∈ (s.step e).compilers := mem_step.mpr (.inl ⟨c, hc, hspares, rfl⟩)
  obtain ⟨ed', hbound, rfl⟩ := last_of_draws (hs.sound c hc) (hs.displays c hc) hdraws
  obtain rfl := h.share_step e hs _ hc' _ hon ed ed' hed hbound
  have hnumbered := hs.numbered.step e
  refine ⟨rfl, ?_, fun d hd hnumber => ?_⟩
  · rw [created_step]
    exact Nat.lt_add_right _ (hs.numbered.lt_created _ (List.mem_map_of_mem hc))
  · obtain rfl := hnumbered.eq_of_number hd hon (hnumber.trans (number_after c _).symm)
    exact ⟨hbound, rfl⟩

/-- **The last that spoke in an event is shown**, and if nobody spoke, who was shown before. -/
theorem Chorus.step (h : s.Chorus log) (hs : s.Fit) (e : Event) :
    (s.step e).Chorus (log ++ s.sends e) := by
  refine ⟨h.share_step e hs, fun c' hc' ed hed => ?_⟩
  rw [List.getLast?_append]
  cases hlast : (s.sends e).getLast? with
  | none => exact h.last_of_silent hs (List.getLast?_eq_none_iff.mp hlast) hc' hed
  | some w => exact ⟨w.1, w.2, rfl, h.last_of_speaker hs hlast hc' hed⟩

end

theorem chorus_after (registry : Registry) (config : Config) (es : List Event) :
    ((start registry config).after es).Chorus ((start registry config).sent es) := by
  induction es using List.reverseRecOn with
  | nil => exact ⟨fun _ hc => absurd hc List.not_mem_nil, fun _ hc => absurd hc List.not_mem_nil⟩
  | append_singleton es e ih =>
    rw [after_append, sent_append, sent, sent, List.append_nil]
    exact ih.step (fit_after registry config es) e

/-- **Who spoke last is shown.** In any state of a session, all compilers that are bound to an editor
are bound to the same one. In an event each compiler sends what it would send alone, one after the
other in their order. So what was sent to the editor last came from one of them: as long as that one
is in the session it is bound, and its current issues are shown, all of them and nothing else. The
issues of another compiler that is bound are shown if and only if each looks like one of those. -/
theorem last_speaker_is_shown (registry : Registry) (config : Config) (es : List Event) :
    let s := (start registry config).after es
    let sent := (start registry config).sent es
    (∀ e, (start registry config).sent (es ++ [e]) = sent ++ s.compilers.flatMap fun c =>
      ((e.told c.number).toList.flatMap c.shows).map fun p => (c.number, p)) ∧
    ∀ c ∈ s.compilers, ∀ ed, c.binding.bound = some ed →
      (∀ d ∈ s.compilers, ∀ ed', d.binding.bound = some ed' → ed' = ed) ∧
      ∃ n p, (sent.filter fun w => w.2.slot = ed.slot).getLast? = some (n, p) ∧
        ∀ d ∈ s.compilers, d.number = n → d.binding.bound = some ed ∧
          p.annotations = Issue.annotateAll d.issues ∧
          ((∀ i ∈ c.issues, i.annotate ∈ p.annotations) ↔
            ∀ i ∈ c.issues, ∃ j ∈ d.issues, j.annotate = i.annotate) := by
  intro s sent
  have hfit : s.Fit := fit_after registry config es
  have hchorus : s.Chorus sent := chorus_after registry config es
  refine ⟨fun e => ?_, fun c hc ed hed => ⟨fun d hd ed' hed' => ?_, ?_⟩⟩
  · have hsends : s.sends e = s.compilers.flatMap fun c =>
        ((e.told c.number).toList.flatMap c.shows).map fun p => (c.number, p) :=
      List.flatMap_congr fun c hc => by
        rw [draws_eq (hfit.sound c hc) (hfit.displays c hc).source_eq]
    rw [sent_append, ← hsends]
    exact congrArg _ (List.append_nil _)
  · exact hchorus.share d hd c hc ed' ed hed' hed
  · obtain ⟨n, p, hlast, hslot, -, hshown⟩ := hchorus.last c hc ed hed
    obtain ⟨before, hsent⟩ := List.getLast?_eq_some_iff.mp hlast
    refine ⟨n, p, ?_, fun d hd hnumber => ?_⟩
    · rw [hsent, List.filter_append, List.filter_cons_of_pos (by simpa using hslot),
        List.filter_nil, List.getLast?_concat]
    · obtain ⟨hbound, hannotations⟩ := hshown d hd hnumber
      refine ⟨hbound, hannotations, ?_⟩
      rw [hannotations, Issue.annotateAll]
      simp only [List.mem_map]

/-- two factories claim one source: the run of the first reports an issue, the run of the second
does not, and the editor to which both are bound shows none. -/
theorem later_speaker_hides_issues :
    let blank : Disk := ⟨fun _ => none, fun _ => .error (.code 2)⟩
    let host : Host := ⟨blank, fun _ => ⟨0, false, .unconfigured⟩, fun _ => [], .empty, 7⟩
    let factory (name : String) (target : UInt8) : Factory :=
      ⟨name, Factory.bySuffix [".t"], fun _ => [⟨[target]⟩], fun _ => .manual⟩
    let registry := (Registry.empty.registerFactory (factory "one" 49)).registerFactory
      (factory "two" 50)
    let file : Path := ⟨[97, 46, 116]⟩
    let editor : Editor := ⟨0, 1, file⟩
    let es : List Event := [.call host (.projectAdded ⟨0, 7⟩ [file]),
      .call host (.editorChanged (some editor)), .call host (.tick 0),
      .answer 0 1 (.ok ⟨.ofList [], [⟨3, .error, "bad"⟩]⟩), .answer 1 1 (.ok ⟨.ofList [], []⟩),
      .call host (.tick 1)]
    let s := (start registry ⟨1000, 200, 2, 100⟩).after es
    let sent := (start registry ⟨1000, 200, 2, 100⟩).sent es
    s.compilers.map (fun c => (c.number, c.binding.bound, c.issues)) =
        [(0, some editor, [⟨3, .error, "bad"⟩]), (1, some editor, [])] ∧
      (sent.filter fun w => w.2.slot = editor.slot).getLast? = some (1, ⟨0, []⟩) := by
  decide

end Regen.Session
