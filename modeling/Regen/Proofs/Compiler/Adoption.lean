import Regen.Proofs.Compiler.Scan
import Regen.Proofs.Staleness.Records

/-!
# What builds bring to a compiler

When an external build comes to rest, a compiler takes the targets it made. Having done so it has
nothing left to take: neither at once, nor later, as long as its watermark covers the source. The order
of its targets decides which of them are taken, but not whether any is, and not how far the watermark
rises; so two compilers that differ in the order of their targets go through life with the same
watermark.

* `Compiler.built`         what a compiler takes after a build;
* `Event.built?`           the disk that a build leaves;
* `Compiler.Undisturbed`   a later life in which nothing but builds may move the watermark, and these
                           find the source covered;
* `Compiler.bare`          a compiler without its store;
* `Disk.Blind`             a disk that does not tell how a path is spelled;
* `Compiler.Rearranged`    two compilers that differ in the order of their targets.

Main statements: `targetsBuilt_targetsBuilt`, `after_undisturbed`, `Rearranged.after` and
`Setup.reconciliation_is_stable`.
-/

namespace Regen

def Event.built? : Event → Option Disk
  | .call h (.targetsBuilt _) => some h.disk
  | _ => none

namespace Compiler

/-- what a compiler takes after a build of a project, and the watermark then: nothing, if it is not its
own project or one that is still being built. -/
def built (c : Compiler) (h : Host) (project : Nat) : Reconciled :=
  if project ≠ c.project.id ∨ (h.projects c.project.slot).building then ⟨c.watermark, []⟩
  else reconcile h.disk c.source c.watermark c.targets

theorem targetsBuilt_eq (c : Compiler) (h : Host) (project : Nat) :
    c.targetsBuilt h project =
      { c with
          watermark := (c.built h project).watermark
          store := c.store.setAll (c.built h project).adopted } := by
  unfold targetsBuilt built
  split <;> rfl

theorem targets_targetsBuilt (c : Compiler) (h : Host) (project : Nat) :
    (c.targetsBuilt h project).targets = c.targets :=
  c.targets_step (.call h (.targetsBuilt project))

/-! ## once is enough -/

theorem targetsBuilt_of_covers {c : Compiler} {h : Host} (project : Nat)
    (hc : c.watermark.Covers (h.disk.modified c.source)) : c.targetsBuilt h project = c := by
  have hb : c.built h project = ⟨c.watermark, []⟩ := by
    unfold built
    split
    · rfl
    · exact reconcile_of_covers _ _ _ _ hc
  rw [targetsBuilt_eq, hb]
  rfl

theorem targetsBuilt_targetsBuilt {c : Compiler} {h h' : Host} {project : Nat}
    (own : c.project.id = project) (idle : (h.projects c.project.slot).building = false)
    (hd : h'.disk = h.disk) (project' : Nat) :
    (c.targetsBuilt h project).targetsBuilt h' project' = c.targetsBuilt h project := by
  have hb : c.built h project = reconcile h.disk c.source c.watermark c.targets :=
    if_neg (by simp [own, idle])
  have hw : (c.targetsBuilt h project).watermark
      = (reconcile h.disk c.source c.watermark c.targets).watermark := by
    rw [targetsBuilt_eq, hb]
  have hs : (c.targetsBuilt h project).source = c.source := by
    rw [targetsBuilt_eq]
  have hnone : (c.targetsBuilt h project).built h' project'
      = ⟨(c.targetsBuilt h project).watermark, []⟩ := by
    unfold built
    split
    · rfl
    · rw [targets_targetsBuilt, hs, hw, hd]
      exact reconcile_again _ _ _ _
  rw [targetsBuilt_eq (c.targetsBuilt h project), hnone]
  rfl

/-! ## later builds -/

/-- a moment of a life in which nothing but a build may move the watermark, and a build finds a source
that is missing or no later than the watermark. -/
def Bears (c : Compiler) : Event → Prop
  | .call h (.targetsBuilt _) => ∀ s ∈ h.disk.modified c.source, ∀ v ∈ c.watermark.time?, s ≤ v
  | e => (c.step e).watermark = c.watermark

def Undisturbed : Compiler → List Event → Prop
  | _, [] => True
  | c, e :: es => c.Bears e ∧ (c.step e).Undisturbed es

section
variable {c : Compiler} {v : Time} (hv : c.watermark = ⟨some v⟩)
include hv

/-- once there is a watermark, no build changes anything in such a life. -/
theorem targetsBuilt_of_bears {h : Host} {project : Nat}
    (hb : c.Bears (.call h (.targetsBuilt project))) : c.targetsBuilt h project = c := by
  refine targetsBuilt_of_covers project ⟨v, congrArg Watermark.time? hv, fun s hs => ?_⟩
  exact hb s hs v (congrArg Watermark.time? hv)

theorem watermark_of_bears {e : Event} (hb : c.Bears e) : (c.step e).watermark = ⟨some v⟩ := by
  rw [← hv]
  unfold Bears at hb
  split at hb
  next h project => exact congrArg watermark (targetsBuilt_of_bears hv hb)
  next => exact hb

theorem after_undisturbed {es : List Event} (hes : c.Undisturbed es) :
    (c.after es).watermark = c.watermark ∧
      ∀ before h project later, es = before ++ .call h (.targetsBuilt project) :: later →
        (c.after before).targetsBuilt h project = c.after before := by
  induction es generalizing c with
  | nil => exact ⟨rfl, fun before h project later he => by simp at he⟩
  | cons e es ih =>
    have hstep := watermark_of_bears hv hes.1
    obtain ⟨hw, hbuilt⟩ := ih hstep hes.2
    refine ⟨?_, fun before h project later he => ?_⟩
    · show ((c.step e).after es).watermark = _
      rw [hw, hstep, hv]
    · cases before with
      | nil =>
        obtain ⟨rfl, -⟩ := List.cons_eq_cons.1 he
        exact targetsBuilt_of_bears hv hes.1
      | cons f before =>
        obtain ⟨rfl, rfl⟩ := List.cons_eq_cons.1 he
        exact hbuilt before h project later rfl

end

theorem watermark_of_built {c : Compiler} {h : Host} {project : Nat}
    (hb : (c.built h project).adopted ≠ []) :
    ∃ v, (c.targetsBuilt h project).watermark = ⟨some v⟩ := by
  rw [targetsBuilt_eq]
  unfold built at hb ⊢
  split at hb
  · exact absurd rfl hb
  next hown =>
    rw [if_neg hown]
    rcases reconcile_cases h.disk c.source c.watermark c.targets with hr | ⟨m, hm, -⟩
    · rw [hr] at hb
      exact absurd rfl hb
    · exact ⟨m, hm⟩

/-! ## the order of the targets -/

def bare (c : Compiler) : Compiler := { c with store := ⟨.empty, []⟩ }

theorem bare_start (c : Compiler) (h : Host) (p : Provider) :
    (c.start h p).bare = c.bare.start h p := by
  unfold start supersede bare
  cases c.active <;> rfl

theorem bare_initialRun (c : Compiler) (h : Host) : (c.initialRun h).bare = c.bare.initialRun h := by
  cases hi : c.initialPending with
  | true =>
    have hb : c.bare.initialPending = true := hi
    rw [initialRun_of_due hi, initialRun_of_due hb]
    exact bare_start _ h _
  | false =>
    have hb : c.bare.initialPending = false := hi
    rw [initialRun_of_not_due hi, initialRun_of_not_due hb]

theorem bare_tellPush (c : Compiler) (p : Option Push) : (c.tellPush p).bare = c.bare.tellPush p := by
  cases p <;> rfl

theorem bare_follow (c : Compiler) (h : Host) (r : Binding.Reaction) :
    (c.follow h r).bare = c.bare.follow h r := by
  have hp : ({ c with binding := r.binding }.tellPush r.push).bare
      = { c.bare with binding := r.binding }.tellPush r.push := bare_tellPush _ _
  unfold follow
  cases r.snapshot with
  | none => exact hp
  | some buffer =>
    show (start _ h _).bare = _
    rw [bare_start, hp]
    rfl

theorem bare_setIssues (c : Compiler) (is : List Issue) :
    (c.setIssues is).bare = c.bare.setIssues is := bare_tellPush _ _

theorem bare_answer (c : Compiler) (g : Nat) (o : Outcome) :
    (c.answer g o).bare = c.bare.answer g o := by
  unfold answer
  split
  next h => exact (if_pos h).symm
  next h => exact (if_neg h).symm

theorem bare_adopt (c : Compiler) (wall : Time) (o : Outcome) :
    (c.adopt wall o).bare = (c.bare.adopt wall o).bare := by
  cases o with
  | error abort => rfl
  | ok output =>
    have hi := bare_setIssues c output.issues
    unfold adopt
    by_cases he : output.contents.entries = []
    · simp only [he, if_true]
      rw [← hi]
      rfl
    · simp only [he, if_false]
      rw [← hi]
      rfl

theorem bare_handle (c : Compiler) (wall : Time) (m : Completion) :
    (c.handle wall m).bare = (c.bare.handle wall m).bare := by
  by_cases ht : c.Takes m
  · have hb : c.bare.Takes m := ht
    rw [handle_of_takes wall ht, handle_of_takes wall hb]
    exact bare_adopt _ wall _
  · have hb : ¬ c.bare.Takes m := ht
    rw [handle_of_not_takes wall ht, handle_of_not_takes wall hb]
    rfl

theorem bare_handleAll (wall : Time) (c : Compiler) (ms : List Completion) :
    (c.handleAll wall ms).bare = (c.bare.handleAll wall ms).bare := by
  induction ms generalizing c with
  | nil => rfl
  | cons m ms ih =>
    show ((c.handle wall m).handleAll wall ms).bare = ((c.bare.handle wall m).handleAll wall ms).bare
    rw [ih, ih (c.bare.handle wall m), ← bare_handle]

theorem bare_poll (c : Compiler) (h : Host) : (c.poll h).1.bare = (c.bare.poll h).1.bare := by
  rw [poll_fst, poll_fst]
  exact bare_handleAll h.wall c.emptied c.inbox

theorem bare_tick (c : Compiler) (h : Host) (now : Instant) :
    (c.tick h now).bare = (c.bare.tick h now).bare := by
  have ht : ∀ d : Compiler, d.tick h now
      = ((d.poll h).1.initialRun h).follow h (d.binding.tick h.buffers now) := fun d => by
    rw [← binding_initialRun_poll d h]
    rfl
  rw [ht, ht, bare_follow, bare_initialRun, bare_poll, ← bare_initialRun, ← bare_follow]
  rfl

/-- apart from builds, the store has no say in what becomes of the rest. -/
theorem bare_step (c : Compiler) {e : Event} (he : e.built? = none) :
    (c.step e).bare = (c.bare.step e).bare := by
  have same : ∀ {d d' : Compiler}, d.bare = d' → d.bare = d'.bare := fun h => by
    rw [← h]
    rfl
  cases e with
  | answer g o => exact same (bare_answer c g o)
  | drop g => exact same (bare_answer c g _)
  | call h k =>
    cases k with
    | runContents bytes => exact same (bare_start c h _)
    | runFile path => exact same (bare_start c h _)
    | tick now => exact bare_tick c h now
    | poll => exact bare_poll c h
    | editorChanged editor => exact same (bare_follow c h _)
    | aboutToClose id => exact same (bare_follow c h _)
    | edited id now => rfl
    | targetsBuilt project => exact absurd he (Option.some_ne_none _)
    | setContent target bytes => rfl
    | setIssues issues => exact same (bare_setIssues c issues)
    | setWatermark time => rfl
    | takeChanged => rfl

/-- two compilers that are alike but for their targets, of which some disks have the same, and but for
what these hold. -/
def Rearranged (disks : List Disk) (c d : Compiler) : Prop :=
  c.bare = d.bare ∧ ∀ disk ∈ disks, disk.Finds c.targets d.targets ∧ disk.Finds d.targets c.targets

namespace Rearranged

variable {disks : List Disk} {c d : Compiler} (hcd : Rearranged disks c d)
include hcd

theorem watermark_eq : c.watermark = d.watermark := (congrArg watermark hcd.1 :)

/-- they rise to the same watermark after a build, and either both take something or neither does. -/
theorem built {h : Host} (hd : h.disk ∈ disks) (project : Nat) :
    (c.built h project).watermark = (d.built h project).watermark ∧
      ((c.built h project).adopted = [] ↔ (d.built h project).adopted = []) := by
  have hp : c.project = d.project := (congrArg Compiler.project hcd.1 :)
  have hs : c.source = d.source := (congrArg Compiler.source hcd.1 :)
  obtain ⟨hto, hof⟩ := hcd.2 _ hd
  unfold Compiler.built
  rw [hp, hs, hcd.watermark_eq]
  split
  · exact ⟨rfl, Iff.rfl⟩
  · exact reconcile_congr _ _ _ _ hto hof

theorem step {e : Event} (he : ∀ disk ∈ e.built?, disk ∈ disks) :
    Rearranged disks (c.step e) (d.step e) := by
  refine ⟨?_, fun disk hdisk => ?_⟩
  · cases hb : e.built? with
    | none => rw [bare_step c hb, bare_step d hb, hcd.1]
    | some disk =>
      have hdisk := he disk hb
      unfold Event.built? at hb
      split at hb
      next h project =>
        obtain rfl := Option.some.inj hb
        have hbare : ∀ k : Compiler, (k.targetsBuilt h project).bare
            = { k.bare with watermark := (k.built h project).watermark } := fun k => by
          rw [targetsBuilt_eq]
          rfl
        show (c.targetsBuilt h project).bare = (d.targetsBuilt h project).bare
        rw [hbare, hbare, hcd.1, (hcd.built hdisk project).1]
      next => exact absurd hb.symm (Option.some_ne_none _)
  · rw [targets_step, targets_step]
    exact hcd.2 disk hdisk

theorem after {es : List Event} (hes : es.filterMap Event.built? ⊆ disks) :
    Rearranged disks (c.after es) (d.after es) := by
  induction es generalizing c d with
  | nil => exact hcd
  | cons e es ih =>
    have he : ∀ disk ∈ e.built?, disk ∈ disks := fun disk hdisk =>
      hes (List.mem_filterMap.2 ⟨e, List.mem_cons_self, hdisk⟩)
    refine ih (hcd.step he) fun disk hdisk => ?_
    obtain ⟨f, hf, hb⟩ := List.mem_filterMap.1 hdisk
    exact hes (List.mem_filterMap.2 ⟨f, List.mem_cons_of_mem e hf, hb⟩)

end Rearranged
end Compiler

/-! ## the targets as declared -/

def Disk.Blind (disk : Disk) (ps : List Path) : Prop :=
  ∀ p ∈ ps, ∀ q ∈ ps, Path.Same p q →
    disk.modified p = disk.modified q ∧ (disk.read? p).isSome = (disk.read? q).isSome

theorem Disk.Blind.finds {disk : Disk} {ps ts us : List Path} (hd : disk.Blind ps) (htu : ts ⊆ us)
    (hu : us ⊆ ps) : disk.Finds (Path.firsts ts) (Path.firsts us) := by
  intro t ht
  have htus := htu (Path.firsts_subset ts ht)
  obtain ⟨u, hfirst, hsame⟩ := Path.exists_firsts htus
  exact ⟨u, hfirst, hd u (hu (Path.firsts_subset us hfirst)) t (hu htus) hsame⟩

theorem Disk.finds_of_perm {ts us : List Path} (h : ts.Perm us) (disk : Disk) :
    disk.Finds ts us ∧ disk.Finds us ts :=
  ⟨fun t ht => ⟨t, h.subset ht, rfl, rfl⟩, fun u hu => ⟨u, h.symm.subset hu, rfl, rfl⟩⟩

namespace Setup

/-- the order in which targets are declared does not matter to anything but the store. -/
theorem rearranged_compiler (s : Setup) {ts : List Path} {disks : List Disk} (hs : s.disk ∈ disks)
    (h : (Path.firsts ts).Perm (Path.firsts s.targets) ∨
      ts.Perm s.targets ∧ ∀ disk ∈ disks, disk.Blind ts) :
    Compiler.Rearranged disks { s with targets := ts }.compiler s.compiler := by
  have hfinds : ∀ disk ∈ disks, disk.Finds (Path.firsts ts) (Path.firsts s.targets) ∧
      disk.Finds (Path.firsts s.targets) (Path.firsts ts) := by
    intro disk hdisk
    rcases h with hperm | ⟨hperm, hblind⟩
    · exact disk.finds_of_perm hperm
    · have hb := hblind disk hdisk
      exact ⟨hb.finds hperm.subset hperm.symm.subset, hb.finds hperm.symm.subset (List.Subset.refl ts)⟩
  have hts : { s with targets := ts }.compiler.targets = Path.firsts ts :=
    ({ s with targets := ts }.targets_after []).trans (ContentStore.targets_declare ts)
  have hus : s.compiler.targets = Path.firsts s.targets :=
    (s.targets_after []).trans (ContentStore.targets_declare s.targets)
  obtain ⟨hto, hof⟩ := hfinds s.disk hs
  obtain ⟨hi, hw⟩ := s.compiler_congr (fun t ht => (hto t ht).imp fun u hu => ⟨hu.1, hu.2.1⟩)
    fun u hu => (hof u hu).imp fun t ht => ⟨ht.1, ht.2.1⟩
  refine ⟨?_, ?_⟩
  · show { s.compiler.bare with
        initialPending := { s with targets := ts }.compiler.initialPending
        watermark := { s with targets := ts }.compiler.watermark } = _
    rw [hi, hw]
    rfl
  · rw [hts, hus]
    exact hfinds

/-- **What builds bring to a compiler is stable**, at any moment of any life. The end of a build moves
the watermark and writes what it has brought, and nothing else. A build of its own project that has come
to rest, followed by another that finds the files as they were, leaves the compiler as the first one left
it: the same contents, watermark and notifications, and all else.

Once a build has brought something, look at any later life in which nothing but builds may move the
watermark, and each build finds a source that is missing or no later than the watermark. In it the
watermark stays, and each of the builds leaves the compiler as it is, whatever has become of the files of
its targets.

And if the targets had been declared in another order, the same life would have led to the same
watermark, and a build would bring something if and only if it does so now, and raise the watermark as
far. (Of two spellings of one path only the first is a target, and a disk may tell them apart; as long as
those of the builds do not, the order of the list declared does not matter.) -/
theorem reconciliation_is_stable (s : Setup) (es : List Event) :
    let c := s.after es
    (∀ (d : Compiler) h project, d.targetsBuilt h project = { d with
      watermark := (d.built h project).watermark
      store := d.store.setAll (d.built h project).adopted }) ∧
    (∀ h h' project, c.projectId = project → (h.projects c.project.slot).building = false →
      h'.disk = h.disk →
      (c.targetsBuilt h project).targetsBuilt h' project = c.targetsBuilt h project) ∧
    (∀ h project, (c.built h project).adopted ≠ [] →
      let d := c.targetsBuilt h project
      ∀ later, d.Undisturbed later → (d.after later).watermark = d.watermark ∧
        ∀ before h' project' rest, later = before ++ .call h' (.targetsBuilt project') :: rest →
          (d.after before).targetsBuilt h' project' = d.after before) ∧
    ∀ ts h project, (Path.firsts ts).Perm (Path.firsts s.targets) ∨ (ts.Perm s.targets ∧
        ∀ disk ∈ s.disk :: h.disk :: es.filterMap Event.built?, disk.Blind ts) →
      let d := { s with targets := ts }.after es
      d.watermark = c.watermark ∧
        ((d.built h project).adopted = [] ↔ (c.built h project).adopted = []) ∧
        (d.targetsBuilt h project).watermark = (c.targetsBuilt h project).watermark := by
  intro c
  refine ⟨Compiler.targetsBuilt_eq, fun h h' project own idle hd => ?_, fun h project hb => ?_,
    fun ts h project hts => ?_⟩
  · exact Compiler.targetsBuilt_targetsBuilt own idle hd project
  · intro d later hlater
    obtain ⟨v, hv⟩ := Compiler.watermark_of_built hb
    exact Compiler.after_undisturbed hv hlater
  · intro d
    have hcd : Compiler.Rearranged _ d c :=
      (s.rearranged_compiler List.mem_cons_self hts).after fun disk hdisk =>
        List.mem_cons_of_mem _ (List.mem_cons_of_mem _ hdisk)
    have hh : h.disk ∈ s.disk :: h.disk :: es.filterMap Event.built? :=
      List.mem_cons_of_mem _ List.mem_cons_self
    have hbuild : ∀ disk ∈ (Event.call h (.targetsBuilt project)).built?,
        disk ∈ s.disk :: h.disk :: es.filterMap Event.built? := by
      rintro disk ⟨⟩
      exact hh
    exact ⟨hcd.watermark_eq, (hcd.built hh project).2, (hcd.step hbuild).watermark_eq⟩

end Setup
end Regen
