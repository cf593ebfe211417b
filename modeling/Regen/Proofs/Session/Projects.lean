import Mathlib.Data.List.Forall2
import Regen.Proofs.Compiler.Targets
import Regen.Proofs.Registry.Guards
import Regen.Proofs.Session.Product

/-!
# Compilers of projects

Factories and observers are registered and dropped, projects are opened and closed, in any order;
one project may be opened several times, and one file may be claimed by several factories. Which
compilers there are can be said without looking at the session: there is one for each opening of a
project, each of its files and each factory that was registered then and claims the file, unless
the project was closed since.

* `Birth`                 an opening of a project, one of its files, and a factory that claims it;
* `Birth.list`            all of them for one opening, in order;
* `Session.Happening`     what can happen to a session and to its registry;
* `Session.script`        the same with the registry itself in place of what happens to it;
* `Session.census`        the births of a history whose project has not been closed since;
* `Session.claims`        the same, by the registrations that were in force at each opening.

Main statements: `members_census` (the compilers of a session are those of the census),
`census_script` (a census is what was claimed) and `one_compiler_per_claim`.
-/

namespace Regen

/-- a project that is opened, one of its files, a factory that claims the file, and the disk of this
moment. -/
structure Birth where
  project : ProjectRef
  file : Path
  factory : Factory
  disk : Disk

namespace Birth

def list (factories : List Factory) (project : ProjectRef) (disk : Disk) (files : List Path) :
    List Birth :=
  files.flatMap fun file =>
    (factories.filter fun f => f.claims file).map fun f => ⟨project, file, f, disk⟩

/-- all that is looked at when its compiler is made. -/
def setup (b : Birth) (config : Config) (number : Nat) : Setup :=
  b.factory.setup number b.project config b.file b.disk

def targets (b : Birth) : List Path := b.factory.targets b.file

def declares (b : Birth) (target : Path) : Bool := b.targets.any fun t => Path.Same t target

def announcement (b : Birth) (o : Observer) : Announcement := ⟨o, b.project.id, b.file, b.targets⟩

def Made (b : Birth) (config : Config) (c : Compiler) : Prop :=
  ∃ number met, c = (b.setup config number).after met

section
variable {b : Birth} {config : Config} {c : Compiler}

theorem Made.projectId_eq (hc : b.Made config c) : b.project.id = c.projectId := by
  obtain ⟨number, met, rfl⟩ := hc
  exact (Session.projectId_after (b.setup config number).compiler met).symm

theorem Made.hasTarget_eq (hc : b.Made config c) (target : Path) :
    b.declares target = c.hasTarget target := by
  obtain ⟨number, met, rfl⟩ := hc
  refine Bool.eq_iff_iff.2 (Iff.trans ?_ ((b.setup config number).hasTarget_after met target).symm)
  unfold declares
  rw [List.any_eq_true]
  simp only [decide_eq_true_eq]
  rfl

end
end Birth

namespace Registry

def births (r : Registry) (project : ProjectRef) (disk : Disk) (files : List Path) : List Birth :=
  Birth.list r.factoryList project disk files

def factoriesInForce (es : List Event) : List Factory :=
  (inForce es).filterMap fun p => p.2.factory?

def observersInForce (es : List Event) : List Observer :=
  (inForce es).filterMap fun p => p.2.observer?

section
variable (r : Registry) (project : ProjectRef) (disk : Disk)

theorem births_cons (file : Path) (files : List Path) : r.births project disk (file :: files)
    = (r.factoriesFor file).map (fun f => (⟨project, file, f, disk⟩ : Birth))
      ++ r.births project disk files := by
  unfold births Birth.list
  rw [List.flatMap_cons]
  rfl

theorem project_of_mem_births {files : List Path} {b : Birth} (hb : b ∈ r.births project disk files) :
    b.project = project := by
  obtain ⟨file, -, hf⟩ := List.mem_flatMap.1 hb
  obtain ⟨f, -, rfl⟩ := List.mem_map.1 hf
  rfl

theorem setups_eq (config : Config) (number : Nat) (file : Path) :
    r.setups project config disk number file
      = ((r.factoriesFor file).map fun f => (⟨project, file, f, disk⟩ : Birth)).mapIdx
          fun i b => b.setup config (number + i) := by
  unfold setups
  refine List.ext_getElem (by simp) fun i _ _ => ?_
  simp only [List.getElem_mapIdx, List.getElem_map]
  rfl

theorem setupsAll_eq (config : Config) (number : Nat) (files : List Path) :
    r.setupsAll project config disk number files
      = (r.births project disk files).mapIdx fun i b => b.setup config (number + i) := by
  induction files generalizing number with
  | nil => rfl
  | cons file files ih =>
    have hn : ∀ i n, number + n + i = number + (i + n) := fun i n => by omega
    rw [setupsAll, births_cons, List.mapIdx_append, ih, setups_eq]
    simp only [List.length_mapIdx, hn]

end
end Registry

namespace Session

/-! ## histories -/

inductive Happening where
  /-- something is registered, a guard is dropped, or the registry is cleared. -/
  | registry (e : Registry.Event)
  | call (h : Host) (k : Call)
  | answer (number generation : Nat) (outcome : Outcome)
  | drop (number generation : Nat)

def Happening.registry? : Happening → Option Registry.Event
  | .registry e => some e
  | _ => none

def Happening.spares (project : Nat) : Happening → Bool
  | .call _ (.projectRemoved p) => project != p
  | _ => true

/-- the events of a session: it sees what has become of the registry. -/
def script : Registry.Guarded → List Happening → List Event
  | _, [] => []
  | g, .registry e :: hs => .registry (g.step e).registry :: script (g.step e) hs
  | g, .call h k :: hs => .call h k :: script g hs
  | g, .answer n i o :: hs => .answer n i o :: script g hs
  | g, .drop n i :: hs => .drop n i :: script g hs

/-- the births of a list of events whose project is not closed in it later, in order. -/
def census : Registry → List Event → List Birth
  | _, [] => []
  | _, .registry r :: es => census r es
  | r, .call h (.projectAdded project files) :: es =>
    (if stays project.id es then r.births project h.disk files else []) ++ census r es
  | r, _ :: es => census r es

/-- the births of a history whose project is not closed in it later, by the factories in force at
each opening. What happened to the registry before is given. -/
def claims : List Registry.Event → List Happening → List Birth
  | _, [] => []
  | past, .registry e :: hs => claims (past ++ [e]) hs
  | past, .call h (.projectAdded project files) :: hs =>
    (if hs.all (Happening.spares project.id)
      then Birth.list (Registry.factoriesInForce past) project h.disk files else [])
      ++ claims past hs
  | past, _ :: hs => claims past hs

theorem config_after (s : Session) (es : List Event) : (s.after es).config = s.config := by
  induction es generalizing s with
  | nil => rfl
  | cons e es ih => exact (ih (s.step e)).trans (s.config_step e)

theorem registry_script {s : Session} {g : Registry.Guarded} (hs : s.registry = g.registry)
    (hps : List Happening) : (s.after (script g hps)).registry
      = (g.after (hps.filterMap Happening.registry?)).registry := by
  induction hps generalizing s g with
  | nil => exact hs
  | cons p hps ih =>
    cases p with
    | registry e => exact ih (s.registry_step (.registry (g.step e).registry))
    | call h k => exact ih ((s.registry_step (.call h k)).trans hs)
    | answer n i o => exact ih ((s.registry_step (.answer n i o)).trans hs)
    | drop n i => exact ih ((s.registry_step (.drop n i)).trans hs)

theorem stays_script (g : Registry.Guarded) (project : Nat) (hs : List Happening) :
    stays project (script g hs) = hs.all (Happening.spares project) := by
  induction hs generalizing g with
  | nil => rfl
  | cons p hs ih =>
    cases p with
    | registry e => exact ih (g.step e)
    | answer n i o => exact ih g
    | drop n i => exact ih g
    | call h k =>
      unfold script stays
      rw [List.all_cons, List.all_cons]
      refine congr (congrArg _ ?_) (ih g)
      cases k <;> rfl

/-- **A census is what was claimed**, as long as the tickets do not run out. -/
theorem census_script (past : List Registry.Event) (hs : List Happening)
    (hfew : Registry.registrations (past ++ hs.filterMap Happening.registry?) < UInt64.size) :
    census (Registry.Guarded.start.after past).registry (script (.after .start past) hs)
      = claims past hs := by
  induction hs generalizing past with
  | nil => rfl
  | cons p hs ih =>
    cases p with
    | registry e =>
      have hnext := ih (past ++ [e]) (by rwa [List.append_assoc])
      rw [Registry.Guarded.after_append] at hnext
      exact hnext
    | answer n i o => exact ih past hfew
    | drop n i => exact ih past hfew
    | call h k =>
      have hnext := ih past hfew
      cases k with
      | projectAdded project files =>
        have hfactories : (Registry.Guarded.start.after past).registry.factoryList
            = Registry.factoriesInForce past :=
          (Registry.Guarded.holds_after past (Nat.lt_of_le_of_lt
            (Registry.registrations_le_append past _) hfew)).factoryList_eq
        unfold script census claims
        rw [hnext, stays_script, Registry.births, hfactories]
      | projectRemoved | editorChanged | aboutToClose | edited | buildStateChanged | tick
      | takeChanged => exact hnext

/-! ## the census -/

theorem forall₂_births (s : Session) (project : ProjectRef) (files : List Path) (h : Host)
    (es : List Event) :
    List.Forall₂ (fun b m => ∃ number, Member.setup m = b.setup s.config number)
      (if stays project.id es then s.registry.births project h.disk files else [])
      (((s.born (.call h (.projectAdded project files))).filter
        fun u => stays u.project.id es).map fun u => ⟨u, heard u.number es⟩) := by
  have hborn : s.born (.call h (.projectAdded project files))
      = (s.registry.births project h.disk files).mapIdx fun i b => b.setup s.config (s.created + i) :=
    s.registry.setupsAll_eq project h.disk s.config s.created files
  have hproject : ∀ u ∈ s.born (.call h (.projectAdded project files)), u.project = project := by
    intro u hu
    rw [hborn] at hu
    obtain ⟨i, hi, rfl⟩ := List.mem_mapIdx.1 hu
    exact s.registry.project_of_mem_births project h.disk (List.getElem_mem hi)
  by_cases hs : stays project.id es = true
  · have hall : (s.born (.call h (.projectAdded project files))).filter
        (fun u => stays u.project.id es) = s.born (.call h (.projectAdded project files)) :=
      List.filter_eq_self.2 fun u hu => by rw [hproject u hu, hs]
    rw [hall, if_pos hs, List.forall₂_map_right_iff, hborn]
    refine List.forall₂_iff_get.2 ⟨List.length_mapIdx.symm, fun i h₁ h₂ => ⟨s.created + i, ?_⟩⟩
    simp only [List.get_eq_getElem, List.getElem_mapIdx]
  · have hnone : (s.born (.call h (.projectAdded project files))).filter
        (fun u => stays u.project.id es) = [] :=
      List.filter_eq_nil_iff.2 fun u hu => by
        rw [hproject u hu]
        exact hs
    rw [hnone, if_neg hs]
    exact .nil

/-- **The members of a session are those of the census**, in the same order. -/
theorem members_census (s : Session) (es : List Event) :
    List.Forall₂ (fun b m => ∃ number, Member.setup m = b.setup s.config number)
      (census s.registry es) (s.members es) := by
  induction es generalizing s with
  | nil => exact .nil
  | cons e es ih =>
    have hi := ih (s.step e)
    rw [config_step, registry_step] at hi
    cases e with
    | registry r => exact hi
    | answer n i o => exact hi
    | drop n i => exact hi
    | call h k =>
      cases k with
      | projectAdded project files => exact List.rel_append (s.forall₂_births project files h es) hi
      | projectRemoved | editorChanged | aboutToClose | edited | buildStateChanged | tick
      | takeChanged => exact hi

theorem made_after (registry : Registry) (config : Config) (es : List Event) :
    List.Forall₂ (fun b c => b.Made config c) (census registry es)
      ((start registry config).after es).compilers := by
  have hm : List.Forall₂ (fun b m => ∃ number, Member.setup m = b.setup config number)
      (census registry es) ((start registry config).members es) :=
    members_census (start registry config) es
  rw [compilers_start_after, List.forall₂_map_right_iff]
  refine hm.imp fun b m ⟨number, hb⟩ => ⟨number, m.met, ?_⟩
  rw [← hb]
  rfl

/-- what two lists have in common, place by place, they have in common in their order. -/
theorem map_eq_of_forall₂ {α β γ : Type} {R : α → β → Prop} {f : α → γ} {g : β → γ}
    (h : ∀ a b, R a b → f a = g b) {l : List α} {m : List β} (hl : List.Forall₂ R l m) :
    l.map f = m.map g := by
  have heq : List.Forall₂ (· = ·) (l.map f) (m.map g) :=
    List.forall₂_map_left_iff.2 (List.forall₂_map_right_iff.2 (hl.imp h))
  rw [List.forall₂_eq_eq_eq] at heq
  exact heq

/-! ## one opening, and one closing -/

section
variable (s : Session) (project : ProjectRef) (files : List Path) (disk : Disk)

theorem compilers_projectAdded : (s.projectAdded project files disk).compilers
    = s.compilers ++ (s.registry.births project disk files).mapIdx
        fun i b => (b.setup s.config (s.created + i)).compiler := by
  rw [projectAdded_spec, Registry.setupsAll_eq]
  refine congrArg (s.compilers ++ ·) (List.ext_getElem (by simp) fun i _ _ => ?_)
  simp only [List.getElem_mapIdx, List.getElem_map]

theorem countAdded_eq :
    s.countAdded project files disk = (s.registry.births project disk files).length := by
  unfold countAdded
  rw [compilers_projectAdded, List.length_append, List.length_mapIdx, Nat.add_sub_cancel_left]

theorem announcements_eq : s.announcements project files
    = (s.registry.births project disk files).flatMap
        fun b => s.registry.observerList.map b.announcement := by
  unfold announcements Registry.births Birth.list
  rw [List.flatMap_assoc]
  refine congrArg (files.flatMap ·) (funext fun file => ?_)
  rw [List.flatMap_map]
  rfl

theorem announcements_to (o : Observer) :
    (s.announcements project files).filter (fun a => a.observer = o)
      = (s.registry.births project disk files).flatMap
          fun b => List.replicate (s.registry.observerList.count o) (b.announcement o) := by
  rw [s.announcements_eq project files disk, List.filter_flatMap]
  refine congrArg (List.flatMap · _) (funext fun b => ?_)
  have ho : (fun a : Announcement => decide (a.observer = o)) ∘ b.announcement
      = fun o' => decide (o' = o) := rfl
  rw [List.filter_map, ho, List.filter_eq, List.map_replicate]

end

theorem countRemoved_eq (s : Session) (project : Nat) :
    s.countRemoved project = (s.compilers.map Compiler.projectId).count project := by
  have hlen : s.compilers.length = s.compilers.countP (fun c => c.projectId == project)
      + (s.compilers.filter fun c => c.projectId != project).length := by
    have hnot : (fun c : Compiler => c.projectId != project)
        = fun c => decide ¬ (c.projectId == project) = true := by
      funext c
      cases h : c.projectId == project <;> simp [bne, h]
    rw [← List.countP_eq_length_filter, hnot]
    exact List.length_eq_countP_add_countP _
  unfold countRemoved projectRemoved
  rw [hlen, Nat.add_sub_cancel, List.count, List.countP_map]
  rfl

/-- **One compiler for each claim of a factory.** Let factories and observers be registered and
dropped, projects be opened and closed, and anything else happen to a session, in any order.

* The session sees the registry as it has become. Its compilers are, in the order of their creation,
  one for each opening of a project, each of its files and each factory registered then that claims
  the file, unless the project was closed since. Which factories and observers are registered is
  told by the registrations in force, as long as the tickets do not run out.
* One more opening puts its compilers behind those there are and says how many they are. Each
  observer is told of each of them once for each time that it is registered, in their order, with the
  project, the source and the targets; any other one is told nothing.
* A closing takes out the compilers of the project, says how many they were, and leaves the others
  as they are.
* A target is made by the first compiler for which it was declared. -/
theorem one_compiler_per_claim (config : Config) (hs : List Happening) :
    let s := (start .empty config).after (script .start hs)
    let alive := census .empty (script .start hs)
    let registered := hs.filterMap Happening.registry?
    s.registry = (Registry.Guarded.start.after registered).registry ∧
    (Registry.registrations registered < UInt64.size → alive = claims [] hs ∧
      s.registry.factoryList = Registry.factoriesInForce registered ∧
      s.registry.observerList = Registry.observersInForce registered) ∧
    List.Forall₂ (fun b c => b.Made config c) alive s.compilers ∧
    (s.compilers.map Compiler.number).Pairwise (· < ·) ∧
    (∀ project files disk,
      let new := s.registry.births project disk files
      (s.projectAdded project files disk).compilers
        = s.compilers ++ new.mapIdx (fun i b => (b.setup config (s.created + i)).compiler) ∧
      s.countAdded project files disk = new.length ∧
      s.announcements project files
        = new.flatMap (fun b => s.registry.observerList.map b.announcement) ∧
      ∀ o, (s.announcements project files).filter (fun a => a.observer = o)
        = new.flatMap fun b => List.replicate (s.registry.observerList.count o) (b.announcement o)) ∧
    (∀ project,
      (s.projectRemoved project).compilers = s.compilers.filter (fun c => c.projectId != project) ∧
      s.countRemoved project = (alive.map fun b => b.project.id).count project) ∧
    ∀ target, s.compilerForTarget? target
      = (alive.findIdx? fun b => b.declares target).bind fun i => s.compilers[i]? := by
  intro s alive registered
  have hconfig : s.config = config := config_after (start .empty config) _
  have hmade : List.Forall₂ (fun b c => b.Made config c) alive s.compilers :=
    made_after .empty config _
  have hregistry : s.registry = (Registry.Guarded.start.after registered).registry :=
    registry_script rfl hs
  refine ⟨hregistry, fun hfew => ?_, hmade, ((numbered_start .empty config).after _).sorted,
    fun project files disk => ⟨?_, s.countAdded_eq project files disk,
      s.announcements_eq project files disk, s.announcements_to project files disk⟩,
    fun project => ⟨rfl, ?_⟩, fun target => ?_⟩
  · have hholds := Registry.Guarded.holds_after registered hfew
    rw [hregistry]
    exact ⟨census_script [] hs hfew, hholds.factoryList_eq, hholds.observerList_eq⟩
  · rw [← hconfig]
    exact s.compilers_projectAdded project files disk
  · have hids : alive.map (fun b => b.project.id) = s.compilers.map Compiler.projectId :=
      map_eq_of_forall₂ (fun b c hc => hc.projectId_eq) hmade
    rw [hids]
    exact s.countRemoved_eq project
  · have htargets : alive.map (fun b => b.declares target)
        = s.compilers.map fun c => c.hasTarget target :=
      map_eq_of_forall₂ (fun b c hc => hc.hasTarget_eq target) hmade
    have hfirst : alive.findIdx? (fun b => b.declares target)
        = s.compilers.findIdx? fun c => c.hasTarget target := by
      have h := congrArg (List.findIdx? id) htargets
      rw [List.findIdx?_map, List.findIdx?_map] at h
      exact h
    rw [hfirst]
    exact List.find?_eq_bind_findIdx?_getElem?

/-- a file claimed by two factories; the guard of the first is dropped, and the project, which is
closed and opened again, then has one compiler. The project opened in between keeps both. -/
theorem one_compiler_per_claim_dropped :
    let blank : Disk := ⟨fun _ => none, fun _ => .error (.code 2)⟩
    let host : Host := ⟨blank, fun _ => ⟨0, false, .unconfigured⟩, fun _ => [], .empty, 7⟩
    let factory (name : String) : Factory :=
      ⟨name, Factory.bySuffix [".t"], fun _ => [], fun _ => .manual⟩
    let file : Path := ⟨[97, 46, 116]⟩
    let hs : List Happening := [.registry (.register (.factory (factory "x"))),
      .registry (.register (.factory (factory "y"))), .call host (.projectAdded ⟨0, 7⟩ [file]),
      .call host (.projectAdded ⟨1, 8⟩ [file]), .registry (.drop 0), .call host (.projectRemoved 7),
      .call host (.projectAdded ⟨0, 7⟩ [file])]
    let s := (start .empty ⟨1000, 200, 1, 100⟩).after (script .start hs)
    (claims [] hs).map (fun b => (b.project.id, b.factory.name)) = [(8, "x"), (8, "y"), (7, "y")] ∧
    s.compilers.map Compiler.projectId = [8, 8, 7] ∧ s.countRemoved 8 = 2 := by
  intro blank host factory file hs s
  obtain ⟨-, hforce, hmade, -, -, hremoved, -⟩ := one_compiler_per_claim ⟨1000, 200, 1, 100⟩ hs
  have hfew : Registry.registrations (hs.filterMap Happening.registry?) < UInt64.size := by
    have htwo : Registry.registrations (hs.filterMap Happening.registry?) = 2 := rfl
    rw [htwo]
    decide
  obtain ⟨halive, -⟩ := hforce hfew
  have hids : (claims [] hs).map (fun b => b.project.id) = s.compilers.map Compiler.projectId :=
    halive ▸ map_eq_of_forall₂ (fun b c hc => hc.projectId_eq) hmade
  refine ⟨by decide, hids.symm.trans (by decide), ?_⟩
  have hcount := (hremoved 8).2
  rw [halive] at hcount
  exact hcount.trans (by decide)

end Session
end Regen
