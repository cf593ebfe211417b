import Regen.Proofs.Compiler.Frame
import Regen.Session

/-!
# The life of a session

The host calls a session, runners answer or drop runs of its compilers, and factories come and go
in the registry. Of all this a compiler is told what it would be told alone: the calls that are for
every compiler, and the answers to its own runs.

* `Session.Call`, `Session.Event`    what can happen to a session;
* `Session.step`, `Session.after`    one event, and a list of them;
* `Session.Event.told`               what a compiler meets in an event;
* `Session.Event.spares`             whether the compilers of a project stay;
* `Session.born`                     the setups of the compilers that an event brings.

Main statements: `compilers_step` (all that an event does to the compilers) and
`Numbered.after` (no two compilers of a session have one number).
-/

namespace Regen

/-! ## new compilers -/

/-- all that a factory looks at when it makes a compiler. -/
def Factory.setup (f : Factory) (number : Nat) (project : ProjectRef) (config : Config)
    (source : Path) (disk : Disk) : Setup :=
  ⟨number, project, config, source, f.targets source, f.runner (f.targets source), disk⟩

namespace Registry

/-- the setups of the compilers of a file, numbered from `number` on. -/
def setups (r : Registry) (project : ProjectRef) (config : Config) (disk : Disk) (number : Nat)
    (file : Path) : List Setup :=
  (r.factoriesFor file).mapIdx fun i f => f.setup (number + i) project config file disk

/-- the setups of the compilers of some files, numbered from `number` on. -/
def setupsAll (r : Registry) (project : ProjectRef) (config : Config) (disk : Disk) :
    Nat → List Path → List Setup
  | _, [] => []
  | number, file :: files =>
    r.setups project config disk number file ++ r.setupsAll project config disk
      (number + (r.setups project config disk number file).length) files

section
variable (r : Registry) (project : ProjectRef) (config : Config) (disk : Disk)

theorem instantiate_eq (number : Nat) (file : Path) :
    r.instantiate number project config file disk
      = (r.setups project config disk number file).map Setup.compiler := by
  unfold instantiate setups
  refine List.ext_getElem (by simp) fun i _ _ => ?_
  simp only [List.getElem_mapIdx, List.getElem_map]
  rfl

theorem numbers_setups (number : Nat) (file : Path) :
    (r.setups project config disk number file).map Setup.number
      = List.range' number (r.setups project config disk number file).length := by
  unfold setups
  refine List.ext_getElem (by simp) fun i _ _ => ?_
  simp [Factory.setup]

theorem numbers_setupsAll (number : Nat) (files : List Path) :
    (r.setupsAll project config disk number files).map Setup.number
      = List.range' number (r.setupsAll project config disk number files).length := by
  induction files generalizing number with
  | nil => rfl
  | cons file files ih =>
    rw [setupsAll, List.map_append, ih, numbers_setups, List.length_append, List.range'_append_1]

end
end Registry

namespace Session

/-! ## events -/

inductive Call where
  | projectAdded (project : ProjectRef) (files : List Path)
  | projectRemoved (project : Nat)
  | editorChanged (editor : Option Editor)
  | aboutToClose (id : Nat)
  | edited (id : Nat) (now : Instant)
  | buildStateChanged (project : Nat)
  | tick (now : Instant)
  | takeChanged

inductive Event where
  | call (h : Host) (k : Call)
  | answer (number generation : Nat) (outcome : Outcome)
  | drop (number generation : Nat)
  | registry (r : Registry)

def call (s : Session) (h : Host) : Call → Session
  | .projectAdded project files => s.projectAdded project files h.disk
  | .projectRemoved project => s.projectRemoved project
  | .editorChanged editor => s.editorChanged h editor
  | .aboutToClose id => s.aboutToClose h id
  | .edited id now => s.edited id now
  | .buildStateChanged project => s.buildStateChanged h project
  | .tick now => s.tick h now
  | .takeChanged => s.takeChanged.2

def step (s : Session) : Event → Session
  | .call h k => s.call h k
  | .answer n g outcome => s.answer n g outcome
  | .drop n g => s.answer n g (.error .cancelled)
  | .registry r => { s with registry := r }

def after : Session → List Event → Session
  | s, [] => s
  | s, e :: es => (s.step e).after es

theorem after_append (s : Session) (es fs : List Event) :
    s.after (es ++ fs) = (s.after es).after fs := by
  induction es generalizing s with
  | nil => rfl
  | cons e es ih => exact ih (s.step e)

/-! ## what one compiler meets -/

def Call.each? : Call → Option Regen.Call
  | .projectAdded _ _ => none
  | .projectRemoved _ => none
  | .editorChanged editor => some (.editorChanged editor)
  | .aboutToClose id => some (.aboutToClose id)
  | .edited id now => some (.edited id now)
  | .buildStateChanged project => some (.targetsBuilt project)
  | .tick now => some (.tick now)
  | .takeChanged => some .takeChanged

def Event.told (number : Nat) : Event → Option Regen.Event
  | .call h k => k.each?.map (.call h)
  | .answer n g outcome => if n = number then some (.answer g outcome) else none
  | .drop n g => if n = number then some (.drop g) else none
  | .registry _ => none

def Event.spares (project : Nat) : Event → Bool
  | .call _ (.projectRemoved p) => project != p
  | _ => true

def born (s : Session) : Event → List Setup
  | .call h (.projectAdded project files) =>
    s.registry.setupsAll project s.config h.disk s.created files
  | _ => []

def Event.registry? : Event → Option Registry
  | .registry r => some r
  | _ => none

/-! ## all that an event does -/

theorem projectAdded_spec (s : Session) (project : ProjectRef) (files : List Path) (disk : Disk) :
    let new := s.registry.setupsAll project s.config disk s.created files
    s.projectAdded project files disk = { s with
      compilers := s.compilers ++ new.map Setup.compiler
      created := s.created + new.length } := by
  induction files generalizing s with
  | nil => simp [projectAdded, Registry.setupsAll]
  | cons file files ih =>
    have hi := ih (addFile project disk s file)
    unfold projectAdded at hi ⊢
    rw [List.foldl_cons, hi]
    unfold addFile
    simp only [Registry.setupsAll, Registry.instantiate_eq, List.length_map, List.map_append,
      List.length_append, List.append_assoc, Nat.add_assoc]

/-- **All that an event does to the compilers**: those of a project that is closed are gone, every
other one meets what it is told, and new ones come behind them. -/
theorem compilers_step (s : Session) (e : Event) : (s.step e).compilers
    = (s.compilers.filter fun c => e.spares c.projectId).map
        (fun c => c.after (e.told c.number).toList) ++ (s.born e).map Setup.compiler := by
  have kept : s.compilers.filter (fun _ => true) = s.compilers :=
    List.filter_eq_self.2 fun _ _ => rfl
  have all : ∀ e', s.compilers.map (fun c => c.step e')
      = (s.compilers.filter fun _ => true).map (fun c => c.after [e']) ++ [] := fun e' => by
    rw [kept, List.append_nil]
    rfl
  have one : ∀ n g o e', (∀ c : Compiler, c.step e' = c.answer g o) → (s.answer n g o).compilers
      = (s.compilers.filter fun _ => true).map
          (fun c => c.after (if n = c.number then some e' else none).toList) ++ [] := by
    intro n g o e' he
    rw [kept, List.append_nil]
    refine List.map_congr_left fun c _ => ?_
    by_cases hn : c.number = n
    · rw [if_pos hn, if_pos hn.symm]
      exact (he c).symm
    · rw [if_neg hn, if_neg fun h => hn h.symm]
      rfl
  have nobody : ∀ cs : List Compiler, cs.map (fun c => c.after []) = cs := fun cs => List.map_id cs
  cases e with
  | call h k =>
    cases k with
    | projectAdded project files =>
      show (s.projectAdded project files h.disk).compilers
        = (s.compilers.filter fun _ => true).map (fun c => c.after []) ++ _
      rw [projectAdded_spec, kept, nobody]
      rfl
    | projectRemoved project =>
      show s.compilers.filter (fun c => c.projectId != project)
        = (s.compilers.filter fun c => c.projectId != project).map (fun c => c.after []) ++ []
      rw [nobody, List.append_nil]
    | editorChanged editor => exact all (.call h (.editorChanged editor))
    | aboutToClose id => exact all (.call h (.aboutToClose id))
    | edited id now => exact all (.call h (.edited id now))
    | buildStateChanged project => exact all (.call h (.targetsBuilt project))
    | tick now => exact all (.call h (.tick now))
    | takeChanged => exact all (.call h .takeChanged)
  | answer n g o => exact one n g o (.answer g o) fun c => rfl
  | drop n g => exact one n g _ (.drop g) fun c => rfl
  | registry r =>
    show s.compilers = (s.compilers.filter fun _ => true).map (fun c => c.after []) ++ []
    rw [kept, nobody, List.append_nil]

/-! ## numbers -/

/-- the compilers are numbered in their order, below the number of the next one. -/
structure Numbered (s : Session) : Prop where
  sorted : (s.compilers.map Compiler.number).Pairwise (· < ·)
  lt_created : ∀ n ∈ s.compilers.map Compiler.number, n < s.created

theorem number_after (c : Compiler) (es : List Regen.Event) : (c.after es).number = c.number :=
  congrArg Compiler.Badge.number (c.badge_after es)

theorem projectId_after (c : Compiler) (es : List Regen.Event) :
    (c.after es).projectId = c.projectId :=
  congrArg (fun b : Compiler.Badge => b.project.id) (c.badge_after es)

theorem step_frame (s : Session) (e : Event) : ∃ compilers, s.step e =
    { registry := e.registry?.getD s.registry
      config := s.config
      compilers := compilers
      created := s.created + (s.born e).length } := by
  cases e with
  | call h k =>
    cases k with
    | projectAdded project files => exact ⟨_, s.projectAdded_spec project files h.disk⟩
    | projectRemoved | editorChanged | aboutToClose | edited | buildStateChanged | tick
    | takeChanged => exact ⟨_, rfl⟩
  | answer | drop | registry => exact ⟨_, rfl⟩

theorem created_step (s : Session) (e : Event) :
    (s.step e).created = s.created + (s.born e).length := by
  obtain ⟨_, he⟩ := s.step_frame e
  rw [he]

theorem config_step (s : Session) (e : Event) : (s.step e).config = s.config := by
  obtain ⟨_, he⟩ := s.step_frame e
  rw [he]

theorem registry_step (s : Session) (e : Event) :
    (s.step e).registry = e.registry?.getD s.registry := by
  obtain ⟨_, he⟩ := s.step_frame e
  rw [he]

theorem numbers_born (s : Session) (e : Event) :
    (s.born e).map Setup.number = List.range' s.created (s.born e).length := by
  rcases e with ⟨h, k⟩ | _ | _ | _
  · cases k with
    | projectAdded project files => exact s.registry.numbers_setupsAll project s.config h.disk _ files
    | projectRemoved | editorChanged | aboutToClose | edited | buildStateChanged | tick
    | takeChanged => rfl
  all_goals rfl

theorem numbers_step (s : Session) (e : Event) : (s.step e).compilers.map Compiler.number
    = (s.compilers.filter fun c => e.spares c.projectId).map Compiler.number
      ++ List.range' s.created (s.born e).length := by
  rw [compilers_step, List.map_append, List.map_map, List.map_map, ← numbers_born]
  congr 1
  exact List.map_congr_left fun c _ => number_after c _

theorem Numbered.step {s : Session} (hs : s.Numbered) (e : Event) : (s.step e).Numbered := by
  have hsub : ((s.compilers.filter fun c => e.spares c.projectId).map Compiler.number).Sublist
      (s.compilers.map Compiler.number) := List.filter_sublist.map _
  have hnew : ∀ n, n ∈ List.range' s.created (s.born e).length ↔
      s.created ≤ n ∧ n < s.created + (s.born e).length := fun n => List.mem_range'_1
  refine ⟨?_, fun n hn => ?_⟩
  · rw [numbers_step]
    refine List.pairwise_append.2 ⟨hs.sorted.sublist hsub, List.pairwise_lt_range' .., ?_⟩
    exact fun a ha b hb => Nat.lt_of_lt_of_le (hs.lt_created a (hsub.subset ha)) ((hnew b).1 hb).1
  · rw [numbers_step, List.mem_append] at hn
    rw [created_step]
    rcases hn with hn | hn
    · exact Nat.lt_add_right _ (hs.lt_created n (hsub.subset hn))
    · exact ((hnew n).1 hn).2

theorem Numbered.after {s : Session} (hs : s.Numbered) (es : List Event) :
    (s.after es).Numbered := by
  induction es generalizing s with
  | nil => exact hs
  | cons e es ih => exact ih (hs.step e)

theorem numbered_start (r : Registry) (config : Config) : (start r config).Numbered :=
  ⟨.nil, fun _ hn => absurd hn List.not_mem_nil⟩

end Session
end Regen
