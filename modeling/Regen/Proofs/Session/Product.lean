import Regen.Proofs.Session.Life

/-!
# A session is the product of its compilers

Whatever happens to a session, each of its compilers is in the state of one that lives alone: made
of the same setup, it has met the calls that are for every compiler and the answers to its own
runs, and nothing else. Compilers that come and go beside it make no difference, nor does the
registry.

* `Session.heard`      what the compiler of a number meets in a list of events;
* `Session.stays`      whether the compilers of a project are still there after it;
* `Session.Member`     a compiler that lives alone;
* `Session.members`    those that a session comes to consist of.

Main statements: `compilers_after` (a session goes on as its compilers do) and
`product_of_compilers`.
-/

namespace Regen.Session

def heard (number : Nat) (es : List Event) : List Regen.Event := es.filterMap (Event.told number)

def stays (project : Nat) (es : List Event) : Bool := es.all (Event.spares project)

/-- a compiler that lives alone: what it is made of, and what it has met. -/
structure Member where
  setup : Setup
  met : List Regen.Event

def Member.compiler (m : Member) : Compiler := m.setup.after m.met

theorem Member.badge_compiler (m : Member) : m.compiler.badge = m.setup.compiler.badge :=
  m.setup.compiler.badge_after m.met

theorem Member.compiler_after (m : Member) (es : List Regen.Event) :
    m.compiler.after es = m.setup.after (m.met ++ es) :=
  (Compiler.after_append m.setup.compiler m.met es).symm

/-- the compilers that came during a list of events and are still there: each has met what came
after it. -/
def members : Session → List Event → List Member
  | _, [] => []
  | s, e :: es => ((s.born e).filter fun u => stays u.project.id es).map
      (fun u => ⟨u, heard u.number es⟩) ++ (s.step e).members es

theorem members_cons (s : Session) (e : Event) (es : List Event) : s.members (e :: es)
    = ((s.born e).filter fun u => stays u.project.id es).map (fun u => ⟨u, heard u.number es⟩)
      ++ (s.step e).members es := rfl

theorem heard_cons (number : Nat) (e : Event) (es : List Event) :
    heard number (e :: es) = (e.told number).toList ++ heard number es := by
  unfold heard
  rw [List.filterMap_cons]
  cases e.told number <;> rfl

theorem after_heard_cons (c : Compiler) (e : Event) (es : List Event) :
    (c.after (e.told c.number).toList).after (heard (c.after (e.told c.number).toList).number es)
      = c.after (heard c.number (e :: es)) := by
  rw [number_after, heard_cons, Compiler.after_append]

/-- **A session goes on as its compilers do.** Those that stay go through what they are told, each by
itself, and behind them come the new ones. -/
theorem compilers_after (s : Session) (es : List Event) : (s.after es).compilers
    = (s.compilers.filter fun c => stays c.projectId es).map
        (fun c => c.after (heard c.number es)) ++ (s.members es).map Member.compiler := by
  induction es generalizing s with
  | nil =>
    have kept : s.compilers.filter (fun c => stays c.projectId []) = s.compilers :=
      List.filter_eq_self.2 fun _ _ => rfl
    rw [kept]
    exact ((List.append_nil _).trans (List.map_id _)).symm
  | cons e es ih =>
    have hstays : (fun c : Compiler => stays c.projectId es)
        ∘ (fun c : Compiler => c.after (e.told c.number).toList)
          = fun c => stays c.projectId es := by
      funext c
      exact congrArg (stays · es) (projectId_after c _)
    have hboth : (fun c : Compiler => stays c.projectId es && e.spares c.projectId)
        = fun c => stays c.projectId (e :: es) := funext fun c => Bool.and_comm ..
    rw [after, ih, compilers_step, List.filter_append, List.map_append, List.append_assoc,
      List.filter_map, hstays, List.filter_filter, hboth, List.map_map, members_cons,
      List.map_append]
    congr 1
    · exact List.map_congr_left fun c _ => after_heard_cons c e es
    · rw [List.filter_map, List.map_map, List.map_map]
      rfl

/-- a session that began without compilers consists of those that came and stayed. -/
theorem compilers_start_after (registry : Registry) (config : Config) (es : List Event) :
    ((start registry config).after es).compilers
      = ((start registry config).members es).map Member.compiler :=
  compilers_after (start registry config) es

/-- the build state of a project is no matter to compilers of other projects, nor is it to its own
as long as the project is being built. -/
theorem targetsBuilt_of_not {c : Compiler} {h : Host} {project : Nat}
    (hn : project ≠ c.projectId ∨ (h.projects c.project.slot).building = true) :
    c.targetsBuilt h project = c := if_pos hn

/-- **A session is the independent product of its compilers.** After any events, and whatever
follows, each compiler is in the state of one that was made of the same setup and met alone what it
was told. The runs of no two compilers are mixed up. A build of another project, and one that is
still going on, changes nothing. The changes taken from the session are those taken from each
compiler, in their order, with its source. -/
theorem product_of_compilers (registry : Registry) (config : Config) (es : List Event) :
    let s := (start registry config).after es
    let alone := (start registry config).members es
    s.compilers = alone.map Member.compiler ∧
    (∀ fs, (s.after fs).compilers
      = (alone.filter fun m => stays m.setup.project.id fs).map
          (fun m => m.setup.after (m.met ++ heard m.setup.number fs))
        ++ (s.members fs).map Member.compiler) ∧
    (s.compilers.map Compiler.number).Nodup ∧
    (∀ (h : Host) project (i : Nat) c, s.compilers[i]? = some c →
      project ≠ c.projectId ∨ (h.projects c.project.slot).building = true →
        (s.buildStateChanged h project).compilers[i]? = some c) ∧
    s.takeChanged.1 = alone.flatMap fun m =>
      m.compiler.takeChanged.1.map fun target => (m.setup.source, target) := by
  intro s alone
  have hs : s.compilers = alone.map Member.compiler := compilers_after (start registry config) es
  refine ⟨hs, fun fs => ?_, ?_, ?_, ?_⟩
  · have hstays : (fun c : Compiler => stays c.projectId fs) ∘ Member.compiler
        = fun m => stays m.setup.project.id fs := by
      funext m
      exact congrArg (fun b : Compiler.Badge => stays b.project.id fs) m.badge_compiler
    rw [compilers_after, hs, List.filter_map, hstays, List.map_map]
    congr 1
    refine List.map_congr_left fun m _ => ?_
    have hn : m.compiler.number = m.setup.number := congrArg Compiler.Badge.number m.badge_compiler
    show m.compiler.after (heard m.compiler.number fs) = _
    rw [hn, m.compiler_after]
  · have hn := (numbered_start registry config).after es
    exact hn.sorted.imp fun h => Nat.ne_of_lt h
  · intro h project i c hc hn
    show (s.compilers.map fun c => c.targetsBuilt h project)[i]? = some c
    rw [List.getElem?_map, hc, Option.map_some, targetsBuilt_of_not hn]
  · show s.compilers.flatMap changesOf = _
    rw [hs, List.flatMap_map]
    refine congrArg (alone.flatMap ·) (funext fun m => ?_)
    have hsrc : m.compiler.source = m.setup.source := congrArg Compiler.Badge.source m.badge_compiler
    unfold changesOf
    rw [hsrc]

/-- two projects, of which the first is closed: the compiler of the second has met the tick that came
after it was made, and not the one before. -/
example :
    let blank : Disk := ⟨fun _ => none, fun _ => .error (.code 2)⟩
    let host : Host := ⟨blank, fun _ => ⟨0, false, .unconfigured⟩, fun _ => [], .empty, 7⟩
    let factory : Factory := ⟨"text", Factory.bySuffix [".t"], fun _ => [], fun _ => .manual⟩
    let registry : Registry := Registry.empty.registerFactory factory
    let file (b : UInt8) : Path := ⟨[b, 46, 116]⟩
    let es : List Event := [.call host (.projectAdded ⟨0, 7⟩ [file 97, file 98]), .call host (.tick 1),
      .call host (.projectAdded ⟨1, 8⟩ [file 99]), .call host (.tick 2), .call host (.projectRemoved 7)]
    ((start registry ⟨1000, 200, 1, 100⟩).members es).map
      (fun m => (m.setup.number, m.setup.source, m.met.length)) = [(2, file 99, 1)] := by decide

end Regen.Session
