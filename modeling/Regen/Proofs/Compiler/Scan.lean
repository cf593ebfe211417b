import Mathlib.Data.List.Perm.Basic
import Mathlib.Data.List.MinMax
import Regen.Proofs.Compiler.Precedence
import Regen.Proofs.Compiler.Targets

/-!
# What a compiler finds when it is created

A compiler is born with what its targets hold on disk, with the earliest of their times as its
watermark, and with a first run due if one of them is out of date. The run is asked for at the first
tick, and then never again.

* `Scan.isStale`         whether a target is out of date;
* `Scan.found?`          what a target holds on disk, if it can be read;
* `Setup.initialRuns`    the runs of a life that were asked for at its creation.

Main statements: `foldl_see` (a scan in one equation), `lookup_found` (what is loaded) and
`Setup.created_from_disk`.
-/

namespace Regen

/-! ## the scan -/

namespace Scan

def isStale (disk : Disk) (source : Option Time) (target : Path) : Bool :=
  match disk.modified target with
  | none => true
  | some t => olderThan source t

theorem isStale_iff (disk : Disk) (source : Option Time) (target : Path) :
    isStale disk source target = true ↔ disk.modified target = none ∨
      ∃ s t, source = some s ∧ disk.modified target = some t ∧ t < s := by
  unfold isStale olderThan
  cases disk.modified target with
  | none => simp
  | some t => cases source <;> simp

def found? (disk : Disk) (target : Path) : Option Bytes :=
  (disk.modified target).bind fun _ => disk.read? target

def finds (disk : Disk) (targets : List Path) : List (Path × Bytes) :=
  targets.filterMap fun t => (found? disk t).map fun b => (t, b)

theorem finds_cons_none {disk : Disk} {t : Path} (h : found? disk t = none) (ts : List Path) :
    finds disk (t :: ts) = finds disk ts := List.filterMap_cons_none (by rw [h]; rfl)

theorem finds_cons_some {disk : Disk} {t : Path} {b : Bytes} (h : found? disk t = some b)
    (ts : List Path) : finds disk (t :: ts) = (t, b) :: finds disk ts :=
  List.filterMap_cons_some (by rw [h]; rfl)

theorem map_fst_finds (disk : Disk) (targets : List Path) :
    ((finds disk targets).map Prod.fst).Sublist targets := by
  induction targets with
  | nil => exact List.Sublist.refl _
  | cons t targets ih =>
    cases h : found? disk t with
    | none =>
      rw [finds_cons_none h]
      exact ih.cons t
    | some b =>
      rw [finds_cons_some h, List.map_cons]
      exact ih.cons_cons t

/-- **A scan in one equation**: each target has its say on each of the three things. -/
theorem foldl_see (disk : Disk) (source : Option Time) (s : Scan) (targets : List Path) :
    targets.foldl (see disk source) s =
      { dirty := s.dirty || targets.any (isStale disk source)
        watermark := (targets.filterMap disk.modified).foldl Watermark.absorb s.watermark
        loaded := s.loaded ++ finds disk targets } := by
  induction targets generalizing s with
  | nil => simp [finds]
  | cons t targets ih =>
    rw [List.foldl_cons, ih]
    unfold see
    cases ht : disk.modified t with
    | none => simp [finds, isStale, found?, ht]
    | some m => cases hr : disk.read? t <;> simp [finds, isStale, found?, ht, hr, Bool.or_assoc]

theorem absorb_min (times : List Time) :
    (times.foldl Watermark.absorb .unset).time? = times.min? := by
  have hset : ∀ (times : List Time) (t : Time),
      times.foldl Watermark.absorb ⟨some t⟩ = ⟨some (times.foldl min t)⟩ := by
    intro times
    induction times with
    | nil => exact fun t => rfl
    | cons u times ih =>
      intro t
      have hu : (Watermark.mk (some t)).absorb u = ⟨some (min t u)⟩ := by
        unfold Watermark.absorb
        by_cases h : u < t
        · simp [h, min_eq_right h.le]
        · simp [h, min_eq_left (not_lt.1 h)]
      rw [List.foldl_cons, hu, ih, List.foldl_cons]
  cases times with
  | nil => rfl
  | cons t times =>
    rw [List.foldl_cons, List.min?_cons']
    exact congrArg Watermark.time? (hset times t)

theorem lookup_found (disk : Disk) {targets : List Path}
    (distinct : targets.Pairwise fun p q => ¬ Path.Same p q) {t p : Path} (ht : t ∈ targets)
    (hp : Path.Same t p) :
    PathMap.lookup p (finds disk targets) = found? disk t := by
  induction targets with
  | nil => exact absurd ht List.not_mem_nil
  | cons u targets ih =>
    obtain ⟨first, rest⟩ := List.pairwise_cons.1 distinct
    rcases List.mem_cons.1 ht with rfl | ht
    · cases hb : found? disk t with
      | some b => rw [finds_cons_some hb, PathMap.lookup, if_pos hp]
      | none =>
        rw [finds_cons_none hb]
        refine (PathMap.lookup_eq_none_iff _ _).2 fun k hk h => ?_
        exact first k ((map_fst_finds disk targets).subset hk) (hp.trans h.symm)
    · have hu : ¬ Path.Same u p := fun h => first t ht (h.trans hp.symm)
      rw [← ih rest ht]
      cases hb : found? disk u with
      | none => rw [finds_cons_none hb]
      | some b => rw [finds_cons_some hb, PathMap.lookup, if_neg hu]

end Scan

/-! ## what is loaded -/

namespace ContentStore

theorem find?_loadAll (s v : ContentStore) (h : ∀ q, s.contents.find? q = v.contents.find? q)
    (ws : List (Path × Bytes)) (q : Path) :
    (s.loadAll ws).contents.find? q = (v.setAll ws).contents.find? q := by
  induction ws generalizing s v with
  | nil => exact h q
  | cons w ws ih =>
    refine ih (s.load w.1 w.2) (v.set w.1 w.2) fun q => ?_
    rw [find?_set, ← h]
    exact PathMap.find?_update ..

theorem get_loadAll (s : ContentStore) (ws : List (Path × Bytes)) (q : Path) :
    (s.loadAll ws).get q = (s.setAll ws).get q :=
  congrArg (Option.getD · []) (s.find?_loadAll s (fun _ => rfl) ws q)

end ContentStore

/-! ## the first run -/

namespace Compiler

/-- what the runs among these are made of that were asked for at the creation. -/
def initialProviders (l : List Start) : List Provider :=
  (l.filter fun x => x.cause = .initial).map fun x => x.request.provider

theorem initialProviders_append (l l' : List Start) :
    initialProviders (l ++ l') = initialProviders l ++ initialProviders l' := by
  unfold initialProviders
  rw [List.filter_append, List.map_append]

theorem initialProviders_starts (c : Compiler) (n : Nat) (e : Event) :
    initialProviders (c.starts n e) = if c.initialPending && e.ticks then [.file c.source] else [] := by
  have followed : ∀ (c : Compiler) h r, initialProviders (c.followStarts h n r) = [] := fun c h r => by
    have hf : (c.followStarts h n r).filter (fun x => x.cause = .initial) = [] :=
      List.filter_eq_nil_iff.2 fun x hx => by simpa using cause_followStarts hx
    exact congrArg (List.map fun x : Start => x.request.provider) hf
  have other : ∀ {l : List Start}, initialProviders l = [] → e.ticks = false →
      initialProviders l = if c.initialPending && e.ticks then [.file c.source] else [] := by
    intro l hl ht
    rw [hl, ht, Bool.and_false]
    rfl
  cases e with
  | answer g o => exact other rfl rfl
  | drop g => exact other rfl rfl
  | call h k =>
    cases k with
    | tick now =>
      have hs : (c.poll h).1.source = c.source := congrArg Badge.source (c.polled_poll h).badge_eq
      have hp : (c.poll h).1.initialPending = c.initialPending := (c.polled_poll h).initialPending_eq
      have hi : initialProviders ((c.poll h).1.initialStarts h)
          = if c.initialPending then [.file c.source] else [] := by
        unfold initialStarts
        rw [hp]
        split
        · exact congrArg (fun p => [Provider.file p]) hs
        · rfl
      rw [starts, initialProviders_append, followed, List.append_nil, hi]
      exact congrArg (fun b : Bool => if b then _ else _) (Bool.and_true _).symm
    | editorChanged editor => exact other (followed c h _) rfl
    | aboutToClose id => exact other (followed c h _) rfl
    | _ => exact other rfl rfl

theorem initialPending_after (c : Compiler) (es : List Event) :
    (c.after es).initialPending = (c.initialPending && !es.any Event.ticks) := by
  induction es generalizing c with
  | nil => exact (Bool.and_true _).symm
  | cons e es ih =>
    rw [after, ih, initialPending_step, List.any_cons, Bool.not_or, Bool.and_assoc]

/-- at the first tick the first run is started, and never again. -/
theorem initialProviders_story (c : Compiler) (n : Nat) (es : List Event) :
    initialProviders (c.story n es) =
      if c.initialPending && es.any Event.ticks then [.file c.source] else [] := by
  induction es generalizing c n with
  | nil => simp [story, initialProviders]
  | cons e es ih =>
    have hsource : (c.step e).source = c.source := congrArg Badge.source (c.badge_step e)
    rw [story, initialProviders_append, initialProviders_starts, ih, initialPending_step, hsource,
      List.any_cons]
    cases c.initialPending <;> cases e.ticks <;> simp

end Compiler

/-! ## the creation -/

theorem Scan.min?_congr {us vs : List Time} (h : ∀ t, t ∈ us ↔ t ∈ vs) : us.min? = vs.min? := by
  refine Option.ext fun t => ?_
  simp only [List.min?_eq_some_iff, h]

namespace Setup

theorem initialPending_compiler (s : Setup) : s.compiler.initialPending =
    (Path.firsts s.targets).any (Scan.isStale s.disk (s.disk.modified s.source)) := by
  show (scan s.disk s.source (ContentStore.declare s.targets).targets).dirty = _
  rw [ContentStore.targets_declare, scan, Scan.foldl_see]
  exact Bool.false_or _

theorem watermark_compiler (s : Setup) : s.compiler.watermark.time? =
    ((Path.firsts s.targets).filterMap s.disk.modified).min? := by
  show (scan s.disk s.source (ContentStore.declare s.targets).targets).watermark.time? = _
  rw [ContentStore.targets_declare, scan, Scan.foldl_see]
  exact Scan.absorb_min _

theorem content_compiler (s : Setup) {t p : Path} (ht : t ∈ Path.firsts s.targets)
    (hp : Path.Same t p) : s.compiler.content p = (Scan.found? s.disk t).getD [] := by
  have hload : (scan s.disk s.source (ContentStore.declare s.targets).targets).loaded
      = Scan.finds s.disk (Path.firsts s.targets) := by
    rw [ContentStore.targets_declare, scan, Scan.foldl_see]
    rfl
  have hkeys : (Path.firsts s.targets).Pairwise fun p q => ¬ Path.Same p q := by
    rw [← ContentStore.targets_declare]
    exact (ContentStore.declare s.targets).contents.distinct
  have hc : (ContentStore.declare s.targets).contains p = true := by
    rw [ContentStore.contains_iff, ContentStore.targets_declare]
    exact ⟨t, ht, hp⟩
  calc s.compiler.content p
      = ((ContentStore.declare s.targets).setAll (Scan.finds s.disk (Path.firsts s.targets))).get p := by
        rw [← hload]
        exact ContentStore.get_loadAll ..
    _ = (Scan.found? s.disk t).getD [] := by
        rw [ContentStore.get_setAll (hkeys.sublist (Scan.map_fst_finds ..)) _ hc,
          Scan.lookup_found s.disk hkeys ht hp, ContentStore.get_declare]

/-- what a scan says depends on the times of the targets alone. -/
theorem compiler_congr (s : Setup) {ts : List Path}
    (hto : ∀ t ∈ Path.firsts ts, ∃ u ∈ Path.firsts s.targets, s.disk.modified u = s.disk.modified t)
    (hof : ∀ u ∈ Path.firsts s.targets, ∃ t ∈ Path.firsts ts, s.disk.modified t = s.disk.modified u) :
    { s with targets := ts }.compiler.initialPending = s.compiler.initialPending ∧
      { s with targets := ts }.compiler.watermark = s.compiler.watermark := by
  have stale : ∀ {t u}, s.disk.modified t = s.disk.modified u →
      Scan.isStale s.disk (s.disk.modified s.source) t
        = Scan.isStale s.disk (s.disk.modified s.source) u := fun h => by
    unfold Scan.isStale
    rw [h]
  constructor
  · rw [initialPending_compiler, initialPending_compiler, Bool.eq_iff_iff, List.any_eq_true,
      List.any_eq_true]
    constructor
    · rintro ⟨t, ht, hs⟩
      obtain ⟨u, hu, h⟩ := hto t ht
      exact ⟨u, hu, (stale h).trans hs⟩
    · rintro ⟨u, hu, hs⟩
      obtain ⟨t, ht, h⟩ := hof u hu
      exact ⟨t, ht, (stale h).trans hs⟩
  · have ht : { s with targets := ts }.compiler.watermark.time? = s.compiler.watermark.time? := by
      rw [watermark_compiler, watermark_compiler]
      refine Scan.min?_congr fun m => ?_
      rw [List.mem_filterMap, List.mem_filterMap]
      constructor
      · rintro ⟨t, ht, hm⟩
        obtain ⟨u, hu, h⟩ := hto t ht
        exact ⟨u, hu, h.trans hm⟩
      · rintro ⟨u, hu, hm⟩
        obtain ⟨t, ht, h⟩ := hof u hu
        exact ⟨t, ht, h.trans hm⟩
    exact congrArg Watermark.mk ht

def initialRuns (s : Setup) (es : List Event) : List Provider :=
  Compiler.initialProviders (s.story es)

/-- **A compiler starts from what is on disk.** Its targets are those declared, each path once and as
it was spelled first. A target holds its bytes on disk, if it is there and can be read, and nothing
else; none of them is told as changed. The watermark is the earliest time of a target that has one.
The first run is due if a target has no time, or an earlier one than the source. Neither of the two
depends on the order of the targets. (Of two spellings of one path only the first is looked at, and a
disk may tell them apart; as long as it does not, the order of the list declared does not matter.)

In any life, all that was asked of the runner is told by its story, the first run among it: it is
started once, from the source on disk, if it is due and a tick has come, so that the first tick does
it; up to then it stays due, and if it never was, it is never started. -/
theorem created_from_disk (s : Setup) :
    let c := s.compiler
    let targets := Path.firsts s.targets
    c.targets = targets ∧
    (∀ t ∈ targets, ∀ p, Path.Same t p → c.content p =
      match s.disk.modified t, s.disk.read? t with
      | some _, some bytes => bytes
      | _, _ => []) ∧
    c.takeChanged.1 = [] ∧
    c.watermark.time? = (targets.filterMap s.disk.modified).min? ∧
    (c.initialPending = true ↔ ∃ t ∈ targets, s.disk.modified t = none ∨
      ∃ since made, s.disk.modified s.source = some since ∧ s.disk.modified t = some made ∧
        made < since) ∧
    (∀ ts, (Path.firsts ts).Perm targets ∨ (ts.Perm s.targets ∧ ∀ p ∈ ts, ∀ q ∈ ts,
        Path.Same p q → s.disk.modified p = s.disk.modified q) →
      { s with targets := ts }.compiler.initialPending = c.initialPending ∧
        { s with targets := ts }.compiler.watermark = c.watermark) ∧
    ∀ es, (s.after es).asked = (s.story es).map Start.request ∧
      (s.after es).initialPending = (c.initialPending && !es.any Event.ticks) ∧
      s.initialRuns es = if c.initialPending && es.any Event.ticks then [.file s.source] else [] := by
  intro c targets
  refine ⟨?_, fun t ht p hp => ?_, s.changed_compiler, s.watermark_compiler, ?_, fun ts hts => ?_,
    fun es => ⟨(s.recorded_story es).asked_eq, c.initialPending_after es,
      c.initialProviders_story 1 es⟩⟩
  · exact (s.targets_after []).trans (ContentStore.targets_declare s.targets)
  · rw [s.content_compiler ht hp]
    unfold Scan.found?
    cases s.disk.modified t <;> cases s.disk.read? t <;> rfl
  · show s.compiler.initialPending = true ↔ _
    simp only [initialPending_compiler, List.any_eq_true, Scan.isStale_iff, targets]
  · rcases hts with hperm | ⟨hperm, hdisk⟩
    · exact s.compiler_congr (fun t ht => ⟨t, hperm.subset ht, rfl⟩)
        fun u hu => ⟨u, hperm.symm.subset hu, rfl⟩
    · have other : ∀ {us vs : List Path}, us ⊆ vs → us ⊆ ts → vs ⊆ ts → ∀ u ∈ Path.firsts us,
          ∃ v ∈ Path.firsts vs, s.disk.modified v = s.disk.modified u := by
        intro us vs huv hus hvs u hu
        have hu' := Path.firsts_subset us hu
        obtain ⟨v, hv, hsame⟩ := Path.exists_firsts (huv hu')
        exact ⟨v, hv, hdisk v (hvs (Path.firsts_subset vs hv)) u (hus hu') hsame⟩
      exact s.compiler_congr (other hperm.subset (List.Subset.refl ts) hperm.symm.subset)
        (other hperm.symm.subset hperm.symm.subset (List.Subset.refl ts))

/-- a target that is spelled twice, one as old as the source, and a directory that is older: it makes
the first run due and is the watermark, though there is nothing to load. -/
example :
    let disk : Disk := ⟨fun p => if p = ⟨[97]⟩ ∨ p = ⟨[115]⟩ then some 5 else
      if p = ⟨[100]⟩ then some 3 else none,
      fun p => if p = ⟨[97]⟩ then .ok [1] else .error (.code 21)⟩
    let c := (⟨0, ⟨0, 0⟩, ⟨1000, 200, 1, 30000⟩, ⟨[115]⟩, [⟨[97]⟩, ⟨[97, 47]⟩, ⟨[100]⟩], .manual,
      disk⟩ : Setup).compiler
    c.targets = [⟨[97]⟩, ⟨[100]⟩] ∧ c.content ⟨[97, 47]⟩ = [1] ∧ c.content ⟨[100]⟩ = [] ∧
      c.watermark = ⟨some 3⟩ ∧ c.initialPending = true := by decide

end Setup
end Regen
