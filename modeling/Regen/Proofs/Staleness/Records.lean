import Mathlib.Data.List.MinMax
import Regen.Staleness

/-!
# Which targets are taken after a build

Each target that is taken raises the watermark by which the next one is judged. So of the targets
that could be taken, those are that are newer than every one before them: the records of the list,
read from its start.

* `Candidate`          a target that could be taken, with its time and its bytes;
* `Candidate.of?`      whether a target is one;
* `Candidate.found`    the candidates among some targets;
* `Candidate.records`  those that are newer than every one before them;
* `Disk.Finds`         what a disk has of some targets it has of others as well.

Main statements: `Reconciled.foldl_judge` (the loop in one equation), `reconcile_of_covers`,
`reconcile_of_not_covers`, `reconcile_congr` (only the times of the targets move the watermark), and
`reconcile_takes_records`.
-/

namespace Regen

/-! ## the latest of several times -/

namespace Watermark

def latest (times : List Time) : Watermark := ⟨times.max?⟩

theorem latest_append_singleton (times : List Time) (t : Time) :
    latest (times ++ [t]) = if (latest times).isSupersededBy t then ⟨some t⟩ else latest times := by
  unfold latest
  cases times with
  | nil => rfl
  | cons u times =>
    rw [List.cons_append, List.max?_cons', List.max?_cons', List.foldl_append]
    show Watermark.mk (some (max (times.foldl max u) t)) = _
    unfold isSupersededBy
    by_cases h : times.foldl max u < t
    · simp [h, max_eq_right h.le]
    · simp [h, max_eq_left (not_lt.1 h)]

theorem isSupersededBy_latest (times : List Time) (t : Time) :
    (latest times).isSupersededBy t = true ↔ ∀ u ∈ times, u < t := by
  induction times using List.reverseRecOn with
  | nil => simp [latest, isSupersededBy]
  | append_singleton times v ih =>
    rw [latest_append_singleton, List.forall_mem_append, ← ih]
    by_cases hv : (latest times).isSupersededBy v = true
    · rw [if_pos hv]
      rw [isSupersededBy_iff] at hv ⊢
      have hle : v < t → ∀ s, (latest times).time? = some s → s < t := fun h s hs =>
        (hv s hs).trans h
      simpa [isSupersededBy_iff] using hle
    · rw [if_neg hv]
      refine ⟨fun h => ⟨h, ?_⟩, fun h => h.1⟩
      rw [isSupersededBy_iff] at hv h
      push Not at hv
      obtain ⟨s, hs, hvs⟩ := hv
      simpa using hvs.trans_lt (h s hs)

/-- whether a watermark covers a source: it is set, and the source is missing or no later. -/
def Covers (w : Watermark) (source : Option Time) : Prop :=
  ∃ v, w.time? = some v ∧ ∀ s, source = some s → s ≤ v

theorem isCurrentFor_iff (w : Watermark) (source : Option Time) :
    w.isCurrentFor source = true ↔ w.Covers source := by
  unfold isCurrentFor Covers
  cases w.time? <;> cases source <;> simp

end Watermark

/-! ## candidates -/

structure Candidate where
  target : Path
  time : Time
  bytes : Bytes
  deriving DecidableEq, Repr

namespace Candidate

/-- a target with its time and its bytes, if it has both and is newer than the source and the
watermark, as far as there are any. -/
def of? (disk : Disk) (source : Option Time) (w : Watermark) (target : Path) : Option Candidate :=
  match disk.modified target, disk.read? target with
  | some t, some bytes =>
    if (∀ s ∈ source, s < t) ∧ ∀ v ∈ w.time?, v < t then some ⟨target, t, bytes⟩ else none
  | _, _ => none

def found (disk : Disk) (source : Option Time) (w : Watermark) (targets : List Path) :
    List Candidate := targets.filterMap (of? disk source w)

def records (cs : List Candidate) : List Candidate :=
  (cs.zipIdx.filter fun (c, i) => ∀ e ∈ cs.take i, e.time < c.time).map Prod.fst

def entry (c : Candidate) : Path × Bytes := (c.target, c.bytes)

theorem of?_eq_some_iff {disk : Disk} {source : Option Time} {w : Watermark} {target : Path}
    {c : Candidate} : of? disk source w target = some c ↔
      c.target = target ∧ disk.modified target = some c.time ∧ disk.read? target = some c.bytes ∧
        (∀ s ∈ source, s < c.time) ∧ ∀ v ∈ w.time?, v < c.time := by
  obtain ⟨p, t, bytes⟩ := c
  unfold of?
  cases hm : disk.modified target with
  | none => simp
  | some m =>
    cases hr : disk.read? target with
    | none => simp
    | some b =>
      simp only [Option.ite_none_right_eq_some, Option.some.injEq, mk.injEq]
      constructor
      · rintro ⟨hn, rfl, rfl, rfl⟩
        exact ⟨rfl, rfl, rfl, hn⟩
      · rintro ⟨rfl, rfl, rfl, hn⟩
        exact ⟨hn, rfl, rfl, rfl⟩

theorem mem_found {disk : Disk} {source : Option Time} {w : Watermark} {targets : List Path}
    {c : Candidate} : c ∈ found disk source w targets ↔
      c.target ∈ targets ∧ of? disk source w c.target = some c := by
  unfold found
  rw [List.mem_filterMap]
  constructor
  · rintro ⟨t, ht, hc⟩
    obtain rfl := (of?_eq_some_iff.1 hc).1
    exact ⟨ht, hc⟩
  · rintro ⟨ht, hc⟩
    exact ⟨c.target, ht, hc⟩

theorem found_append_singleton (disk : Disk) (source : Option Time) (w : Watermark)
    (targets : List Path) (t : Path) : found disk source w (targets ++ [t]) =
      found disk source w targets ++ (of? disk source w t).toList := by
  unfold found
  rw [List.filterMap_append]
  cases h : of? disk source w t <;> simp [h]

/-! ## records -/

theorem records_append_singleton (cs : List Candidate) (c : Candidate) :
    records (cs ++ [c]) = if ∀ e ∈ cs, e.time < c.time then records cs ++ [c] else records cs := by
  unfold records
  have hbefore : (cs.zipIdx.filter fun (d, i) => ∀ e ∈ (cs ++ [c]).take i, e.time < d.time)
      = cs.zipIdx.filter fun (d, i) => ∀ e ∈ cs.take i, e.time < d.time := by
    refine List.filter_congr fun ⟨d, i⟩ hp => ?_
    have hi : i < cs.length := by simpa using (List.mem_zipIdx' hp).1
    show decide (∀ e ∈ (cs ++ [c]).take i, e.time < d.time) = _
    rw [List.take_append_of_le_length hi.le]
  have hself : [(c, cs.length)].filter (fun (d, i) => ∀ e ∈ (cs ++ [c]).take i, e.time < d.time)
      = if ∀ e ∈ cs, e.time < c.time then [(c, cs.length)] else [] := by
    have htake : (cs ++ [c]).take cs.length = cs := List.take_left
    rw [List.filter_cons, List.filter_nil]
    show (if decide (∀ e ∈ (cs ++ [c]).take cs.length, e.time < c.time) = true then _ else _) = _
    simp only [htake, decide_eq_true_eq]
  rw [List.zipIdx_append, List.filter_append, hbefore, List.map_append, List.zipIdx_singleton,
    Nat.zero_add, hself]
  split
  · rfl
  · exact List.append_nil _

theorem records_sublist (cs : List Candidate) : (records cs).Sublist cs := by
  have h : (records cs).Sublist (cs.zipIdx.map Prod.fst) := List.filter_sublist.map _
  rwa [List.zipIdx_map_fst] at h

theorem pairwise_records (cs : List Candidate) :
    ((records cs).map Candidate.time).Pairwise (· < ·) := by
  rw [List.pairwise_map]
  induction cs using List.reverseRecOn with
  | nil => exact .nil
  | append_singleton cs c ih =>
    rw [records_append_singleton]
    split
    next h =>
      rw [List.pairwise_append]
      refine ⟨ih, List.pairwise_singleton _ _, fun e he d hd => ?_⟩
      rw [List.mem_singleton.1 hd]
      exact h e ((records_sublist cs).subset he)
    next => exact ih

theorem records_eq_nil_iff (cs : List Candidate) : records cs = [] ↔ cs = [] := by
  induction cs using List.reverseRecOn with
  | nil => exact iff_of_true rfl rfl
  | append_singleton cs c ih =>
    rw [records_append_singleton]
    split
    · simp
    next h =>
      have hcs : cs ≠ [] := by
        rintro rfl
        exact h fun e he => absurd he List.not_mem_nil
      simp [ih, hcs]

end Candidate

/-! ## the loop -/

namespace Reconciled
open Candidate

variable {disk : Disk} {source : Option Time} {w : Watermark} {t : Path}

theorem judge_of_some {c : Candidate} (hc : of? disk source w t = some c) (r : Reconciled) :
    judge disk source r t =
      if r.watermark.isSupersededBy c.time then ⟨⟨some c.time⟩, r.adopted ++ [c.entry]⟩ else r := by
  obtain ⟨rfl, hm, hr, hsource, -⟩ := of?_eq_some_iff.1 hc
  have hnew : newerThan source c.time = true := by
    unfold newerThan
    cases source with
    | none => rfl
    | some s => simpa using hsource s rfl
  unfold judge
  simp only [hm, hr, hnew, Bool.true_and]
  rfl

/-- what is no candidate is not taken, as long as the watermark is not below `w`. -/
theorem judge_of_none (hc : of? disk source w t = none) {r : Reconciled}
    (hw : ∀ m, r.watermark.isSupersededBy m = true → ∀ v ∈ w.time?, v < m) :
    judge disk source r t = r := by
  unfold judge
  cases hm : disk.modified t with
  | none => rfl
  | some m =>
    show (if newerThan source m && r.watermark.isSupersededBy m then _ else r) = r
    by_cases hj : (newerThan source m && r.watermark.isSupersededBy m) = true
    · rw [if_pos hj]
      obtain ⟨hs, hv⟩ := Bool.and_eq_true_iff.1 hj
      have hsource : ∀ s ∈ source, s < m := by
        rintro s rfl
        simpa [newerThan] using hs
      cases hr : disk.read? t with
      | none => rfl
      | some b =>
        have hsome : of? disk source w t = some ⟨t, m, b⟩ :=
          of?_eq_some_iff.2 ⟨rfl, hm, hr, hsource, hw m hv⟩
        exact absurd (hc.symm.trans hsome) (Option.some_ne_none _).symm
    · rw [if_neg hj]

/-- **The loop in one equation.** It takes the records of the candidates, and the watermark becomes
the latest of their times and its own. -/
theorem foldl_judge (disk : Disk) (source : Option Time) (w : Watermark) (targets : List Path) :
    targets.foldl (judge disk source) ⟨w, []⟩ =
      { watermark := .latest (w.time?.toList ++ (found disk source w targets).map Candidate.time)
        adopted := (records (found disk source w targets)).map entry } := by
  induction targets using List.reverseRecOn with
  | nil =>
    obtain ⟨o⟩ := w
    cases o <;> rfl
  | append_singleton targets t ih =>
    rw [List.foldl_append, ih, found_append_singleton]
    show judge disk source _ t = _
    cases hc : of? disk source w t with
    | none =>
      rw [Option.toList_none, List.append_nil]
      refine judge_of_none hc fun m hm v hv => ?_
      rw [Watermark.isSupersededBy_latest] at hm
      exact hm v (List.mem_append_left _ (Option.mem_toList.2 hv))
    | some c =>
      obtain ⟨-, -, -, -, hw⟩ := of?_eq_some_iff.1 hc
      rw [judge_of_some hc, Option.toList_some, List.map_append, ← List.append_assoc,
        records_append_singleton]
      show _ = Reconciled.mk (.latest (_ ++ [c.time])) _
      rw [Watermark.latest_append_singleton]
      have hrecord : (Watermark.latest (w.time?.toList ++ (found disk source w targets).map
          Candidate.time)).isSupersededBy c.time = true ↔
          ∀ e ∈ found disk source w targets, e.time < c.time := by
        rw [Watermark.isSupersededBy_latest, List.forall_mem_append, List.forall_mem_map]
        exact and_iff_right fun v hv => hw v (Option.mem_toList.1 hv)
      by_cases h : ∀ e ∈ found disk source w targets, e.time < c.time
      · rw [if_pos (hrecord.2 h), if_pos (hrecord.2 h), if_pos h, List.map_append]
        rfl
      · rw [if_neg (mt hrecord.1 h), if_neg (mt hrecord.1 h), if_neg h]

end Reconciled

/-! ## what is taken -/

namespace Watermark

theorem latest_of_later {w : Watermark} {times : List Time}
    (h : ∀ t ∈ times, ∀ v ∈ w.time?, v < t) :
    latest (w.time?.toList ++ times) = ⟨times.max?.or w.time?⟩ := by
  obtain ⟨o⟩ := w
  cases o with
  | none => exact congrArg Watermark.mk (Option.or_none ..).symm
  | some v =>
    cases times with
    | nil => rfl
    | cons t times =>
      have hv : v < t := h t List.mem_cons_self v rfl
      show Watermark.mk (some ((t :: times).foldl max v)) = _
      rw [List.foldl_cons, max_eq_right hv.le]
      rfl

theorem compare_self_isLE (w : Watermark) : (w.compare w).isLE = true := by
  obtain ⟨o⟩ := w
  cases o <;> simp [compare]

section
variable (w : Watermark) {m : Time} (h : ∀ v ∈ w.time?, v < m)
include h

theorem compare_isLE : (w.compare ⟨some m⟩).isLE = true := by
  obtain ⟨o⟩ := w
  cases o with
  | none => rfl
  | some v =>
    have hv : v < m := h v rfl
    have hc : Ord.compare v m = .lt := Int.compare_eq_lt.2 hv
    show (Ord.compare v m).isLE = true
    rw [hc]
    rfl

theorem ne_of_later : (⟨some m⟩ : Watermark) ≠ w := by
  rintro rfl
  exact lt_irrefl m (h m rfl)

end

end Watermark

section
open Candidate
variable (disk : Disk) (source : Path) (w : Watermark) (targets : List Path)

theorem reconcile_of_covers (h : w.Covers (disk.modified source)) :
    reconcile disk source w targets = ⟨w, []⟩ :=
  if_pos ((w.isCurrentFor_iff _).2 h)

/-- if the source is not covered, the records are taken, and the watermark becomes the latest time of
a candidate. -/
theorem reconcile_of_not_covers (h : ¬ w.Covers (disk.modified source)) :
    reconcile disk source w targets =
      { watermark :=
          ⟨((found disk (disk.modified source) w targets).map Candidate.time).max?.or w.time?⟩
        adopted := (records (found disk (disk.modified source) w targets)).map entry } := by
  have hr : reconcile disk source w targets
      = targets.foldl (Reconciled.judge disk (disk.modified source)) ⟨w, []⟩ :=
    if_neg (mt (w.isCurrentFor_iff _).1 h)
  have hlater : ∀ t ∈ (found disk (disk.modified source) w targets).map Candidate.time,
      ∀ v ∈ w.time?, v < t := by
    rw [List.forall_mem_map]
    intro c hc
    exact (of?_eq_some_iff.1 (mem_found.1 hc).2).2.2.2.2
  rw [hr, Reconciled.foldl_judge, Watermark.latest_of_later hlater]

/-- either nothing is taken and the watermark stays, or something is, and the watermark rises above
itself and above the source. -/
theorem reconcile_cases : reconcile disk source w targets = ⟨w, []⟩ ∨
    ∃ m, (reconcile disk source w targets).watermark = ⟨some m⟩ ∧
      (reconcile disk source w targets).adopted ≠ [] ∧
      (∀ s ∈ disk.modified source, s < m) ∧ ∀ v ∈ w.time?, v < m := by
  by_cases h : w.Covers (disk.modified source)
  · exact .inl (reconcile_of_covers disk source w targets h)
  · rw [reconcile_of_not_covers disk source w targets h]
    cases hm : ((found disk (disk.modified source) w targets).map Candidate.time).max? with
    | none =>
      have hf : found disk (disk.modified source) w targets = [] :=
        List.map_eq_nil_iff.1 (List.max?_eq_none_iff.1 hm)
      rw [hf]
      exact .inl rfl
    | some m =>
      obtain ⟨c, hc, rfl⟩ := List.mem_map.1 (List.max?_mem hm)
      obtain ⟨-, -, -, hsource, hw⟩ := of?_eq_some_iff.1 (mem_found.1 hc).2
      refine .inr ⟨c.time, rfl, fun h => ?_, hsource, hw⟩
      rw [List.map_eq_nil_iff, records_eq_nil_iff] at h
      exact List.ne_nil_of_mem hc h

theorem reconcile_again :
    reconcile disk source (reconcile disk source w targets).watermark targets
      = ⟨(reconcile disk source w targets).watermark, []⟩ := by
  rcases reconcile_cases disk source w targets with h | ⟨m, hm, -, hsource, -⟩
  · rw [h, h]
  · exact reconcile_of_covers _ _ _ _ ⟨m, congrArg Watermark.time? hm, fun s hs => (hsource s hs).le⟩

/-- what a disk has of some targets it has of others as well: the times, and something to read. -/
def Disk.Finds (ts us : List Path) : Prop :=
  ∀ t ∈ ts, ∃ u ∈ us, disk.modified u = disk.modified t ∧
    (disk.read? u).isSome = (disk.read? t).isSome

theorem time_mem_found {ts us : List Path} (hf : disk.Finds ts us) (since : Option Time) {m : Time}
    (hm : m ∈ (found disk since w ts).map Candidate.time) :
    m ∈ (found disk since w us).map Candidate.time := by
  obtain ⟨c, hc, rfl⟩ := List.mem_map.1 hm
  obtain ⟨ht, hc⟩ := mem_found.1 hc
  obtain ⟨-, htime, hread, hnew⟩ := of?_eq_some_iff.1 hc
  obtain ⟨u, hu, hsame, hreadable⟩ := hf _ ht
  rw [hread, Option.isSome_some, Option.isSome_iff_exists] at hreadable
  obtain ⟨bytes, hbytes⟩ := hreadable
  have hd : of? disk since w u = some ⟨u, c.time, bytes⟩ :=
    of?_eq_some_iff.2 ⟨rfl, hsame.trans htime, hbytes, hnew⟩
  exact List.mem_map.2 ⟨(⟨u, c.time, bytes⟩ : Candidate), mem_found.2 ⟨hu, hd⟩, rfl⟩

theorem reconcile_congr {us : List Path} (hto : disk.Finds targets us) (hof : disk.Finds us targets) :
    (reconcile disk source w targets).watermark = (reconcile disk source w us).watermark ∧
      ((reconcile disk source w targets).adopted = [] ↔
        (reconcile disk source w us).adopted = []) := by
  by_cases hc : w.Covers (disk.modified source)
  · rw [reconcile_of_covers _ _ _ _ hc, reconcile_of_covers _ _ _ _ hc]
    exact ⟨rfl, Iff.rfl⟩
  · have hmem : ∀ m, m ∈ (found disk (disk.modified source) w targets).map Candidate.time ↔
        m ∈ (found disk (disk.modified source) w us).map Candidate.time := fun m =>
      ⟨time_mem_found disk w hto _, time_mem_found disk w hof _⟩
    have hmax : ((found disk (disk.modified source) w targets).map Candidate.time).max?
        = ((found disk (disk.modified source) w us).map Candidate.time).max? := by
      refine Option.ext fun t => ?_
      simp only [List.max?_eq_some_iff, hmem]
    rw [reconcile_of_not_covers _ _ _ _ hc, reconcile_of_not_covers _ _ _ _ hc, hmax]
    refine ⟨rfl, ?_⟩
    show (records _).map entry = [] ↔ (records _).map entry = []
    rw [List.map_eq_nil_iff, List.map_eq_nil_iff, records_eq_nil_iff, records_eq_nil_iff,
      ← List.map_eq_nil_iff (f := Candidate.time), ← List.max?_eq_none_iff, hmax,
      List.max?_eq_none_iff, List.map_eq_nil_iff]

theorem found_filter_readable (source : Option Time) :
    found disk source w (targets.filter fun t => (disk.read? t).isSome)
      = found disk source w targets := by
  unfold found
  rw [List.filterMap_filter]
  refine List.filterMap_congr fun t _ => ?_
  cases hr : disk.read? t with
  | some b => simp
  | none =>
    have hnone : of? disk source w t = none := by
      unfold of?
      cases disk.modified t <;> simp [hr]
    simp [hnone]

theorem exists_adopted : ∃ cs : List Candidate,
    (reconcile disk source w targets).adopted = cs.map entry ∧
    (cs.map Candidate.time).Pairwise (· < ·) ∧
    ∀ c ∈ cs, disk.modified c.target = some c.time ∧ disk.read? c.target = some c.bytes := by
  by_cases h : w.Covers (disk.modified source)
  · rw [reconcile_of_covers disk source w targets h]
    exact ⟨[], rfl, .nil, fun c hc => absurd hc List.not_mem_nil⟩
  · rw [reconcile_of_not_covers disk source w targets h]
    refine ⟨_, rfl, pairwise_records _, fun c hc => ?_⟩
    obtain ⟨-, hm, hr, -⟩ := of?_eq_some_iff.1 (mem_found.1 ((records_sublist _).subset hc)).2
    exact ⟨hm, hr⟩

theorem reconcile_filter_readable :
    reconcile disk source w (targets.filter fun t => (disk.read? t).isSome)
      = reconcile disk source w targets := by
  by_cases h : w.Covers (disk.modified source)
  · rw [reconcile_of_covers _ _ _ _ h, reconcile_of_covers _ _ _ _ h]
  · rw [reconcile_of_not_covers _ _ _ _ h, reconcile_of_not_covers _ _ _ _ h,
      found_filter_readable]

end

/-- **What is taken after a build.** Nothing, as long as the watermark covers the source. Otherwise
take the targets that have a time, can be read, and are newer than the source, if there is one, and than
the watermark, if it is set. Of these candidates those are taken, in order and with their bytes on disk,
that are newer than every one before them; and the watermark becomes the latest time of a candidate, or
stays where it is if there is none. So the times of what is taken rise, the watermark never falls, and
it moves if and only if something is taken. A target that cannot be read changes nothing. -/
theorem reconcile_takes_records (disk : Disk) (source : Path) (w : Watermark) (targets : List Path) :
    let since := disk.modified source
    let found := Candidate.found disk since w targets
    let r := reconcile disk source w targets
    (w.Covers since → r = ⟨w, []⟩) ∧
    (¬ w.Covers since → r =
      { watermark := ⟨(found.map Candidate.time).max?.or w.time?⟩
        adopted := (Candidate.records found).map Candidate.entry }) ∧
    (∃ times : List Time, r.adopted.map (fun a => disk.modified a.1) = times.map some ∧
      times.Pairwise (· < ·)) ∧
    (∀ a ∈ r.adopted, disk.read? a.1 = some a.2) ∧
    (w.compare r.watermark).isLE = true ∧
    (r.watermark ≠ w ↔ r.adopted ≠ []) ∧
    reconcile disk source w (targets.filter fun t => (disk.read? t).isSome) = r := by
  intro since found r
  obtain ⟨cs, hcs, hrise, hdisk⟩ := exists_adopted disk source w targets
  have hmoves : (w.compare r.watermark).isLE = true ∧ (r.watermark ≠ w ↔ r.adopted ≠ []) := by
    rcases reconcile_cases disk source w targets with h | ⟨m, hm, hne, -, hw⟩
    · have hr : r = ⟨w, []⟩ := h
      rw [hr]
      exact ⟨w.compare_self_isLE, iff_of_false (fun h => h rfl) fun h => h rfl⟩
    · have hr : r.watermark = ⟨some m⟩ := hm
      rw [hr]
      exact ⟨w.compare_isLE hw, iff_of_true (w.ne_of_later hw) hne⟩
  refine ⟨reconcile_of_covers disk source w targets, reconcile_of_not_covers disk source w targets,
    ⟨cs.map Candidate.time, ?_, hrise⟩, fun a ha => ?_, hmoves.1, hmoves.2,
    reconcile_filter_readable disk source w targets⟩
  · show (reconcile disk source w targets).adopted.map _ = _
    rw [hcs, List.map_map, List.map_map]
    exact List.map_congr_left fun c hc => (hdisk c hc).1
  · have ha' : a ∈ (reconcile disk source w targets).adopted := ha
    rw [hcs] at ha'
    obtain ⟨c, hc, rfl⟩ := List.mem_map.1 ha'
    exact (hdisk c hc).2

/-- of five targets newer than the source and the watermark, one is a directory; two are records, and
the equal and the earlier one are passed over. -/
example :
    let disk : Disk := ⟨fun p => p.raw.head?.map fun b => (b.toNat : Time),
      fun p => if p.raw = [9, 9] then .error (.code 21) else .ok p.raw⟩
    let r := reconcile disk ⟨[1]⟩ .unset [⟨[9, 9]⟩, ⟨[5]⟩, ⟨[5, 5]⟩, ⟨[4]⟩, ⟨[7]⟩]
    r.watermark = ⟨some 7⟩ ∧ r.adopted = [(⟨[5]⟩, [5]), (⟨[7]⟩, [7])] := by decide

end Regen
