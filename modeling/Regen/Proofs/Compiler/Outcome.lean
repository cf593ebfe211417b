import Regen.Proofs.Compiler.Visible

/-!
# What an answer brings

A poll that takes the answer of the active run takes over its outcome. An abort is noted, and that
is all. An output without target bytes replaces the issues. Any other output also writes the
targets it names, and the watermark becomes the time of the poll.

* `Compiler.unnoted`   a compiler without its notes;
* `Compiler.settled`   a compiler whose inbox was drained, and with it the active run.

Main statements: `unnoted_poll_of_takes` (a poll is the settled compiler with the outcome taken
over), `poll_of_abort`, `poll_of_empty` and `poll_of_entries` (the three kinds of outcomes), and
`Setup.poll_fails_soft`, which says what each of them leaves.
-/

namespace Regen
namespace Compiler

def unnoted (c : Compiler) : Compiler :=
  { c with effects := c.effects.filter fun e => !e.isNote }

/-- a compiler whose inbox was drained, and with it the active run. -/
def settled (c : Compiler) : Compiler :=
  { c with
      inbox := []
      active := none
      superseded := c.superseded.filter fun g => g ∉ c.inbox.map Completion.generation }

/-- the notes apart, a compiler is what others see of it and what it knows of its runs. -/
theorem unnoted_eq {c d : Compiler} (hv : c.visible = d.visible) (hb : c.book = d.book) :
    c.unnoted = d.unnoted := by
  have split : ∀ e : Compiler, e.unnoted = { e.visible with
      runs := e.book.runs, inbox := e.book.inbox, superseded := e.book.superseded } := fun _ => rfl
  rw [split c, split d, hv, hb]

theorem unnoted_note (c : Compiler) (n : Note) : (c.tell (.noted n)).unnoted = c.unnoted :=
  unnoted_eq (visible_note c n) (book_tell c rfl)

theorem pushes_unnoted (c : Compiler) : c.unnoted.pushes = c.pushes :=
  filterMap_not_note (fun _ => rfl) c.effects

theorem pushes_setIssues (c : Compiler) (is : List Issue) :
    (c.setIssues is).pushes = c.pushes ++ (c.binding.push? is).toList := by
  unfold setIssues
  cases c.binding.push? is with
  | none => exact (List.append_nil _).symm
  | some p => exact List.filterMap_append

/-- bytes that are written for a map of paths: the targets named take them, nothing is declared,
and the writes that change something are told in the order of the map. -/
theorem setContents_map (c : Compiler) (m : PathMap Bytes) :
    (c.setContents m.entries).targets = c.targets ∧
    (∀ t, c.hasTarget t = true →
      (c.setContents m.entries).content t = (m.find? t).getD (c.content t)) ∧
    (c.setContents m.entries).store.changed = c.store.changed ++
      (m.entries.filter fun w => c.hasTarget w.1 && c.content w.1 != w.2).map Prod.fst := by
  have hf : (m.entries.filter fun w => c.store.changes w.1 w.2)
      = m.entries.filter fun w => c.hasTarget w.1 && c.content w.1 != w.2 := by
    refine List.filter_congr fun w _ => ?_
    rw [Bool.eq_iff_iff, ContentStore.changes_iff]
    simp [hasTarget, content]
  refine ⟨ContentStore.keys_setAll _ _, fun t ht => ContentStore.get_setAll m.distinct _ ht, ?_⟩
  rw [← hf]
  exact ContentStore.changed_setAll m.distinct c.store

/-! ## the poll -/

section
variable {c : Compiler} (hc : c.Sound) {m : Completion} (hm : m ∈ c.inbox) (ht : c.Takes m)
include hc hm ht

theorem unnoted_poll_of_takes (h : Host) :
    (c.poll h).1.unnoted = (c.settled.adopt h.wall m.outcome).unnoted := by
  refine unnoted_eq ?_ ?_
  · rw [visible_poll_of_takes hc hm ht, visible_adopt, visible_adopt c.settled]
    rfl
  · rw [book_poll hc.active_not_superseded, if_pos ⟨m, hm, ht⟩, book_adopt]
    rfl

/-- the answer taken is counted if it brings target bytes. -/
theorem count_poll_of_takes (h : Host) :
    (c.poll h).2 = if brings m.outcome then 1 else 0 := by
  obtain ⟨before, after, hi, hb⟩ := hc.split_inbox hm ht
  have ht' : c.emptied.Takes m := ht
  have hcount : ((before ++ m :: after).foldl (handleCounting h.wall) (c.emptied, 0)).2
      = 0 + if brings m.outcome then 1 else 0 := count_of_takes hb ht'
  unfold poll
  rw [hi]
  exact hcount.trans (Nat.zero_add _)

theorem poll_of_abort {abort : Abort} (ho : m.outcome = .error abort) (h : Host) :
    (c.poll h).1.unnoted = c.settled.unnoted := by
  rw [unnoted_poll_of_takes hc hm ht, ho]
  exact unnoted_note _ _

variable {out : Output} (ho : m.outcome = .ok out)
include ho

theorem poll_of_empty (he : out.contents.entries = []) (h : Host) :
    (c.poll h).1.unnoted = (c.settled.setIssues out.issues).unnoted := by
  have ha : (c.settled.adopt h.wall (.ok out)).unnoted
      = ((c.settled.setIssues out.issues).tell (.noted .emptyResult)).unnoted := by
    unfold adopt
    simp only [he, if_true]
  rw [unnoted_poll_of_takes hc hm ht, ho, ha, unnoted_note]

theorem poll_of_entries (he : out.contents.entries ≠ []) (h : Host) :
    (c.poll h).1.unnoted = (((c.settled.setIssues out.issues).setContents
      out.contents.entries).setWatermark h.wall).unnoted := by
  rw [unnoted_poll_of_takes hc hm ht, ho]
  unfold adopt
  simp only [he, if_false]

theorem poll_of_ok (h : Host) :
    (c.poll h).1.unnoted = { (c.settled.setIssues out.issues).unnoted with
      store := (c.poll h).1.store, watermark := (c.poll h).1.watermark } := by
  show (c.poll h).1.unnoted = { (c.settled.setIssues out.issues).unnoted with
    store := (c.poll h).1.unnoted.store, watermark := (c.poll h).1.unnoted.watermark }
  by_cases he : out.contents.entries = []
  · rw [poll_of_empty hc hm ht ho he]
  · rw [poll_of_entries hc hm ht ho he]
    rfl

theorem issues_poll_of_ok (h : Host) : (c.poll h).1.issues = out.issues := by
  have hi : (c.poll h).1.unnoted.issues = out.issues := by
    rw [poll_of_ok hc hm ht ho, setIssues_eq]
    rfl
  exact hi

theorem pushes_poll_of_ok (h : Host) :
    (c.poll h).1.pushes = c.pushes ++ (c.binding.push? out.issues).toList := by
  have hp := pushes_setIssues c.settled out.issues
  rw [← pushes_unnoted] at hp
  rw [← pushes_unnoted, poll_of_ok hc hm ht ho]
  exact hp

end

end Compiler

namespace Setup

open Compiler

/-- **Every outcome is taken softly.** The answer of the active run of any compiler there can be
is polled. The notes apart, an abort only settles the compiler. An output replaces the issues as
well, which the bound editor is told, and without target bytes it leaves it at that. With target
bytes it writes those of the declared targets that it names, declares none, notifies of the bytes
that differed, in its own order, and the watermark becomes the time of the poll. Only such an
output is counted. -/
theorem poll_fails_soft (s : Setup) (es : List Event) (h : Host) {m : Completion}
    (hm : m ∈ (s.after es).inbox) (ha : (s.after es).active = some m.generation) :
    let c := s.after es
    let p := c.poll h
    match m.outcome with
    | .error _ => p.1.unnoted = c.settled.unnoted ∧ p.1.pushes = c.pushes ∧ p.2 = 0
    | .ok out =>
      p.1.unnoted = { (c.settled.setIssues out.issues).unnoted with
        store := p.1.store, watermark := p.1.watermark } ∧
      p.1.issues = out.issues ∧
      p.1.pushes = c.pushes ++ (c.binding.push? out.issues).toList ∧
      if out.contents.entries = [] then
        p.1.store = c.store ∧ p.1.watermark = c.watermark ∧ p.2 = 0
      else
        p.1.targets = c.targets ∧
        (∀ t, c.hasTarget t = true →
          p.1.content t = (out.contents.find? t).getD (c.content t)) ∧
        p.1.store.changed = c.store.changed ++
          (out.contents.entries.filter fun w =>
            c.hasTarget w.1 && c.content w.1 != w.2).map Prod.fst ∧
        p.1.watermark = ⟨some h.wall⟩ ∧ p.2 = 1 := by
  intro c p
  have hc : c.Sound := (s.soundWith_after es).1
  have hn : p.2 = if brings m.outcome then 1 else 0 := count_poll_of_takes hc hm ha h
  cases ho : m.outcome with
  | error abort =>
    rw [ho] at hn
    have hu : p.1.unnoted = c.settled.unnoted := poll_of_abort hc hm ha ho h
    refine ⟨hu, ?_, hn⟩
    rw [← pushes_unnoted, hu, pushes_unnoted]
    rfl
  | ok out =>
    rw [ho] at hn
    refine ⟨poll_of_ok hc hm ha ho h, issues_poll_of_ok hc hm ha ho h,
      pushes_poll_of_ok hc hm ha ho h, ?_⟩
    by_cases he : out.contents.entries = []
    · have hu := poll_of_empty hc hm ha ho he h
      have hs : (c.poll h).1.unnoted.store = c.store := by rw [hu, setIssues_eq]; rfl
      have hw : (c.poll h).1.unnoted.watermark = c.watermark := by rw [hu, setIssues_eq]; rfl
      rw [if_pos he]
      exact ⟨hs, hw, by simpa [brings, he] using hn⟩
    · have hu := poll_of_entries hc hm ha ho he h
      have hw : (c.poll h).1.unnoted.watermark = ⟨some h.wall⟩ := by rw [hu]; rfl
      have hs : (c.poll h).1.unnoted.store = (c.setContents out.contents.entries).store := by
        rw [hu, setIssues_eq]
        rfl
      replace hs : p.1.store = (c.setContents out.contents.entries).store := hs
      obtain ⟨hkeys, hget, hchanged⟩ := setContents_map c out.contents
      rw [if_neg he]
      refine ⟨?_, fun t ht => ?_, ?_, hw, by simpa [brings, he] using hn⟩
      · show p.1.store.targets = _
        rw [hs]
        exact hkeys
      · show p.1.store.get t = _
        rw [hs]
        exact hget t ht
      · rw [hs]
        exact hchanged

/-- an output that names a path that is no target, a target it leaves as it is, and one that it
changes. -/
theorem poll_fails_soft_mixed :
    let blank : Disk := ⟨fun _ => none, fun _ => .error (.code 2)⟩
    let host : Host := ⟨blank, fun _ => ⟨0, false, .unconfigured⟩, fun _ => [], .empty, 7⟩
    let s : Setup :=
      ⟨0, ⟨0, 0⟩, ⟨1000, 200, 1, 30000⟩, ⟨[115]⟩, [⟨[97]⟩, ⟨[98]⟩], .manual, blank⟩
    let out : Output := ⟨.ofList [(⟨[99]⟩, [1]), (⟨[98]⟩, []), (⟨[97]⟩, [2])], []⟩
    let p := (s.after [.call host (.runContents [0]), .answer 1 (.ok out)]).poll host
    p.1.targets = [⟨[97]⟩, ⟨[98]⟩] ∧ p.1.content ⟨[97]⟩ = [2] ∧ p.1.content ⟨[98]⟩ = [] ∧
      p.1.store.changed = [⟨[97]⟩] ∧ p.1.watermark = ⟨some 7⟩ ∧ p.2 = 1 := by
  intro blank host s out p
  have h := poll_fails_soft s [.call host (.runContents [0]), .answer 1 (.ok out)] host
    (m := ⟨1, .ok out⟩) List.mem_cons_self rfl
  obtain ⟨-, -, -, h⟩ := h
  rw [if_neg (by decide)] at h
  obtain ⟨ht, hb, hn, hw, hz⟩ := h
  exact ⟨ht.trans (by decide), (hb _ (by decide)).trans (by decide),
    (hb _ (by decide)).trans (by decide), hn.trans (by decide), hw, hz⟩

end Setup
end Regen
