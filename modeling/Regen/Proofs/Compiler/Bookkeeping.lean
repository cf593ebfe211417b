import Regen.Proofs.Compiler.Poll

/-!
# The bookkeeping of runs

A run that was started is tracked until a poll has drained its answer: first as the active run,
and once another one was asked for, among the superseded ones. The active run is the newest; the
superseded ones stand in the order of their generations, and their tokens are cancelled.

* `Compiler.Sound`     this invariant, with what it needs about the inbox;
* `Compiler.drained`   the generations whose answers a poll drains.

Main statements: `Sound.step` (every event keeps the invariant), `SoundWith.tracked_iff` (which
runs are tracked) and `Setup.tracks_undrained_runs`, which says all of it about every life.
-/

namespace Regen
namespace Compiler

/-! ## runs by their generation -/

theorem find?_map_generation {f : Run → Run} (hf : ∀ r, (f r).generation = r.generation)
    (rs : List Run) (g : Nat) : (rs.map f).find? (fun r => r.generation == g)
      = (rs.find? fun r => r.generation == g).map f := by
  have hc : (fun r : Run => r.generation == g) ∘ f = fun r => r.generation == g := by
    funext r
    show ((f r).generation == g) = _
    rw [hf]
  rw [List.find?_map, hc]

theorem generations_eq (rs : List Run) :
    rs.map Run.generation = (rs.map Run.request).map Request.generation := by
  rw [List.map_map]
  rfl

theorem awaits_eq (c : Compiler) (g : Nat) : c.awaits g = (c.run? g).any fun r => !r.answered := by
  unfold awaits
  cases c.run? g <;> rfl

theorem isAnswered_eq (c : Compiler) (g : Nat) :
    c.isAnswered g = (c.run? g).any fun r => r.answered := by
  unfold isAnswered
  cases c.run? g <;> rfl

theorem isCancelled_eq (c : Compiler) (g : Nat) :
    c.isCancelled g = (c.run? g).any fun r => r.cancelled := by
  unfold isCancelled
  cases c.run? g <;> rfl

theorem isAnswered_congr {c c' : Compiler} (h : c'.runs = c.runs) (g : Nat) :
    c'.isAnswered g = c.isAnswered g := by
  unfold isAnswered run?
  rw [h]

theorem isCancelled_congr {c c' : Compiler} (h : c'.runs = c.runs) (g : Nat) :
    c'.isCancelled g = c.isCancelled g := by
  unfold isCancelled run?
  rw [h]

theorem generation_of_run? {c : Compiler} {g : Nat} {r : Run} (h : c.run? g = some r) :
    r.generation = g := by simpa using List.find?_some h

theorem isSome_run?_iff (c : Compiler) (g : Nat) :
    (c.run? g).isSome = true ↔ g ∈ c.runs.map Run.generation := by
  unfold run?
  rw [List.find?_isSome, List.mem_map]
  simp only [beq_iff_eq]

theorem awaits_iff (c : Compiler) (g : Nat) :
    c.awaits g = true ↔ g ∈ c.runs.map Run.generation ∧ c.isAnswered g = false := by
  rw [awaits_eq, isAnswered_eq, ← isSome_run?_iff]
  cases c.run? g <;> simp

theorem started_of_isAnswered {c : Compiler} {g : Nat} (h : c.isAnswered g = true) :
    g ∈ c.runs.map Run.generation := by
  rw [← isSome_run?_iff]
  rw [isAnswered_eq] at h
  cases hr : c.run? g with
  | none => simp [hr] at h
  | some r => rfl

theorem started_of_isCancelled {c : Compiler} {g : Nat} (h : c.isCancelled g = true) :
    g ∈ c.runs.map Run.generation := by
  rw [← isSome_run?_iff]
  rw [isCancelled_eq] at h
  cases hr : c.run? g with
  | none => simp [hr] at h
  | some r => rfl

/-! ## one more run -/

theorem runs_supersede (c : Compiler) : c.supersede.runs = c.runs.map fun r =>
    if c.active = some r.generation then { r with cancelled := true } else r := by
  unfold supersede
  cases ha : c.active with
  | none => simp
  | some g => simp only [cancel, Option.some.injEq, eq_comm]

theorem book_start (c : Compiler) (h : Host) (p : Provider) : (c.start h p).book =
    { clock := c.clock + 1
      runs := c.supersede.runs ++ [⟨c.nextRequest h p, false, false⟩]
      inbox := c.inbox
      active := some (c.clock + 1)
      superseded := c.superseded ++ c.active.toList
      asked := c.asked ++ [c.nextRequest h p] } := by
  have ha : (c.start h p).asked = c.supersede.asked ++ [c.nextRequest h p] := asked_tell _ _
  unfold book
  rw [ha]
  unfold start supersede
  cases c.active with
  | none => simp [tell, enter, nextRequest]
  | some g => rfl

theorem run?_start (c : Compiler) (h : Host) (p : Provider) (g : Nat) : (c.start h p).run? g
    = ((c.run? g).map fun r => if c.active = some r.generation then { r with cancelled := true }
        else r).or (if c.clock + 1 = g then some ⟨c.nextRequest h p, false, false⟩ else none) := by
  have hr : (c.start h p).runs = c.supersede.runs ++ [⟨c.nextRequest h p, false, false⟩] :=
    congrArg Book.runs (book_start c h p)
  have hn : [(⟨c.nextRequest h p, false, false⟩ : Run)].find? (fun r => r.generation == g)
      = if c.clock + 1 = g then some ⟨c.nextRequest h p, false, false⟩ else none := by
    rw [List.find?_singleton]
    simp only [Run.generation, nextRequest, beq_iff_eq]
  unfold run?
  rw [hr, List.find?_append, hn, runs_supersede, find?_map_generation]
  intro r
  split <;> rfl

theorem isAnswered_start (c : Compiler) (h : Host) (p : Provider) (g : Nat) :
    (c.start h p).isAnswered g = c.isAnswered g := by
  rw [isAnswered_eq, isAnswered_eq, run?_start]
  cases c.run? g with
  | none => by_cases hg : c.clock + 1 = g <;> simp [hg]
  | some r => by_cases ha : c.active = some r.generation <;> simp [ha]

theorem requests_start (c : Compiler) (h : Host) (p : Provider) :
    (c.start h p).runs.map Run.request = c.runs.map Run.request ++ [c.nextRequest h p] := by
  have hr : (c.start h p).runs = c.supersede.runs ++ [⟨c.nextRequest h p, false, false⟩] :=
    congrArg Book.runs (book_start c h p)
  have hf : (Run.request ∘ fun r : Run =>
      if c.active = some r.generation then { r with cancelled := true } else r)
      = Run.request := by
    funext r
    show Run.request (if _ then _ else _) = _
    split <;> rfl
  rw [hr, runs_supersede, List.map_append, List.map_map, hf]
  rfl

theorem generations_start (c : Compiler) (h : Host) (p : Provider) :
    (c.start h p).runs.map Run.generation = c.runs.map Run.generation ++ [c.clock + 1] := by
  rw [generations_eq, generations_eq, requests_start, List.map_append]
  rfl

theorem isCancelled_start {c : Compiler} {g : Nat} (hg : g ∈ c.runs.map Run.generation)
    (hc : c.isCancelled g = true ∨ c.active = some g) (h : Host) (p : Provider) :
    (c.start h p).isCancelled g = true := by
  obtain ⟨r, hr⟩ := Option.isSome_iff_exists.1 ((isSome_run?_iff c g).2 hg)
  rw [isCancelled_eq, run?_start, hr]
  rcases hc with hc | ha
  · rw [isCancelled_eq, hr] at hc
    by_cases ha : c.active = some r.generation
    · simp [ha]
    · simpa [ha] using hc
  · have ha' : c.active = some r.generation := by rw [ha, generation_of_run? hr]
    simp [ha']

/-! ## one answer -/

theorem answer_of_awaits {c : Compiler} {g : Nat} (h : c.awaits g = true) (o : Outcome) :
    c.answer g o = { c with
      runs := c.runs.map fun r => if r.generation = g then { r with answered := true } else r
      inbox := c.inbox ++ [⟨g, o⟩] } := if_pos h

theorem answer_of_not_awaits {c : Compiler} {g : Nat} (h : ¬ c.awaits g = true) (o : Outcome) :
    c.answer g o = c := if_neg h

theorem run?_answer {c : Compiler} {g : Nat} (h : c.awaits g = true) (o : Outcome) (g' : Nat) :
    (c.answer g o).run? g'
      = (c.run? g').map fun r => if r.generation = g then { r with answered := true } else r := by
  rw [answer_of_awaits h]
  unfold run?
  apply find?_map_generation
  intro r
  split <;> rfl

theorem isAnswered_answer {c : Compiler} {g : Nat} (h : c.awaits g = true) (o : Outcome)
    (g' : Nat) : (c.answer g o).isAnswered g' = true ↔ c.isAnswered g' = true ∨ g' = g := by
  rw [isAnswered_eq, isAnswered_eq, run?_answer h]
  cases hr : c.run? g' with
  | none =>
    have hn : g' ≠ g := by
      rintro rfl
      rw [awaits_eq, hr] at h
      exact Bool.noConfusion h
    simp [hn]
  | some r =>
    have hg := generation_of_run? hr
    by_cases he : g' = g
    · simp [hg, he]
    · simp [hg, he]

theorem isCancelled_answer (c : Compiler) (g : Nat) (o : Outcome) (g' : Nat) :
    (c.answer g o).isCancelled g' = c.isCancelled g' := by
  by_cases h : c.awaits g = true
  · rw [isCancelled_eq, isCancelled_eq, run?_answer h, Option.any_map]
    congr 1
    funext r
    show Run.cancelled (if _ then _ else _) = _
    split <;> rfl
  · rw [answer_of_not_awaits h]

theorem requests_answer (c : Compiler) (g : Nat) (o : Outcome) :
    (c.answer g o).runs.map Run.request = c.runs.map Run.request := by
  by_cases h : c.awaits g = true
  · rw [answer_of_awaits h, List.map_map]
    congr 1
    funext r
    show Run.request (if _ then _ else _) = _
    split <;> rfl
  · rw [answer_of_not_awaits h]

theorem generations_answer (c : Compiler) (g : Nat) (o : Outcome) :
    (c.answer g o).runs.map Run.generation = c.runs.map Run.generation := by
  rw [generations_eq, generations_eq, requests_answer]

/-! ## one poll -/

theorem asked_withdraw (c : Compiler) (ms : List Completion) : (c.withdraw ms).asked = c.asked := by
  show (c.effects ++ ms.map staleNote).filterMap Effect.request? = _
  rw [List.filterMap_append, List.filterMap_map]
  have hn : ms.filterMap (Effect.request? ∘ staleNote) = [] :=
    List.filterMap_eq_nil_iff.2 fun m _ => rfl
  rw [hn]
  exact List.append_nil _

theorem book_withdraw (c : Compiler) (ms : List Completion) : (c.withdraw ms).book =
    { c.book with
      superseded := c.book.superseded.filter fun g => g ∉ ms.map Completion.generation } :=
  congrArg (Book.mk c.clock c.runs c.inbox c.active _) (asked_withdraw c ms)

theorem book_idle (c : Compiler) : c.idle.book = { c.book with active := none } := rfl

theorem book_emptied (c : Compiler) : c.emptied.book = { c.book with inbox := [] } := rfl

/-- a poll empties the inbox; the runs answered in it are no longer tracked. -/
theorem book_poll {c : Compiler} (hd : ∀ g, c.active = some g → g ∉ c.superseded) (h : Host) :
    (c.poll h).1.book =
      { clock := c.clock
        runs := c.runs
        inbox := []
        active := if ∃ m ∈ c.inbox, c.Takes m then none else c.active
        superseded := c.superseded.filter fun g => g ∉ c.inbox.map Completion.generation
        asked := c.asked } := by
  rw [poll_fst]
  rcases takes_cases c.emptied c.inbox with hn | ⟨before, m, after, hi, hb, hm⟩
  · rw [handleAll_of_not_takes h.wall hn, if_neg fun ⟨m, hmem, hm⟩ => hn m hmem hm]
    exact book_withdraw _ _
  · have hmem : m ∈ c.inbox := hi ▸ List.mem_append_right before List.mem_cons_self
    have hf : c.superseded.filter (fun g => g ∉ before.map Completion.generation
          ∧ g ∉ after.map Completion.generation)
        = c.superseded.filter fun g => g ∉ c.inbox.map Completion.generation := by
      refine List.filter_congr fun g hg => ?_
      have hne : g ≠ m.generation := fun he => hd m.generation hm (he ▸ hg)
      simp [hi, hne]
    rw [if_pos ⟨m, hmem, hm⟩, ← hf, hi, handleAll_of_takes h.wall hb hm, book_withdraw, book_adopt,
      book_idle, book_withdraw, book_emptied]
    simp only [book, List.filter_filter, Bool.decide_and, Bool.and_comm]

/-! ## the invariant -/

structure Sound (c : Compiler) : Prop where
  asked_runs : c.runs.map Run.request = c.asked
  numbered : c.runs.map Run.generation = List.range' 1 c.clock
  active_newest : ∀ g, c.active = some g → g = c.clock
  superseded_sorted : c.superseded.Pairwise (· < ·)
  superseded_lt : ∀ g ∈ c.superseded, g < c.clock
  superseded_cancelled : ∀ g ∈ c.superseded, c.isCancelled g = true
  /-- a run is tracked as long as its answer is owed or waits in the inbox. -/
  owed : ∀ g, g ∈ c.outstanding ↔ c.awaits g = true ∨ g ∈ c.inbox.map Completion.generation
  inbox_answered : ∀ g ∈ c.inbox.map Completion.generation, c.isAnswered g = true
  inbox_nodup : (c.inbox.map Completion.generation).Nodup

theorem mem_outstanding_iff (c : Compiler) (g : Nat) :
    g ∈ c.outstanding ↔ c.active = some g ∨ g ∈ c.superseded := by
  unfold outstanding
  rw [List.mem_append, Option.mem_toList]

namespace Sound

variable {c : Compiler}

theorem mem_generations_iff (hc : c.Sound) (g : Nat) :
    g ∈ c.runs.map Run.generation ↔ 1 ≤ g ∧ g ≤ c.clock := by
  rw [hc.numbered, List.mem_range'_1]
  omega

theorem generations_asked (hc : c.Sound) :
    c.asked.map Request.generation = c.runs.map Run.generation := by
  rw [← hc.asked_runs, ← generations_eq]

theorem asked_numbered (hc : c.Sound) :
    c.asked.map Request.generation = List.range' 1 c.clock :=
  hc.generations_asked.trans hc.numbered

theorem active_not_superseded (hc : c.Sound) (g : Nat) (ha : c.active = some g) :
    g ∉ c.superseded := fun hs => by
  have h1 := hc.active_newest g ha
  have h2 := hc.superseded_lt g hs
  omega

theorem outstanding_nodup (hc : c.Sound) : c.outstanding.Nodup := by
  have hs : c.superseded.Nodup := hc.superseded_sorted.imp fun h => Nat.ne_of_lt h
  unfold outstanding
  cases ha : c.active with
  | none => exact hs
  | some g => exact List.nodup_cons.2 ⟨hc.active_not_superseded g ha, hs⟩

theorem outstanding_started (hc : c.Sound) {g : Nat} (hg : g ∈ c.outstanding) :
    g ∈ c.runs.map Run.generation := by
  rcases (hc.owed g).1 hg with h | h
  · exact ((awaits_iff c g).1 h).1
  · exact started_of_isAnswered (hc.inbox_answered g h)

theorem of_book {c' : Compiler} (hb : c'.book = c.book) (hc : c.Sound) : c'.Sound := by
  obtain ⟨n, p, s, r, t, st, is, w, b, i, clock, runs, inbox, active, superseded, e⟩ := c
  obtain ⟨n', p', s', r', t', st', is', w', b', i', clock', runs', inbox', active', superseded',
    e'⟩ := c'
  obtain ⟨rfl, rfl, rfl, rfl, rfl, he⟩ : clock' = clock ∧ runs' = runs ∧ inbox' = inbox ∧
      active' = active ∧ superseded' = superseded ∧
      e'.filterMap Effect.request? = e.filterMap Effect.request? := by
    simpa only [book, asked, Book.mk.injEq] using hb
  exact ⟨hc.asked_runs.trans he.symm, hc.numbered, hc.active_newest, hc.superseded_sorted,
    hc.superseded_lt, hc.superseded_cancelled, hc.owed, hc.inbox_answered, hc.inbox_nodup⟩

/-! ### every event keeps it -/

theorem create (number : Nat) (project : ProjectRef) (config : Config) (source : Path)
    (targets : List Path) (runner : Runner) (disk : Disk) :
    (Compiler.create number project config source targets runner disk).Sound where
  asked_runs := rfl
  numbered := rfl
  active_newest g hg := nomatch hg
  superseded_sorted := .nil
  superseded_lt g hg := nomatch hg
  superseded_cancelled g hg := nomatch hg
  owed g := by simp [Compiler.create, outstanding, awaits, run?]
  inbox_answered g hg := nomatch hg
  inbox_nodup := .nil

theorem awaits_start (hc : c.Sound) (h : Host) (p : Provider) (g : Nat) :
    (c.start h p).awaits g = true ↔ c.awaits g = true ∨ g = c.clock + 1 := by
  have hn : c.isAnswered (c.clock + 1) = false := by
    cases ha : c.isAnswered (c.clock + 1) with
    | false => rfl
    | true =>
      have := (hc.mem_generations_iff _).1 (started_of_isAnswered ha)
      omega
  rw [awaits_iff, awaits_iff, generations_start, isAnswered_start, List.mem_append,
    List.mem_singleton]
  constructor
  · rintro ⟨hg | hg, ha⟩
    · exact .inl ⟨hg, ha⟩
    · exact .inr hg
  · rintro (⟨hg, ha⟩ | rfl)
    · exact ⟨.inl hg, ha⟩
    · exact ⟨.inr rfl, hn⟩

theorem start (hc : c.Sound) (h : Host) (p : Provider) : (c.start h p).Sound := by
  have hb := book_start c h p
  have hclock : (c.start h p).clock = c.clock + 1 := congrArg Book.clock hb
  have hinbox : (c.start h p).inbox = c.inbox := congrArg Book.inbox hb
  have hactive : (c.start h p).active = some (c.clock + 1) := congrArg Book.active hb
  have hsup : (c.start h p).superseded = c.superseded ++ c.active.toList :=
    congrArg Book.superseded hb
  have hasked : (c.start h p).asked = c.asked ++ [c.nextRequest h p] := congrArg Book.asked hb
  have hout : ∀ g, g ∈ (c.start h p).outstanding ↔ g ∈ c.outstanding ∨ g = c.clock + 1 := by
    intro g
    rw [mem_outstanding_iff, mem_outstanding_iff, hactive, hsup, List.mem_append,
      Option.mem_toList, Option.some.injEq]
    grind
  refine ⟨?_, ?_, ?_, ?_, ?_, ?_, ?_, ?_, ?_⟩
  · rw [requests_start, hc.asked_runs, hasked]
  · rw [generations_start, hc.numbered, hclock, List.range'_1_concat, Nat.add_comm]
  · intro g hg
    rw [hactive, Option.some.injEq] at hg
    rw [hclock, hg]
  · rw [hsup, List.pairwise_append]
    refine ⟨hc.superseded_sorted, ?_, fun g hg g' hg' => ?_⟩
    · cases c.active <;> simp
    · have h1 := hc.superseded_lt g hg
      have h2 := hc.active_newest g' (Option.mem_toList.1 hg')
      omega
  · intro g hg
    rw [hsup, List.mem_append, Option.mem_toList] at hg
    rw [hclock]
    rcases hg with hg | hg
    · exact Nat.lt_succ_of_lt (hc.superseded_lt g hg)
    · exact Nat.lt_succ_of_le (Nat.le_of_eq (hc.active_newest g hg))
  · intro g hg
    rw [hsup, List.mem_append, Option.mem_toList] at hg
    have hout : g ∈ c.outstanding := (mem_outstanding_iff c g).2 hg.symm
    refine isCancelled_start (hc.outstanding_started hout) ?_ h p
    exact hg.imp (hc.superseded_cancelled g) id
  · intro g
    rw [hout, hc.owed, hc.awaits_start, hinbox]
    grind
  · intro g hg
    rw [hinbox] at hg
    rw [isAnswered_start]
    exact hc.inbox_answered g hg
  · rw [hinbox]
    exact hc.inbox_nodup

theorem isCancelled_start_iff (hc : c.Sound) (h : Host) (p : Provider)
    (g : Nat) :
    (c.start h p).isCancelled g = true ↔ c.isCancelled g = true ∨ c.active = some g := by
  have started : c.active = some g → g ∈ c.runs.map Run.generation := fun ha =>
    hc.outstanding_started ((mem_outstanding_iff c g).2 (.inl ha))
  refine ⟨fun hs => ?_, fun hs => ?_⟩
  · rw [isCancelled_eq, run?_start] at hs
    rw [isCancelled_eq]
    cases hr : c.run? g with
    | none => by_cases hg : c.clock + 1 = g <;> simp [hr, hg] at hs
    | some r =>
      have hg := generation_of_run? hr
      by_cases ha : c.active = some r.generation
      · exact .inr (hg ▸ ha)
      · exact .inl (by simpa [hr, ha] using hs)
  · have hg : g ∈ c.runs.map Run.generation := by
      rcases hs with hs | ha
      · exact started_of_isCancelled hs
      · exact started ha
    exact isCancelled_start hg hs h p

theorem awaits_answer {g : Nat} (ha : c.awaits g = true) (o : Outcome) (g' : Nat) :
    (c.answer g o).awaits g' = true ↔ c.awaits g' = true ∧ g' ≠ g := by
  rw [awaits_iff, awaits_iff, generations_answer, ← Bool.not_eq_true, ← Bool.not_eq_true,
    isAnswered_answer ha, not_or, and_assoc]

theorem answer (hc : c.Sound) (g : Nat) (o : Outcome) : (c.answer g o).Sound := by
  by_cases ha : c.awaits g = true
  · have hinbox : (c.answer g o).inbox.map Completion.generation
        = c.inbox.map Completion.generation ++ [g] := by
      rw [answer_of_awaits ha, List.map_append]
      rfl
    have hrest : (c.answer g o).clock = c.clock ∧ (c.answer g o).active = c.active ∧
        (c.answer g o).superseded = c.superseded ∧ (c.answer g o).asked = c.asked := by
      rw [answer_of_awaits ha]
      exact ⟨rfl, rfl, rfl, rfl⟩
    obtain ⟨hclock, hactive, hsup, hasked⟩ := hrest
    have hnew : g ∉ c.inbox.map Completion.generation := fun hm => by
      have h1 := hc.inbox_answered g hm
      rw [((awaits_iff c g).1 ha).2] at h1
      exact Bool.noConfusion h1
    refine ⟨?_, ?_, ?_, ?_, ?_, ?_, ?_, ?_, ?_⟩
    · rw [requests_answer, hc.asked_runs, hasked]
    · rw [generations_answer, hclock]
      exact hc.numbered
    · rw [hactive, hclock]
      exact hc.active_newest
    · rw [hsup]
      exact hc.superseded_sorted
    · rw [hsup, hclock]
      exact hc.superseded_lt
    · intro g' hg'
      rw [hsup] at hg'
      rw [isCancelled_answer]
      exact hc.superseded_cancelled g' hg'
    · intro g'
      have ho : g' ∈ (c.answer g o).outstanding ↔ g' ∈ c.outstanding := by
        rw [mem_outstanding_iff, mem_outstanding_iff, hactive, hsup]
      rw [ho, hc.owed, awaits_answer ha, hinbox, List.mem_append, List.mem_singleton]
      grind
    · intro g' hg'
      rw [hinbox, List.mem_append, List.mem_singleton] at hg'
      rw [isAnswered_answer ha]
      exact hg'.imp (hc.inbox_answered g') id
    · rw [hinbox]
      have hone : [g].Nodup := List.nodup_cons.2 ⟨List.not_mem_nil, .nil⟩
      refine List.nodup_append.2 ⟨hc.inbox_nodup, hone, fun a hm b hb he => hnew ?_⟩
      rw [← List.mem_singleton.1 hb, ← he]
      exact hm
  · rw [answer_of_not_awaits ha]
    exact hc

theorem poll (hc : c.Sound) (h : Host) : (c.poll h).1.Sound := by
  have hb := book_poll hc.active_not_superseded h
  have hclock : (c.poll h).1.clock = c.clock := congrArg Book.clock hb
  have hruns : (c.poll h).1.runs = c.runs := congrArg Book.runs hb
  have hinbox : (c.poll h).1.inbox = [] := congrArg Book.inbox hb
  have hactive : (c.poll h).1.active = if ∃ m ∈ c.inbox, c.Takes m then none else c.active :=
    congrArg Book.active hb
  have hsup : (c.poll h).1.superseded
      = c.superseded.filter fun g => g ∉ c.inbox.map Completion.generation :=
    congrArg Book.superseded hb
  have hrun : ∀ g, (c.poll h).1.run? g = c.run? g := fun g => by
    unfold run?
    rw [hruns]
  have hact : ∀ g, (c.poll h).1.active = some g ↔
      c.active = some g ∧ g ∉ c.inbox.map Completion.generation := by
    intro g
    have ht : (∃ m ∈ c.inbox, c.Takes m) ↔
        ∃ g', c.active = some g' ∧ g' ∈ c.inbox.map Completion.generation := by
      simp only [Takes, List.mem_map]
      grind
    rw [hactive]
    split <;> grind
  have hasked : (c.poll h).1.asked = c.asked := congrArg Book.asked hb
  refine ⟨?_, ?_, ?_, ?_, ?_, ?_, ?_, ?_, ?_⟩
  · rw [hruns, hasked]
    exact hc.asked_runs
  · rw [hruns, hclock]
    exact hc.numbered
  · intro g hg
    rw [hclock]
    exact hc.active_newest g ((hact g).1 hg).1
  · rw [hsup]
    exact hc.superseded_sorted.filter _
  · intro g hg
    rw [hsup] at hg
    rw [hclock]
    exact hc.superseded_lt g (List.mem_filter.1 hg).1
  · intro g hg
    rw [hsup] at hg
    rw [isCancelled_eq, hrun, ← isCancelled_eq]
    exact hc.superseded_cancelled g (List.mem_filter.1 hg).1
  · intro g
    have hg := hc.owed g
    have hn : g ∈ c.inbox.map Completion.generation → ¬ c.awaits g = true := fun hm ha => by
      have h1 := hc.inbox_answered g hm
      rw [((awaits_iff c g).1 ha).2] at h1
      exact Bool.noConfusion h1
    rw [mem_outstanding_iff] at hg
    rw [mem_outstanding_iff, hact, hsup, List.mem_filter, awaits_eq, hrun, ← awaits_eq, hinbox]
    simp only [decide_eq_true_eq, List.map_nil, List.not_mem_nil, or_false]
    constructor
    · rintro (⟨ht, hi⟩ | ⟨ht, hi⟩)
      · exact (hg.1 (.inl ht)).resolve_right hi
      · exact (hg.1 (.inr ht)).resolve_right hi
    · intro ha
      have hi : g ∉ c.inbox.map Completion.generation := fun hm => hn hm ha
      exact (hg.2 (.inl ha)).imp (⟨·, hi⟩) (⟨·, hi⟩)
  · rw [hinbox]
    exact fun g hg => nomatch hg
  · rw [hinbox]
    exact .nil

theorem active_poll_iff (hc : c.Sound) (h : Host) (g : Nat) :
    (c.poll h).1.active = some g ↔ c.active = some g ∧ c.awaits g = true := by
  have ha : (c.poll h).1.active = if ∃ m ∈ c.inbox, c.Takes m then none else c.active :=
    congrArg Book.active (book_poll hc.active_not_superseded h)
  have ht : (∃ m ∈ c.inbox, c.Takes m) ↔
      ∃ g', c.active = some g' ∧ g' ∈ c.inbox.map Completion.generation := by
    simp only [Takes, List.mem_map]
    grind
  have owed : c.active = some g →
      (c.awaits g = true ↔ g ∉ c.inbox.map Completion.generation) := fun hg => by
    have ho := (hc.owed g).1 ((mem_outstanding_iff c g).2 (.inl hg))
    refine ⟨fun hw hi => ?_, fun hi => ho.resolve_right hi⟩
    have hn := hc.inbox_answered g hi
    rw [((awaits_iff c g).1 hw).2] at hn
    exact Bool.noConfusion hn
  rw [ha]
  split
  · case isTrue hm =>
    obtain ⟨g', hg', hi⟩ := ht.1 hm
    refine ⟨fun hn => (nomatch hn), fun ⟨hg, hw⟩ => ?_⟩
    rw [hg, Option.some.injEq] at hg'
    exact absurd (hg' ▸ hi) ((owed hg).1 hw)
  · case isFalse hm =>
    exact ⟨fun hg => ⟨hg, (owed hg).2 fun hi => hm (ht.2 ⟨g, hg, hi⟩)⟩, And.left⟩

/-- what a call keeps of the book: no answer comes, tokens stay cancelled, and requests are only
added. -/
theorem call_frame (hc : c.Sound) (h : Host) (k : Call) :
    (c.call h k).Sound ∧ (∀ g, (c.call h k).isAnswered g = c.isAnswered g) ∧
      (∀ g, c.isCancelled g = true → (c.call h k).isCancelled g = true) ∧
      ∃ new, (c.call h k).asked = c.asked ++ new := by
  refine call_induction (f := fun _ _ => ([] : List Unit)) (l := [])
    (P := fun d _ => d.Sound ∧ (∀ g, d.isAnswered g = c.isAnswered g) ∧
      (∀ g, c.isCancelled g = true → d.isCancelled g = true) ∧ ∃ new, d.asked = c.asked ++ new)
    ?quiet ?start ?poll h k ⟨hc, fun _ => rfl, fun _ => id, [], (List.append_nil _).symm⟩
  case quiet =>
    rintro d d' - hb ⟨hd, hk, hg, new, ha⟩
    have hr : d'.runs = d.runs := congrArg Book.runs hb
    have ha' : d'.asked = d.asked := congrArg Book.asked hb
    refine ⟨hd.of_book hb, fun g => ?_, fun g h => ?_, new, ha'.trans ha⟩
    · rw [isAnswered_congr hr, hk]
    · rw [isCancelled_congr hr, hg g h]
  case start =>
    rintro d - h p ⟨hd, hk, hg, new, ha⟩
    have ha' : (d.start h p).asked = d.asked ++ [d.nextRequest h p] :=
      congrArg Book.asked (book_start d h p)
    refine ⟨hd.start h p, fun g => ?_, fun g hc => ?_, new ++ [d.nextRequest h p], ?_⟩
    · rw [isAnswered_start, hk]
    · exact (hd.isCancelled_start_iff h p g).2 (.inl (hg g hc))
    · rw [ha', ha, List.append_assoc]
  case poll =>
    rintro d - h ⟨hd, hk, hg, new, ha⟩
    have hb := book_poll hd.active_not_superseded h
    have hr : (d.poll h).1.runs = d.runs := congrArg Book.runs hb
    have ha' : (d.poll h).1.asked = d.asked := congrArg Book.asked hb
    refine ⟨hd.poll h, fun g => ?_, fun g h => ?_, new, ha'.trans ha⟩
    · rw [isAnswered_congr hr, hk]
    · rw [isCancelled_congr hr, hg g h]

theorem step (hc : c.Sound) (e : Event) : (c.step e).Sound :=
  step_induction (f := fun _ _ => ([] : List Unit)) (P := fun c _ => c.Sound) (l := [])
    (fun _ _ _ hb hc => hc.of_book hb) (fun _ _ h p hc => hc.start h p)
    (fun _ _ g o hc => hc.answer g o) (fun _ _ h hc => hc.poll h) e hc

end Sound

/-! ## which runs are tracked -/

def drained (c : Compiler) (_ : Host) : List Nat := c.inbox.map Completion.generation

/-- the book is in order, and the runs drained so far are those answered and no longer in the
inbox. -/
def SoundWith (c : Compiler) (l : List Nat) : Prop :=
  c.Sound ∧ ∀ g, g ∈ l ↔ c.isAnswered g = true ∧ g ∉ c.inbox.map Completion.generation

theorem SoundWith.after {c : Compiler} {l : List Nat} (hc : c.SoundWith l) (es : List Event) :
    (c.after es).SoundWith (l ++ c.log drained es) := by
  refine log_induction ?quiet ?start ?answer ?poll es hc
  case quiet =>
    rintro c c' l hb ⟨hs, hl⟩
    have hruns : c'.runs = c.runs := congrArg Book.runs hb
    have hinbox : c'.inbox = c.inbox := congrArg Book.inbox hb
    refine ⟨hs.of_book hb, fun g => ?_⟩
    rw [hl, isAnswered_congr hruns, hinbox]
  case start =>
    rintro c l h p ⟨hs, hl⟩
    have hinbox : (c.start h p).inbox = c.inbox := congrArg Book.inbox (book_start c h p)
    refine ⟨hs.start h p, fun g => ?_⟩
    rw [hl, isAnswered_start, hinbox]
  case answer =>
    rintro c l g o ⟨hs, hl⟩
    refine ⟨hs.answer g o, fun g' => ?_⟩
    by_cases ha : c.awaits g = true
    · have hn := ((awaits_iff c g).1 ha).2
      rw [hl, isAnswered_answer ha, answer_of_awaits ha, List.map_append, List.mem_append]
      simp only [List.map_cons, List.map_nil, List.mem_singleton]
      grind
    · rw [answer_of_not_awaits ha]
      exact hl g'
  case poll =>
    rintro c l h ⟨hs, hl⟩
    have hb := book_poll hs.active_not_superseded h
    have hruns : (c.poll h).1.runs = c.runs := congrArg Book.runs hb
    have hinbox : (c.poll h).1.inbox = [] := congrArg Book.inbox hb
    refine ⟨hs.poll h, fun g => ?_⟩
    have hd := hs.inbox_answered g
    rw [List.mem_append, hl, isAnswered_congr hruns, hinbox]
    by_cases hm : g ∈ c.inbox.map Completion.generation
    · simp [drained, hm, hd hm]
    · simp [drained, hm]

theorem SoundWith.tracked_iff {c : Compiler} {l : List Nat} (hc : c.SoundWith l) (g : Nat) :
    g ∈ c.outstanding ↔ g ∈ c.asked.map Request.generation ∧ g ∉ l := by
  obtain ⟨hs, hl⟩ := hc
  have hd := hs.inbox_answered g
  rw [hs.generations_asked, hs.owed, hl, awaits_iff]
  constructor
  · rintro (⟨hg, ha⟩ | hg)
    · exact ⟨hg, fun h => by simp [ha] at h⟩
    · exact ⟨started_of_isAnswered (hd hg), fun h => h.2 hg⟩
  · rintro ⟨hg, hn⟩
    cases ha : c.isAnswered g with
    | false => exact .inl ⟨hg, rfl⟩
    | true => exact .inr (Decidable.not_not.1 fun hi => hn ⟨ha, hi⟩)

theorem Sound.newest_of_not_cancelled {c : Compiler} (hc : c.Sound) {g : Nat}
    (hg : g ∈ c.outstanding) (hn : c.isCancelled g = false) : g = c.clock := by
  rcases (mem_outstanding_iff c g).1 hg with ha | hs
  · exact hc.active_newest g ha
  · rw [hc.superseded_cancelled g hs] at hn
    exact Bool.noConfusion hn

end Compiler

namespace Setup

theorem soundWith_after (s : Setup) (es : List Event) :
    (s.after es).SoundWith (s.compiler.log Compiler.drained es) := by
  have h0 : s.compiler.SoundWith [] := by
    refine ⟨Compiler.Sound.create .., fun g => ?_⟩
    simp [compiler, Compiler.create, Compiler.isAnswered, Compiler.run?]
  exact h0.after es

/-- a run was started, and no poll has drained its answer. -/
def Undrained (s : Setup) (es : List Event) (g : Nat) : Prop :=
  g ∈ (s.after es).asked.map Request.generation ∧ g ∉ s.compiler.log Compiler.drained es

/-- **The tracked runs are those started and not drained**, each tracked once. The active one is
the newest; the superseded ones are older, stand in the order of their generations and are
cancelled. So of all undrained runs only the newest may have a token that is not cancelled. -/
theorem tracks_undrained_runs (s : Setup) (es : List Event) :
    let c := s.after es
    c.outstanding.Nodup ∧
    (∀ g, g ∈ c.outstanding ↔ s.Undrained es g) ∧
    (∀ g, c.active = some g → g = c.clock) ∧
    c.superseded.Pairwise (· < ·) ∧
    (∀ g ∈ c.superseded, g < c.clock ∧ c.isCancelled g = true) ∧
    (∀ g, s.Undrained es g → c.isCancelled g = false → g = c.clock) := by
  have hw := s.soundWith_after es
  have hc := hw.1
  refine ⟨hc.outstanding_nodup, hw.tracked_iff, hc.active_newest, hc.superseded_sorted, ?_, ?_⟩
  · exact fun g hg => ⟨hc.superseded_lt g hg, hc.superseded_cancelled g hg⟩
  · exact fun g hu hn => hc.newest_of_not_cancelled ((hw.tracked_iff g).2 hu) hn

end Setup
end Regen
