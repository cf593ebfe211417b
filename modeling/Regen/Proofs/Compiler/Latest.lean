import Regen.Proofs.Compiler.Bookkeeping

/-!
# The latest request wins

Whatever the order in which runs are answered, a poll takes an answer if and only if it is that of
the newest run, and drops every other one. So the generations taken over a life go up, and once
every run was answered and the inbox is empty, the newest run has been taken and no run is active.

* `Compiler.takes_iff`            which answers of an inbox are taken;
* `Compiler.HandsOn`              what a poll makes of the answers that it finds;
* `Compiler.taken_eq`             what a poll takes: the newest run, or nothing;
* `Setup.latest_request_wins`     the statement over a whole life.
-/

namespace Regen
namespace Compiler

section
variable {c : Compiler}

theorem takes_iff (hc : c.Sound) {m : Completion} (hm : m ∈ c.inbox) :
    c.Takes m ↔ m.generation = c.clock := by
  constructor
  · exact hc.active_newest m.generation
  · intro hg
    have hi : m.generation ∈ c.inbox.map Completion.generation := List.mem_map_of_mem hm
    rcases (mem_outstanding_iff c m.generation).1 ((hc.owed _).2 (.inr hi)) with ha | hs
    · exact ha
    · have := hc.superseded_lt m.generation hs
      omega

theorem Sound.generation_ne (hc : c.Sound) {before after : List Completion} {m : Completion}
    (hi : c.inbox = before ++ m :: after) :
    (∀ b ∈ before, b.generation ≠ m.generation) ∧ ∀ a ∈ after, a.generation ≠ m.generation := by
  have hd := hc.inbox_nodup
  rw [hi, List.map_append, List.map_cons, List.nodup_append] at hd
  obtain ⟨-, hlater, hapart⟩ := hd
  constructor
  · intro b hb
    exact hapart b.generation (List.mem_map_of_mem hb) m.generation List.mem_cons_self
  · intro a ha he
    exact (List.nodup_cons.1 hlater).1 (he ▸ List.mem_map_of_mem ha)

/-- **A poll takes exactly the answer of the newest run**, whenever it meets it. -/
theorem takes_iff_of_met (hc : c.Sound) (h : Host) :
    ∀ x ∈ c.met h, x.1.Takes x.2 ↔ x.2.generation = c.clock := by
  have old : ∀ m ∈ c.inbox, ¬ c.Takes m → m.generation ≠ c.clock := fun m hm hn hg =>
    hn ((takes_iff hc hm).2 hg)
  intro x hx
  rcases takes_cases c.emptied c.inbox with hn | ⟨before, m, after, hi, hb, hm⟩
  · have hxi : x.2 ∈ c.inbox := mem_of_mem_meetings hx
    exact iff_of_false (not_takes_of_mem_meetings hn x hx) (old x.2 hxi (hn x.2 hxi))
  · have hmem : m ∈ c.inbox := hi ▸ List.mem_append_right before List.mem_cons_self
    have hg : m.generation = c.clock := (takes_iff hc hmem).1 hm
    rw [met, hi, meetings_of_takes h.wall hb hm, List.mem_append, List.mem_cons] at hx
    rcases hx with hx | rfl | hx
    · have hxb := mem_of_mem_meetings hx
      have hxi : x.2 ∈ c.inbox := hi ▸ List.mem_append_left _ hxb
      exact iff_of_false (not_takes_of_mem_meetings hb x hx) (old x.2 hxi (hb x.2 hxb))
    · exact iff_of_true hm hg
    · have hxa := mem_of_mem_meetings hx
      have hnt : ∀ a ∈ after, ¬ ((c.emptied.withdraw before).idle.adopt h.wall m.outcome).Takes a :=
        fun a _ => not_takes_adopt h.wall _ _ a
      refine iff_of_false (not_takes_of_mem_meetings hnt x hx) fun he => ?_
      exact (hc.generation_ne hi).2 x.2 hxa (he.trans hg.symm)

/-- what a poll makes of the answers that it finds: the newest run's is taken over, and every other
one is dropped. -/
structure HandsOn (c : Compiler) (h : Host) : Prop where
  newest : ∀ x ∈ c.met h, x.2.generation = c.clock →
    x.1.handle h.wall x.2 = { x.1 with active := none }.adopt h.wall x.2.outcome
  older : ∀ x ∈ c.met h, x.2.generation ≠ c.clock → x.1.handle h.wall x.2 = x.1.withdraw [x.2]
  poll_eq : ∀ before m after, c.inbox = before ++ m :: after → m.generation = c.clock →
    (c.poll h).1 = ({ c.emptied.withdraw before with active := none }.adopt h.wall
      m.outcome).withdraw after
  poll_older : (∀ m ∈ c.inbox, m.generation ≠ c.clock) →
    (c.poll h).1 = c.emptied.withdraw c.inbox
  brings : ∀ m ∈ c.inbox, m.generation = c.clock → ∀ out, m.outcome = .ok out →
    (c.poll h).1.issues = out.issues ∧
      (c.poll h).1.store = c.store.setAll out.contents.entries

theorem adopt_ok (c : Compiler) (wall : Time) (out : Output) :
    (c.adopt wall (.ok out)).issues = out.issues ∧
      (c.adopt wall (.ok out)).store = c.store.setAll out.contents.entries := by
  have hset := c.setIssues_eq out.issues
  unfold adopt
  dsimp only
  rw [hset]
  by_cases he : out.contents.entries = []
  · simp only [he, if_true]
    exact ⟨rfl, rfl⟩
  · simp only [he, if_false]
    exact ⟨rfl, rfl⟩

theorem Sound.poll_eq (hc : c.Sound) (h : Host) {before after : List Completion} {m : Completion}
    (hi : c.inbox = before ++ m :: after) (hg : m.generation = c.clock) :
    (c.poll h).1 = ((c.emptied.withdraw before).idle.adopt h.wall m.outcome).withdraw after := by
  have hmem : m ∈ c.inbox := hi ▸ List.mem_append_right before List.mem_cons_self
  have hm : c.emptied.Takes m := (takes_iff hc hmem).2 hg
  have hb : ∀ b ∈ before, ¬ c.emptied.Takes b := by
    intro b hb ht
    have hbi : b ∈ c.inbox := hi ▸ List.mem_append_left _ hb
    have hbg : b.generation = c.clock := (takes_iff hc hbi).1 ht
    exact (hc.generation_ne hi).1 b hb (hbg.trans hg.symm)
  rw [poll_fst, hi, handleAll_of_takes h.wall hb hm]

theorem Sound.poll_older (hc : c.Sound) (h : Host)
    (hi : ∀ m ∈ c.inbox, m.generation ≠ c.clock) : (c.poll h).1 = c.emptied.withdraw c.inbox := by
  have hn : ∀ m ∈ c.inbox, ¬ c.emptied.Takes m := fun m hm ht => hi m hm ((takes_iff hc hm).1 ht)
  rw [poll_fst, handleAll_of_not_takes h.wall hn]

/-- **A poll hands on the answer of the newest run, and drops the others.** -/
theorem Sound.handsOn (hc : c.Sound) (h : Host) : c.HandsOn h where
  newest x hx hg := handle_of_takes h.wall ((takes_iff_of_met hc h x hx).2 hg)
  older x hx hg := handle_of_not_takes h.wall fun ht => hg ((takes_iff_of_met hc h x hx).1 ht)
  poll_eq before m after hi hg := hc.poll_eq h hi hg
  poll_older hi := hc.poll_older h hi
  brings m hm hg out ho := by
    obtain ⟨before, after, hi⟩ := List.append_of_mem hm
    rw [hc.poll_eq h hi hg, ho]
    exact adopt_ok (c.emptied.withdraw before).idle h.wall out

theorem taken_eq (hc : c.Sound) (h : Host) :
    c.taken h = if ∃ m ∈ c.inbox, c.Takes m then [c.clock] else [] := by
  have none_taken : ∀ (d : Compiler) (ms : List Completion), (∀ m ∈ ms, ¬ d.Takes m) →
      (d.meetings h.wall ms).filter (fun x => x.1.Takes x.2) = [] := fun d ms hn =>
    List.filter_eq_nil_iff.2 fun x hx => by simpa using not_takes_of_mem_meetings hn x hx
  unfold taken met
  rcases takes_cases c.emptied c.inbox with hn | ⟨before, m, after, hi, hb, hm⟩
  · rw [none_taken _ _ hn, if_neg fun ⟨m, hmem, hm⟩ => hn m hmem hm]
    rfl
  · have hmem : m ∈ c.inbox := hi ▸ List.mem_append_right before List.mem_cons_self
    have hg : m.generation = c.clock := (takes_iff hc hmem).1 hm
    have ht : (c.emptied.withdraw before).Takes m := hm
    rw [if_pos ⟨m, hmem, hm⟩, hi, meetings_of_takes h.wall hb hm, List.filter_append,
      none_taken _ _ hb, List.filter_cons_of_pos (by simpa using ht),
      none_taken _ _ fun a _ => not_takes_adopt h.wall _ _ a, ← hg]
    rfl

/-- the book is in order; the generations taken so far go up to the newest, which is among them
unless it is active. -/
structure SoundTaking (c : Compiler) (l : List Nat) : Prop where
  sound : c.Sound
  sorted : l.Pairwise (· < ·)
  le_clock : ∀ g ∈ l, g ≤ c.clock
  newest_iff : 0 < c.clock → (c.clock ∈ l ↔ c.active = none)

theorem SoundTaking.poll {l : List Nat} (hc : c.SoundTaking l) (h : Host) :
    (c.poll h).1.SoundTaking (l ++ c.taken h) := by
  have hb := book_poll hc.sound.active_not_superseded h
  have hclock : (c.poll h).1.clock = c.clock := congrArg Book.clock hb
  have hactive : (c.poll h).1.active = if ∃ m ∈ c.inbox, c.Takes m then none else c.active :=
    congrArg Book.active hb
  by_cases ht : ∃ m ∈ c.inbox, c.Takes m
  · rw [if_pos ht] at hactive
    rw [taken_eq hc.sound h, if_pos ht]
    obtain ⟨m, hm, ha⟩ := ht
    have hg := (takes_iff hc.sound hm).1 ha
    have hpos : 0 < c.clock := by
      have hs := started_of_isAnswered (hc.sound.inbox_answered _ (List.mem_map_of_mem hm))
      have := (hc.sound.mem_generations_iff _).1 hs
      omega
    have hnew : c.clock ∉ l := fun hl => by
      have hn := (hc.newest_iff hpos).1 hl
      rw [Takes, hn] at ha
      simp at ha
    refine ⟨hc.sound.poll h, ?_, ?_, fun _ => ?_⟩
    · refine List.pairwise_append.2 ⟨hc.sorted, List.pairwise_singleton _ _, fun g hgl g' hg' => ?_⟩
      rw [List.mem_singleton.1 hg']
      exact Nat.lt_of_le_of_ne (hc.le_clock g hgl) fun he => hnew (he ▸ hgl)
    · intro g hgl
      rw [hclock]
      rcases List.mem_append.1 hgl with hgl | hgl
      · exact hc.le_clock g hgl
      · exact Nat.le_of_eq (List.mem_singleton.1 hgl)
    · rw [hclock, hactive]
      exact iff_of_true (List.mem_append_right l (List.mem_singleton.2 rfl)) rfl
  · rw [if_neg ht] at hactive
    rw [taken_eq hc.sound h, if_neg ht, List.append_nil]
    refine ⟨hc.sound.poll h, hc.sorted, ?_, ?_⟩
    · rw [hclock]
      exact hc.le_clock
    · rw [hclock, hactive]
      exact hc.newest_iff

theorem SoundTaking.start {l : List Nat} (hc : c.SoundTaking l) (h : Host) (p : Provider) :
    (c.start h p).SoundTaking l := by
  have hb := book_start c h p
  have hclock : (c.start h p).clock = c.clock + 1 := congrArg Book.clock hb
  have hactive : (c.start h p).active = some (c.clock + 1) := congrArg Book.active hb
  refine ⟨hc.sound.start h p, hc.sorted, fun g hg => ?_, fun _ => ?_⟩
  · rw [hclock]
    exact Nat.le_succ_of_le (hc.le_clock g hg)
  · rw [hclock, hactive]
    refine iff_of_false (fun hg => ?_) (by simp)
    have := hc.le_clock _ hg
    omega

theorem SoundTaking.after {l : List Nat} (hc : c.SoundTaking l) (es : List Event) :
    (c.after es).SoundTaking (l ++ c.log taken es) := by
  refine log_induction ?quiet ?start ?answer ?poll es hc
  case start => exact fun c l h p hc => hc.start h p
  case poll => exact fun c l h hc => hc.poll h
  case quiet =>
    intro c c' l hb hc
    have hclock : c'.clock = c.clock := congrArg Book.clock hb
    have hactive : c'.active = c.active := congrArg Book.active hb
    refine ⟨hc.sound.of_book hb, hc.sorted, ?_, ?_⟩
    · rw [hclock]
      exact hc.le_clock
    · rw [hclock, hactive]
      exact hc.newest_iff
  case answer =>
    intro c l g o hc
    have hsame : (c.answer g o).clock = c.clock ∧ (c.answer g o).active = c.active := by
      unfold answer
      split
      · exact ⟨rfl, rfl⟩
      · exact ⟨rfl, rfl⟩
    refine ⟨hc.sound.answer g o, hc.sorted, ?_, ?_⟩
    · rw [hsame.1]
      exact hc.le_clock
    · rw [hsame.1, hsame.2]
      exact hc.newest_iff

theorem Sound.newest_asked (hc : c.Sound) {r : Request} (h : c.asked.getLast? = some r) :
    r.generation = c.clock ∧ 0 < c.clock := by
  have hl := congrArg List.getLast? hc.asked_numbered
  rw [List.getLast?_map, h, List.getLast?_range'] at hl
  by_cases hz : c.clock = 0
  · simp [hz] at hl
  · simp [hz] at hl
    omega

theorem Sound.idle_of_answered (hc : c.Sound) (ha : ∀ r ∈ c.runs, r.answered = true)
    (hi : c.inbox = []) : c.active = none := by
  cases hg : c.active with
  | none => rfl
  | some g =>
    rcases (hc.owed g).1 ((mem_outstanding_iff c g).2 (.inl hg)) with h | h
    · rw [awaits_eq, Option.any_eq_true] at h
      obtain ⟨r, hr, hn⟩ := h
      simp [ha r (List.mem_of_find?_eq_some hr)] at hn
    · simp [hi] at h

end
end Compiler

namespace Setup

open Compiler

theorem soundTaking_after (s : Setup) (es : List Event) :
    (s.after es).SoundTaking (s.compiler.log taken es) := by
  have h0 : s.compiler.SoundTaking [] :=
    ⟨Sound.create .., .nil, fun _ hg => absurd hg List.not_mem_nil,
      fun h => absurd h (Nat.lt_irrefl 0)⟩
  exact h0.after es

/-- **The latest request wins and is never lost.** An answer that a poll drains is taken if and
only if it is that of the newest run at that poll: then it is handed to `adopt`, and otherwise it is
withdrawn. A poll takes at most one; the generations taken over a life go up, so none is taken
twice. Once every run was answered and the inbox is empty, no run is active, and the run asked for
last has been taken, once. -/
theorem latest_request_wins (s : Setup) (es : List Event) :
    let c := s.after es
    (∀ h, c.HandsOn h) ∧
    (∀ e, ∀ x ∈ c.entries met e, x.1.Takes x.2 ↔ x.2.generation = c.clock) ∧
    (∀ e, (c.entries taken e).length ≤ 1) ∧
    (s.compiler.log taken es).Pairwise (· < ·) ∧
    ((∀ r ∈ c.runs, r.answered = true) → c.inbox = [] →
      c.isRunning = false ∧
      ∀ r, c.asked.getLast? = some r → (s.compiler.log taken es).count r.generation = 1) := by
  have hw := s.soundTaking_after es
  have hc := hw.sound
  refine ⟨hc.handsOn, ?_, ?_, hw.sorted, ?_⟩
  · intro e x hx
    rcases entries_cases met (s.after es) e with ⟨h, he⟩ | he
    · rw [he] at hx
      exact takes_iff_of_met hc h x hx
    · rw [he] at hx
      exact absurd hx List.not_mem_nil
  · intro e
    rcases entries_cases taken (s.after es) e with ⟨h, he⟩ | he
    · rw [he, taken_eq hc h]
      split
      · exact Nat.le_refl 1
      · exact Nat.zero_le 1
    · rw [he]
      exact Nat.zero_le 1
  · intro ha hi
    have hn := hc.idle_of_answered ha hi
    refine ⟨by rw [isRunning, hn]; rfl, fun r hr => ?_⟩
    obtain ⟨hg, hpos⟩ := hc.newest_asked hr
    have hmem := (hw.newest_iff hpos).2 hn
    have hd : (s.compiler.log taken es).Nodup := hw.sorted.imp fun h => Nat.ne_of_lt h
    rw [hg, hd.count, if_pos hmem]

/-- two runs, of which the first is answered last: its issues are not those that are left. -/
theorem latest_request_wins_reversed :
    let blank : Disk := ⟨fun _ => none, fun _ => .error (.code 2)⟩
    let host : Host := ⟨blank, fun _ => ⟨0, false, .unconfigured⟩, fun _ => [], .empty, 7⟩
    let s : Setup := ⟨0, ⟨0, 0⟩, ⟨1000, 200, 1, 30000⟩, ⟨[115]⟩, [⟨[97]⟩], .manual, blank⟩
    let found (text : String) : Output := ⟨.ofList [(⟨[97]⟩, [1])], [⟨3, .error, text⟩]⟩
    let es : List Event := [.call host (.runContents [1]), .call host (.runContents [2]),
      .answer 2 (.ok (found "second")), .answer 1 (.ok (found "first"))]
    ((s.after es).poll host).1.issues = [⟨3, .error, "second"⟩] ∧
      (s.after (es ++ [.call host .poll])).isRunning = false ∧
      (s.compiler.log taken (es ++ [.call host .poll])).count 2 = 1 := by
  intro blank host s found es
  obtain ⟨hands, -⟩ := latest_request_wins s es
  obtain ⟨hi, -⟩ := (hands host).brings ⟨2, .ok (found "second")⟩ List.mem_cons_self rfl _ rfl
  obtain ⟨-, -, -, -, h⟩ := latest_request_wins s (es ++ [.call host .poll])
  obtain ⟨hr, hl⟩ := h (by decide) rfl
  exact ⟨hi, hr, hl ⟨2, ⟨[115]⟩, .bytes [2], .empty⟩ rfl⟩

end Setup
end Regen
