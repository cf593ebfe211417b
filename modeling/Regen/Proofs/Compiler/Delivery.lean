import Regen.Proofs.Compiler.Bookkeeping

/-!
# Every run is answered once

A runner may keep a request as long as it likes. In the end it answers the run or drops it, and
meanwhile anybody may cancel its token, any number of times. A reply that has been used sends
nothing more; so whatever reaches a compiler is the first answer of some run.

* `Incident`               an event, or a token that is cancelled;
* `Compiler.through`       a list of incidents, one after the other;
* `Compiler.sent`          the completions that replies have sent;
* `Compiler.received`      those that have reached the compiler, handled or not.

Main statements: `Sound.received_eq` (nothing is lost between the two and nothing added),
`Sound.nodup_sent` and `Sound.isAnswered_through_iff`: no two of them are of one run, and the latch
of a run is released if and only if its completion is among them.
-/

namespace Regen

inductive Incident where
  | event (e : Event)
  | cancel (generation : Nat)

/-- the completion that a runner means to send when it answers a run, or drops it. -/
def Incident.completion? : Incident → Option Completion
  | .event (.answer g o) => some ⟨g, o⟩
  | .event (.drop g) => some ⟨g, .error .cancelled⟩
  | .event (.call _ _) => none
  | .cancel _ => none

namespace Compiler

def meet (c : Compiler) : Incident → Compiler
  | .event e => c.step e
  | .cancel g => c.cancel g

def through : Compiler → List Incident → Compiler
  | c, [] => c
  | c, i :: is => (c.meet i).through is

/-- the completion that an incident sends: nothing comes of a reply that has been used. -/
def sends (c : Compiler) (i : Incident) : List Completion :=
  i.completion?.toList.filter fun m => c.awaits m.generation

def sent : Compiler → List Incident → List Completion
  | _, [] => []
  | c, i :: is => c.sends i ++ (c.meet i).sent is

/-- the completions that a poll takes out of the inbox during an incident. -/
def drains (c : Compiler) : Incident → List Completion
  | .event e => c.entries (fun d _ => d.inbox) e
  | .cancel _ => []

/-- the completions that polls have taken out of the inbox. -/
def handled : Compiler → List Incident → List Completion
  | _, [] => []
  | c, i :: is => c.drains i ++ (c.meet i).handled is

/-- the completions that have reached the compiler: those handled, and those that still wait. -/
def received (c : Compiler) (is : List Incident) : List Completion :=
  c.handled is ++ (c.through is).inbox

theorem through_append (c : Compiler) (is js : List Incident) :
    c.through (is ++ js) = (c.through is).through js := by
  induction is generalizing c with
  | nil => rfl
  | cons i is ih => exact ih (c.meet i)

theorem sent_cons (c : Compiler) (i : Incident) (is : List Incident) :
    c.sent (i :: is) = c.sends i ++ (c.meet i).sent is := rfl

theorem sent_append (c : Compiler) (is js : List Incident) :
    c.sent (is ++ js) = c.sent is ++ (c.through is).sent js := by
  induction is generalizing c with
  | nil => rfl
  | cons i is ih =>
    rw [List.cons_append, sent_cons, sent_cons, ih, List.append_assoc]
    rfl

/-! ## a token is cancelled -/

theorem run?_cancel (c : Compiler) (g g' : Nat) : (c.cancel g).run? g'
    = (c.run? g').map fun r => if r.generation = g then { r with cancelled := true } else r := by
  unfold run? cancel
  apply find?_map_generation
  intro r
  split <;> rfl

theorem isAnswered_cancel (c : Compiler) (g g' : Nat) :
    (c.cancel g).isAnswered g' = c.isAnswered g' := by
  rw [isAnswered_eq, isAnswered_eq, run?_cancel, Option.any_map]
  congr 1
  funext r
  show Run.answered (if _ then _ else _) = _
  split <;> rfl

theorem isCancelled_cancel_iff (c : Compiler) (g g' : Nat) : (c.cancel g).isCancelled g' = true ↔
    c.isCancelled g' = true ∨ g' = g ∧ g ∈ c.runs.map Run.generation := by
  rw [isCancelled_eq, isCancelled_eq, run?_cancel, ← isSome_run?_iff]
  cases hr : c.run? g' with
  | none => grind
  | some r =>
    have hg := generation_of_run? hr
    by_cases he : g' = g
    · rw [← he, hr]
      simp [hg]
    · simp [hg, he]

theorem requests_cancel (c : Compiler) (g : Nat) :
    (c.cancel g).runs.map Run.request = c.runs.map Run.request := by
  unfold cancel
  rw [List.map_map]
  congr 1
  funext r
  show Run.request (if _ then _ else _) = _
  split <;> rfl

theorem generations_cancel (c : Compiler) (g : Nat) :
    (c.cancel g).runs.map Run.generation = c.runs.map Run.generation := by
  rw [generations_eq, generations_eq, requests_cancel]

theorem awaits_cancel (c : Compiler) (g g' : Nat) : (c.cancel g).awaits g' = c.awaits g' := by
  rw [Bool.eq_iff_iff, awaits_iff, awaits_iff, generations_cancel, isAnswered_cancel]

/-! ## what an incident sends -/

theorem mem_sends_iff (c : Compiler) (i : Incident) (m : Completion) :
    m ∈ c.sends i ↔ i.completion? = some m ∧ c.awaits m.generation = true := by
  unfold sends
  rw [List.mem_filter, Option.mem_toList]

theorem sends_cases (c : Compiler) (i : Incident) :
    c.sends i = [] ∨ ∃ m, c.sends i = [m] ∧ i.completion? = some m ∧
      c.awaits m.generation = true := by
  unfold sends
  cases hi : i.completion? with
  | none => exact .inl rfl
  | some m =>
    by_cases ha : c.awaits m.generation = true
    · exact .inr ⟨m, by simp [ha], rfl, ha⟩
    · exact .inl (by simp [ha])

theorem meet_cases (c : Compiler) (i : Incident) :
    (∃ h k, i = .event (.call h k)) ∨ (∃ g, i = .cancel g) ∨
      ∃ m, i.completion? = some m ∧ c.meet i = c.answer m.generation m.outcome := by
  rcases i with e | g
  · cases e with
    | call h k => exact .inl ⟨h, k, rfl⟩
    | answer g o => exact .inr (.inr ⟨⟨g, o⟩, rfl, rfl⟩)
    | drop g => exact .inr (.inr ⟨⟨g, .error .cancelled⟩, rfl, rfl⟩)
  · exact .inr (.inl ⟨g, rfl⟩)

theorem drains_call {c : Compiler} (hc : c.Sound) (h : Host) (k : Call) :
    c.drains (.event (.call h k)) ++ (c.call h k).inbox = c.inbox := by
  refine (call_induction (f := fun d _ => d.inbox) (l := [])
    (P := fun d l => d.Sound ∧ l ++ d.inbox = c.inbox) ?quiet ?start ?poll h k ⟨hc, rfl⟩).2
  case quiet =>
    rintro d d' l hb ⟨hd, hl⟩
    have hi : d'.inbox = d.inbox := congrArg Book.inbox hb
    exact ⟨hd.of_book hb, by rw [hi, hl]⟩
  case start =>
    rintro d l h p ⟨hd, hl⟩
    have hi : (d.start h p).inbox = d.inbox := congrArg Book.inbox (book_start d h p)
    exact ⟨hd.start h p, by rw [hi, hl]⟩
  case poll =>
    rintro d l h ⟨hd, hl⟩
    have hi : (d.poll h).1.inbox = [] := congrArg Book.inbox (book_poll hd.active_not_superseded h)
    exact ⟨hd.poll h, by rw [hi, List.append_nil, hl]⟩

/-! ## every incident keeps the book in order -/

namespace Sound

variable {c : Compiler}

theorem cancel (hc : c.Sound) (g : Nat) : (c.cancel g).Sound where
  asked_runs := (requests_cancel c g).trans hc.asked_runs
  numbered := (generations_cancel c g).trans hc.numbered
  active_newest := hc.active_newest
  superseded_sorted := hc.superseded_sorted
  superseded_lt := hc.superseded_lt
  superseded_cancelled g' hg' :=
    (isCancelled_cancel_iff c g g').2 (.inl (hc.superseded_cancelled g' hg'))
  owed g' := by
    rw [awaits_cancel]
    exact hc.owed g'
  inbox_answered g' hg' := by
    rw [isAnswered_cancel]
    exact hc.inbox_answered g' hg'
  inbox_nodup := hc.inbox_nodup

theorem meet (hc : c.Sound) (i : Incident) : (c.meet i).Sound := by
  cases i with
  | event e => exact hc.step e
  | cancel g => exact hc.cancel g

theorem through (hc : c.Sound) (is : List Incident) : (c.through is).Sound := by
  induction is generalizing c with
  | nil => exact hc
  | cons i is ih => exact ih (hc.meet i)

/-- **Nothing is lost on its way and nothing added**: what an incident sends is in the inbox
after it, behind what was there and has not been taken out. -/
theorem drains_append_inbox (hc : c.Sound) (i : Incident) :
    c.drains i ++ (c.meet i).inbox = c.inbox ++ c.sends i := by
  rcases meet_cases c i with ⟨h, k, rfl⟩ | ⟨g, rfl⟩ | ⟨m, hm, he⟩
  · exact (drains_call hc h k).trans (List.append_nil _).symm
  · exact (List.append_nil _).symm
  · have hd : c.drains i = [] := by
      rcases i with (⟨h, k⟩ | ⟨g, o⟩ | g) | g
      · exact nomatch hm
      · rfl
      · rfl
      · rfl
    rw [hd, he, List.nil_append]
    unfold sends
    rw [hm]
    by_cases ha : c.awaits m.generation = true
    · rw [answer_of_awaits ha]
      simp [ha]
    · rw [answer_of_not_awaits ha]
      simp [ha]

theorem received_eq (hc : c.Sound) (is : List Incident) :
    c.received is = c.inbox ++ c.sent is := by
  induction is generalizing c with
  | nil => exact (List.append_nil _).symm
  | cons i is ih =>
    calc c.drains i ++ (c.meet i).handled is ++ ((c.meet i).through is).inbox
        = c.drains i ++ (c.meet i).received is := List.append_assoc ..
      _ = c.drains i ++ (c.meet i).inbox ++ (c.meet i).sent is := by
          rw [ih (hc.meet i), List.append_assoc]
      _ = c.inbox ++ (c.sends i ++ (c.meet i).sent is) := by
          rw [hc.drains_append_inbox i, List.append_assoc]

/-! ### which runs have been answered -/

theorem isAnswered_meet_iff (hc : c.Sound) (i : Incident) (g : Nat) :
    (c.meet i).isAnswered g = true ↔
      c.isAnswered g = true ∨ g ∈ (c.sends i).map Completion.generation := by
  have nothing : c.sends i = [] → (g ∈ (c.sends i).map Completion.generation ↔ False) :=
    fun h => by simp [h]
  rcases meet_cases c i with ⟨h, k, rfl⟩ | ⟨g', rfl⟩ | ⟨m, hm, he⟩
  · rw [nothing rfl, or_false]
    show (c.call h k).isAnswered g = true ↔ _
    rw [(hc.call_frame h k).2.1 g]
  · rw [nothing rfl, or_false]
    show (c.cancel g').isAnswered g = true ↔ _
    rw [isAnswered_cancel]
  · rw [he]
    by_cases ha : c.awaits m.generation = true
    · have hs : c.sends i = [m] := by simp [sends, hm, ha]
      rw [isAnswered_answer ha, hs, List.map_singleton, List.mem_singleton]
    · have hs : c.sends i = [] := by simp [sends, hm, ha]
      rw [nothing hs, or_false, answer_of_not_awaits ha]

theorem isAnswered_through_iff (hc : c.Sound) (is : List Incident) (g : Nat) :
    (c.through is).isAnswered g = true ↔
      c.isAnswered g = true ∨ g ∈ (c.sent is).map Completion.generation := by
  induction is generalizing c with
  | nil => simp [Compiler.through, sent]
  | cons i is ih =>
    show ((c.meet i).through is).isAnswered g = true ↔
      _ ∨ g ∈ (c.sends i ++ (c.meet i).sent is).map Completion.generation
    rw [ih (hc.meet i), hc.isAnswered_meet_iff, List.map_append, List.mem_append, or_assoc]

theorem isAnswered_of_mem_sent (hc : c.Sound) {is : List Incident} {g : Nat}
    (hg : g ∈ (c.sent is).map Completion.generation) : c.isAnswered g = false := by
  induction is generalizing c with
  | nil => exact absurd hg List.not_mem_nil
  | cons i is ih =>
    rw [← Bool.not_eq_true]
    intro ha
    have hm : (c.meet i).isAnswered g = true := (hc.isAnswered_meet_iff i g).2 (.inl ha)
    rw [sent_cons, List.map_append, List.mem_append] at hg
    rcases hg with hg | hg
    · obtain ⟨m, hs, rfl⟩ := List.mem_map.1 hg
      have hn := ((awaits_iff c _).1 ((mem_sends_iff c i m).1 hs).2).2
      rw [ha] at hn
      exact Bool.noConfusion hn
    · rw [ih (hc.meet i) hg] at hm
      exact Bool.noConfusion hm

theorem nodup_sent (hc : c.Sound) (is : List Incident) :
    ((c.sent is).map Completion.generation).Nodup := by
  induction is generalizing c with
  | nil => exact .nil
  | cons i is ih =>
    rw [sent_cons, List.map_append, List.nodup_append]
    refine ⟨?_, ih (hc.meet i), fun g hg g' hg' he => ?_⟩
    · rcases sends_cases c i with hs | ⟨m, hs, -⟩ <;> simp [hs]
    · have h1 : (c.meet i).isAnswered g = true := (hc.isAnswered_meet_iff i g).2 (.inr hg)
      rw [he, (hc.meet i).isAnswered_of_mem_sent hg'] at h1
      exact Bool.noConfusion h1

/-! ### what lasts -/

theorem isCancelled_meet (hc : c.Sound) {g : Nat} (hg : c.isCancelled g = true) (i : Incident) :
    (c.meet i).isCancelled g = true := by
  rcases meet_cases c i with ⟨h, k, rfl⟩ | ⟨g', rfl⟩ | ⟨m, -, he⟩
  · exact (hc.call_frame h k).2.2.1 g hg
  · exact (isCancelled_cancel_iff c g' g).2 (.inl hg)
  · rw [he, isCancelled_answer, hg]

theorem isCancelled_through (hc : c.Sound) {g : Nat} (hg : c.isCancelled g = true)
    (is : List Incident) : (c.through is).isCancelled g = true := by
  induction is generalizing c with
  | nil => exact hg
  | cons i is ih => exact ih (hc.meet i) (hc.isCancelled_meet hg i)

theorem asked_meet (hc : c.Sound) (i : Incident) : ∃ new, (c.meet i).asked = c.asked ++ new := by
  rcases meet_cases c i with ⟨h, k, rfl⟩ | ⟨g, rfl⟩ | ⟨m, -, he⟩
  · exact (hc.call_frame h k).2.2.2
  · exact ⟨[], (List.append_nil _).symm⟩
  · refine ⟨[], ?_⟩
    rw [he, List.append_nil]
    by_cases ha : c.awaits m.generation = true
    · rw [answer_of_awaits ha]
      rfl
    · rw [answer_of_not_awaits ha]

theorem asked_through (hc : c.Sound) (is : List Incident) :
    ∃ new, (c.through is).asked = c.asked ++ new := by
  induction is generalizing c with
  | nil => exact ⟨[], (List.append_nil _).symm⟩
  | cons i is ih =>
    obtain ⟨new, hn⟩ := hc.asked_meet i
    obtain ⟨more, hm⟩ := ih (hc.meet i)
    exact ⟨new ++ more, by rw [← List.append_assoc, ← hn]; exact hm⟩

end Sound

theorem mem_sent_iff (c : Compiler) (is : List Incident) (m : Completion) : m ∈ c.sent is ↔
    ∃ before i after, is = before ++ i :: after ∧ m ∈ (c.through before).sends i := by
  constructor
  · intro hm
    induction is generalizing c with
    | nil => exact absurd hm List.not_mem_nil
    | cons i is ih =>
      rcases List.mem_append.1 hm with hm | hm
      · exact ⟨[], i, is, rfl, hm⟩
      · obtain ⟨before, i', after, rfl, hs⟩ := ih (c.meet i) hm
        exact ⟨i :: before, i', after, rfl, hs⟩
  · rintro ⟨before, i, after, rfl, hs⟩
    rw [sent_append]
    exact List.mem_append_right _ (List.mem_append_left _ hs)

/-! ## one completion per run -/

/-- every run handed to a runner sends one completion. -/
structure Delivers (c : Compiler) (is : List Incident) : Prop where
  once : ((c.received is).map Completion.generation).Nodup
  /-- the latch of a run is released if and only if its completion has been sent. -/
  latch : ∀ g, (c.through is).isAnswered g = true ↔
    g ∈ (c.received is).map Completion.generation
  /-- a run that was asked for and then answered or dropped has one completion, that of the first
  time. -/
  first : ∀ before i after m, is = before ++ i :: after → i.completion? = some m →
    m.generation ∈ (c.through before).asked.map Request.generation →
      ((c.received is).map Completion.generation).count m.generation = 1 ∧
      ((c.through before).isAnswered m.generation = false → m ∈ c.received is)
  only : ∀ m ∈ c.received is, ∃ before i after, is = before ++ i :: after ∧
    i.completion? = some m ∧ m.generation ∈ (c.through before).asked.map Request.generation

theorem Delivers.count_eq_one {c : Compiler} {is : List Incident} (h : c.Delivers is) {g : Nat}
    (hg : (c.through is).isAnswered g = true) :
    ((c.received is).map Completion.generation).count g = 1 := by
  rw [h.once.count, if_pos ((h.latch g).1 hg)]

theorem Sound.delivers {c : Compiler} (hc : c.Sound) (hi : c.inbox = [])
    (ha : ∀ g, c.isAnswered g = false) (is : List Incident) : c.Delivers is := by
  have hr : c.received is = c.sent is := by rw [hc.received_eq, hi, List.nil_append]
  have latch : ∀ g, (c.through is).isAnswered g = true ↔
      g ∈ (c.received is).map Completion.generation := fun g => by
    rw [hc.isAnswered_through_iff, ha, hr]
    simp
  have once : ((c.received is).map Completion.generation).Nodup := by
    rw [hr]
    exact hc.nodup_sent is
  refine ⟨once, latch, ?_, fun m hm => ?_⟩
  · rintro before i after m rfl him hm
    have hb := hc.through before
    have ha' : m.generation ∈ (c.through before).runs.map Run.generation := by
      rw [← hb.generations_asked]
      exact hm
    have hans : ((c.through before).meet i).isAnswered m.generation = true := by
      rw [hb.isAnswered_meet_iff]
      cases hu : (c.through before).isAnswered m.generation with
      | true => exact .inl rfl
      | false =>
        have haw := (awaits_iff _ _).2 ⟨ha', hu⟩
        exact .inr (List.mem_map_of_mem ((mem_sends_iff _ _ _).2 ⟨him, haw⟩))
    refine ⟨?_, fun hu => ?_⟩
    · rw [once.count, if_pos]
      rw [← latch, through_append]
      exact ((hb.meet i).isAnswered_through_iff after _).2 (.inl hans)
    · rw [hr, mem_sent_iff]
      have haw := (awaits_iff _ _).2 ⟨ha', hu⟩
      exact ⟨before, i, after, rfl, (mem_sends_iff _ _ _).2 ⟨him, haw⟩⟩
  · rw [hr, mem_sent_iff] at hm
    obtain ⟨before, i, after, he, hs⟩ := hm
    obtain ⟨him, haw⟩ := (mem_sends_iff _ _ _).1 hs
    refine ⟨before, i, after, he, him, ?_⟩
    rw [(hc.through before).generations_asked]
    exact ((awaits_iff _ _).1 haw).1

end Compiler

theorem Setup.delivers (s : Setup) (is : List Incident) : s.compiler.Delivers is :=
  (Compiler.Sound.create ..).delivers rfl (fun _ => rfl) is

end Regen
