import Mathlib.Data.List.Nodup
import Regen.Proofs.Compiler.Bookkeeping
import Regen.Proofs.Compiler.Frame

/-!
# The story of the runs

A run that starts makes the active one yield to it. Most runs start at the event that asks for
them. The first one does not: it is asked for at the creation, if the targets are out of date, and
starts at a tick. The *story* of a life lists its runs as they start, each with what it is for, when
it was asked for, and which run yields to it.

* `Cause`                what a run is for;
* `Start`                a run as it starts;
* `Compiler.starts`      the runs that an event starts;
* `Compiler.story`       the runs that a list of events starts;
* `Compiler.Recorded`    what a story says of the runs of a compiler.

Main statements: `Recorded.step` (an event adds the runs that it starts), `Recorded.requested_lt_iff`
(a run yields to a later request, unless it yields to the first run) and `Setup.recorded_story`.
-/

namespace Regen

inductive Cause where
  | initial
  | edit
  | explicit
  deriving DecidableEq, Repr

structure Start where
  request : Request
  cause : Cause
  /-- the number of the event at which it was asked for; that of the creation is zero. -/
  requested : Nat
  supersedes : Option Nat

def Start.generation (x : Start) : Nat := x.request.generation

namespace Compiler

def starting (c : Compiler) (h : Host) (p : Provider) (cause : Cause) (n : Nat) : Start :=
  ⟨c.nextRequest h p, cause, n, c.active⟩

def startingInitial (c : Compiler) (h : Host) : Start :=
  c.starting h (.file c.source) .initial 0

def initialStarts (c : Compiler) (h : Host) : List Start :=
  if c.initialPending then [c.startingInitial h] else []

/-- the run of the buffer that a reaction of the editor binding hands out. -/
def followStarts (c : Compiler) (h : Host) (n : Nat) (r : Binding.Reaction) : List Start :=
  match r.snapshot with
  | some buffer => [c.starting h (.bytes buffer) .edit n]
  | none => []

def starts (c : Compiler) (n : Nat) : Event → List Start
  | .call h (.runContents bytes) => [c.starting h (.bytes bytes) .explicit n]
  | .call h (.runFile path) => [c.starting h (.file path) .explicit n]
  | .call h (.tick now) =>
    let p := (c.poll h).1
    let i := p.initialRun h
    p.initialStarts h ++ i.followStarts h n (i.binding.tick h.buffers now)
  | .call h (.editorChanged editor) =>
    c.followStarts h n (c.binding.editorChanged h.buffers editor c.issues)
  | .call h (.aboutToClose id) => c.followStarts h n (c.binding.aboutToClose h.buffers id)
  | _ => []

/-- the runs that a list of events starts, in order; its first event has the given number. -/
def story : Compiler → Nat → List Event → List Start
  | _, _, [] => []
  | c, n, e :: es => c.starts n e ++ (c.step e).story (n + 1) es

theorem story_append (c : Compiler) (n : Nat) (es fs : List Event) :
    c.story n (es ++ fs) = c.story n es ++ (c.after es).story (n + es.length) fs := by
  induction es generalizing c n with
  | nil => rfl
  | cons e es ih =>
    show c.starts n e ++ (c.step e).story (n + 1) (es ++ fs) = _
    rw [ih, ← List.append_assoc, List.length_cons, Nat.add_right_comm, Nat.add_assoc n]
    rfl

/-! ## the record -/

/-- what a story says of the runs of a compiler when `n` events have passed. -/
structure Recorded (c : Compiler) (n : Nat) (l : List Start) : Prop where
  sound : c.Sound
  asked_eq : c.asked = l.map Start.request
  cancelled_iff : ∀ g, c.isCancelled g = true ↔ ∃ y ∈ l, y.supersedes = some g
  yields_to_newer : ∀ y ∈ l, ∀ g, y.supersedes = some g → g < y.generation
  in_order : ∀ x ∈ l, ∀ y ∈ l, x.generation < y.generation → y.cause ≠ .initial →
    x.requested < y.requested
  requested_initial : ∀ x ∈ l, x.cause = .initial → x.requested = 0
  requested_pos : ∀ x ∈ l, x.cause ≠ .initial → 0 < x.requested
  requested_le : ∀ x ∈ l, x.requested ≤ n

namespace Recorded

variable {c : Compiler} {n : Nat} {l : List Start}

theorem generations_eq (hc : c.Recorded n l) :
    l.map Start.generation = List.range' 1 c.clock := by
  have hl : l.map Start.generation = (l.map Start.request).map Request.generation := by
    rw [List.map_map]
    rfl
  rw [hl, ← hc.asked_eq, hc.sound.asked_numbered]

theorem mem_generations_iff (hc : c.Recorded n l) (g : Nat) :
    g ∈ l.map Start.generation ↔ 1 ≤ g ∧ g ≤ c.clock := by
  rw [hc.generations_eq, List.mem_range'_1]
  omega

theorem le_clock (hc : c.Recorded n l) {x : Start} (hx : x ∈ l) :
    1 ≤ x.generation ∧ x.generation ≤ c.clock :=
  (hc.mem_generations_iff _).1 (List.mem_map_of_mem hx)

theorem inj (hc : c.Recorded n l) {x y : Start} (hx : x ∈ l) (hy : y ∈ l)
    (h : x.generation = y.generation) : x = y := by
  have hd : (l.map Start.generation).Nodup := hc.generations_eq ▸ List.nodup_range'
  exact List.inj_on_of_nodup_map hd hx hy h

/-- events that leave the requests and the tokens alone add nothing to a story. -/
theorem of_quiet {c' : Compiler} (hc : c.Recorded n l) (hs : c'.Sound) (ha : c'.asked = c.asked)
    (hk : ∀ g, c'.isCancelled g = c.isCancelled g) : c'.Recorded n l where
  sound := hs
  asked_eq := ha.trans hc.asked_eq
  cancelled_iff g := by rw [hk, hc.cancelled_iff]
  yields_to_newer := hc.yields_to_newer
  in_order := hc.in_order
  requested_initial := hc.requested_initial
  requested_pos := hc.requested_pos
  requested_le := hc.requested_le

theorem of_book {c' : Compiler} (hc : c.Recorded n l) (hb : c'.book = c.book) :
    c'.Recorded n l :=
  hc.of_quiet (hc.sound.of_book hb) (congrArg Book.asked hb)
    (isCancelled_congr (congrArg Book.runs hb))

theorem mono {k : Nat} (hc : c.Recorded n l) (hk : n ≤ k) : c.Recorded k l :=
  { hc with requested_le := fun x hx => Nat.le_trans (hc.requested_le x hx) hk }

theorem answer (hc : c.Recorded n l) (g : Nat) (o : Outcome) : (c.answer g o).Recorded n l := by
  refine hc.of_quiet (hc.sound.answer g o) ?_ (isCancelled_answer c g o)
  by_cases ha : c.awaits g = true
  · rw [answer_of_awaits ha]
    rfl
  · rw [answer_of_not_awaits ha]

theorem poll (hc : c.Recorded n l) (h : Host) : (c.poll h).1.Recorded n l := by
  have hb := book_poll hc.sound.active_not_superseded h
  exact hc.of_quiet (hc.sound.poll h) (congrArg Book.asked hb)
    (isCancelled_congr (congrArg Book.runs hb))

theorem start (hc : c.Recorded n l) (h : Host) (p : Provider) (cause : Cause) {m k : Nat}
    (hm : if cause = .initial then m = 0 ∧ n ≤ k else n < m ∧ m ≤ k) :
    (c.start h p).Recorded k (l ++ [c.starting h p cause m]) := by
  have hb := book_start c h p
  have hn : n ≤ k := by split at hm <;> omega
  have hmk : m ≤ k := by split at hm <;> omega
  have newer : ∀ x ∈ l, x.generation < (c.starting h p cause m).generation := fun x hx =>
    Nat.lt_succ_of_le (hc.le_clock hx).2
  have later : ∀ x ∈ l, cause ≠ .initial → x.requested < m := fun x hx hi => by
    have hx := hc.requested_le x hx
    rw [if_neg hi] at hm
    omega
  constructor
  case sound => exact hc.sound.start h p
  case asked_eq =>
    have ha : (c.start h p).asked = c.asked ++ [c.nextRequest h p] := congrArg Book.asked hb
    rw [ha, hc.asked_eq, List.map_append]
    rfl
  case cancelled_iff =>
    intro g
    simp only [hc.sound.isCancelled_start_iff h p g, hc.cancelled_iff g, List.mem_append,
      List.mem_singleton, or_and_right, exists_or, exists_eq_left]
    exact Iff.rfl
  case yields_to_newer =>
    intro y hy g hg
    rcases List.mem_append.1 hy with hy | hy
    · exact hc.yields_to_newer y hy g hg
    · rw [List.mem_singleton.1 hy] at hg ⊢
      exact Nat.lt_succ_of_le (Nat.le_of_eq (hc.sound.active_newest g hg))
  case in_order =>
    intro x hx y hy hlt hi
    rcases List.mem_append.1 hx with hx | hx <;> rcases List.mem_append.1 hy with hy | hy
    · exact hc.in_order x hx y hy hlt hi
    · rw [List.mem_singleton.1 hy] at hi ⊢
      exact later x hx hi
    · rw [List.mem_singleton.1 hx] at hlt
      exact absurd hlt (Nat.lt_asymm (newer y hy))
    · rw [List.mem_singleton.1 hx, List.mem_singleton.1 hy] at hlt
      exact absurd hlt (Nat.lt_irrefl _)
  case requested_initial =>
    intro x hx hi
    rcases List.mem_append.1 hx with hx | hx
    · exact hc.requested_initial x hx hi
    · rw [List.mem_singleton.1 hx] at hi ⊢
      replace hi : cause = .initial := hi
      rw [if_pos hi] at hm
      exact hm.1
  case requested_pos =>
    intro x hx hi
    rcases List.mem_append.1 hx with hx | hx
    · exact hc.requested_pos x hx hi
    · rw [List.mem_singleton.1 hx] at hi ⊢
      replace hi : cause ≠ .initial := hi
      rw [if_neg hi] at hm
      exact Nat.zero_lt_of_lt hm.1
  case requested_le =>
    intro x hx
    rcases List.mem_append.1 hx with hx | hx
    · exact Nat.le_trans (hc.requested_le x hx) hn
    · rw [List.mem_singleton.1 hx]
      exact hmk

theorem initialRun (hc : c.Recorded n l) (h : Host) :
    (c.initialRun h).Recorded n (l ++ c.initialStarts h) := by
  cases hi : c.initialPending with
  | true =>
    have hq : { c with initialPending := false }.Recorded n l := hc.of_book rfl
    have hs : c.initialStarts h = [c.startingInitial h] := if_pos hi
    rw [initialRun_of_due hi, hs]
    exact hq.start h (.file c.source) .initial ⟨rfl, Nat.le_refl n⟩
  | false =>
    have hs : c.initialStarts h = [] := if_neg (by simp [hi])
    rw [initialRun_of_not_due hi, hs, List.append_nil]
    exact hc

theorem follow (hc : c.Recorded n l) (h : Host) (r : Binding.Reaction) :
    (c.follow h r).Recorded (n + 1) (l ++ c.followStarts h (n + 1) r) := by
  have hq : ({ c with binding := r.binding }.tellPush r.push).Recorded n l :=
    hc.of_book (book_tellPush _ _)
  unfold Compiler.follow followStarts
  cases r.snapshot with
  | none =>
    rw [List.append_nil]
    exact hq.mono (Nat.le_succ n)
  | some buffer =>
    have hs := hq.start h (.bytes buffer) .edit (m := n + 1) (k := n + 1)
      ⟨Nat.lt_succ_self n, Nat.le_refl _⟩
    have ht : ({ c with binding := r.binding }.tellPush r.push).starting h (.bytes buffer) .edit
        (n + 1) = c.starting h (.bytes buffer) .edit (n + 1) := by
      cases r.push <;> rfl
    rw [ht] at hs
    exact hs

theorem step (hc : c.Recorded n l) (e : Event) :
    (c.step e).Recorded (n + 1) (l ++ c.starts (n + 1) e) := by
  have quiet : ∀ {c' : Compiler}, c'.Recorded n l → c'.Recorded (n + 1) (l ++ []) := fun hq => by
    rw [List.append_nil]
    exact hq.mono (Nat.le_succ n)
  have asked : ∀ h p, (c.start h p).Recorded (n + 1)
      (l ++ [c.starting h p .explicit (n + 1)]) := fun h p =>
    hc.start h p .explicit ⟨Nat.lt_succ_self n, Nat.le_refl _⟩
  cases e with
  | answer g o => exact quiet (hc.answer g o)
  | drop g => exact quiet (hc.answer g _)
  | call h k =>
    cases k with
    | runContents bytes => exact asked h _
    | runFile path => exact asked h _
    | tick now =>
      have hi := (hc.poll h).initialRun h
      have hf := hi.follow h (((c.poll h).1.initialRun h).binding.tick h.buffers now)
      rw [List.append_assoc] at hf
      exact hf
    | poll => exact quiet (hc.poll h)
    | editorChanged editor => exact hc.follow h _
    | aboutToClose id => exact hc.follow h _
    | edited id now => exact quiet (hc.of_book rfl)
    | targetsBuilt project => exact quiet (hc.of_book (book_targetsBuilt c h project))
    | setContent target bytes => exact quiet (hc.of_book rfl)
    | setIssues issues => exact quiet (hc.of_book (book_setIssues c issues))
    | setWatermark time => exact quiet (hc.of_book rfl)
    | takeChanged => exact quiet (hc.of_book rfl)

theorem after (hc : c.Recorded n l) (es : List Event) :
    (c.after es).Recorded (n + es.length) (l ++ c.story (n + 1) es) := by
  induction es generalizing c n l with
  | nil =>
    rw [story, List.append_nil]
    exact hc
  | cons e es ih =>
    have hs := ih (hc.step e)
    rw [List.append_assoc, Nat.add_assoc, Nat.add_comm 1] at hs
    exact hs

/-- of two runs of which one yields to the other, the latter was asked for later, unless it is the
first run. -/
theorem requested_lt_iff (hc : c.Recorded n l) {x y : Start} (hx : x ∈ l) (hy : y ∈ l)
    (hs : y.supersedes = some x.generation) :
    x.requested < y.requested ↔ y.cause ≠ .initial := by
  refine ⟨fun hlt hy' => ?_, hc.in_order x hx y hy (hc.yields_to_newer y hy _ hs)⟩
  have hz := hc.requested_initial y hy hy'
  omega

end Recorded

end Compiler

namespace Setup

def story (s : Setup) (es : List Event) : List Start := s.compiler.story 1 es

theorem recorded_story (s : Setup) (es : List Event) :
    (s.after es).Recorded es.length (s.story es) := by
  have h0 : s.compiler.Recorded 0 [] := by
    refine ⟨.create .., rfl, fun g => ?_, ?_, ?_, ?_, ?_, ?_⟩
    · simp [compiler, Compiler.create, Compiler.isCancelled, Compiler.run?]
    all_goals exact fun x hx => absurd hx List.not_mem_nil
  have ha := h0.after es
  rw [Nat.zero_add, List.nil_append] at ha
  exact ha

end Setup
end Regen
