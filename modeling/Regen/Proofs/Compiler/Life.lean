import Regen.Compiler

/-!
# The life of a compiler

A compiler is created once and then lives through *events*: the host calls it, and its runner
answers runs or drops them, each in any order and at any time. What the surroundings are like may
differ from one call to the next.

* `Setup`            all that a creation looks at;
* `Call`, `Event`    what can happen to a compiler;
* `Compiler.step`    one event;
* `Compiler.after`   a list of events, one after the other;
* `Compiler.log`     what is written down at each poll of a life;
* `Compiler.Book`    what a compiler knows of its runs: the part that most calls leave alone.

Main statement: `log_induction`. A fact about the book and the log holds all life long if a new
run, an answer and a poll keep it; nothing else touches the book.
-/

namespace Regen

structure Setup where
  number : Nat
  project : ProjectRef
  config : Config
  source : Path
  targets : List Path
  runner : Runner
  disk : Disk

inductive Call where
  | runContents (bytes : Bytes)
  | runFile (path : Path)
  | tick (now : Instant)
  | poll
  | editorChanged (editor : Option Editor)
  | aboutToClose (id : Nat)
  | edited (id : Nat) (now : Instant)
  | targetsBuilt (project : Nat)
  | setContent (target : Path) (bytes : Bytes)
  | setIssues (issues : List Issue)
  | setWatermark (time : Time)
  | takeChanged

inductive Event where
  | call (h : Host) (k : Call)
  | answer (generation : Nat) (outcome : Outcome)
  | drop (generation : Nat)

/-- the generation of the run that a runner answers or drops. -/
def Event.answers? : Event → Option Nat
  | .call _ _ => none
  | .answer g _ => some g
  | .drop g => some g

def Event.polls : Event → Bool
  | .call _ .poll => true
  | .call _ (.tick _) => true
  | _ => false

def Effect.request? : Effect → Option Request
  | .started request => some request
  | _ => none

namespace Compiler

def call (c : Compiler) (h : Host) : Call → Compiler
  | .runContents bytes => c.runContents h bytes
  | .runFile path => c.runFile h path
  | .tick now => c.tick h now
  | .poll => (c.poll h).1
  | .editorChanged editor => c.editorChanged h editor
  | .aboutToClose id => c.aboutToClose h id
  | .edited id now => c.edited id now
  | .targetsBuilt project => c.targetsBuilt h project
  | .setContent target bytes => c.setContent target bytes
  | .setIssues issues => c.setIssues issues
  | .setWatermark time => c.setWatermark time
  | .takeChanged => c.takeChanged.2

def step (c : Compiler) : Event → Compiler
  | .call h k => c.call h k
  | .answer g outcome => c.answer g outcome
  | .drop g => c.drop g

def after : Compiler → List Event → Compiler
  | c, [] => c
  | c, e :: es => (c.step e).after es

theorem after_append (c : Compiler) (es fs : List Event) :
    c.after (es ++ fs) = (c.after es).after fs := by
  induction es generalizing c with
  | nil => rfl
  | cons e es ih => exact ih (c.step e)

/-! ## what is written down at each poll -/

section
variable {α : Type} (f : Compiler → Host → List α)

/-- what is written down during an event, given what is written down when a compiler polls. -/
def entries (c : Compiler) : Event → List α
  | .call h .poll => f c h
  | .call h (.tick _) => f c h
  | _ => []

def log : Compiler → List Event → List α
  | _, [] => []
  | c, e :: es => c.entries f e ++ (c.step e).log es

/-- an event that polls writes down what is to be written for a poll, and any other one nothing. -/
theorem entries_cases (c : Compiler) (e : Event) :
    (∃ h, c.entries f e = f c h) ∨ c.entries f e = [] := by
  cases e with
  | call h k => cases k <;> first | exact .inl ⟨h, rfl⟩ | exact .inr rfl
  | answer g o => exact .inr rfl
  | drop g => exact .inr rfl

end

/-! ## the book -/

/-- the requests that a compiler has handed to its runner, in order. -/
def asked (c : Compiler) : List Request := c.effects.filterMap Effect.request?

/-- what a compiler knows of its runs, and what it has asked its runner. -/
structure Book where
  clock : Nat
  runs : List Run
  inbox : List Completion
  active : Option Nat
  superseded : List Nat
  asked : List Request

/-- what a compiler knows of its runs, and what it has asked its runner. -/
def book (c : Compiler) : Book := ⟨c.clock, c.runs, c.inbox, c.active, c.superseded, c.asked⟩

theorem asked_tell (c : Compiler) (e : Effect) :
    (c.tell e).asked = c.asked ++ e.request?.toList := by
  show (c.effects ++ [e]).filterMap Effect.request? = _
  rw [List.filterMap_append]
  cases h : e.request? <;> simp [h, asked]

theorem book_tell (c : Compiler) {e : Effect} (h : e.request? = none) :
    (c.tell e).book = c.book := by
  have ha : (c.tell e).asked = c.asked := by
    rw [asked_tell, h]
    exact List.append_nil _
  exact congrArg (Book.mk c.clock c.runs c.inbox c.active c.superseded) ha

@[simp] theorem book_tellPush (c : Compiler) (p : Option Push) : (c.tellPush p).book = c.book := by
  cases p with
  | none => rfl
  | some p => exact book_tell c rfl

/-- new issues change the issues and tell the bound editor. -/
theorem setIssues_eq (c : Compiler) (is : List Issue) : c.setIssues is = { c with
    issues := is
    effects := c.effects ++ (c.binding.push? is).toList.map Effect.pushed } := by
  unfold setIssues
  cases c.binding.push? is with
  | none => simp [tellPush]
  | some p => rfl

@[simp] theorem book_setIssues (c : Compiler) (is : List Issue) : (c.setIssues is).book = c.book :=
  book_tellPush _ _

theorem book_targetsBuilt (c : Compiler) (h : Host) (project : Nat) :
    (c.targetsBuilt h project).book = c.book := by
  unfold targetsBuilt
  split <;> rfl

/-- taking over an outcome says nothing about runs. -/
@[simp] theorem book_adopt (c : Compiler) (wall : Time) (o : Outcome) :
    (c.adopt wall o).book = c.book := by
  cases o with
  | error abort => exact book_tell c rfl
  | ok output =>
    have hi := book_setIssues c output.issues
    unfold adopt
    by_cases he : output.contents.entries = []
    · simp only [he, if_true]
      exact (book_tell _ rfl).trans hi
    · simp only [he, if_false]
      exact hi

/-! ## what an event is made of -/

section
variable {P : Compiler → Prop} (quiet : ∀ c c', c'.book = c.book → P c → P c')
  (start : ∀ c (h : Host) (p : Provider), P c → P (c.start h p))

include quiet start

theorem initialRun_induction {c : Compiler} (h : Host) (hc : P c) : P (c.initialRun h) := by
  unfold initialRun
  split
  · have hq : P { c with initialPending := false } := quiet c _ rfl hc
    exact start _ h _ hq
  · exact hc

theorem follow_induction {c : Compiler} (h : Host) (r : Binding.Reaction) (hc : P c) :
    P (c.follow h r) := by
  have hq : P ({ c with binding := r.binding }.tellPush r.push) :=
    quiet c _ (book_tellPush _ _) hc
  unfold follow
  cases r.snapshot with
  | none => exact hq
  | some buffer => exact start _ h _ hq

end

section
variable {α : Type} {f : Compiler → Host → List α} {P : Compiler → List α → Prop}
  (quiet : ∀ c c' l, c'.book = c.book → P c l → P c' l)
  (start : ∀ c l (h : Host) (p : Provider), P c l → P (c.start h p) l)
  (answer : ∀ c l (g : Nat) (o : Outcome), P c l → P (c.answer g o) l)
  (poll : ∀ c l (h : Host), P c l → P (c.poll h).1 (l ++ f c h))

include quiet start poll in
/-- what a new run and a poll keep, and what looks at the book alone, every call keeps. -/
theorem call_induction {c : Compiler} {l : List α} (h : Host) (k : Call) (hc : P c l) :
    P (c.call h k) (l ++ c.entries f (.call h k)) := by
  have same : ∀ {c' : Compiler}, P c' l → P c' (l ++ []) := fun hp => by
    rw [List.append_nil]
    exact hp
  have followed : ∀ {c : Compiler} {l : List α} (h : Host) (r : Binding.Reaction),
      P c l → P (c.follow h r) l := fun {_ l} h r hp =>
    follow_induction (P := fun c => P c l) (fun c c' => quiet c c' l) (fun c => start c l) h r hp
  cases k with
  | runContents bytes => exact same (start c l h _ hc)
  | runFile path => exact same (start c l h _ hc)
  | tick now =>
    have hp := poll c l h hc
    have hi := initialRun_induction (P := fun c => P c _) (fun c c' => quiet c c' _)
      (fun c => start c _) h hp
    exact followed h _ hi
  | poll => exact poll c l h hc
  | editorChanged editor => exact same (followed h _ hc)
  | aboutToClose id => exact same (followed h _ hc)
  | edited id now => exact same (quiet c _ l rfl hc)
  | targetsBuilt project => exact same (quiet c _ l (book_targetsBuilt c h project) hc)
  | setContent target bytes => exact same (quiet c _ l rfl hc)
  | setIssues issues => exact same (quiet c _ l (book_setIssues c issues) hc)
  | setWatermark time => exact same (quiet c _ l rfl hc)
  | takeChanged => exact same (quiet c _ l rfl hc)

include quiet start answer poll

/-- what a new run, an answer and a poll keep, and what looks at the book alone, every event
keeps. -/
theorem step_induction {c : Compiler} {l : List α} (e : Event) (hc : P c l) :
    P (c.step e) (l ++ c.entries f e) := by
  have same : ∀ {c' : Compiler}, P c' l → P c' (l ++ []) := fun hp => by
    rw [List.append_nil]
    exact hp
  cases e with
  | answer g o => exact same (answer c l g o hc)
  | drop g => exact same (answer c l g _ hc)
  | call h k => exact call_induction quiet start poll h k hc

/-- what a new run, an answer and a poll keep, and what looks at the book alone, holds all life
long. -/
theorem log_induction {c : Compiler} {l : List α} (es : List Event) (hc : P c l) :
    P (c.after es) (l ++ c.log f es) := by
  induction es generalizing c l with
  | nil =>
    rw [log, List.append_nil]
    exact hc
  | cons e es ih =>
    have hs := step_induction quiet start answer poll e hc
    rw [log, ← List.append_assoc]
    exact ih hs

end

end Compiler

def Setup.compiler (s : Setup) : Compiler :=
  Compiler.create s.number s.project s.config s.source s.targets s.runner s.disk

def Setup.after (s : Setup) (es : List Event) : Compiler := s.compiler.after es

end Regen
