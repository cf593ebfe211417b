import Mathlib.Data.List.Forall2
import Regen.Proofs.ContentStore.Targets
import Regen.Proofs.Path.Spelling

/-!
# A store does not see how a path is spelled

Two stores are declared with the same paths in different spellings, and are then asked the same
things, again in different spellings. They agree on what every path holds, and their notifications
are the same paths. So they give the same answers.

* `ContentStore.Call`, `Answer`   what is asked of a store, and what it says;
* `Call.Same`, `Answer.Same`      the same up to the spelling of paths;
* `ContentStore.Agree`            two stores that no path tells apart;
* `lastWritten?`                  the bytes of the last write to a path.

Main statements: `Agree.call` and `Agree.answers` (one call, and all of a run), `find?_after` and
`ContentStore.spelling_does_not_matter`.
-/

namespace Regen
namespace ContentStore

inductive Call where
  | set (p : Path) (bytes : Bytes)
  | get (p : Path)
  | contains (p : Path)
  | takeChanged
  deriving DecidableEq, Repr

inductive Answer where
  | flag (b : Bool)
  | bytes (bs : Bytes)
  | paths (ps : List Path)
  deriving DecidableEq, Repr

/-- a write is answered by whether it changed anything. -/
def answer (s : ContentStore) : Call → Answer
  | .set p bytes => .flag (s.changes p bytes)
  | .get p => .bytes (s.get p)
  | .contains p => .flag (s.contains p)
  | .takeChanged => .paths s.takeChanged.1

def call (s : ContentStore) : Call → ContentStore
  | .set p bytes => s.set p bytes
  | .takeChanged => s.takeChanged.2
  | _ => s

def after : ContentStore → List Call → ContentStore
  | s, [] => s
  | s, c :: cs => after (s.call c) cs

def answers : ContentStore → List Call → List Answer
  | _, [] => []
  | s, c :: cs => s.answer c :: answers (s.call c) cs

inductive Call.Same : Call → Call → Prop where
  | set {p q : Path} (h : Path.Same p q) (bytes : Bytes) : Same (.set p bytes) (.set q bytes)
  | get {p q : Path} (h : Path.Same p q) : Same (.get p) (.get q)
  | contains {p q : Path} (h : Path.Same p q) : Same (.contains p) (.contains q)
  | takeChanged : Same .takeChanged .takeChanged

inductive Answer.Same : Answer → Answer → Prop where
  | flag (b : Bool) : Same (.flag b) (.flag b)
  | bytes (bs : Bytes) : Same (.bytes bs) (.bytes bs)
  | paths {ps qs : List Path} (h : List.Forall₂ Path.Same ps qs) : Same (.paths ps) (.paths qs)

/-! ## two stores -/

structure Agree (s t : ContentStore) : Prop where
  find? : ∀ p, s.contents.find? p = t.contents.find? p
  changed : List.Forall₂ Path.Same s.changed t.changed

theorem agree_declare {ts us : List Path} (h : List.Forall₂ Path.Same ts us) :
    Agree (declare ts) (declare us) := by
  refine ⟨fun p => ?_, .nil⟩
  have hdeclared : (∃ t ∈ ts, Path.Same t p) ↔ ∃ u ∈ us, Path.Same u p := by
    induction h with
    | nil => exact Iff.rfl
    | cons ht _ ih => rw [List.exists_mem_cons_iff, List.exists_mem_cons_iff, ih, ht.left_iff]
  rw [find?_declare, find?_declare]
  exact if_congr hdeclared rfl rfl

namespace Agree

variable {s t : ContentStore}

theorem find?_eq (h : Agree s t) {p q : Path} (hp : Path.Same p q) :
    s.contents.find? p = t.contents.find? q :=
  (PathMap.find?_congr _ hp).trans (h.find? q)

theorem changes_eq (h : Agree s t) {p q : Path} (hp : Path.Same p q) (bytes : Bytes) :
    s.changes p bytes = t.changes q bytes := by
  unfold changes
  rw [h.find?_eq hp]

theorem set (h : Agree s t) {p q : Path} (hp : Path.Same p q) (bytes : Bytes) :
    Agree (s.set p bytes) (t.set q bytes) where
  find? r := by
    rw [find?_set, find?_set, h.find?]
    exact if_congr (hp.left_iff r) rfl rfl
  changed := by
    rw [changed_set, changed_set, h.changes_eq hp]
    refine List.rel_append h.changed ?_
    split
    · exact .cons hp .nil
    · exact .nil

theorem call (h : Agree s t) {c d : Call} (hc : c.Same d) : Agree (s.call c) (t.call d) := by
  cases hc with
  | set hp bytes => exact h.set hp bytes
  | get => exact h
  | contains => exact h
  | takeChanged => exact ⟨h.find?, .nil⟩

theorem answer (h : Agree s t) {c d : Call} (hc : c.Same d) : (s.answer c).Same (t.answer d) := by
  cases hc with
  | @set p q hp bytes =>
    show Answer.Same (.flag (s.changes p bytes)) (.flag (t.changes q bytes))
    rw [h.changes_eq hp]
    exact .flag _
  | @get p q hp =>
    show Answer.Same (.bytes (s.get p)) (.bytes (t.get q))
    rw [ContentStore.get, h.find?_eq hp]
    exact .bytes _
  | @contains p q hp =>
    show Answer.Same (.flag (s.contains p)) (.flag (t.contains q))
    rw [ContentStore.contains, PathMap.contains, h.find?_eq hp]
    exact .flag _
  | takeChanged => exact .paths h.changed

theorem answers (h : Agree s t) {cs ds : List Call} (hcs : List.Forall₂ Call.Same cs ds) :
    List.Forall₂ Answer.Same (s.answers cs) (t.answers ds) := by
  induction hcs generalizing s t with
  | nil => exact .nil
  | cons hc _ ih => exact .cons (h.answer hc) (ih (h.call hc))

end Agree

/-! ## what a store holds -/

def Call.written? (p : Path) : Call → Option Bytes
  | .set q bytes => if Path.Same q p then some bytes else none
  | _ => none

def lastWritten? (p : Path) (cs : List Call) : Option Bytes :=
  (cs.filterMap (Call.written? p)).getLast?

theorem lastWritten?_cons (p : Path) (c : Call) (cs : List Call) :
    lastWritten? p (c :: cs) = (lastWritten? p cs).or (c.written? p) := by
  unfold lastWritten?
  rw [List.filterMap_cons]
  cases c.written? p with
  | none => exact (Option.or_none ..).symm
  | some bytes =>
    show (bytes :: _).getLast? = _
    rw [List.getLast?_cons]
    cases (cs.filterMap (Call.written? p)).getLast? <;> rfl

theorem find?_call (s : ContentStore) (c : Call) (p : Path) :
    (s.call c).contents.find? p = (s.contents.find? p).map fun old => (c.written? p).getD old := by
  cases c with
  | set q bytes =>
    show (s.set q bytes).contents.find? p = _
    rw [find?_set, Call.written?]
    split
    · rfl
    · exact Option.map_id'.symm
  | _ => exact Option.map_id'.symm

theorem find?_after (s : ContentStore) (cs : List Call) (p : Path) :
    (s.after cs).contents.find? p =
      (s.contents.find? p).map fun old => (lastWritten? p cs).getD old := by
  induction cs generalizing s with
  | nil => exact Option.map_id'.symm
  | cons c cs ih =>
    rw [after, ih, find?_call, Option.map_map, lastWritten?_cons]
    congr 1
    funext old
    cases lastWritten? p cs <;> rfl

theorem targets_call (s : ContentStore) (c : Call) : (s.call c).targets = s.targets := by
  cases c with
  | set p bytes => exact keys_set s p bytes
  | _ => rfl

theorem targets_after (s : ContentStore) (cs : List Call) : (s.after cs).targets = s.targets := by
  induction cs generalizing s with
  | nil => rfl
  | cons c cs ih => exact (ih (s.call c)).trans (s.targets_call c)

/-- **A store does not see how a path is spelled.** Two paths are the same if one can be respelled
as the other: by slashes put twice, dots between slashes or after the last one, and slashes at the
end of what is not empty.

If the paths declared and those of the calls are respelled, one by one, each call is still answered
by the same flag, the same bytes or a list of the same paths. After any calls, the targets are those
declared, each path once, where it stood first and as it was spelled there; and a path holds the
bytes of the last write to it since the store was declared. It holds none if there was no such write
or it is not a target. -/
theorem spelling_does_not_matter :
    (∀ p q, Path.Same p q ↔ Relation.EqvGen Path.Respells p q) ∧
    (∀ ts us cs ds, List.Forall₂ Path.Same ts us → List.Forall₂ Call.Same cs ds →
      List.Forall₂ Answer.Same ((declare ts).answers cs) ((declare us).answers ds)) ∧
    ∀ ts cs, let s := (declare ts).after cs
      s.targets = Path.firsts ts ∧
      s.targets.Pairwise (fun p q => ¬ Path.Same p q) ∧
      (∀ p, s.contains p = true ↔ ∃ t ∈ ts, Path.Same t p) ∧
      ∀ p, s.get p = if ∃ t ∈ ts, Path.Same t p then (lastWritten? p cs).getD [] else [] := by
  refine ⟨Path.same_iff_respelled, fun ts us cs ds hts hcs => (agree_declare hts).answers hcs, ?_⟩
  intro ts cs s
  have htargets : s.targets = (declare ts).targets := targets_after (declare ts) cs
  refine ⟨htargets.trans (targets_declare ts), s.contents.distinct, fun p => ?_, fun p => ?_⟩
  · rw [contains_iff, htargets, ← contains_iff, contains_declare]
  · have hfind : s.contents.find? p = _ := find?_after (declare ts) cs p
    rw [get, hfind, find?_declare]
    split <;> rfl

/-- `a//b` and `./c`, asked for as `a/b/.` and `./c/`: the answers differ in the spelling of a
notification. -/
theorem two_spellings_of_a_run :
    let ts : List Path := [⟨[97, 47, 47, 98]⟩, ⟨[46, 47, 99]⟩]
    let us : List Path := [⟨[97, 47, 98]⟩, ⟨[46, 47, 99, 47]⟩]
    let p : Path := ⟨[97, 47, 98]⟩
    let q : Path := ⟨[97, 47, 98, 47, 46]⟩
    let cs : List Call := [.set p [1], .get p, .contains ⟨[99]⟩, .takeChanged]
    let ds : List Call := [.set q [1], .get q, .contains ⟨[99, 47]⟩, .takeChanged]
    List.Forall₂ Answer.Same ((declare ts).answers cs) ((declare us).answers ds) ∧
      (declare ts).answers cs = [.flag true, .bytes [1], .flag false, .paths [p]] ∧
      (declare us).answers ds = [.flag true, .bytes [1], .flag false, .paths [q]] :=
  ⟨spelling_does_not_matter.2.1 _ _ _ _
    (.cons (by decide) (.cons (by decide) .nil))
    (.cons (.set (by decide) _) (.cons (.get (by decide)) (.cons (.contains (by decide))
      (.cons .takeChanged .nil)))), by decide, by decide⟩

end ContentStore
end Regen
