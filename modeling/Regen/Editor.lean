import Regen.Debounce
import Regen.Issue
import Regen.Path

/-!
# The editor that shows a source

While an editor shows the source, its live buffer is compiled instead of the file on disk. Edits
wait for the quiet period to end; switching away from the editor or closing it ends the wait at
once, so no edit is lost.

* `Editor`                  an open editor as a compiler remembers it;
* `Buffers`                 the live text of the host's editors;
* `Binding`                 the editor bound to one source, and the edit that waits;
* `Binding.editorChanged`   the host shows another editor, or none;
* `Binding.aboutToClose`    an editor is about to close;
* `Binding.edited`          the text of an editor changed;
* `Binding.tick`            time passed.

Every event answers with the buffer to compile, if there is one, and the annotations to show.
-/

namespace Regen

/-- an open editor: `slot` is the host's name for it, `id` the identity it shows (two editors may
show one identity), `path` the document in it. -/
structure Editor where
  slot : Nat
  id : Nat
  path : Path
  deriving DecidableEq, Repr

/-- the live text of each of the host's editors, by slot. -/
abbrev Buffers := Nat → Bytes

/-- annotations for one editor: they replace what it showed. -/
structure Push where
  slot : Nat
  annotations : List Annotation
  deriving DecidableEq, Repr

structure Binding where
  source : Path
  /-- the length of the quiet period, in milliseconds. -/
  quantum : Nat
  bound : Option Editor
  dirty : Bool
  debounce : Debounce
  deriving DecidableEq, Repr

namespace Binding

/-- no editor bound yet. -/
def unbound (source : Path) (quantum : Nat) : Binding := ⟨source, quantum, none, false, .idle⟩

/-- what an event leaves behind, the buffer to compile and the annotations to show. -/
structure Reaction where
  binding : Binding
  snapshot : Option Bytes
  push : Option Push
  deriving Repr

/-- whether the bound editor shows this identity. -/
def isBoundTo (b : Binding) (id : Nat) : Bool :=
  match b.bound with
  | some e => e.id == id
  | none => false

/-- the buffer of the bound editor, if an edit waits. -/
def waiting (b : Binding) (buffers : Buffers) : Option Bytes :=
  match b.bound with
  | some e => if b.dirty then some (buffers e.slot) else none
  | none => none

/-- lets go of the bound editor and of the edit that waits. -/
def release (b : Binding) : Binding :=
  match b.bound with
  | some _ => { b with bound := none, dirty := false, debounce := .idle }
  | none => b

/-- the annotations of a list of issues for the bound editor. -/
def push? (b : Binding) (issues : List Issue) : Option Push :=
  b.bound.map fun e => ⟨e.slot, Issue.annotateAll issues⟩

def bind (b : Binding) (editor : Option Editor) : Binding :=
  match editor with
  | some e => if Path.Same e.path b.source then { b with bound := some e } else b
  | none => b

/-- the host shows another editor, or none: the edit that waits is taken from the old one, and
the new one, if it shows the source, is told the current issues. -/
def editorChanged (b : Binding) (buffers : Buffers) (editor : Option Editor)
    (issues : List Issue) : Reaction :=
  let b' := b.release.bind editor
  ⟨b', b.waiting buffers, b'.push? issues⟩

/-- an editor is about to close; any but the bound one is none of our business. -/
def aboutToClose (b : Binding) (buffers : Buffers) (id : Nat) : Reaction :=
  if b.isBoundTo id then ⟨b.release, b.waiting buffers, none⟩ else ⟨b, none, none⟩

/-- the text of an editor changed; only edits of the bound one count. -/
def edited (b : Binding) (id : Nat) (now : Instant) : Binding :=
  if b.isBoundTo id then { b with dirty := true, debounce := b.debounce.restart now b.quantum }
  else b

/-- time passed: an edit whose quiet period is over is taken. -/
def tick (b : Binding) (buffers : Buffers) (now : Instant) : Reaction :=
  let fired := { b with debounce := b.debounce.fire now }
  if b.debounce.due now then
    match b.waiting buffers with
    | some buffer => ⟨{ fired with dirty := false }, some buffer, none⟩
    | none => ⟨fired, none, none⟩
  else ⟨b, none, none⟩

/-- the next moment at which time alone has an effect. -/
def deadline? (b : Binding) : Option Instant := b.debounce.deadline?

end Binding
end Regen
