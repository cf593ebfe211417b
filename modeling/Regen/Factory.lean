import Regen.Compiler

/-!
# Factories

A factory claims files and makes a compiler for each. Unless it has a rule of its own, it claims
those whose names end in one of its suffixes; then it claims no name that is not UTF-8.

* `Factory`               its name, what it claims, and what it makes of a source;
* `Factory.bySuffix`      the rule of a factory that has none of its own;
* `Factory.create`        the compiler of a source;
* `Factory.ofTemplates`   a factory whose targets lie beside the source and are named after it.
-/

namespace Regen

structure Factory where
  name : String
  claims : Path → Bool
  targets : Path → List Path
  runner : List Path → Runner

namespace Factory

def endsIn (name suffix : Bytes) : Bool := suffix.isSuffixOf name

def bySuffix (suffixes : List String) (source : Path) : Bool :=
  match source.fileName with
  | some name => (Utf8.decode? name).isSome && suffixes.any fun s => endsIn name (Bytes.ofText s)
  | none => false

def create (f : Factory) (number : Nat) (project : ProjectRef) (config : Config) (source : Path)
    (disk : Disk) : Compiler :=
  Compiler.create number project config source (f.targets source) (f.runner (f.targets source)) disk

/-! ## templates -/

/-- what stands for the name of the source in a template. -/
def stemMark : Bytes := Bytes.ofText "\x7bstem\x7d"

/-- a text with each occurrence of a mark replaced, from left to right; `skip` bytes are still
part of the last occurrence. -/
def replaceFrom (mark value : Bytes) : Nat → Bytes → Bytes
  | _, [] => []
  | 0, b :: bs =>
    if mark.isPrefixOf (b :: bs) then value ++ replaceFrom mark value (mark.length - 1) bs
    else b :: replaceFrom mark value 0 bs
  | skip + 1, _ :: bs => replaceFrom mark value skip bs

/-- the stem of a source's file name; empty if it has none or the stem is no text. -/
def stemOf (source : Path) : Bytes :=
  match source.fileStem with
  | some stem => if (Utf8.decode? stem).isSome then stem else []
  | none => []

/-- the target of a template: it lies beside the source. -/
def expand (source : Path) (template : Bytes) : Path :=
  source.withFileName (replaceFrom stemMark (stemOf source) 0 template)

/-- a factory whose targets lie beside the source. -/
def ofTemplates (name : String) (suffixes : List String) (templates : List Bytes)
    (runner : List Path → Runner) : Factory :=
  ⟨name, bySuffix suffixes, fun source => templates.map (expand source), runner⟩

end Factory
end Regen
