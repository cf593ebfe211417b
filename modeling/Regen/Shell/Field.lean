import Regen.Shell.Machine.Descriptors

/-!
# Fields

The result of an expansion is split into fields where the separators say so, but not inside
quotes; a field with wild characters is replaced by the names it stands for.

* `Piece`             a piece of an expanded word;
* `Field.split`       the pieces of an unquoted result;
* `Field.ofPieces`    the fields of an expanded word;
* `Field.names`       what a field stands for.
-/

namespace Regen.Shell

inductive Piece where
  | char (c : Char) (quoted : Bool)
  /-- something was quoted here: there is a field, even if it is empty. -/
  | mark
  | gap
  | stop
  deriving DecidableEq

namespace Field

def quoted (cs : Chars) : List Piece := .mark :: cs.map fun c => .char c true

def plain (cs : Chars) : List Piece := cs.map fun c => .char c false

def split (separators cs : Chars) : List Piece :=
  cs.map fun c =>
    if separators.contains c then if c == ' ' || c == '\t' || c == '\n' then .gap else .stop
    else .char c false

/-- the fields that have ended, the last first, the one that has begun, and whether the last one
was ended by a gap just now. -/
structure Row where
  ended : List (List Marked)
  begun : Option (List Marked)
  gapped : Bool

/-- one more piece; a gap and a stop side by side end one field. -/
def Row.take (r : Row) : Piece → Row
  | .char c q => ⟨r.ended, some ((c, q) :: r.begun.getD []), false⟩
  | .mark => ⟨r.ended, some (r.begun.getD []), false⟩
  | .gap =>
    match r.begun with
    | some f => ⟨f.reverse :: r.ended, none, true⟩
    | none => r
  | .stop =>
    if r.gapped then { r with gapped := false }
    else ⟨(r.begun.getD []).reverse :: r.ended, none, false⟩

def ofPieces (ps : List Piece) : List (List Marked) :=
  let r := ps.foldl Row.take ⟨[], none, false⟩
  r.ended.reverse ++ r.begun.toList.map List.reverse

def marked (ps : List Piece) : List Marked := ps.flatMap fun
  | .char c q => [(c, q)]
  | .gap => [(' ', false)]
  | _ => []

def text (f : List Marked) : Chars := f.map Prod.fst

def isWild (c : Marked) : Bool := !c.2 && (c.1 == '*' || c.1 == '?' || c.1 == '[')

def segments : List Marked → List (List Marked)
  | [] => [[]]
  | c :: cs =>
    if c.1 = '/' then [] :: segments cs
    else match segments cs with
      | s :: ss => (c :: s) :: ss
      | [] => [[c]]

/-- whether a part of a pattern can stand for more than one name: it has a wild character, and a bracket
counts only if one closes it. -/
def isPattern : List Marked → Bool
  | [] => false
  | ('*', false) :: _ => true
  | ('?', false) :: _ => true
  | ('[', false) :: rest =>
    let inside := match rest with
      | ('!', false) :: rest => rest
      | _ => rest
    (inside.drop 1).contains (']', false) || isPattern rest
  | _ :: rest => isPattern rest

def paths (m : Machine) (before : Chars) : List (List Marked) → List Chars
  | [] => []
  | s :: ss =>
    let found :=
      if isPattern s then
        let p := Pattern.ofUnescaped s
        (m.namesIn (if before = [] then ['.'] else before)).filter fun n =>
          Pattern.fits p n && (n.head? != some '.' || (text s).head? == some '.')
      else [text s]
    match ss with
    | [] => (found.map fun n => before ++ n).filter fun p => isPattern s || m.isThere p
    | _ => found.flatMap fun n => paths m (before ++ n ++ ['/']) ss

/-- what a field stands for: the names of its pattern, if the shell looks for them, or itself. -/
def names (m : Machine) (f : List Marked) : List Chars :=
  if f.any isWild ∧ ¬ m.isOn .noglob then
    let parts := segments (Pattern.unescaped f)
    match if parts.any isPattern then paths m [] parts else [] with
    | [] => [text f]
    | ps => ps.mergeSort fun a b => !Bytes.before (bytesOf b) (bytesOf a)
  else [text f]

end Field
end Regen.Shell
