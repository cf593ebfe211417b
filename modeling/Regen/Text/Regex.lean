/-!
# Regular expressions

An expression matches a part of a text: characters one after the other, edges of lines and words between
them, and what a group kept before.

* `Regex`          an expression;
* `Regex.Test`     which characters may stand at a place;
* `Regex.Edge`     an edge of a line, of the text, or of a word.
-/

namespace Regen

namespace Regex

inductive Edge where
  | lineStart
  | lineEnd
  | textStart
  | textEnd
  | wordStart
  | wordEnd
  | word
  | noWord
  deriving DecidableEq, Repr

inductive Test where
  | one (c : Char)
  | any
  | oneOf (negated : Bool) (ranges : List (Char × Char))
  deriving Repr

end Regex

inductive Regex where
  | empty
  | char (t : Regex.Test)
  | edge (e : Regex.Edge)
  | group (n : Nat) (r : Regex)
  | back (n : Nat)
  | followed (a b : Regex)
  | either (a b : Regex)
  | repeated (least : Nat) (most : Option Nat) (r : Regex)
  deriving Repr

namespace Regex

/-- how characters and lines count: upper and lower case as the same, and each line of a text for itself. -/
structure Mode where
  fold : Bool
  lineEnd : Option Char

def Mode.endsLine (m : Mode) (c : Char) : Bool := m.lineEnd.any fun e => c == e || c == '\n'

def isWordChar (c : Char) : Bool := c.isAlphanum || c == '_'

def same (fold : Bool) (a b : Char) : Bool := a == b || (fold && a.toLower == b.toLower)

def isIn (fold : Bool) (ranges : List (Char × Char)) (c : Char) : Bool :=
  ranges.any fun r =>
    (r.1 ≤ c && c ≤ r.2) || (fold && ((r.1 ≤ c.toLower && c.toLower ≤ r.2) || (r.1 ≤ c.toUpper && c.toUpper ≤ r.2)))

/-- whether a character passes a test; where each line counts for itself, a line end passes only if it is
asked for. -/
def Test.passes (m : Mode) (c : Char) : Test → Bool
  | .one d => same m.fold d c
  | .any => !m.endsLine c
  | .oneOf negated ranges => isIn m.fold ranges c != negated && !(negated && m.endsLine c)

def Edge.isBetween (m : Mode) (before after : Option Char) (e : Edge) : Bool :=
  let left := before.any isWordChar
  let right := after.any isWordChar
  match e with
  | .lineStart => before.isNone || (m.lineEnd.isSome && before == m.lineEnd)
  | .lineEnd => after.isNone || (m.lineEnd.isSome && after == m.lineEnd)
  | .textStart => before.isNone
  | .textEnd => after.isNone
  | .wordStart => !left && right
  | .wordEnd => left && !right
  | .word => left != right
  | .noWord => left == right

def backs : Regex → List Nat
  | .back n => [n]
  | .group _ r => r.backs
  | .followed a b => a.backs ++ b.backs
  | .either a b => a.backs ++ b.backs
  | .repeated _ _ r => r.backs
  | .empty | .char _ | .edge _ => []

def literally (text : List Char) : Regex := text.foldr (fun c r => .followed (.char (.one c)) r) .empty

end Regex
end Regen
