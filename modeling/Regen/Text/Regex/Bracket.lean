import Regen.Text.Classes
import Regen.Text.Regex

/-!
# Brackets

Between brackets stand characters, ranges of them, and names of classes. A closing bracket that comes first
is a character like others, and so is a dash that comes first or last.

* `Regex.Fault`      what is wrong with an expression that is written down;
* `Regex.bracket`    the characters that a bracket stands for, and what comes after it.
-/

namespace Regen.Regex

inductive Fault where
  | openBracket
  | emptyBracket
  | unknownClass
  | unknownSymbol
  | wrongRange
  | openGroup
  | closedGroup
  | noGroup
  | openBraces
  | wrongBraces
  | nothingRepeated
  | openEscape
  | tooLarge
  deriving DecidableEq

def Fault.message : Fault → String
  | openBracket => "Unmatched [, [^, [:, [., or [="
  | emptyBracket => "Invalid regular expression"
  | unknownClass => "Invalid character class name"
  | unknownSymbol => "Invalid collation character"
  | wrongRange => "Invalid range end"
  | openGroup => "Unmatched ( or \\("
  | closedGroup => "Unmatched ) or \\)"
  | noGroup => "Invalid back reference"
  | openBraces => "Unmatched \\\x7b"
  | wrongBraces => "Invalid content of \\\x7b\\\x7d"
  | nothingRepeated => "Invalid preceding regular expression"
  | openEscape => "Trailing backslash"
  | tooLarge => "Regular expression too big"

inductive Mark where
  | char (c : Char)
  | close
  | dash
  | name (kind : Char)

/-- the next piece of a bracket, and what comes after it. Three dashes count as one that is a character. -/
def mark? : List Char → Option (Mark × List Char)
  | [] => none
  | '[' :: c :: rest => some (if c = ':' ∨ c = '.' ∨ c = '=' then (.name c, rest) else (.char '[', c :: rest))
  | ']' :: rest => some (.close, rest)
  | '-' :: '-' :: '-' :: rest => some (.char '-', rest)
  | '-' :: rest => some (.dash, rest)
  | c :: rest => some (.char c, rest)

/-- what stands before a character and a closing bracket, and what comes after them. -/
def upToMark (mark : Char) : List Char → Option (List Char × List Char)
  | c :: d :: cs =>
    if c = mark ∧ d = ']' then some ([], cs) else (upToMark mark (d :: cs)).map fun r => (c :: r.1, r.2)
  | _ => none

/-- one member of a bracket: a class, or a character that may start a range. -/
inductive Member where
  | named (ranges : List (Char × Char))
  | char (c : Char)

def nameLimit : Nat := 32

/-- the member that a piece starts, and what comes after it. A dash is one at the start, or at the end. -/
def member (dashCounts : Bool) (m : Mark) (rest : List Char) : Except Fault (Member × List Char) :=
  match m with
  | .char c => .ok (.char c, rest)
  | .close => .ok (.char ']', rest)
  | .dash =>
    match dashCounts, mark? rest with
    | true, _ => .ok (.char '-', rest)
    | false, some (.close, _) => .ok (.char '-', rest)
    | false, _ => .error .wrongRange
  | .name kind =>
    match upToMark kind rest with
    | none => .error .openBracket
    | some (name, rest) =>
      if nameLimit ≤ name.length then .error .openBracket
      else if kind = ':' then
        if (Text.classRanges name).isEmpty then .error .unknownClass else .ok (.named (Text.classRanges name), rest)
      else match name with
        | [c] => .ok (if kind = '=' then .named [(c, c)] else .char c, rest)
        | _ => .error .unknownSymbol

def rangeOf (upper : Bool) (c d : Char) : Except Fault (Char × Char) :=
  let (c, d) := if upper then (c.toUpper, d.toUpper) else (c, d)
  if d < c then .error .wrongRange else .ok (c, d)

def members (upper : Bool) : Nat → Bool → Mark → List Char → Except Fault (List (Char × Char) × List Char)
  | 0, _, _, _ => .error .openBracket
  | n + 1, first, m, rest => do
    let (start, rest) ← member first m rest
    let (ranges, rest) ← match start, mark? rest with
      | .named ranges, _ => pure (ranges, rest)
      | .char _, none => throw .openBracket
      | .char c, some (.dash, after) =>
        match mark? after with
        | none => throw .openBracket
        | some (.close, _) => pure ([← rangeOf upper c c], rest)
        | some (m, after) => do
          let (stop, after) ← member true m after
          match stop with
          | .named _ => throw .wrongRange
          | .char d => pure ([← rangeOf upper c d], after)
      | .char c, some _ => pure ([← rangeOf upper c c], rest)
    match mark? rest with
    | none => throw .openBracket
    | some (.close, rest) => return (ranges, rest)
    | some (m, rest) => do
      let (more, rest) ← members upper n false m rest
      return (ranges ++ more, rest)

/-- which characters a bracket stands for, after its opening, and what comes after it; `upper` puts all of
them into capitals. -/
def bracket (upper : Bool) (cs : List Char) : Except Fault (Test × List Char) := do
  let negated := cs.head? = some '^'
  match mark? (if negated then cs.drop 1 else cs) with
  | none => throw .emptyBracket
  | some (m, rest) => do
    let (ranges, rest) ← members upper (cs.length + 1) true m rest
    return (.oneOf negated ranges, rest)

def namesSymbol : List Char → Bool
  | '[' :: c :: cs => c == '.' || c == '=' || namesSymbol (c :: cs)
  | _ :: cs => namesSymbol cs
  | [] => false

def looksLikeClass (cs : List Char) : Bool :=
  let body := if cs.head? = some '^' then cs.drop 1 else cs
  let name := (body.drop 1).take (body.length - 3)
  body.head? == some ':' && body.drop (body.length - 2) == [':', ']'] && name.any (· != ':') &&
    !name.contains '-' && !name.contains '['

end Regen.Regex
