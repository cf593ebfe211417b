import Regen.Text.Numeral
import Regen.Text.Regex.Bracket
import Regen.Text.Regex.Matcher

/-!
# Regular expressions written down

There are two ways to write an expression. In the basic one a backslash makes parentheses, braces, bars,
plus signs and question marks special; in the extended one it takes their meaning away. Programs differ in
what they let pass.

* `Regex.Dialect`        a way to write expressions;
* `Regex.Dialect.read`   the expression of a text, or what is wrong with it.
-/

namespace Regen.Regex

structure Dialect where
  extended : Bool
  /-- there are no alternatives, and only stars and braces repeat. -/
  limited : Bool
  needsPiece : Bool
  repeatsOnce : Bool
  keepsParenthesis : Bool
  keepsBraces : Bool
  repeatsEdges : Bool
  fold : Bool

/-! ## tokens -/

inductive Token where
  | char (c : Char)
  | test (t : Test)
  | bracket
  | opens
  | closes
  | back (n : Nat)
  | bar
  | star
  | plus
  | question
  | openBrace
  | closeBrace
  | edge (e : Edge)
  | backslash
  | nothing
  deriving Repr

def escaped? (c : Char) : Option Token :=
  let words := [('a', 'z'), ('A', 'Z'), ('0', '9'), ('_', '_')]
  match c with
  | 'w' => some (.test (.oneOf false words))
  | 'W' => some (.test (.oneOf true words))
  | 's' => some (.test (.oneOf false (Text.classRanges "space".toList)))
  | 'S' => some (.test (.oneOf true (Text.classRanges "space".toList)))
  | 'b' => some (.edge .word)
  | 'B' => some (.edge .noWord)
  | '<' => some (.edge .wordStart)
  | '>' => some (.edge .wordEnd)
  | '\x60' => some (.edge .textStart)
  | '\'' => some (.edge .textEnd)
  | _ => none

/-- the token of a character, with a backslash before it or without, if it is one that a backslash makes
special or ordinary. -/
def Dialect.operator? (d : Dialect) (escaped : Bool) (c : Char) : Option Token :=
  if escaped = d.extended then none
  else match c with
    | '(' => some .opens
    | ')' => some .closes
    | '\x7b' => some .openBrace
    | '\x7d' => some .closeBrace
    | '|' => if d.limited then none else some .bar
    | '+' => if d.limited then none else some .plus
    | '?' => if d.limited then none else some .question
    | _ => none

/-- the next token, and what comes after it. `atStart` says that a caret stands for the start of a line here. -/
def Dialect.token (d : Dialect) (atStart : Bool) (cs : List Char) : Token × List Char :=
  match cs with
  | [] => (.nothing, [])
  | ['\\'] => (.backslash, [])
  | '\\' :: c :: rest =>
    let plain : Token := if c.isDigit ∧ c ≠ '0' then .back (c.toNat - 48) else (escaped? c).getD (.char c)
    ((d.operator? true c).getD plain, rest)
  | c :: rest =>
    let plain : Token := match c with
      | '*' => .star
      | '[' => .bracket
      | '.' => .test .any
      | '^' => if d.extended ∨ atStart then .edge .lineStart else .char c
      | '$' =>
        let isEnd : Bool := match rest with
          | [] => true
          | '\\' :: c :: _ => c == ')' || (c == '|' && !d.limited)
          | _ => false
        if d.extended ∨ isEnd then .edge .lineEnd else .char c
      | _ => .char c
    ((d.operator? false c).getD plain, rest)

/-! ## reading -/

inductive Doubt where
  | idle (sign : String)
  | bareClass

def Doubt.message : Doubt → String
  | idle sign => sign ++ " at start of expression"
  | bareClass => "character class syntax is [[:space:]], not [:space:]"

/-- how far an expression has been read: the token at hand, what comes after it, how many groups there are,
and which of them can be asked for again. -/
structure Reading where
  token : Token
  rest : List Char
  groups : Nat
  complete : List Nat
  isFresh : Bool
  doubts : List Doubt
  namesSymbol : Bool

abbrev Parsing := StateT Reading (Except Fault)

def fetch (d : Dialect) (atStart : Bool) : Parsing Unit :=
  modify fun r => let t := d.token atStart r.rest; { r with token := t.1, rest := t.2 }

def Reading.ends (r : Reading) (depth : Nat) : Bool :=
  match r.token with
  | .bar | .nothing => true
  | .closes => depth != 0
  | _ => false

/-! ## repetitions -/

def repeatLimit : Nat := 32767

/-- a number between braces, as far as a comma or a closing brace; none if something else stands there. The
token that ends it is told, and what comes after it. -/
def Dialect.count (d : Dialect) : Nat → Option (List Char) → List Char → Option (List Char) × Token × List Char
  | 0, _, cs => (none, .nothing, cs)
  | n + 1, digits, cs =>
    match d.token false cs with
    | (.nothing, rest) => (none, .nothing, rest)
    | (.closeBrace, rest) => (digits, .closeBrace, rest)
    | (.char ',', rest) => (digits, .char ',', rest)
    | (.char c, rest) => d.count n (if c.isDigit then digits.map (· ++ [c]) else none) rest
    | (_, rest) => d.count n none rest

/-- how often something is repeated, after the opening brace, and what comes after the braces; nothing, if
the brace stands for itself. -/
def Dialect.bounds (d : Dialect) (cs : List Char) : Except Fault (Option (Nat × Option Nat × List Char)) :=
  let (least, mark, rest) := d.count (cs.length + 1) (some []) cs
  let isComma : Bool := match mark with
    | .char _ => true
    | _ => false
  if least = some [] ∧ ¬ isComma then
    match mark with
    | .closeBrace => .error .wrongBraces
    | _ => if d.keepsBraces then .ok none else .error .openBraces
  else
    let (most, mark, rest) := if isComma then d.count (rest.length + 1) (some []) rest else (least, mark, rest)
    match least, most with
    | some least, some most =>
      let first := Text.decimal least
      let last := if isComma ∧ most.isEmpty then none else some (Text.decimal most)
      match mark with
      | .closeBrace =>
        if last.any (· < first) then .error .wrongBraces
        else if repeatLimit < last.getD first then .error .tooLarge
        else .ok (some (first, last, rest))
      | _ => .error .wrongBraces
    | _, _ =>
      if d.keepsBraces then .ok none
      else match mark with
        | .nothing => .error .openBraces
        | _ => .error .wrongBraces

def repeatedBetween (least : Nat) (most : Option Nat) (r : Option Regex) : Option Regex :=
  if most = some 0 then none else r.map (.repeated least most)

/-- whether what repeats can do so here: if edges can be repeated, it may be that there is nothing else. -/
def mayRepeat (d : Dialect) (sign : String) : Parsing Bool := do
  let s ← get
  if ¬ d.repeatsEdges ∨ ¬ s.isFresh then return true
  else if ¬ d.extended then return false
  else do
    set { s with doubts := .idle sign :: s.doubts }
    return true

def repetitions (d : Dialect) : Nat → Option Regex → Parsing (Option Regex)
  | 0, r => return r
  | n + 1, r => do
    let again (r : Option Regex) : Parsing (Option Regex) := do
      match d.repeatsOnce, (← get).token with
      | true, .star => throw .nothingRepeated
      | true, .openBrace => throw .nothingRepeated
      | _, _ => repetitions d n r
    let simple (sign : String) (least : Nat) (most : Option Nat) : Parsing (Option Regex) := do
      if ← mayRepeat d sign then do
        fetch d false
        again (repeatedBetween least most r)
      else return r
    match (← get).token with
    | .star => simple "*" 0 none
    | .plus => simple "+" 1 none
    | .question => simple "?" 0 (some 1)
    | .openBrace => do
      match ← d.bounds (← get).rest with
      | some (least, most, rest) => do
        if ← mayRepeat d "\x7b...\x7d" then do
          modify fun s => { s with rest := rest, isFresh := false }
          fetch d false
          again (repeatedBetween least most r)
        else return r
      | none => do
        modify fun s => { s with token := .char '\x7b' }
        return r
    | _ => return r

/-! ## expressions -/

def behind : Option Regex → Option Regex → Option Regex
  | some a, some b => some (.followed a b)
  | none, b => b
  | a, none => a

mutual

def alternatives (d : Dialect) (depth : Nat) : Nat → Parsing (Option Regex)
  | 0 => throw .tooLarge
  | n + 1 => do
    let complete := (← get).complete
    modify fun s => { s with isFresh := true }
    let first ← branch d depth n none
    otherBranches d depth complete n first
termination_by structural n => n

/-- the alternatives after some. None of them can ask for groups of another. -/
def otherBranches (d : Dialect) (depth : Nat) (complete : List Nat) : Nat → Option Regex → Parsing (Option Regex)
  | 0, _ => throw .tooLarge
  | n + 1, r => do
    match (← get).token with
    | .bar => do
      fetch d true
      let s ← get
      let other ← if s.ends depth then pure none else do
        set { s with complete := complete, isFresh := true }
        let other ← branch d depth n none
        modify fun t => { t with complete := s.complete ++ t.complete }
        pure other
      otherBranches d depth complete n (some (.either (r.getD .empty) (other.getD .empty)))
    | _ => return r
termination_by structural n => n

/-- pieces one after the other, behind those that were read. There is at least one, if only a bad one. -/
def branch (d : Dialect) (depth : Nat) : Nat → Option Regex → Parsing (Option Regex)
  | 0, _ => throw .tooLarge
  | n + 1, r => do
    let r := behind r (← piece d depth n)
    if (← get).ends depth then return r else branch d depth n r
termination_by structural n => n

def piece (d : Dialect) (depth : Nat) : Nat → Parsing (Option Regex)
  | 0 => throw .tooLarge
  | n + 1 => do
    let s ← get
    let plain (r : Regex) : Parsing (Option Regex) := do
      modify fun s => { s with isFresh := false }
      fetch d false
      repetitions d (s.rest.length + 1) (some r)
    let bare (c : Char) : Parsing (Option Regex) :=
      if d.needsPiece then throw .nothingRepeated
      else if d.extended ∧ d.repeatsEdges then repetitions d (s.rest.length + 2) (some .empty)
      else if d.extended then do
        fetch d false
        piece d depth n
      else plain (.char (.one c))
    match s.token with
    | .char c => plain (.char (.one c))
    | .test t => plain (.char t)
    | .bracket => do
      let (t, rest) ← Regex.bracket (d.fold && !d.repeatsEdges) s.rest
      let read := s.rest.take (s.rest.length - rest.length)
      set { s with
        rest := rest
        doubts := if looksLikeClass read then .bareClass :: s.doubts else s.doubts
        namesSymbol := s.namesSymbol || Regex.namesSymbol read }
      plain (.char t)
    | .opens => do
      let number := s.groups + 1
      set { s with groups := number }
      fetch d true
      let r ← match (← get).token with
        | .closes => pure none
        | _ => alternatives d (depth + 1) n
      match (← get).token with
      | .closes => do
        modify fun t => { t with complete := number :: t.complete }
        plain (.group number (r.getD .empty))
      | _ => throw .openGroup
    | .closes => if d.keepsParenthesis then plain (.char (.one ')')) else throw .closedGroup
    | .back k => if s.complete.contains k then plain (.back k) else throw .noGroup
    | .star => bare '*'
    | .plus => bare '+'
    | .question => bare '?'
    | .openBrace => if d.repeatsOnce then throw .nothingRepeated else bare '\x7b'
    | .closeBrace => plain (.char (.one '\x7d'))
    | .edge e => do
      fetch d false
      if d.repeatsEdges then repetitions d (s.rest.length + 1) (some (.edge e)) else return some (.edge e)
    | .backslash => throw .openEscape
    | .bar => return none
    | .nothing => return none
termination_by structural n => n

end

/-- an expression that was read: how many groups it has, what is doubtful in it, and whether a bracket in it
names a symbol. -/
structure Written where
  regex : Regex
  groups : Nat
  doubts : List Doubt
  namesSymbol : Bool

def Dialect.read (d : Dialect) (text : List Char) : Except Fault Written := do
  let first := d.token true text
  let (r, s) ← (alternatives d 0 (4 * text.length + 8)).run ⟨first.1, first.2, 0, [], true, [], false⟩
  return ⟨r.getD .empty, s.groups, s.doubts.reverse, s.namesSymbol⟩

def Written.matcher (w : Written) (m : Mode) : Matcher := .ofRegex m w.regex w.groups

end Regen.Regex
