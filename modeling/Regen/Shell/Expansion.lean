import Regen.Shell.Arithmetic
import Regen.Shell.Builtins.Basic
import Regen.Shell.Evaluation
import Regen.Shell.Field

/-!
# Expansion of words

A word is expanded part by part, from the left: tildes, parameters, the output of commands and integer
expressions. Where fields are wanted, unquoted results are split and wild characters replaced.

* `Expansion.Manner`      what is done to the results;
* `Expansion.word`        the pieces of a word;
* `Expansion.fields`      the fields of a word;
* `Expansion.text`        the text of a word that is not split.

What takes the output of a command comes from outside.
-/

namespace Regen.Shell.Expansion

open Run

/-- what is done to the results: they may be split, a tilde may stand after a colon too, and text as it
stands may be split like a result. -/
structure Manner where
  splits : Bool
  colons : Bool
  inner : Bool

/-! ## tildes -/

def homeOf (m : Machine) (name : Chars) : Option Chars :=
  if name = [] then m.get? "HOME".toList
  else if name = "root".toList then some "/root".toList
  else none

def endsName (colons : Bool) (c : Char) : Bool := c == '/' || (colons && c == ':')

/-- the pieces of unquoted text; a tilde at its start or after a colon may stand for a directory.
`followed` says that something else follows in the word. -/
def tildes (m : Machine) (colons followed : Bool) : Bool → Chars → List Piece
  | _, [] => []
  | starts, c :: cs =>
    let rest := tildes m colons followed (colons && c == ':') cs
    if c = '~' ∧ starts then
      let name := cs.takeWhile fun c => !endsName colons c
      if followed ∧ name.length = cs.length then .char c false :: rest
      else match homeOf m name with
        | none => .char c false :: rest
        | some home =>
          (if home = [] then [] else Field.quoted home) ++ rest.drop name.length
    else .char c false :: rest

/-! ## results -/

def result (m : Machine) (how : Manner) (quoted : Bool) (cs : Chars) : List Piece :=
  if quoted then Field.quoted cs else if how.splits then Field.split m.separators cs else Field.plain cs

def joint (m : Machine) : Chars := m.separators.take 1

def arguments (m : Machine) (how : Manner) (quoted star : Bool) : List Piece :=
  if how.splits ∧ ¬ (quoted ∧ star) then
    List.intercalate [.gap] (m.arguments.map fun a => result m how quoted a)
  else if quoted then Field.quoted (List.intercalate (joint m) m.arguments)
  else Field.plain (List.intercalate (joint m) m.arguments)

def isArguments (name : Chars) : Bool := name == ['@'] || name == ['*']

def zeroed (m : Machine) (how : Manner) (quoted : Bool) : Chars → Chars → List Piece
  | done, [] => result m how quoted done.reverse
  | done, c :: cs =>
    if c = '\x00' then result m how quoted done.reverse ++ .gap :: zeroed m how quoted [] cs
    else zeroed m how quoted (c :: done) cs

/-- the text that a pattern is taken from: the value of a parameter; where all arguments are fields, zero
characters stand between them. -/
def subject (m : Machine) (how : Manner) (quoted : Bool) (name : Chars) : Chars :=
  if isArguments name then
    let between := if how.splits ∧ ¬ (quoted ∧ name = ['*']) then ['\x00'] else joint m
    List.intercalate between m.arguments
  else (m.parameter name).getD []

def valueOf (m : Machine) (name : Chars) : Option Chars :=
  if isArguments name then some (List.intercalate [' '] m.arguments) else m.parameter name

def isThere (orEmpty : Bool) : Option Chars → Bool
  | some v => !(orEmpty && v.isEmpty)
  | none => false

def textOf (ps : List Piece) : Chars := Field.text (Field.marked ps)

/-! ## words -/

mutual

def part (take : Command → Eval Chars) (how : Manner) (first followed : Bool) : Part → Eval (List Piece)
  | .text cs true => return Field.quoted cs
  | .text cs false => do
    let m ← get
    return (tildes m how.colons followed first cs).flatMap fun
      | .char c false => if how.splits && how.inner then Field.split m.separators [c] else [.char c false]
      | p => [p]
  | .output c quoted => do
    let m ← get
    let cs ← take c
    return result m how quoted cs
  | .arithmetic expression quoted => do
    let cs := textOf (← word take ⟨false, false, false⟩ false expression)
    match Arithmetic.value (← get) cs with
    | .ok (v, m) => do
      set m
      return result m how quoted (toString v).toList
    | .error .overflow => throw (.killed 8)
    | .error e => refuse (e.message cs)
  | .parameter name use w quoted => do
    let m ← get
    let value := valueOf m name
    let shown := if isArguments name then arguments m how quoted (name = ['*'])
      else result m how quoted (value.getD [])
    if m.isOn .nounset ∧ use.needsValue ∧ value.isNone ∧ ¬ isArguments name then
      refuse (name ++ ": parameter not set".toList)
    match use with
    | .unknown => refuse "Bad substitution".toList
    | .value => return shown
    | .length => return result m how quoted (Nat.toDigits 10 (value.getD []).length)
    | .otherwise orEmpty =>
      if isThere orEmpty value then return shown
      else return (if quoted then [.mark] else []) ++ (← word take { how with inner := true } true w)
    | .instead orEmpty =>
      if isThere orEmpty value then
        return (if quoted then [.mark] else []) ++ (← word take { how with inner := true } true w)
      else return if quoted then [.mark] else []
    | .assign orEmpty =>
      if isThere orEmpty value then return shown
      else
        let text := textOf (← word take { how with splits := false } true w)
        match Builtins.assign (← get) name text with
        | .ok m => do
          set m
          return result m how quoted text
        | .error e => refuse e
    | .demand orEmpty =>
      if isThere orEmpty value then return shown
      else
        let text := textOf (← word take { how with splits := false } true w)
        let unset := if orEmpty then "parameter not set or null" else "parameter not set"
        refuse (name ++ ": ".toList ++ if w.isEmpty then unset.toList else text)
    | .trimStart longest =>
      if value.isNone then return shown
      let pattern := Pattern.ofChars (Field.marked (← word take { how with splits := false } true w))
      return zeroed m how quoted [] (Pattern.trimStart longest pattern (subject m how quoted name))
    | .trimEnd longest =>
      if value.isNone then return shown
      let pattern := Pattern.ofChars (Field.marked (← word take { how with splits := false } true w))
      return zeroed m how quoted [] (Pattern.trimEnd longest pattern (subject m how quoted name))

def word (take : Command → Eval Chars) (how : Manner) (first : Bool) : List Part → Eval (List Piece)
  | [] => return []
  | p :: ps => do
    let here ← part take how first (!ps.isEmpty) p
    return here ++ (← word take how false ps)

end

def fields (take : Command → Eval Chars) (w : Word) : Eval (List Chars) := do
  let ps ← word take ⟨true, false, false⟩ true w
  let m ← get
  return (Field.ofPieces ps).flatMap (Field.names m)

def text (take : Command → Eval Chars) (colons : Bool) (w : Word) : Eval Chars := do
  return textOf (← word take ⟨false, colons, false⟩ true w)

def pattern (take : Command → Eval Chars) (w : Word) : Eval (List Marked) := do
  return Field.marked (← word take ⟨false, false, false⟩ true w)

end Regen.Shell.Expansion
