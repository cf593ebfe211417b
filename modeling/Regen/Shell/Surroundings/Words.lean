import Regen.Shell.Tools.Quoted

/-!
# Arguments in one text

A text can hold several arguments. Blanks part them, quotes keep blanks, and a backslash gives a character another
meaning; a name in braces behind a dollar sign stands for the value of a variable.

* `Words.Part`       what a piece of the text does;
* `Words.partsOf`    the pieces of a text, and what is wrong with it;
* `Words.ofParts`    the arguments;
* `Words.remarks`    what is told about variables.
-/

namespace Regen.Shell.Words

inductive Part where
  | char (c : Char)
  | opens
  | ends
  | value (name : Chars) (text : Option Chars)

inductive Quotes where
  | none
  | single
  | double
  deriving DecidableEq

def isBlank (c : Char) : Bool := c == ' ' || ('\t' ≤ c && c ≤ '\r')

def nameOf? (cs : Chars) : Option Chars :=
  match cs with
  | '\x7b' :: c :: rest =>
    let name := c :: rest.takeWhile fun c => c.isAlphanum || c == '_'
    if (c.isAlpha ∨ c = '_') ∧ (rest.drop (name.length - 1)).head? = some '\x7d' then some name else none
  | _ => none

/-- the character that a letter behind a backslash stands for. -/
def escaped? (c : Char) : Option Char :=
  if "\"#$'\\".toList.contains c then some c else ("fnrtv".toList.zip "\x0c\n\r\t\x0b".toList).lookup c

/-- the pieces of a text, up to what is wrong with it; `isApart` says that no argument has been begun. -/
def partsFrom (lookUp : Chars → Option Chars) : Nat → Quotes → Bool → Chars → List Part × Option String
  | 0, _, _, _ => ([], none)
  | n + 1, quotes, isApart, cs =>
    let on (p : Part) (quotes : Quotes) (isApart : Bool) (cs : Chars) : List Part × Option String :=
      let r := partsFrom lookUp n quotes isApart cs
      (p :: r.1, r.2)
    let wrong (e : String) : List Part × Option String := ([], some e)
    match cs with
    | [] => if quotes = .none then ([], none) else wrong "no terminating quote in -S string"
    | '\'' :: rest =>
      if quotes = .double then on (.char '\'') quotes false rest
      else on .opens (if quotes = .single then .none else .single) false rest
    | '"' :: rest =>
      if quotes = .single then on (.char '"') quotes false rest
      else on .opens (if quotes = .double then .none else .double) false rest
    | '#' :: rest => if isApart then ([], none) else on (.char '#') quotes false rest
    | '$' :: rest =>
      if quotes = .single then on (.char '$') quotes false rest
      else match nameOf? rest with
        | none => wrong ("only $\x7bVARNAME\x7d expansion is supported, error at: " ++ String.ofList cs)
        | some name =>
          let text := lookUp name
          on (.value name text) quotes (isApart && text.isNone) (rest.drop (name.length + 2))
    | '\\' :: rest =>
      let isPlain := quotes = .single ∧ rest.head? ≠ some '\\' ∧ rest.head? ≠ some '\''
      match if isPlain then none else some rest with
      | none => on (.char '\\') quotes false rest
      | some [] => wrong "invalid backslash at end of string in -S"
      | some ('_' :: rest) => if quotes = .double then on (.char ' ') quotes false rest else on .ends quotes true rest
      | some ('c' :: _) =>
        if quotes = .double then wrong "'\\c' must not appear in double-quoted -S string" else ([], none)
      | some (c :: rest) =>
        match escaped? c with
        | some d => on (.char d) quotes false rest
        | none => wrong ("invalid sequence '\\" ++ toString c ++ "' in -S")
    | c :: rest => if isBlank c ∧ quotes = .none then on .ends quotes true rest else on (.char c) quotes false rest

def partsOf (lookUp : Chars → Option Chars) (cs : Chars) : List Part × Option String :=
  partsFrom lookUp (cs.length + 1) .none true cs

/-- the arguments that pieces make; the one that has been begun, if any, stands in front. -/
def ofParts : Option Chars → List Part → List Chars
  | begun, [] => begun.toList
  | begun, .char c :: ps => ofParts (some (begun.getD [] ++ [c])) ps
  | begun, .opens :: ps => ofParts (some (begun.getD [])) ps
  | begun, .ends :: ps => begun.toList ++ ofParts none ps
  | begun, .value _ none :: ps => ofParts begun ps
  | begun, .value _ (some text) :: ps => ofParts (some (begun.getD [] ++ text)) ps

def remarks (ps : List Part) : List Chars :=
  ps.filterMap fun
    | .value name (some text) =>
      some ("expanding $\x7b".toList ++ name ++ "\x7d into ".toList ++ Tools.cited text)
    | .value name none => some ("replacing $\x7b".toList ++ name ++ "\x7d with null string".toList)
    | _ => none

end Regen.Shell.Words
