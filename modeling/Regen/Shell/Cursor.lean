import Regen.Shell.Syntax

/-!
# A place in a script

A script is read from the front. The cursor knows what is left and the number of the line, so that
a complaint can name it; it also knows the words that stand for other text, whose text it is in, and
the here-documents that the line asked for.

* `Cursor`               what is left of a script;
* `Reader`               reads from a script, or stops with a complaint;
* `Reader.isPlain`       whether a reserved word counts as a word here;
* `Reader.unexpected`    the complaint about what stands at the cursor.
-/

namespace Regen.Shell

structure Complaint where
  line : Nat
  message : String

/-- an alias whose value is being read: how much text is left where the value ends, and whether the
word after it may be an alias too. -/
structure Expanding where
  name : Chars
  left : Nat
  goesOn : Bool

/-- what a redirection says of its here-document: the how manyth it is, whether tabs at the start of
lines go, whether its text is kept as it stands, and the line that ends it. -/
structure HereMark where
  number : Nat
  stripsTabs : Bool
  quoted : Bool
  delimiter : Chars

inductive Setting where
  | script
  | text
  | hereDocument (mark : HereMark)

structure Cursor where
  rest : Chars
  line : Nat
  setting : Setting
  /-- what comes after the here-document that is being read, once its end has been met. -/
  after : Chars
  asked : Nat
  pending : List HereMark
  passed : List (Nat × Word)
  known : List (Nat × Word)
  aliases : List (Chars × Chars)
  expanding : List Expanding
  /-- how much text is left where a reserved word counts as a word, because redirections of a command
  stand in front of it. -/
  plainAt : Option Nat

def Cursor.start (text : Chars) : Cursor := ⟨text, 1, .script, [], 0, [], [], [], [], [], none⟩

abbrev Reader := StateT Cursor (Except Complaint)

namespace Reader

/-! ## characters -/

def isNameStart (c : Char) : Bool := c.isAlpha || c == '_'

def isNameChar (c : Char) : Bool := c.isAlphanum || c == '_'

def isName (cs : Chars) : Bool :=
  match cs with
  | c :: cs => isNameStart c && cs.all isNameChar
  | [] => false

def isMeta (c : Char) : Bool := " \t\n;&|<>()".toList.contains c

def isSpecial (c : Char) : Bool := "@*#?-$!".toList.contains c

def peek : Reader Chars := fun s => .ok (s.rest, s)

def pass (n : Nat) : Reader Unit := fun s =>
  .ok ((), { s with rest := s.rest.drop n, line := s.line + (s.rest.take n).count '\n' })

/-- the start of a text, as long as its characters are of a kind, without the backslashes that join
lines there; and how many lines they join. -/
def joinedFront (p : Char → Bool) : Chars → Chars × Nat
  | '\\' :: '\n' :: cs => let r := joinedFront p cs; (r.1, r.2 + 1)
  | c :: cs => if p c then let r := joinedFront p cs; (c :: r.1, r.2) else (c :: cs, 0)
  | [] => ([], 0)

def join (p : Char → Bool) : Reader Unit := fun s =>
  let r := joinedFront p s.rest
  .ok ((), { s with rest := r.1, line := s.line + r.2 })

def lineNumber : Reader Nat := fun s => .ok (s.line, s)

def complain {α : Type} (message : String) : Reader α := fun s => .error ⟨s.line, message⟩

def takeWhile (p : Char → Bool) : Reader Chars := do
  let cs := (← peek).takeWhile p
  pass cs.length
  return cs

def tryMark (mark : String) : Reader Bool := do
  if mark.toList.isPrefixOf (← peek) then
    pass mark.length
    return true
  else return false

/-- the blanks of a line and a comment; a backslash at the end of a line joins it to the next. -/
def blanksLength : Chars → Nat
  | ' ' :: cs => blanksLength cs + 1
  | '\t' :: cs => blanksLength cs + 1
  | '\\' :: '\n' :: cs => blanksLength cs + 2
  | '#' :: cs => (cs.takeWhile (· ≠ '\n')).length + 1
  | _ => 0

/-- blanks and a comment, up to a mark whose lines are joined. -/
def blanks : Reader Unit := do
  pass (blanksLength (← peek))
  join ("&|;<>-".toList.contains ·)

def reserved : List String :=
  ["!", "\x7b", "\x7d", "case", "do", "done", "elif", "else", "esac", "fi", "for", "if", "in", "then",
   "until", "while"]

/-- whether a redirection stands at the start of a text; one digit may name its descriptor. -/
def startsRedirect : Chars → Bool
  | '<' :: _ => true
  | '>' :: _ => true
  | c :: d :: _ => c.isDigit && (d == '<' || d == '>')
  | _ => false

def isPlain : Reader Bool := fun s => .ok (s.plainAt == some s.rest.length, s)

/-- what stands at the start of a text, for a complaint; reserved words may count as words. -/
def tokenName (keywords : Bool) (rest : Chars) : String :=
  match rest with
  | [] => "end of file"
  | '\n' :: _ => "newline"
  | ';' :: ';' :: _ => "\";;\""
  | '&' :: '&' :: _ => "\"&&\""
  | '|' :: '|' :: _ => "\"||\""
  | c :: _ =>
    if startsRedirect rest then "redirection"
    else
      let word := if isMeta c then toString c else String.ofList (rest.takeWhile fun c => !isMeta c)
      if isMeta c ∨ (keywords ∧ reserved.contains word) then "\"" ++ word ++ "\"" else "word"

/-- the complaint about what stands at the cursor, and what should stand there instead. -/
def unexpected {α : Type} (keywords : Bool) (expecting : String) : Reader α := do
  let name := tokenName (keywords && !(← isPlain)) (← peek)
  if name = "newline" then pass 1
  complain ("Syntax error: " ++ name ++ " unexpected" ++
    if expecting = "" then ""
    else if expecting = "word" then " (expecting word)"
    else " (expecting \"" ++ expecting ++ "\")")

end Reader
end Regen.Shell
