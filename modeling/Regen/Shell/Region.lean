import Regen.Shell.HereDocument
import Regen.Text.Numeral

/-!
# Regions of a script

Where a part of a script ends, and what a backslash protects in it, depends on the quotes and the
braces around it. The marks of expansions, assignments and redirections are told apart here.

* `Reader.Region`           where the parts of a word end;
* `Reader.useOf`            the use of a parameter that a mark stands for;
* `Reader.braced`           the parameter in braces;
* `Reader.redirectMark`     a redirection at the cursor;
* `Reader.plainWord`        a bare word at the start of a text;
* `Reader.keyword`          the word at the cursor that may be a reserved one;
* `Reader.replaceAliases`   puts the value of an alias in place of its name.
-/

namespace Regen.Shell.Reader

inductive Region where
  | bare
  | doubleQuotes
  | braces (quoted : Bool)
  | hereDocument
  | expression (depth : Nat)
  deriving DecidableEq

def Region.isQuoted : Region → Bool
  | .bare => false
  | .braces quoted => quoted
  | _ => true

def isProtected (r : Region) (c : Char) : Bool :=
  c == '$' || c == '`' || c == '\\' || (c == '"' && r != .hereDocument) ||
    (c == '}' && r == .braces true)

def backquoted (quoted : Bool) : Chars → Option (Chars × Nat)
  | [] => none
  | '`' :: _ => some ([], 1)
  | '\\' :: c :: cs =>
    (backquoted quoted cs).map fun r =>
      if c = '\n' then (r.1, r.2 + 2)
      else if c = '`' ∨ c = '\\' ∨ c = '$' ∨ (c = '"' ∧ quoted) then (c :: r.1, r.2 + 2)
      else ('\\' :: c :: r.1, r.2 + 2)
  | c :: cs => (backquoted quoted cs).map fun r => (c :: r.1, r.2 + 1)

def addChar (c : Char) (quoted : Bool) : Word → Word
  | .text cs q :: ps => if q = quoted then .text (c :: cs) q :: ps else .text [c] quoted :: .text cs q :: ps
  | ps => .text [c] quoted :: ps

/-! ## parameters -/

def useOf : Chars → Option (Use × Nat)
  | ':' :: '-' :: _ => some (.otherwise true, 2)
  | ':' :: '=' :: _ => some (.assign true, 2)
  | ':' :: '?' :: _ => some (.demand true, 2)
  | ':' :: '+' :: _ => some (.instead true, 2)
  | ':' :: '}' :: _ => some (.value, 2)
  | '-' :: _ => some (.otherwise false, 1)
  | '=' :: _ => some (.assign false, 1)
  | '?' :: _ => some (.demand false, 1)
  | '+' :: _ => some (.instead false, 1)
  | '%' :: '%' :: _ => some (.trimEnd true, 2)
  | '#' :: '#' :: _ => some (.trimStart true, 2)
  | '%' :: _ => some (.trimEnd false, 1)
  | '#' :: _ => some (.trimStart false, 1)
  | _ => none

/-- the length of the name of a parameter at the start of a text; none if there is no name. -/
def parameterLength (cs : Chars) : Option Nat :=
  match cs with
  | c :: _ =>
    if isNameStart c then some (cs.takeWhile isNameChar).length
    else if c.isDigit then some (cs.takeWhile Char.isDigit).length
    else if isSpecial c then some 1
    else none
  | [] => none

/-- the parameter after an opening brace and its use, the length of both, and whether a word and the
closing brace are still to come. A number sign asks for a length only where a name and the closing
brace follow it. -/
def braced (cs : Chars) : Chars × Use × Nat × Bool :=
  let plain : Chars × Use × Nat × Bool :=
    match parameterLength cs with
    | none => ([], .unknown, if cs.head? = some '}' then 0 else 1, true)
    | some n =>
      let name := cs.take n
      let after := cs.drop n
      if after.head? = some '}' then (name, .value, n + 1, false)
      else match useOf after with
        | some (use, length) => (name, use, n + length, true)
        | none => (name, .unknown, n + if after.head? = some ':' then 2 else 1, true)
  match cs with
  | '#' :: rest =>
    let length : Chars × Use × Nat × Bool :=
      match parameterLength rest with
      | some n =>
        if (rest.drop n).head? = some '}' then (rest.take n, .length, n + 2, false)
        else (rest.take n, .unknown, n + 1, true)
      | none => ([], .unknown, 2, true)
    match rest with
    | c :: d :: _ => if isNameChar c then length else if d = '}' ∧ c ≠ '}' then length else plain
    | _ => plain
  | _ => plain

/-! ## words -/

def plainWord (cs : Chars) : Chars :=
  let w := cs.takeWhile fun c => !isMeta c
  if w.any fun c => "\"'\\$`".toList.contains c then [] else w

def keyword : Reader Chars := do
  if ← isPlain then return [] else return plainWord (← peek)

def closers : List String := ["then", "else", "elif", "fi", "do", "done", "esac", "\x7d"]

def atCloser (cs : Chars) : Bool :=
  match cs with
  | [] => true
  | ')' :: _ => true
  | ';' :: ';' :: _ => true
  | _ => closers.contains (String.ofList (plainWord cs))

/-- the name of an assignment's left side, if one stands at the start of a text. -/
def assignmentName (cs : Chars) : Option Chars :=
  let name := cs.takeWhile isNameChar
  if isName name ∧ (cs.drop name.length).head? = some '=' then some name else none

def redirectMark (cs : Chars) : Option (Option Nat × String × Nat) :=
  if startsRedirect cs then
    let digits := cs.takeWhile Char.isDigit
    let descriptor := if digits = [] then none else some (Text.decimal digits)
    let operators := ["<<-", "<<", "<&", ">>", ">&", ">|", "<>", "<", ">"]
    (operators.find? fun o => o.toList.isPrefixOf (cs.drop digits.length)).map fun o =>
      (descriptor, o, digits.length + o.length)
  else none

/-! ## aliases -/

/-- puts the value of an alias in place of its name, as long as one stands here: at the start of a
command, and after a value that ends in a blank. Reserved words at the start of a command are none,
and neither is a name inside its own value. -/
def replaceAliases (atStart allowed : Bool) : Nat → Reader Unit
  | 0 => return
  | n + 1 => do
    blanks
    let s ← get
    let (ended, inside) := s.expanding.partition fun e => decide (s.rest.length ≤ e.left)
    set { s with expanding := inside }
    let allowed := allowed || ended.any Expanding.goesOn
    let word := plainWord s.rest
    if allowed ∧ word ≠ [] ∧ ¬ (atStart ∧ reserved.contains (String.ofList word)) then
      match s.aliases.lookup word with
      | none => return
      | some value =>
        if inside.any fun e => e.name == word then return
        else
          let after := s.rest.drop word.length
          let blank := value.getLast? = some ' ' ∨ value.getLast? = some '\t'
          set { s with
            rest := value ++ after
            expanding := ⟨word, after.length, blank⟩ :: inside }
          replaceAliases atStart allowed n

end Regen.Shell.Reader
