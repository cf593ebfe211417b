import Regen.Shell.Region

/-!
# Reading scripts

A script is read line by line, because the commands before a line that cannot be read are still run,
and because they decide which words are aliases. Quotes and backslashes keep characters from their
special meaning.

* `Reader.parts`      the parts of a word, up to the end of a region;
* `Reader.newline`    a line end, and the here-documents after it;
* `Reader.command`    a command, with what is built around it by reserved words;
* `Reader.line`       the commands of one line;
* `Reader.next`       the first line of what is left of a script.
-/

namespace Regen.Shell
namespace Reader

def specialNames : List String :=
  [".", ":", "break", "continue", "eval", "exec", "exit", "export", "local", "readonly", "return", "set",
   "shift", "times", "trap", "unset"]

def directionOf (operator : String) : Direction :=
  match operator with
  | "<" => .input
  | ">>" => .append
  | "<&" => .duplicate
  | ">&" => .duplicate
  | "<>" => .both
  | ">|" => .overwrite
  | _ => .output

/-- the complaint about quotes, or braces in a here-document, that are not closed. -/
def unclosed : Reader String := fun s =>
  .ok (match s.setting with
    | .script => "Syntax error: Unterminated quoted string"
    | _ => "Syntax error: Missing '\x7d'", s)

/-- the length of an operator at the start of a text; a redirection counts as one. -/
def operatorLength (cs : Chars) : Nat :=
  match redirectMark cs with
  | some (_, _, length) => length
  | none =>
    match [";;", "&&", "||", ";", "&", "|", "(", ")", "\n"].find? fun o => o.toList.isPrefixOf cs with
    | some o => o.length
    | none => 0

mutual

def parts (r : Region) : Nat → Reader Word
  | 0 => complain "Syntax error: too deep"
  | n + 1 => do
    let quoted := r.isQuoted
    match ← peek with
    | [] =>
      match r with
      | .bare => return []
      | .hereDocument => return []
      | .doubleQuotes => complain (← unclosed)
      | .braces true => complain (← unclosed)
      | .braces false => complain "Syntax error: Missing '\x7d'"
      | .expression _ => complain "Syntax error: Missing '))'"
    | c :: rest =>
      if r = .bare ∧ isMeta c then return []
      else if r = .doubleQuotes ∧ c = '"' then do pass 1; return []
      else if (r = .braces true ∨ r = .braces false) ∧ c = '}' then do pass 1; return []
      else match r, c, rest with
      | .expression 0, ')', ')' :: _ => do pass 2; return []
      | .expression d, '(', _ => do
        pass 1
        return addChar c true (← parts (.expression (d + 1)) n)
      | .expression d, ')', _ => do
        pass 1
        return addChar c true (← parts (.expression (d - 1)) n)
      | .expression _, '"', _ => do
        pass 1
        return addChar c true (← parts r n)
      | _, '\\', d :: _ =>
        if d = '\n' then do pass 2; parts r n
        else if quoted ∧ ¬ isProtected r d then do pass 1; return addChar '\\' true (← parts r n)
        else do pass 2; return addChar d true (← parts r n)
      | _, '\'', _ =>
        if quoted then do pass 1; return addChar c true (← parts r n)
        else do
          pass 1
          let text ← takeWhile (· ≠ '\'')
          if ← tryMark "'" then return .text text true :: (← parts r n)
          else complain "Syntax error: Unterminated quoted string"
      | _, '"', _ =>
        if r = .hereDocument then do pass 1; return addChar c true (← parts r n)
        else do
          pass 1
          let inner ← parts .doubleQuotes n
          let inner := if inner.isEmpty then [.text [] true] else inner
          return inner ++ (← parts r n)
      | _, '$', _ => do
        pass 1
        let p ← dollar quoted n
        return p ++ (← parts r n)
      | _, '`', _ => do
        pass 1
        match backquoted quoted rest with
        | none => do
          pass rest.length
          complain "Syntax error: EOF in backquote substitution"
        | some (text, length) =>
          pass length
          let body ← within text (commands true n)
          return .output body quoted :: (← parts r n)
      | _, _, _ => do
        pass 1
        if c = '\n' then startLine
        return addChar c quoted (← parts r n)

def dollar (quoted : Bool) : Nat → Reader Word
  | 0 => complain "Syntax error: too deep"
  | n + 1 => do
    join (fun c => isNameChar c || "\x7b@*#?-$!:=+%".toList.contains c)
    match ← peek with
    | '(' :: '(' :: _ => do
      pass 2
      return [.arithmetic (← parts (.expression 0) n) quoted]
    | '(' :: _ => do
      pass 1
      let body ← enclosed (commands true n)
      if ← tryMark ")" then return [.output body quoted]
      else do
        finishWord n
        unexpected true ")"
    | '{' :: rest => do
      let (name, use, length, more) := braced rest
      modify fun s => { s with rest := rest.drop length }
      if more then
        let word ← parts (.braces (quoted && !use.takesPattern)) n
        return [.parameter name use word quoted]
      else return [.parameter name use [] quoted]
    | c :: _ =>
      if isNameStart c then return [.parameter (← takeWhile isNameChar) .value [] quoted]
      else if c.isDigit ∨ isSpecial c then do
        pass 1
        return [.parameter [c] .value [] quoted]
      else return [.text ['$'] quoted]
    | [] => return [.text ['$'] quoted]

def hereDocuments (marks : List HereMark) : Nat → Reader Unit
  | 0 => complain "Syntax error: too deep"
  | n + 1 => do
    match marks with
    | [] => return
    | mark :: marks => do
      let text ← if mark.quoted then plainText mark else inside mark (parts .hereDocument n)
      modify fun s => { s with passed := (mark.number, text) :: s.passed }
      hereDocuments marks n

def newline : Nat → Reader Unit
  | 0 => complain "Syntax error: too deep"
  | n + 1 => do
    pass 1
    let marks := (← get).pending
    modify fun s => { s with pending := [] }
    hereDocuments marks n

/-- passes over blanks, comments and line ends. -/
def linebreaks : Nat → Reader Unit
  | 0 => complain "Syntax error: too deep"
  | n + 1 => do
    blanks
    if (← peek).head? = some '\n' then
      newline n
      linebreaks n

/-- passes over a word, if one stands at the cursor, but leaves the cursor in front of it, in its last
line. -/
def finishWord : Nat → Reader Unit
  | 0 => complain "Syntax error: too deep"
  | n + 1 => do
    let cs ← peek
    if ¬ cs.isEmpty ∧ ¬ cs.head?.any isMeta ∧ ¬ startsRedirect cs then
      let _ ← parts .bare n
      modify fun s => { s with rest := cs }

def expectMark (word : String) : Nat → Reader Unit
  | 0 => complain "Syntax error: too deep"
  | n + 1 => do
    blanks
    if (← keyword) = word.toList then pass word.length
    else do
      finishWord n
      unexpected true word

def redirect? : Nat → Reader (Option Redirect)
  | 0 => return none
  | n + 1 => do
    match redirectMark (← peek) with
    | none => return none
    | some (descriptor, operator, length) => do
      pass length
      blanks
      let source := descriptor.getD (if operator.startsWith "<" then 0 else 1)
      if (← peek).isEmpty ∨ (← peek).head?.any isMeta ∨ startsRedirect (← peek) then unexpected false ""
      else if operator = "<<" ∨ operator = "<<-" then
        let (word, quoted, length) := delimiter none (← peek)
        pass length
        match ← askText (operator = "<<-") quoted word with
        | some text => return some ⟨source, .here, text⟩
        | none => return some ⟨source, .here, []⟩
      else return some ⟨source, directionOf operator, ← parts .bare n⟩

def redirects : Nat → Reader (List Redirect)
  | 0 => return []
  | n + 1 => do
    replaceAliases true true n
    match ← redirect? n with
    | none => return []
    | some r => return r :: (← redirects n)

/-- the words of a simple command, with its assignments in front and redirections anywhere; or a
function, if parentheses follow a single word. -/
def simpleFrom (assignments : List (Chars × Word)) (words : List Word) (rs : List Redirect)
    (line : Option Nat) : Nat → Reader Command
  | 0 => complain "Syntax error: too deep"
  | n + 1 => do
    replaceAliases false words.isEmpty n
    let here ← lineNumber
    match ← redirect? n with
    | some r => simpleFrom assignments words (rs ++ [r]) (some (line.getD here)) n
    | none =>
      match words, assignmentName (← peek) with
      | [], some name => do
        pass (name.length + 1)
        let value ← parts .bare n
        simpleFrom (assignments ++ [(name, value)]) words rs (some (line.getD (← lineNumber))) n
      | _, _ =>
        match ← peek with
        | [] => return .simple (line.getD here) assignments words rs
        | c :: _ =>
          if c = '(' ∧ words.length = 1 ∧ assignments.isEmpty ∧ rs.isEmpty then do
            pass 1
            blanks
            if !(← tryMark ")") then
              finishWord n
              unexpected false ")"
            match words with
            | [[.text name false]] =>
              if isName name ∧ ¬ specialNames.contains (String.ofList name) then
                linebreaks n
                return .define name (← command n)
              else complain "Syntax error: Bad function name"
            | _ => complain "Syntax error: Bad function name"
          else if isMeta c then return .simple (line.getD here) assignments words rs
          else
            let word ← parts .bare n
            simpleFrom assignments (words ++ [word]) rs (some (line.getD (← lineNumber))) n

def wordList : Nat → Reader (List Word)
  | 0 => return []
  | n + 1 => do
    blanks
    match ← peek with
    | [] => return []
    | c :: _ =>
      if isMeta c ∨ startsRedirect (← peek) then return []
      else
        let word ← parts .bare n
        return word :: (← wordList n)

def patterns : Nat → Reader (List Word)
  | 0 => complain "Syntax error: too deep"
  | n + 1 => do
    blanks
    let mark := operatorLength (← peek)
    pass mark
    let p ← if mark = 0 then parts .bare n else pure []
    blanks
    match ← peek with
    | '|' :: '|' :: _ => unexpected false ")"
    | '|' :: _ => do pass 1; return p :: (← patterns n)
    | ')' :: _ => do pass 1; return [p]
    | _ => do
      finishWord n
      unexpected false ")"

def arms : Nat → Reader (List (List Word × Command))
  | 0 => complain "Syntax error: too deep"
  | n + 1 => do
    linebreaks n
    if plainWord (← peek) = "esac".toList then do pass 4; return []
    else
      let _ ← tryMark "("
      let ps ← patterns n
      let body ← commands true n
      modify fun s => { s with plainAt := none }
      linebreaks n
      if ← tryMark ";;" then return (ps, body) :: (← arms n)
      else if plainWord (← peek) = "esac".toList then do pass 4; return [(ps, body)]
      else do
        finishWord n
        unexpected true ";;"

def conditionalTail : Nat → Reader Command
  | 0 => complain "Syntax error: too deep"
  | n + 1 => do
    blanks
    match String.ofList (← keyword) with
    | "elif" => do
      pass 4
      let test ← commands false n
      expectMark "then" n
      let yes ← commands false n
      return .conditional test yes (← conditionalTail n)
    | "else" => do
      pass 4
      let no ← commands false n
      expectMark "fi" n
      return no
    | _ => do
      expectMark "fi" n
      return .nothing

def loopBody : Nat → Reader Command
  | 0 => complain "Syntax error: too deep"
  | n + 1 => do
    expectMark "do" n
    let body ← commands false n
    expectMark "done" n
    return body

/-- what a reserved word or a parenthesis at the cursor starts, if there is one. -/
def compound? (line : Nat) : Nat → Reader (Option Command)
  | 0 => complain "Syntax error: too deep"
  | n + 1 => do
    match ← peek with
    | '(' :: _ => do
      pass 1
      let body ← commands false n
      blanks
      if ← tryMark ")" then return some (.subshell body)
      else do
        finishWord n
        unexpected true ")"
    | cs =>
      match String.ofList (plainWord cs) with
      | "\x7b" => do
        pass 1
        let body ← commands false n
        expectMark "\x7d" n
        return some body
      | "if" => do
        pass 2
        let test ← commands false n
        expectMark "then" n
        let yes ← commands false n
        return some (.conditional test yes (← conditionalTail n))
      | "while" => do
        pass 5
        let test ← commands false n
        return some (.loop true test (← loopBody n))
      | "until" => do
        pass 5
        let test ← commands false n
        return some (.loop false test (← loopBody n))
      | "for" => do
        pass 3
        blanks
        finishWord n
        let name := plainWord (← peek)
        if !isName name then complain "Syntax error: Bad for loop variable"
        pass name.length
        linebreaks n
        if plainWord (← peek) = "in".toList then
          pass 2
          let words ← wordList n
          match ← peek with
          | ';' :: ';' :: _ => unexpected false ""
          | ';' :: _ => pass 1
          | '\n' :: _ => pure ()
          | _ => unexpected false ""
          linebreaks n
          return some (.each line name (some words) (← loopBody n))
        else
          if !(";;".toList.isPrefixOf (← peek)) then
            let _ ← tryMark ";"
          linebreaks n
          return some (.each line name none (← loopBody n))
      | "case" => do
        pass 4
        blanks
        if (← peek).isEmpty ∨ (← peek).head?.any isMeta ∨ startsRedirect (← peek) then
          unexpected false "word"
        let subject ← parts .bare n
        linebreaks n
        expectMark "in" n
        return some (.choose line subject (← arms n))
      | _ => return none

def command : Nat → Reader Command
  | 0 => complain "Syntax error: too deep"
  | n + 1 => do
    replaceAliases true true n
    let line ← lineNumber
    match ← compound? line n with
    | some c => do
      match ← redirects n with
      | [] => return c
      | rs => do
        modify fun s => { s with plainAt := some s.rest.length }
        return .redirected line c rs
    | none =>
      let cs ← peek
      let starts := startsRedirect cs ∨ ¬ (cs.head?.any isMeta)
      if atCloser cs ∨ ¬ starts ∨ plainWord cs = ['!'] ∨ plainWord cs = ['i', 'n'] then unexpected true ""
      else simpleFrom [] [] [] none n

def bars : Nat → Reader Command
  | 0 => complain "Syntax error: too deep"
  | n + 1 => do
    let c ← command n
    blanks
    match ← peek with
    | '|' :: '|' :: _ => return c
    | '|' :: _ => do
      pass 1
      linebreaks n
      return .pipe c (← bars n)
    | _ => return c

/-- commands joined by bars, with an exclamation mark in front. -/
def pipeline : Nat → Reader Command
  | 0 => complain "Syntax error: too deep"
  | n + 1 => do
    replaceAliases true true n
    if plainWord (← peek) = ['!'] then do
      pass 1
      return .negate (← bars n)
    else bars n

def joined (c : Command) : Nat → Reader Command
  | 0 => return c
  | n + 1 => do
    blanks
    if ← tryMark "&&" then do
      linebreaks n
      joined (.both c (← pipeline n)) n
    else if ← tryMark "||" then do
      linebreaks n
      joined (.either c (← pipeline n)) n
    else return c

/-- a pipeline and what is joined to it, and whether more may follow it: after a separator, or at the
end of a line. -/
def statement : Nat → Reader (Command × Bool)
  | 0 => complain "Syntax error: too deep"
  | n + 1 => do
    let c ← joined (← pipeline n) n
    blanks
    match ← peek with
    | '&' :: _ => do pass 1; return (.background c, true)
    | ';' :: ';' :: _ => return (c, false)
    | ';' :: _ => do pass 1; return (c, true)
    | '\n' :: _ => return (c, true)
    | [] => return (c, true)
    | _ => return (c, false)

def commands (mayBeEmpty : Bool) : Nat → Reader Command
  | 0 => complain "Syntax error: too deep"
  | n + 1 => do
    linebreaks n
    replaceAliases true true n
    if (← peek).isEmpty ∨ (mayBeEmpty ∧ atCloser (← peek)) then return .nothing
    else
      let (c, goesOn) ← statement n
      if goesOn then
        match ← commands true n with
        | .nothing => return c
        | rest => return .sequence c rest
      else return c

def line : Nat → Reader Command
  | 0 => complain "Syntax error: too deep"
  | n + 1 => do
    blanks
    match ← peek with
    | [] => return .nothing
    | '\n' :: _ => do newline n; return .nothing
    | _ => do
      let (c, goesOn) ← statement n
      if goesOn then
        match ← line n with
        | .nothing => return c
        | rest => return .sequence c rest
      else do
        finishWord n
        unexpected true ""

end

def depth (s : Cursor) : Nat :=
  64 + 8 * s.rest.length + s.aliases.foldl (fun n a => n + 64 * a.2.length) 0

def next (s : Cursor) : Except Complaint (Command × Cursor) := twice (line (depth s)) s

def quotedText (text : Chars) : Except Complaint Word :=
  let s := { Cursor.start text with setting := .text }
  (twice (parts .hereDocument (depth s)) s).map Prod.fst

end Reader
end Regen.Shell
