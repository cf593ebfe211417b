import Regen.Shell.Format
import Regen.Shell.Tools.Versions
import Regen.Text.Regex.Reader

/-!
# Scripts of edits

An edit changes the line at hand, or writes something, on the lines that its addresses stand for. A
script is a list of edits; braces and labels are edits too, which lead to other places of the script.

* `Edit`              an edit with its addresses;
* `Edit.readScript`   the edits of a script, or what is wrong with it and where.
-/

namespace Regen.Shell

inductive Address where
  | line (n : Nat)
  | last
  | every (first step : Nat)
  | matching (r : Option Regex.Matcher)
  | more (n : Nat)
  | multiple (n : Nat)

inductive Insert where
  | text (cs : Chars)
  | kept (n : Nat)
  | case (letter : Char)

inductive EditAction where
  | openBrace
  | closeBrace
  | label (name : Chars)
  | branch (condition : Char) (label : Chars)
  | substitute (r : Option Regex.Matcher) (inserts : List Insert) (all : Bool) (nth : Nat) (shows : Option Bool)
      (runs : Bool) (file : Option Chars)
  /-- runs a text with a shell, or the line at hand, and takes what comes of it. -/
  | execute (text : Option Chars)
  | exchange (table : List (Char × Char))
  | append (text : Chars)
  | insert (text : Chars)
  | change (text : Chars)
  | readFile (name : Chars)
  | readLine (name : Chars)
  | writeFile (name : Chars) (onlyFirst : Bool)
  /-- the line at hand with what cannot be seen in it made visible, up to a width. -/
  | display (width : Option Nat)
  | quit (shows : Bool) (status : Nat)
  | versed
  | plain (letter : Char)

structure Edit where
  first : Option Address
  second : Option Address
  others : Bool
  action : EditAction

namespace Edit

/-- what is wrong with a script, and how many characters are left there; or a failure that is told without its
place. -/
structure Mistake where
  left : Nat
  message : String
  isPlaced : Bool

abbrev Reading := Except Mistake

def wrong {α : Type} (rest : Chars) (message : String) : Reading α := .error ⟨rest.length, message, true⟩

def skipBlanks (cs : Chars) : Chars := cs.dropWhile fun c => c == ' ' || c == '\t'

/-- whether a character is a blank or ends a line or a page. -/
def isSpace (c : Char) : Bool := c == ' ' || ('\t' ≤ c && c ≤ '\r')

def natural (cs : Chars) : Nat × Chars :=
  let digits := cs.takeWhile Char.isDigit
  (Text.decimal digits, cs.drop digits.length)

/-- the rest of a bracket of an expression, and what comes after it; none if it is not closed in this line.
A closing bracket that comes first is a member. -/
def bracket? : Nat → Bool → Chars → Option (Chars × Chars)
  | 0, _, _ => none
  | n + 1, first, cs =>
    let more (front rest : Chars) : Option (Chars × Chars) :=
      (bracket? n false rest).map fun r => (front ++ r.1, r.2)
    match cs with
    | [] => none
    | '\n' :: _ => none
    | '\\' :: 'n' :: cs => more ['\n'] cs
    | '[' :: c :: cs =>
      if c = ':' ∨ c = '.' ∨ c = '=' then do
        let (name, rest) ← Regex.upToMark c cs
        more ('[' :: c :: name ++ [c, ']']) rest
      else more ['['] (c :: cs)
    | c :: cs => if c = ']' ∧ ¬ first then some ([']'], cs) else more [c] cs

/-- the text up to a mark, and what comes after it; none if it does not come in this line. A backslash
takes the meaning of the mark away, and so does a bracket of an expression. -/
def upTo? (mark : Char) (isRegex : Bool) : Nat → Chars → Option (Chars × Chars)
  | 0, _ => none
  | n + 1, cs =>
    let more (front rest : Chars) : Option (Chars × Chars) :=
      (upTo? mark isRegex n rest).map fun r => (front ++ r.1, r.2)
    match cs with
    | [] => none
    | '\\' :: c :: cs =>
      more (if c = 'n' ∧ isRegex ∧ mark ≠ 'n' then ['\n'] else if c = '\n' then [c]
        else if c = mark ∧ ¬ (¬ isRegex ∧ c = '&') then [c] else ['\\', c]) cs
    | c :: cs =>
      if c = mark then some ([], cs) else if c = '\n' then none
      else if c = '[' ∧ isRegex then do
        let start := if cs.head? = some '^' then ['[', '^'] else ['[']
        let rest := cs.drop (start.length - 1)
        let (members, rest) ← bracket? (rest.length + 1) true rest
        more (start ++ members) rest
      else more [c] cs

/-- the character that a number in a base stands for, of so many digits at most, after its letter. -/
def numbered? (base most : Nat) (cs : Chars) : Option (Char × Nat) :=
  let digits := (cs.take most).takeWhile fun c => (Numeral.digit? base c).isSome
  if digits.isEmpty then none
  else some (Char.ofNat ((Numeral.digits base digits 0).1 % 256), digits.length + 1)

/-- the character that stands after a backslash, and how many characters it takes. -/
def control? : Chars → Option (Char × Nat)
  | 'a' :: _ => some ('\x07', 1)
  | 'f' :: _ => some ('\x0c', 1)
  | 'r' :: _ => some ('\r', 1)
  | 't' :: _ => some ('\t', 1)
  | 'v' :: _ => some ('\x0b', 1)
  | 'x' :: cs => numbered? 16 2 cs
  | 'o' :: cs => numbered? 8 3 cs
  | 'd' :: cs => numbered? 10 3 cs
  | 'c' :: '\\' :: _ => some ('\x1c', 3)
  | 'c' :: c :: _ => some (Char.ofNat (Nat.xor c.toUpper.toNat 64), 2)
  | ['c'] => some ('\\', 1)
  | _ => none

/-- whether a text has a backslash in it that another escape should read, and that starts one itself. -/
def nestsEscapes : Chars → Bool
  | '\\' :: 'c' :: '\\' :: c :: cs => c != '\\' || nestsEscapes cs
  | '\\' :: _ :: cs => nestsEscapes cs
  | _ :: cs => nestsEscapes cs
  | [] => false

/-- a text in front of another with the characters in it that are given by letters and numbers; those that mean
something keep a backslash. `other` says what stands for other escapes. -/
def controlled (special : String) (other : Chars → Chars) (cs rest : Chars) : Reading Chars :=
  if nestsEscapes cs then wrong rest "recursive escaping after \\c not allowed"
  else .ok (Escape.read (fun cs =>
    match control? cs with
    | some (c, n) =>
      (some (if special.toList.contains c ∧ ¬ (cs.length = 1) then ['\\', c] else [c]), n)
    | none => (some (other (cs.take 1)), 1)) (cs.length + 1) cs).1

def withControls (special : String) (cs rest : Chars) : Reading Chars :=
  controlled special (fun c => '\\' :: c) cs rest

structure Manner where
  extended : Bool
  lineEnd : Char
  sandboxed : Bool

def dialect (extended fold : Bool) : Regex.Dialect where
  extended := extended
  limited := false
  needsPiece := extended
  repeatsOnce := !extended
  keepsParenthesis := false
  keepsBraces := false
  repeatsEdges := false
  fold := fold

/-- the expression of a text made ready; none if it is empty. -/
def regexOf (w : Manner) (mode : Regex.Mode) (text rest : Chars) : Reading (Option Regex.Matcher) :=
  if text.isEmpty then
    if mode.fold ∨ mode.lineEnd.isSome then wrong rest "cannot specify modifiers on empty regexp" else .ok none
  else do
    match (dialect w.extended mode.fold).read (← withControls "\\" text rest) with
    | .ok r =>
      match r.doubts with
      | [] => return some (r.matcher mode)
      | d :: _ => throw ⟨rest.length, d.message, false⟩
    | .error e => wrong rest e.message

/-! ## addresses -/

/-- what letters after an expression say of how it matches, and what comes after them. -/
def modifiers (w : Manner) (m : Regex.Mode) : Chars → Regex.Mode × Chars
  | [] => (m, [])
  | c :: rest =>
    if c = ' ' ∨ c = '\t' then modifiers w m rest
    else if c = 'I' then modifiers w { m with fold := true } rest
    else if c = 'M' then modifiers w { m with lineEnd := some w.lineEnd } rest
    else (m, c :: rest)

def address? (w : Manner) (second : Bool) (cs : Chars) : Reading (Option Address × Chars) :=
  let matching (mark : Char) (cs : Chars) : Reading (Option Address × Chars) :=
    match upTo? mark true (cs.length + 1) cs with
    | none => wrong [] "unterminated address regex"
    | some (text, rest) => do
      let (mode, rest) := modifiers w ⟨false, none⟩ rest
      return (some (.matching (← regexOf w mode text rest)), rest)
  match cs with
  | '$' :: rest => .ok (some .last, rest)
  | '/' :: rest => matching '/' rest
  | '\\' :: c :: rest => matching c rest
  | '+' :: rest =>
    if second then let (n, rest) := natural rest; .ok (some (.more n), rest) else .ok (none, cs)
  | '~' :: rest =>
    if second then let (n, rest) := natural rest; .ok (some (.multiple n), rest) else .ok (none, cs)
  | c :: _ =>
    if ¬ c.isDigit then .ok (none, cs)
    else
      let (n, rest) := natural cs
      match skipBlanks rest with
      | '~' :: step => if second then .ok (some (.line n), rest)
          else let (k, rest) := natural (skipBlanks step); .ok (some (if k = 0 then .line n else .every n k), rest)
      | _ => .ok (some (.line n), rest)
  | [] => .ok (none, cs)

/-! ## what edits do -/

def ended (cs : Chars) : Reading Chars :=
  match skipBlanks cs with
  | [] => .ok []
  | c :: rest =>
    if c = '\n' ∨ c = ';' then .ok rest
    else if c = '}' ∨ c = '#' then .ok (c :: rest)
    else wrong rest "extra characters after command"

def inserts : Chars → List Insert
  | [] => []
  | '\\' :: c :: cs =>
    if c.isDigit then .kept (c.toNat - 48) :: inserts cs
    else if "LUEul".toList.contains c then .case c :: inserts cs
    else .text [if c = 'n' then '\n' else c] :: inserts cs
  | '&' :: cs => .kept 0 :: inserts cs
  | c :: cs => .text [c] :: inserts cs

def sandboxed : String := "e/r/w commands disabled in sandbox mode"

structure Flags where
  all : Bool
  nth : Option Nat
  shows : Option Bool
  runs : Bool
  mode : Regex.Mode
  file : Option Chars

def fileName (rest : Chars) : Reading (Chars × Chars) :=
  let name := (skipBlanks rest).takeWhile (· ≠ '\n')
  if name.isEmpty then wrong rest "missing filename in r/R/w/W commands"
  else .ok (name, (skipBlanks rest).drop name.length)

def flags (w : Manner) : Nat → Flags → Chars → Reading (Flags × Chars)
  | 0, f, cs => .ok (f, cs)
  | n + 1, f, cs =>
    match cs with
    | [] => .ok (f, [])
    | c :: rest =>
      match c with
      | 'g' => if f.all then wrong rest "multiple \x60g' options to \x60s' command"
          else flags w n { f with all := true } rest
      | 'p' => if f.shows.isSome then wrong rest "multiple \x60p' options to \x60s' command"
          else flags w n { f with shows := some f.runs } rest
      | 'e' => if w.sandboxed then wrong rest sandboxed else flags w n { f with runs := true } rest
      | 'i' => flags w n { f with mode := { f.mode with fold := true } } rest
      | 'I' => flags w n { f with mode := { f.mode with fold := true } } rest
      | 'm' => flags w n { f with mode := { f.mode with lineEnd := some w.lineEnd } } rest
      | 'M' => flags w n { f with mode := { f.mode with lineEnd := some w.lineEnd } } rest
      | 'w' => do
        if w.sandboxed then wrong rest sandboxed
        let (name, after) ← fileName rest
        return ({ f with file := some name }, after)
      | '}' => .ok (f, cs)
      | '#' => .ok (f, cs)
      | '\n' => .ok (f, rest)
      | ';' => .ok (f, rest)
      | ' ' => flags w n f rest
      | _ =>
        if c.isDigit then
          let (k, after) := natural cs
          if f.nth.isSome then wrong rest "multiple number options to \x60s' command"
          else if k = 0 then wrong after "number option to \x60s' command may not be zero"
          else flags w n { f with nth := some k } after
        else wrong rest "unknown option to \x60s'"

def substitution (w : Manner) (cs : Chars) : Reading (EditAction × Chars) :=
  let unended : Mistake := ⟨0, "unterminated \x60s' command", true⟩
  match cs with
  | [] => .error unended
  | mark :: cs =>
    match upTo? mark true (cs.length + 1) cs with
    | none => .error unended
    | some (text, cs) =>
      match upTo? mark false (cs.length + 1) cs with
      | none => .error unended
      | some (new, cs) => do
        let (f, rest) ← flags w (cs.length + 1) ⟨false, none, none, false, ⟨false, none⟩, none⟩ cs
        let r ← regexOf w f.mode text rest
        let parts := inserts (← withControls "&\\" new rest)
        let most := parts.foldl (fun k p => match p with | .kept n => max k n | _ => k) 0
        if r.any (·.groups < most) then
          wrong rest ("invalid reference \\" ++ toString most ++ " on \x60s' command's RHS")
        else return (.substitute r parts f.all (f.nth.getD 1) f.shows f.runs f.file, rest)

/-- a text for `y` with its backslashes read. -/
def unescaped : Chars → Chars
  | '\\' :: '\\' :: cs => '\\' :: unescaped cs
  | '\\' :: 'n' :: cs => '\n' :: unescaped cs
  | '\\' :: c :: cs => c :: unescaped cs
  | c :: cs => c :: unescaped cs
  | [] => []

def exchange (cs : Chars) : Reading (EditAction × Chars) :=
  let unended : Mistake := ⟨0, "unterminated \x60y' command", true⟩
  match cs with
  | [] => .error unended
  | mark :: cs =>
    match upTo? mark false (cs.length + 1) cs with
    | none => .error unended
    | some (old, cs) =>
      match upTo? mark false (cs.length + 1) cs with
      | none => .error unended
      | some (new, cs) =>
        do
          let old := unescaped (← withControls "\\" old cs)
          let new := unescaped (← withControls "\\" new cs)
          if old.length ≠ new.length then wrong cs "strings for \x60y' command are different lengths"
          else return (.exchange (old.zip new), ← ended cs)

/-- the lines of the text of an edit that writes one, what comes after them, and whether the script ends with a
backslash there. A backslash at the end of a line goes on in the next one. -/
def textLines : Chars → Chars × Chars × Bool
  | [] => ([], [], false)
  | ['\\'] => ([], [], true)
  | '\\' :: c :: cs => let r := textLines cs; ('\\' :: c :: r.1, r.2)
  | '\n' :: cs => ([], cs, false)
  | c :: cs => let r := textLines cs; (c :: r.1, r.2)

/-- the text of an edit that writes one, and what comes after it; it may start in the next line after a
backslash. Backslashes are read, unless the script ends with one. -/
def textAfter (cs : Chars) : Reading (Chars × Chars) :=
  let body (cs : Chars) : Reading (Chars × Chars) := do
    let (lines, rest, isOpen) := textLines cs
    let text := lines ++ ['\n']
    if isOpen then return (text, rest)
    else return (← controlled "" (fun c => if c = ['n'] then ['\n'] else c) text rest, rest)
  match skipBlanks cs with
  | [] => wrong [] "expected \\ after \x60a', \x60c' or \x60i'"
  | ['\\'] => .ok ([], [])
  | '\\' :: '\n' :: cs => body cs
  | '\\' :: cs => body cs
  | cs => body cs

def labelName (isTarget : Bool) (cs : Chars) : Chars × Chars :=
  let cs := skipBlanks cs
  let name := cs.takeWhile fun c => !(isSpace c || c == ';' || (c == '}' && !isTarget))
  (name, cs.drop name.length)

def actionOf (w : Manner) (addresses : Nat) (letter : Char) (rest : Chars) : Reading (EditAction × Chars) := do
  if w.sandboxed ∧ "erRwW".toList.contains letter then wrong rest sandboxed
  match letter with
  | '{' => .ok (.openBrace, rest)
  | '}' =>
    if 0 < addresses then wrong rest "unexpected \x60\x7d'" else do return (.closeBrace, ← ended rest)
  | ':' =>
    let (name, after) := labelName true rest
    if 0 < addresses then wrong rest ": doesn't want any addresses"
    else if name.isEmpty then wrong after "\":\" lacks a label"
    else .ok (.label name, after)
  | 's' => substitution w rest
  | 'y' => exchange rest
  | 'a' => do let (t, rest) ← textAfter rest; return (.append t, rest)
  | 'i' => do let (t, rest) ← textAfter rest; return (.insert t, rest)
  | 'c' => do let (t, rest) ← textAfter rest; return (.change t, rest)
  | 'e' => do
    let bare := skipBlanks rest
    if bare.head?.all (· == '\n') then return (.execute none, bare.drop 1)
    else let (t, rest) ← textAfter rest; return (.execute (some t.dropLast), rest)
  | 'r' => do let (name, rest) ← fileName rest; return (.readFile name, rest)
  | 'R' => do let (name, rest) ← fileName rest; return (.readLine name, rest)
  | 'w' => do let (name, rest) ← fileName rest; return (.writeFile name false, rest)
  | 'W' => do let (name, rest) ← fileName rest; return (.writeFile name true, rest)
  | 'l' =>
    let (width, after) := natural (skipBlanks rest)
    let given := (skipBlanks rest).head?.any Char.isDigit
    do return (.display (if given then some width else none), ← ended after)
  | _ =>
    if letter = 'q' ∨ letter = 'Q' then
      if addresses = 2 then wrong rest "command only uses one address"
      else do
        let (status, rest) := natural (skipBlanks rest)
        return (.quit (letter = 'q') status, ← ended rest)
    else if "btT".toList.contains letter then
      do let (name, rest) := labelName false rest; return (.branch letter name, ← ended rest)
    else if letter = 'v' then
      let (name, after) := labelName false rest
      if Tools.compareStems (name.length + 4) name "4.9".toList = .gt then wrong after "expected newer version of sed"
      else do return (.versed, ← ended after)
    else if "=dDFhHgGxpPnNz".toList.contains letter then do return (.plain letter, ← ended rest)
    else wrong rest ("unknown command: \x60" ++ toString letter ++ "'")

/-! ## scripts -/

def addressMistake? (first second : Option Address) : Option String :=
  match first, second with
  | some (.line 0), some (.matching _) => none
  | some (.line 0), _ => some "invalid usage of line address 0"
  | _, _ => none

def edits (w : Manner) : Nat → Nat → Chars → Reading (List Edit)
  | 0, _, cs => wrong cs "missing command"
  | n + 1, depth, cs =>
    match cs.dropWhile fun c => isSpace c || c == ';' with
    | [] => if depth = 0 then .ok [] else .error ⟨0, "unmatched \x60\x7b'", true⟩
    | '#' :: cs => edits w n depth (cs.dropWhile (· ≠ '\n'))
    | cs => do
      let (first, rest) ← address? w false cs
      let (second, rest) ← match first, skipBlanks rest with
        | some _, ',' :: rest => do
          let (second, after) ← address? w true (skipBlanks rest)
          if second.isNone then wrong ((skipBlanks rest).drop 1) "unexpected \x60,'" else pure (second, after)
        | _, _ => pure (none, rest)
      let rest := skipBlanks rest
      let others := rest.head? = some '!'
      let rest := if others then skipBlanks (rest.drop 1) else rest
      match addressMistake? first second with
      | some e => wrong (rest.drop 1) e
      | none =>
        match rest with
        | [] => wrong [] "missing command"
        | letter :: rest => do
          if letter = '}' ∧ depth = 0 then wrong rest "unexpected \x60\x7d'"
          if others ∧ letter = '!' then wrong rest "multiple \x60!'s"
          let count := first.toList.length + second.toList.length
          let (does, rest) ← actionOf w count letter rest
          let depth := if letter = '{' then depth + 1 else if letter = '}' then depth - 1 else depth
          return ⟨first, second, others, does⟩ :: (← edits w n depth rest)

/-- a piece of a script: an argument, or what a file holds. -/
structure Piece where
  text : Chars
  file : Option Chars
  lines : Nat

def Piece.ofArgument (text : Chars) : Piece := ⟨text, none, 0⟩

def Piece.ofFile (name text : Chars) : Piece :=
  ⟨if text.getLast? = some '\n' then text.dropLast else text, some name, text.count '\n'⟩

/-- where a mistake is told to be that shows only when the script is run. -/
def Piece.lastPlace (pieces : List Piece) : String :=
  match pieces.getLast? with
  | some ⟨_, some name, lines⟩ => "file " ++ String.ofList name ++ " line " ++ toString (lines + 1) ++ ": "
  | _ => "-e expression #" ++ toString (pieces.countP fun p => p.file.isNone) ++ ", char 0: "

def Mistake.told (m : Mistake) (number passed : Nat) (p : Piece) : String :=
  match p.file with
  | some name =>
    "file " ++ String.ofList name ++ " line " ++ toString ((p.text.take passed).count '\n' + 1) ++ ": " ++ m.message
  | none =>
    let place := if m.message = "unmatched \x60\x7b'" then 0 else passed
    "-e expression #" ++ toString number ++ ", char " ++ toString place ++ ": " ++ m.message

def Mistake.shown (m : Mistake) (pieces : List Piece) : String :=
  let total := (List.intercalate ['\n'] (pieces.map Piece.text)).length
  let rec go : Nat → Nat → List Piece → String
    | number, passed, [p] => m.told number passed p
    | number, passed, p :: ps =>
      if passed ≤ p.text.length then m.told number passed p
      else go (if p.file.isSome then number else number + 1) (passed - p.text.length - 1) ps
    | _, _, [] => m.message
  go 1 (total - m.left) pieces

def missingLabel? (es : List Edit) : Option Chars :=
  let labels := es.filterMap fun e => match e.action with | .label l => some l | _ => none
  (es.filterMap fun e => match e.action with | .branch _ l => some l | _ => none).find? fun l =>
    !l.isEmpty && !labels.contains l

def files (es : List Edit) : List Chars :=
  es.filterMap fun e =>
    match e.action with
    | .writeFile name _ => some name
    | .substitute _ _ _ _ _ _ file => file
    | _ => none

def reads (file : Chars) (es : List Edit) : Bool :=
  es.any fun e =>
    match e.action with
    | .readFile name => name == file
    | .readLine name => name == file
    | _ => false

def readScript (w : Manner) (pieces : List Piece) : Except (String × Nat) (List Edit) :=
  let script := List.intercalate ['\n'] (pieces.map Piece.text)
  match edits w (script.length + 1) 0 script with
  | .error m => .error (if m.isPlaced then (m.shown pieces, 1) else (m.message, 4))
  | .ok es =>
    match missingLabel? es with
    | some l => .error ("can't find label for jump to \x60" ++ String.ofList l ++ "'", 4)
    | none => .ok es

end Edit
end Regen.Shell
