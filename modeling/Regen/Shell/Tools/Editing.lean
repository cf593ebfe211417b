import Regen.Shell.Tools.Basic
import Regen.Shell.Tools.Edit

/-!
# Lines edited

Each line is taken up, the script is run on it, and what has become of it is written. A script may ask
for the next line, or whether there is one, before that is known; then its run does not count, and it
is run again when more has come.

* `Tools.Desk`           the line at hand, what is kept beside it, and what has been written;
* `Tools.Desk.cycles`    the script run on the lines that have come.
-/

namespace Regen.Shell.Tools

structure Editing where
  script : List Edit
  quiet : Bool
  /-- how wide lines are that are shown with everything in them made visible. -/
  width : Nat
  forgotten : String
  lineEnd : Char

inductive Reach where
  | told
  /-- up to a line of a number. If that line is passed over, the first line after it may still be in the
  range. -/
  | upTo (n : Nat) (mayPass : Bool)
  | finished

/-- where something is written: to a file of a name, or where the lines go. -/
abbrev Outlet := Option Chars

structure Desk where
  line : Chars
  kept : Chars
  keptWhole : Bool
  number : Nat
  rest : List Chars
  isEnded : Bool
  lacks : Bool
  file : Chars
  isWhole : Bool
  out : List (Outlet × Chars)
  later : List Chars
  lackEnd : List Outlet
  changed : Bool
  used : Option Regex.Matcher
  forgets : Bool
  ranges : List (Nat × Reach)
  taken : List (Chars × Nat)
  lineEnd : Char
  /-- what came of the texts that the script has had a shell run on the line, and the next one that it asks for. -/
  answers : List Chars
  asked : Option Chars

/-- something written; a line end comes first where one is missing. -/
def Desk.putTo (d : Desk) (o : Outlet) (cs : Chars) : Desk :=
  if d.lackEnd.contains o then { d with out := (o, d.lineEnd :: cs) :: d.out, lackEnd := d.lackEnd.erase o }
  else { d with out := (o, cs) :: d.out }

def Desk.putLineTo (d : Desk) (o : Outlet) (cs : Chars) : Desk :=
  if d.isWhole then d.putTo o (cs ++ [d.lineEnd])
  else
    let d := d.putTo o cs
    { d with lackEnd := o :: d.lackEnd }

def Desk.put (d : Desk) (cs : Chars) : Desk := d.putTo none cs

def Desk.putLine (d : Desk) (cs : Chars) : Desk := d.putLineTo none cs

def Desk.withEnd (d : Desk) (text : Chars) : Chars :=
  if text.isEmpty then [] else text.dropLast ++ [d.lineEnd]

def Desk.putLater (d : Desk) : Desk := { d.later.foldr (fun cs d => d.put cs) d with later := [] }

def Desk.asksForMore (d : Desk) : Desk := if d.rest.isEmpty && !d.isEnded then { d with lacks := true } else d

def Desk.next? (d : Desk) : Option Desk :=
  match d.rest with
  | [] => none
  | l :: ls => some { d with
      line := bareBy d.lineEnd l, number := d.number + 1, rest := ls, isWhole := l.getLast? = some d.lineEnd }

/-! ## addresses -/

def Desk.fits (d : Desk) : Address → Bool × Desk
  | .line n => (d.number == n, d)
  | .last => (d.rest.isEmpty, d.asksForMore)
  | .every first step => (first ≤ d.number && (d.number - first) % step == 0, d)
  | .matching r =>
    match r.or d.used with
    | some r => (r.matches d.line, { d with used := some r })
    | none => (false, { d with forgets := true })
  | .more _ => (false, d)
  | .multiple _ => (false, d)

/-- whether a range starts at the line at hand; one that starts at a number may start late. -/
def Desk.starts (d : Desk) : Address → Bool × Desk
  | .line n => (n ≤ d.number, d)
  | a => d.fits a

def Desk.setRange (d : Desk) (place : Nat) (reach : Option Reach) : Desk :=
  { d with ranges := (reach.map fun r => (place, r)).toList ++ d.ranges.filter fun r => r.1 ≠ place }

/-- the end of a range: one that starts at a number does not start again. -/
def Desk.endRange (d : Desk) (place : Nat) (first : Address) : Desk :=
  d.setRange place (match first with | .line _ => some .finished | _ => none)

def Desk.startRange (d : Desk) (place : Nat) (first second : Address) : Bool × Desk :=
  match second with
  | .line n =>
    if d.number < n then (true, d.setRange place (some (.upTo n false)))
    else ((match first with | .line k => d.number == n || d.number == k | _ => true), d.endRange place first)
  | .more n =>
    (true, if n = 0 then d.endRange place first else d.setRange place (some (.upTo (d.number + n) true)))
  | .multiple n =>
    (true, if n = 0 then d.endRange place first
      else d.setRange place (some (.upTo ((d.number / n + 1) * n) true)))
  | _ => (true, d.setRange place (some .told))

def Desk.isWithin (d : Desk) (place : Nat) (first second : Address) : Bool × Desk :=
  match d.ranges.lookup place with
  | some .finished => (false, d)
  | some (.upTo n mayPass) =>
    (d.number ≤ n || mayPass, if n ≤ d.number then d.endRange place first else d)
  | some .told =>
    let (ends, d) := d.fits second
    (true, if ends then d.endRange place first else d)
  | none =>
    let (starts, d) := d.starts first
    if starts then d.startRange place first second else (false, d)

def Desk.selects (d : Desk) (place : Nat) (e : Edit) : Bool × Desk :=
  match e.first, e.second with
  | none, _ => (!e.others, d)
  | some a, none => let (fits, d) := d.fits a; (fits != e.others, d)
  | some a, some b => let (isWithin, d) := d.isWithin place a b; (isWithin != e.others, d)

/-! ## substitutions -/

/-- a text in the case that letters ask for: one for all that follows, one for the next character. -/
def inCase (all next : Option Char) (cs : Chars) : Chars :=
  let turn (letter : Option Char) (c : Char) : Char :=
    if letter = some 'U' ∨ letter = some 'u' then c.toUpper
    else if letter = some 'L' ∨ letter = some 'l' then c.toLower else c
  match cs with
  | [] => []
  | c :: rest => turn (if next.isSome then next else all) c :: rest.map (turn all)

def filledIn (m : Regex.Match) (parts : List Insert) : Chars :=
  let r := parts.foldl (fun (out, all, next) p =>
    let add (cs : Chars) : Chars × Option Char × Option Char :=
      (out ++ inCase all next cs, all, if cs.isEmpty then next else none)
    match p with
    | .text cs => add cs
    | .kept n => add (if n = 0 then m.matched else (m.groups.lookup n).getD [])
    | .case c => if c = 'u' ∨ c = 'l' then (out, all, some c) else (out, if c = 'E' then none else some c, none))
    (([] : Chars), (none : Option Char), (none : Option Char))
  r.1

/-- a line with matches replaced from the `nth` on, whether one was, given how many there may be. An empty
match right behind another one does not count. -/
def substituted (r : Regex.Matcher) (parts : List Insert) (all : Bool) :
    Nat → Nat → Option Char → Bool → Chars → Chars × Bool
  | 0, _, _, _, cs => (cs, false)
  | n + 1, nth, previous, behind, cs =>
    match r.find? previous cs with
    | none => (cs, false)
    | some m =>
      let skipped := behind && m.matched.isEmpty && m.before.isEmpty
      let replaces := !skipped && nth ≤ 1
      let new := if replaces then filledIn m parts else m.matched
      let last := (previous.toList ++ m.before ++ m.matched).getLast?
      if replaces ∧ ¬ all then (m.before ++ new ++ m.after, true)
      else
        let nth := if skipped then nth else nth - 1
        if m.matched.isEmpty then
          match m.after with
          | [] => (m.before ++ new, replaces)
          | c :: rest =>
            let t := substituted r parts all n nth (some c) false rest
            (m.before ++ new ++ c :: t.1, replaces || t.2)
        else
          let t := substituted r parts all n nth last true m.after
          (m.before ++ new ++ t.1, replaces || t.2)

/-! ## lines made visible -/

def visible (c : Char) : Chars :=
  match c with
  | '\\' => ['\\', '\\']
  | '\x07' => ['\\', 'a']
  | '\x08' => ['\\', 'b']
  | '\x0c' => ['\\', 'f']
  | '\n' => ['\\', 'n']
  | '\r' => ['\\', 'r']
  | '\t' => ['\\', 't']
  | '\x0b' => ['\\', 'v']
  | _ =>
    if ' ' ≤ c ∧ c ≤ '~' then [c]
    else ['\\', Nat.digitChar (c.toNat / 64 % 8), Nat.digitChar (c.toNat / 8 % 8), Nat.digitChar (c.toNat % 8)]

/-- a line with all its characters made visible, and a mark at its end; lines that get too wide are
broken. -/
def display (width : Nat) (lineEnd : Char) (line : Chars) : Chars :=
  let r := line.foldl (fun (out, column) c =>
    let shown := visible c
    if width ≠ 0 ∧ width ≤ column + shown.length then (shown :: ['\\', '\n'] :: out, shown.length)
    else (shown :: out, column + shown.length)) (([] : List Chars), 0)
  r.1.reverse.flatten ++ ['$', lineEnd]

/-! ## running -/

inductive Onward where
  | next
  | place (n : Nat)
  | done (writes : Bool)
  | again
  | quit (writes : Bool) (status : Nat)
  | never

def placeOf (script : List Edit) (label : Chars) : Nat :=
  (script.findIdx? fun e => match e.action with | .label l => l == label | _ => false).getD script.length

def closingBrace : Nat → Nat → List Edit → Nat
  | _, place, [] => place
  | depth, place, e :: es =>
    match e.action with
    | .openBrace => closingBrace (depth + 1) (place + 1) es
    | .closeBrace => if depth ≤ 1 then place else closingBrace (depth - 1) (place + 1) es
    | _ => closingBrace depth (place + 1) es

def firstLine (lineEnd : Char) (cs : Chars) : Chars × Option Chars :=
  let l := cs.takeWhile (· ≠ lineEnd)
  (l, if l.length < cs.length then some (cs.drop (l.length + 1)) else none)

def Desk.putFirst (d : Desk) (o : Outlet) : Desk :=
  match firstLine d.lineEnd d.line with
  | (l, some _) => d.putTo o (l ++ [d.lineEnd])
  | (l, none) => d.putLineTo o l

def Desk.plain (quiet : Bool) (d : Desk) (letter : Char) : Desk × Onward :=
  match letter with
  | '=' => (d.put (Nat.toDigits 10 d.number ++ [d.lineEnd]), .next)
  | 'F' => (d.put (d.file ++ [d.lineEnd]), .next)
  | 'd' => (d, .done false)
  | 'D' => match firstLine d.lineEnd d.line with
    | (_, some rest) => ({ d with line := rest }, .again)
    | (_, none) => (d, .done false)
  | 'h' => ({ d with kept := d.line, keptWhole := d.isWhole }, .next)
  | 'H' => ({ d with kept := d.kept ++ d.lineEnd :: d.line, keptWhole := d.isWhole }, .next)
  | 'g' => ({ d with line := d.kept, isWhole := d.keptWhole }, .next)
  | 'G' => ({ d with line := d.line ++ d.lineEnd :: d.kept, isWhole := d.keptWhole }, .next)
  | 'x' => ({ d with line := d.kept, isWhole := d.keptWhole, kept := d.line, keptWhole := d.isWhole }, .next)
  | 'p' => (d.putLine d.line, .next)
  | 'P' => (d.putFirst none, .next)
  | 'z' => ({ d with line := [] }, .next)
  | 'n' =>
    let written := if quiet then d else d.putLine d.line
    match written.putLater.next? with
    | some next => (next, .next)
    | none => (d.asksForMore, .done true)
  | _ =>
    match d.next? with
    | some next => ({ next.putLater with line := d.line ++ d.lineEnd :: next.line }, .next)
    | none => (d.asksForMore, .done true)

def Desk.readLine (read : Chars → Chars) (d : Desk) (name : Chars) : Desk :=
  let n := (d.taken.lookup name).getD 0
  match (endedBy d.lineEnd (read name))[n]? with
  | none => d
  | some l => { d with later := l :: d.later, taken := withEntry name (n + 1) d.taken }

/-- the name that stands for standard input among the files that a script reads. -/
def inputName : Chars := "/dev/stdin".toList

/-- a file is to be written after the line at hand; of standard input that is what has not been read. -/
def Desk.readAll (read : Chars → Chars) (d : Desk) (name : Chars) : Desk :=
  if name = inputName then
    let ls := endedBy d.lineEnd (read name)
    let n := (d.taken.lookup name).getD 0
    { d with later := (ls.drop n).flatten :: d.later, taken := withEntry name ls.length d.taken }
  else { d with later := read name :: d.later }

def Desk.answer? (d : Desk) (text : Chars) : Option Chars × Desk :=
  match d.answers with
  | a :: as => (some a, { d with answers := as })
  | [] => (none, { d with asked := some text })

def Desk.runLine (d : Desk) : Desk × Onward :=
  match d.answer? d.line with
  | (some a, d) => ({ d with line := bareBy d.lineEnd a }, .next)
  | (none, d) => (d, .done false)

def Desk.perform (w : Editing) (read : Chars → Chars) (d : Desk) (place : Nat) (e : Edit) : Desk × Onward :=
  match e.action with
  | .openBrace => (d, .next)
  | .closeBrace => (d, .next)
  | .label _ => (d, .next)
  | .branch condition label =>
    let goes := condition == 'b' || (condition == 't') == d.changed
    let d := if condition = 'b' then d else { d with changed := false }
    (d, if ¬ goes then .next else if label.isEmpty then .done true else .place (placeOf w.script label))
  | .execute none => d.runLine
  | .execute (some text) =>
    match d.answer? text with
    | (some a, d) => (if a.isEmpty then d else d.put a, .next)
    | (none, d) => (d, .done false)
  | .substitute r parts all nth shows runs file =>
    match r.or d.used with
    | none => ({ d with forgets := true }, .next)
    | some r =>
      let (line, changed) := substituted r parts all (d.line.length + 1) nth none false d.line
      let d := { d with line := line, changed := d.changed || changed, used := some r }
      let d := if changed ∧ shows = some false then d.putLine line else d
      let (d, onward) := if changed ∧ runs then d.runLine else (d, .next)
      let d := if changed ∧ shows = some true then d.putLine d.line else d
      (if changed ∧ file.isSome then d.putLineTo file d.line else d, onward)
  | .exchange table => ({ d with line := d.line.map fun c => (table.lookup c).getD c }, .next)
  | .append text => ({ d with later := text :: d.later }, .next)
  | .insert text => (d.put (d.withEnd text), .next)
  | .versed => (d, .next)
  | .change text =>
    let goesOn := e.second.isSome && !e.others && match d.ranges.lookup place with
      | some .finished => false
      | r => r.isSome
    (if goesOn then d else d.put (d.withEnd text), .done false)
  | .readFile name => (d.readAll read name, .next)
  | .readLine name => (d.readLine read name, .next)
  | .writeFile name onlyFirst => (if onlyFirst then d.putFirst (some name) else d.putLineTo (some name) d.line, .next)
  | .display width => (d.put (display (width.getD w.width) d.lineEnd d.line), .next)
  | .quit shows status => (d, .quit shows status)
  | .plain letter => d.plain w.quiet letter

def Desk.run (w : Editing) (read : Chars → Chars) : Nat → Nat → Desk → Desk × Onward
  | 0, _, d => (d, .never)
  | n + 1, place, d =>
    match w.script[place]? with
    | none => (d, .done true)
    | some e =>
      let (selected, d) := d.selects place e
      if d.forgets then (d, .done false)
      else if selected then
        match d.perform w read place e with
        | (d, .next) => d.run w read n (place + 1)
        | (d, .place p) => d.run w read n p
        | r => r
      else match e.action with
        | .openBrace => d.run w read n (closingBrace 1 (place + 1) (w.script.drop (place + 1)))
        | _ => d.run w read n (place + 1)

/-- where the script stands when it has been run on the lines that have come. -/
inductive Halt where
  /-- it asks for more: for the next line, or for what comes after the line that is left at hand. -/
  | lacks (fresh : Bool)
  | ended
  | quit (status : Nat)
  | forgotten
  | asks (text : Chars) (fresh : Bool)
  | never

def Desk.cycles (w : Editing) (read : Chars → Chars) (bound : Nat) : Nat → Bool → Desk → Desk × Halt
  | 0, _, d => (d, .never)
  | n + 1, fresh, before =>
    match if fresh then before.next?.map fun d => { d with changed := false } else some before with
    | none => (before, if before.isEnded then .ended else .lacks true)
    | some d =>
      let (d, onward) := d.run w read bound 0
      if d.lacks then (before, .lacks fresh)
      else if let some text := d.asked then (before, .asks text fresh)
      else if d.forgets then (d, .forgotten)
      else
        let finish (writes : Bool) (d : Desk) : Desk :=
          (if writes ∧ ¬ w.quiet then d.putLine d.line else d).putLater
        match onward with
        | .quit writes status => (if writes then (finish true d).put [] else finish false d, .quit status)
        | .again => d.putLater.cycles w read bound n false
        | .done writes => (finish writes d).cycles w read bound n true
        | .never => (d, .never)
        | _ => (finish true d).cycles w read bound n true

def Desk.start (w : Editing) : Desk where
  line := []
  kept := []
  keptWhole := true
  number := 0
  rest := []
  isEnded := false
  lacks := false
  file := ['-']
  isWhole := true
  out := []
  later := []
  lackEnd := []
  changed := false
  used := none
  forgets := false
  ranges := w.script.zipIdx.filterMap fun e =>
    match e.1.first with
    | some (.line 0) => some (e.2, .told)
    | _ => none
  taken := []
  lineEnd := w.lineEnd
  answers := []
  asked := none

/-- how many edits a run of the script may look at, and how many runs there may be, before it counts as one
without end. -/
def Editing.bounds (w : Editing) (d : Desk) : Nat × Nat :=
  let size := d.rest.foldl (fun n l => n + l.length + 1) (d.line.length + d.kept.length)
  ((w.script.length + 8) * (size + 64), 4 * size + 64)

def Editing.run (w : Editing) (read : Chars → Chars) (fresh : Bool) (d : Desk) : Desk × Halt :=
  let (bound, runs) := w.bounds d
  d.cycles w read bound runs fresh

end Regen.Shell.Tools
