import Regen.Shell.Tools.Cat
import Regen.Shell.Tools.Ends
import Regen.Shell.Tools.Intake
import Regen.Shell.Tools.Series
import Regen.Shell.Tools.Text
import Regen.Shell.Tools.Waiting

/-!
# Programs that write as they read

* `Tools.cat`, `Tools.tee`       texts passed on;
* `Tools.piecewise`              texts changed piece by piece;
* `Tools.seq`, `Tools.yes`       texts made;
* `Tools.sleep`, `Tools.tailOn`  programs that wait.
-/

namespace Regen.Shell.Tools

open Run

/-! ## texts passed on -/

/-- shows a text as it comes, and tells how far its lines are. -/
def catText (s : Layout) (isPlain : Bool) (e : Endpoint) : Nat → Rows → Eval Rows
  | 0, _ => exhausted
  | n + 1, r => do
    match ← nextPiece e n with
    | none => return r
    | some cs => do
      let t := if isPlain then r else (linesOf cs).foldl s.line { r with lines := [] }
      say 1 (if isPlain then cs else t.lines.reverse.flatten)
      if ← isAtLoss then return t
      catText s isPlain e n t

def isOwnOutput (m : Machine) (e : Endpoint) : Bool :=
  match e, m.endpoint 1 with
  | .file i, .file j =>
    match m.opened.lookup i, m.opened.lookup j with
    | some f, some g => f.number == g.number && decide (f.offset < (m.content f.number).size)
    | _, _ => false
  | _, _ => false

def catFiles (s : Layout) (isPlain : Bool) (n : Nat) : Rows → Nat → List Chars → Eval Nat
  | _, status, [] => return status
  | r, status, f :: files => do
    let opened ← if f = ['-'] then do pure (.ok ((← get).endpoint 0)) else openPath f .input
    match opened with
    | .error e => do
      modify fun m => blame m "" f "" e
      catFiles s isPlain n r 1 files
    | .ok e => do
      let m ← get
      let (r, status) ← match m.readFailure? e with
        | some failure => do
          set (blame m "" f "" failure)
          pure (r, 1)
        | none =>
          if isOwnOutput m e then do
            set (accuse m (shown false f ++ ": input file is output file".toList))
            pure (r, 1)
          else do pure (← catText s isPlain e n r, status)
      if f ≠ ['-'] then close e
      if ← isAtLoss then return status
      catFiles s isPlain n r status files

def cat : Flow := fun n args => do
  let m ← get
  match (readOptions catOptions true args).checked allowed with
  | .error e => answer (denounce m e) 1
  | .ok (o, files) =>
    let files := orInput files
    if m.endpoint 1 = .closed then answer (accuse m "standard output: Bad file descriptor".toList) 1
    else
      let letters := (o.given.map Prod.fst).filter (· ≠ 'u')
      let status ← catFiles (Layout.ofLetters letters) letters.isEmpty n ⟨[], 0, 0, false⟩ 0 files
      let m ← get
      if files.contains ['-'] ∧ m.endpoint 0 = .closed then
        answer (accuse m "closing standard input: Bad file descriptor".toList) 1
      else return status

def openAll (appends : Bool) : List Chars → Eval (List Endpoint × Nat)
  | [] => return ([], 0)
  | f :: files => do
    match ← openPath f (.output appends) with
    | .ok e => do
      let (es, status) ← openAll appends files
      return (e :: es, status)
    | .error e => do
      modify fun m => blame m "" f "" e
      let (es, _) ← openAll appends files
      return (es, 1)

/-- text that comes is written to standard output and to some endpoints. -/
def passOn (es : List Endpoint) : Nat → Eval Unit
  | 0 => exhausted
  | n + 1 => do
    match ← nextPiece ((← get).endpoint 0) n with
    | none => return
    | some cs => do
      say 1 cs
      modify fun m => es.foldl (fun m e => m.emit e cs) m
      passOn es n

def tee : Flow := fun n args => do
  let known := switches [('a', "append"), ('i', "ignore-interrupts"), ('p', "")]
  match (readOptions known true args).checked allowed with
  | .error e => answer (denounce (← get) e) 1
  | .ok (o, files) => do
    let (es, status) ← openAll (o.has 'a') files
    let m ← get
    match m.readFailure? (m.endpoint 0) with
    | none => do
      passOn es n
      return status
    | some e =>
      let m := accuse m ("read error: " ++ words e).toList
      answer (if m.endpoint 0 = .closed then accuse m "standard input: Bad file descriptor".toList else m) 1

/-! ## texts made -/

def seriesPiece : Nat := 1024

def writeSeries (s : Series) : Nat → Nat → Eval Unit
  | 0, _ => exhausted
  | n + 1, start => do
    if start < s.count then
      say 1 (s.piece start seriesPiece)
      if ← isAtLoss then return
      writeSeries s n (start + seriesPiece)

def seq : Flow := fun n args => do
  let m ← get
  match seriesOf m args with
  | .error m => answer m 1
  | .ok s => do
    writeSeries s n 0
    return 0

def again (cs : Chars) : Nat → Eval Unit
  | 0 => exhausted
  | n + 1 => do
    say 1 cs
    tick
    if ← isAtLoss then return
    again cs n

def yes : Flow := fun n args => do
  match (readOptions [] true args).checked allowed with
  | .error e => answer (denounce (← get) e) 1
  | .ok (_, operands) => do
    let line := (if operands.isEmpty then ['y'] else List.intercalate [' '] operands) ++ ['\n']
    again (List.replicate (8192 / line.length + 1) line).flatten n
    return 1

/-! ## waiting -/

def sleep : Flow := fun _ args => do
  match restOf (← get) args with
  | .error m => answer m 1
  | .ok (time, isEndless) =>
    if isEndless then exhausted
    else do
      spend (1000 * time)
      return 0

/-- how long it takes to look at a file again, in microseconds. -/
def lookTime : Nat := 10000

def follow (e : Endpoint) : Nat → Eval Unit
  | 0 => exhausted
  | n + 1 => do
    spend lookTime
    match ← nextPiece e n with
    | none => follow e n
    | some cs => do
      say 1 cs
      if ← isAtLoss then return
      follow e n

def tailOn : Flow := fun n args => do
  let status ← atOnce tail n args
  match tailChoices args with
  | .error _ => return status
  | .ok (o, files) =>
    match if o.follows then files.getLast? else none with
    | none => return status
    | some f => do
      match ← openPath f .input with
      | .error _ => do
        modify fun m => accuse m "no files remaining".toList
        return 1
      | .ok e => do
        modify fun m => m.advance e (m.incoming e).1.length
        follow e n
        return status

/-! ## texts changed piece by piece -/

def upToLastEnd (cs : Chars) : Chars := (cs.reverse.dropWhile (· ≠ '\n')).reverse

/-- a program that changes each line for itself, on all that comes through a pipe: whenever the pipe is
full, on the lines that are in it. -/
def piecewise (t : Tool) (args : List Chars) : Nat → Eval Nat
  | 0 => exhausted
  | n + 1 => do
    let input := (← get).endpoint 0
    match input with
    | .pipe i true _ => do
      wait (.flood i)
      let m ← get
      let lines := upToLastEnd (m.incoming input).1
      if m.hasWriter i ∧ lines ≠ [] then
        let (j, piece) := (m.advance input lines.length).newPipe (.ofText lines none)
        let (m, _) := t args (piece.redirect 0 (.pipe j true false))
        set (m.redirect 0 input)
        flushed 1
        perishIfBroken
        if ← isAtLoss then return 1
        piecewise t args n
      else atOnce t n args
    | _ => atOnce t n args

/-- whether a program is asked to change each line of standard input for itself: one that squeezes
characters looks beyond the line. -/
def isLocal (name : String) (args : List Chars) : Bool :=
  let options := args.filter fun a => a.head? == some '-' && a.length ≠ 1
  match name with
  | "tr" => options.all fun a => !a.contains 's'
  | "cut" => args.all fun a => a.head? == some '-' && a.length ≠ 1
  | "rev" => args.isEmpty
  | _ => false

end Regen.Shell.Tools
