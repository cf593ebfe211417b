import Regen.Shell.Tools.Editing
import Regen.Shell.Tools.Intake
import Regen.Shell.Tools.Moves

/-!
# Files edited

`sed` takes lines up as they come, and writes a block when it has one. It does not open a file before
all lines of the ones before it have been used.

* `Tools.EditOrder`       what `sed` is asked for;
* `Tools.Supply`          the files whose lines are still to come;
* `Tools.editStream`      the script on all lines that come;
* `Tools.editInPlace`     a file replaced by what the script makes of it;
* `Tools.sed`             the program.
-/

namespace Regen.Shell.Tools

open Run

/-! ## what is asked for -/

structure EditOrder where
  editing : Editing
  files : List Chars
  /-- files are edited in their places; another file keeps what they held, if its ending is given. -/
  inPlace : Option Chars
  follows : Bool
  apart : Bool
  eager : Bool
  input : Chars

def sedOptions : List Known :=
  switches [('n', "quiet"), ('n', "silent"), ('E', "regexp-extended"), ('r', ""), ('s', "separate"),
    ('u', "unbuffered"), ('z', "null-data"), ('z', "zero-terminated"), ('\x01', "posix"), ('\x02', "sandbox"),
    ('\x03', "follow-symlinks"), ('b', "binary")] ++
  [valued 'e' "expression", valued 'f' "file", valued 'l' "line-length", ⟨'i', "in-place", .possible⟩]

def unopenedBySed (m : Machine) (name : Chars) (e : SystemError) : Machine :=
  accuse m ("couldn't open file ".toList ++ name ++ (": " ++ words e).toList)

/-- the number at the start of a text; zero, if it is negative or there is none. -/
def leadingNumber (cs : Chars) : Nat :=
  let cs := cs.dropWhile Edit.isSpace
  (Edit.natural (if cs.head? = some '+' then cs.drop 1 else cs)).1

/-- a script in the pieces that options give; or the machine with a complaint, and a status. -/
def scriptPieces (m : Machine) : List (Char × Chars) → Except (Machine × Nat) (List Edit.Piece × Machine)
  | [] => .ok ([], m)
  | ('e', text) :: given => (scriptPieces m given).map fun r => (.ofArgument text :: r.1, r.2)
  | ('f', name) :: given =>
    match openSource m name with
    | (.text cs, m) => (scriptPieces m given).map fun r => (.ofFile name cs :: r.1, r.2)
    | (.unopened e, m) => .error (unopenedBySed m name e, 4)
    | (.unread _, m) => (scriptPieces m given).map fun r => (.ofFile name [] :: r.1, r.2)
  | _ :: given => scriptPieces m given

/-- what the arguments ask for; or the machine with a complaint, and a status. -/
def EditOrder.read (m : Machine) (args : List Chars) : Except (Machine × Nat) (EditOrder × Machine) := do
  match (readOptions sedOptions true args).checked allowed with
  | .error e => throw (denounce m e, 1)
  | .ok (o, operands) =>
    let hasScript := o.has 'e' || o.has 'f'
    let (pieces, m) ← if hasScript then scriptPieces m o.given else .ok ((operands.take 1).map .ofArgument, m)
    match pieces with
    | [] => throw (m, 1)
    | first :: _ =>
      match Edit.readScript ⟨o.has 'E' || o.has 'r', o.ending 'z', o.has '\x02'⟩ pieces with
      | .error (e, status) => throw (accuse m e.toList, status)
      | .ok script =>
        let editing : Editing :=
          ⟨script, o.has 'n' || first.text.take 2 == ['#', 'n'], ((o.value? 'l').map leadingNumber).getD 70,
            Edit.Piece.lastPlace pieces ++ "no previous regular expression", o.ending 'z'⟩
        let files := if hasScript then operands else operands.drop 1
        if o.has 'i' ∧ files = [] then throw (accuse m "no input files".toList, 4)
        return (⟨editing, files, o.value? 'i', o.has '\x03', o.has 's', o.has 'u', []⟩, m)

/-! ## what is written -/

/-- the name that stands for standard output among the files that a script writes. -/
def standardName : Chars := "/dev/stdout".toList

/-- opens the files that a script writes, or complains about one. -/
def openOutlets : List Chars → Eval (Option (List (Chars × Endpoint)))
  | [] => return some []
  | f :: files => do
    if f = standardName then openOutlets files
    else match ← openPath f (.output false) with
      | .error e => do
        modify fun m => unopenedBySed m f e
        return none
      | .ok e => do
        let es ← openOutlets files
        return es.map fun es => (f, e) :: es

/-- what was written goes to the files of its name, and the rest of it to standard output. -/
def deliver (outlets : List (Chars × Endpoint)) (d : Desk) : Eval Desk := do
  let pieces := d.out.reverse
  modify fun m => pieces.foldl (fun m p =>
    match p.1.bind fun name => outlets.lookup name with
    | some e => m.emit e p.2
    | none => m) m
  say 1 ((pieces.filter fun p => p.1.all (· == standardName)).flatMap Prod.snd)
  return { d with out := [] }

def editBlock : Nat := 4096

def deliverBlock (eager : Bool) (outlets : List (Chars × Endpoint)) (d : Desk) : Eval Desk := do
  let size := d.out.foldl (fun n p => n + p.2.length) 0
  if eager ∨ editBlock ≤ size then deliver outlets d else return d

/-! ## where lines come from -/

structure Supply where
  files : List Chars
  intake : Option Intake
  status : Nat
  /-- whether a file could not be read once it was open, which ends the program. -/
  isBroken : Bool
  follows : Bool

/-- the name that links lead to from a name, or where they lead to nothing, given how many there may be. -/
def followed (m : Machine) : Nat → Chars → Except (Chars × SystemError) Chars
  | 0, name => .error (name, .tooManyLinks)
  | n + 1, name =>
    if name = ['-'] then .ok name
    else match located m false name with
      | .error e => .error (name, e)
      | .ok (_, ⟨.link target, _, _⟩) =>
        let target := charsOf target.raw
        let front := (name.reverse.dropWhile (· ≠ '/')).reverse
        followed m n (if target.head? = some '/' then target else front ++ target)
      | .ok _ => .ok name

/-- the name that links lead to from a name, if they are followed; or nothing, with a complaint. -/
def nameEdited (follows : Bool) (name : Chars) : Eval (Option Chars) := do
  let m ← get
  match if follows then followed m 40 name else .ok name with
  | .ok name => return some name
  | .error (name, e) => do
    set (accuse m ("couldn't readlink ".toList ++ name ++ (": " ++ words e).toList))
    return none

def Supply.begin (s : Supply) (lineEnd : Char) (file : Chars) (files : List Chars) (e : Endpoint) : Eval Supply := do
  let m ← get
  match m.readFailure? e with
  | some failure => do
    let name := if file = ['-'] then "stdin".toList else file
    set (accuse m ("read error on ".toList ++ name ++ (": " ++ words failure).toList))
    return { s with files := [], status := 4, isBroken := true }
  | none => return { s with files := files, intake := some (.start e lineEnd) }

def Supply.feed (n : Nat) (s : Supply) (d : Desk) : Eval (Supply × Desk) := do
  match s.intake, s.files with
  | some i, _ => do
    let (lines, i) ← i.more n
    if i.isOver then close i.endpoint
    return ({ s with intake := if i.isOver then none else some i }, { d with rest := d.rest ++ lines })
  | none, [] => return (s, { d with isEnded := true })
  | none, f :: files => do
    match ← nameEdited s.follows f with
    | none => return ({ s with files := [], status := 4, isBroken := true }, d)
    | some f => do
    if f = ['-'] then
      let e := (← get).endpoint 0
      modify fun m => { m with saved := e :: m.saved }
      return (← s.begin d.lineEnd f files e, { d with file := f })
    else match ← openPath f .input with
      | .ok e => return (← s.begin d.lineEnd f files e, { d with file := f })
      | .error e => do
        modify fun m => accuse m ("can't read ".toList ++ f ++ (": " ++ words e).toList)
        return ({ s with files := files, status := 2 }, d)

def Supply.leave (s : Supply) (eager : Bool) (d : Desk) : Eval Unit := do
  match s.intake with
  | some i => i.leave (if eager then 1 else editBlock) d.rest
  | none => return

/-! ## the script on lines -/

def editLines (o : EditOrder) (n : Nat) : Nat → Bool → Desk → Eval (Desk × Halt)
  | 0, _, _ => exhausted
  | k + 1, fresh, d => do
    let m ← get
    let read (name : Chars) : Chars := if name = inputName then o.input else (m.fileText name).toOption.getD []
    match o.editing.run read fresh d with
    | (d, .asks text fresh) => do
      let a ← outputOf n text
      editLines o n k fresh { d with answers := d.answers ++ [a] }
    | r => return r

def editStream (o : EditOrder) (outlets : List (Chars × Endpoint)) (n : Nat) :
    Nat → Bool → Supply → Desk → Eval (Supply × Desk × Option Nat)
  | 0, _, _, _ => exhausted
  | k + 1, fresh, s, d => do
    let (d, halt) ← editLines o n n fresh d
    match halt with
    | .never | .asks .. => exhausted
    | .ended => return (s, d, none)
    | .forgotten => do
      modify fun m => accuse m o.editing.forgotten.toList
      return (s, d, some 1)
    | .quit status => do
      s.leave o.eager d
      return (s, d, some status)
    | .lacks fresh => do
      let d ← deliverBlock o.eager outlets d
      let m ← get
      if m.lost.isSome ∧ (m.lost ≠ some (.code 9) ∨ m.endpoint 1 = .closed) then return (s, d, some 4)
      let (s, d) ← s.feed n d
      if s.isBroken then return (s, d, some s.status)
      editStream o outlets n k fresh s d

def editApart (o : EditOrder) (outlets : List (Chars × Endpoint)) (n : Nat) :
    Nat → List Outlet → List Chars → Eval Nat
  | status, _, [] => return status
  | status, lackEnd, f :: files => do
    let d := { Desk.start o.editing with lackEnd := lackEnd }
    let (s, d, halt) ← editStream o outlets n n true ⟨[f], none, status, false, o.follows⟩ d
    let d ← deliver outlets d
    match halt with
    | some n => return n
    | none => editApart o outlets n s.status d.lackEnd files

/-! ## files in their places -/

/-- the name of the file that keeps what a file held: stars stand for its name, which comes first if there is
none. -/
def keptName (ending name : Chars) : Chars :=
  if ending.contains '*' then ending.flatMap fun c => if c = '*' then name else [c] else name ++ ending

/-- a file replaced by a text; what it held is kept under another name if an ending is given. -/
def replaceFile (m : Machine) (ending f : Chars) (mode : Regen.Mode) (text : Bytes) : Except SystemError Machine := do
  let place ← slotOf m f
  let m ← if ending.isEmpty then pure m else (renamed m true f (keptName ending f)).map (moved m)
  let t := m.tree.install place ⟨.ofBytes text, mode, m.wall⟩
  return { m with toWorld := { m.toWorld with tree := t.stamp place.dropLast m.wall } }

/-- a file replaced by what the script makes of it; the status if an edit ends the program or a failure does, and
that of the file. -/
def editInPlace (o : EditOrder) (outlets : List (Chars × Endpoint)) (n : Nat) (ending f : Chars) : Eval (Option Nat × Nat) := do
  let m ← get
  match located m true f with
  | .error e => do
    set (accuse m ("can't read ".toList ++ f ++ (": " ++ words e).toList))
    return (none, 2)
  | .ok (_, ⟨.file bytes, mode, _⟩) => do
    if ¬ mode.reads then
      set (accuse m ("can't read ".toList ++ f ++ ": Permission denied".toList))
      return (none, 2)
    let text := charsOf bytes.toList
    let desk := { Desk.start o.editing with rest := endedBy o.editing.lineEnd text, isEnded := true, file := f }
    let (d, halt) ← editLines o n n true desk
    let new := (d.out.reverse.filter fun p => p.1.isNone).flatMap Prod.snd
    let _ ← deliver outlets { d with out := d.out.filter fun p => p.1.isSome }
    match halt with
    | .forgotten => do
      modify fun m => accuse m o.editing.forgotten.toList
      return (some 1, 0)
    | _ => do
      let m ← get
      match replaceFile m ending f mode (bytesOf new) with
      | .error e => do
        set (accuse m ("cannot rename ".toList ++ f ++ (": " ++ words e).toList))
        return (some 4, 0)
      | .ok m => do
        set m
        match halt with
        | .quit n => return (some n, 0)
        | _ => return (none, 0)
  | .ok _ => do
    set (accuse m ("couldn't edit ".toList ++ f ++ ": not a regular file".toList))
    return (some 4, 0)

/-- files edited in their places; the status is that of an edit that ends the program, or of the last file
that could not be edited. -/
def editAllInPlace (o : EditOrder) (outlets : List (Chars × Endpoint)) (n : Nat) (ending : Chars) :
    Nat → List Chars → Eval Nat
  | status, [] => return status
  | status, f :: files => do
    match ← nameEdited o.follows f with
    | none => return 4
    | some f =>
    match ← editInPlace o outlets n ending f with
    | (some s, _) => return s
    | (none, s) => editAllInPlace o outlets n ending (if s = 0 then status else s) files

/-! ## the program -/

def sed : Flow := fun n args => do
  let order : Except Nat EditOrder ← untilFed (fun m =>
    match EditOrder.read m args with
    | .error (m, status) => (.error status, m)
    | .ok (o, m) => (.ok o, m)) n
  match order with
  | .error status => return status
  | .ok o => do
    let o ← if Edit.reads inputName o.editing.script then do
        let input ← untilFed (fun m => let r := openSource m ['-']; (r.1.text?.getD [], r.2)) n
        pure { o with input := input }
      else pure o
    match ← openOutlets (Edit.files o.editing.script) with
    | none => return 4
    | some outlets =>
      match o.inPlace with
      | some ending => editAllInPlace o outlets n ending 0 o.files
      | none =>
        let files := orInput o.files
        if o.apart then editApart o outlets n 0 [] files
        else do
          let (s, d, status) ← editStream o outlets n n true ⟨files, none, 0, false, o.follows⟩ (.start o.editing)
          let _ ← deliver outlets d
          return status.getD s.status

end Regen.Shell.Tools
