import Regen.Shell.Builtins.Basic
import Regen.Shell.Condition
import Regen.Shell.Format

/-!
# Commands for text

* `Builtins.echo`, `Builtins.printf`    print their arguments;
* `Builtins.test`, `Builtins.bracket`   answer a condition;
* `Builtins.readInto`                   the fields of a line as values of variables;
* `Builtins.getopts`                    finds the next option among arguments.
-/

namespace Regen.Shell.Builtins

/-! ## printing -/

def echo : Builtin := fun args m =>
  let (quiet, args) := if args.head? = some "-n".toList then (true, args.drop 1) else (false, args)
  let (out, goesOn) := Escape.ofEcho (List.intercalate [' '] args)
  (m.write 1 (if quiet || !goesOn then out else out ++ ['\n']), .ok 0)

def printf : Builtin := withOptions "" fun _ args m =>
  match args with
  | [] => (m, .error "usage: printf format [arg ...]".toList)
  | format :: args =>
    let r := Format.print (args.length + 1) format args
    let complaints := r.complaints ++ (r.refusal.map Format.Refusal.message).toList
    let status := if r.refusal.isSome then 2 else if complaints.isEmpty then 0 else 1
    ((complaints.foldl Machine.complainAt m).write 1 r.out, .ok status)

/-! ## conditions -/

def test : Builtin := fun args m =>
  match Condition.holds m args with
  | .ok true => (m, .ok 0)
  | .ok false => (m, .ok 1)
  | .error e => (m, .error e.message)

def bracket : Builtin := fun args m =>
  if args.getLast?.any fun a => a.head? == some ']' then test args.dropLast m else (m, .error "missing ]".toList)

/-! ## reading -/

/-- a line with its backslashes taken away, after what has been read of it: its characters, of which
those after a backslash are marked; how much of the text was used, and whether a line end was there. A
backslash in front of a line end joins two lines. -/
def lineOf (raw : Bool) (done : List Marked) (used : Nat) : Chars → List Marked × Nat × Bool
  | [] => (done.reverse, used, false)
  | '\n' :: _ => (done.reverse, used + 1, true)
  | c :: cs =>
    if c = '\x00' then lineOf raw done (used + 1) cs
    else if ¬ raw ∧ c = '\\' then
      match cs with
      | [] => (done.reverse, used + 1, false)
      | d :: cs => lineOf raw (if d = '\n' ∨ d = '\x00' then done else (d, true) :: done) (used + 2) cs
    else lineOf raw ((c, false) :: done) (used + 1) cs

/-- where a line ends that starts at a place in bytes, looking at so many of them at most. -/
def lineStop (raw : Bool) (b : ByteArray) : Nat → Nat → Nat
  | 0, i => i
  | n + 1, i =>
    if h : i < b.size then
      if b[i] = 10 then i + 1 else lineStop raw b n (if ¬ raw ∧ b[i] = 92 then i + 2 else i + 1)
    else i

/-- the text at an endpoint in which the next line can be found, as far as it has come, and whether
nothing comes after it. -/
def lineText (m : Machine) (raw : Bool) (e : Endpoint) : Chars × Bool :=
  match e with
  | .file i =>
    match m.opened.lookup i with
    | some f =>
      let b := m.content f.number
      (charsBetween b f.offset (lineStop raw b b.size f.offset), true)
    | none => ([], true)
  | .pipe i true _ =>
    let front := (m.pipe i).front
    if (m.pocketOf i).isEmpty ∧ (lineOf raw [] 0 front).2.2 then (front, true) else m.incoming e
  | _ => m.incoming e

/-- the fields of a line, so many at most; the last one takes all that is left. A character that
separates is a blank, or it ends a field by itself. -/
def cutFields (isSeparator isGap : Marked → Bool) : Nat → List Marked → List (List Marked)
  | 0, _ => []
  | n + 1, line =>
    let line := line.dropWhile isGap
    let field := line.takeWhile fun c => !isSeparator c
    let after := line.drop field.length
    let gap := after.takeWhile isGap
    let rest := after.drop gap.length
    let ended := rest.head?.any isSeparator
    let rest := if ended then rest.drop 1 else rest
    if line.isEmpty then []
    else if (rest.dropWhile isGap).isEmpty then [field]
    else if n = 0 then [(line.reverse.dropWhile isGap).reverse]
    else field :: cutFields isSeparator isGap n rest

def readFields (m : Machine) (count : Nat) (line : List Marked) : List Chars :=
  let isSeparator (c : Marked) : Bool := !c.2 && m.separators.contains c.1
  let isGap (c : Marked) : Bool := isSeparator c && (c.1 == ' ' || c.1 == '\t' || c.1 == '\n')
  (cutFields isSeparator isGap count line).map fun f => f.map Prod.fst

def readInto (m : Machine) (names : List Chars) (line : List Marked) : Machine × Option Chars :=
  let values := readFields m names.length line
  let pairs := names.zip (values ++ List.replicate (names.length - values.length) [])
  pairs.foldl (fun (r : Machine × Option Chars) p =>
    match r.2 with
    | some _ => r
    | none => match assign r.1 p.1 p.2 with
      | .ok m => (m, none)
      | .error e => (r.1, some e)) (m, none)

/-! ## options -/

/-- what the search for an option found: its letter and its argument, a complaint about it, and where
the search goes on. -/
structure Found where
  letter : Char
  argument : Option Chars
  complaint : Option Chars
  index : Nat
  offset : Option Nat
  isOver : Bool

def knownLetter? (c : Char) : Chars → Option Bool
  | [] => none
  | d :: ':' :: ds => if d = c then some true else knownLetter? c ds
  | d :: ds => if d = c then some false else knownLetter? c ds

/-- the next option among arguments: the search goes on inside of an argument, or with the next one. -/
def nextOption (known : Chars) (args : List Chars) (index : Nat) (offset : Option Nat) : Found :=
  let silent := known.head? = some ':'
  let inside : Chars := match offset with
    | some k => if index ≤ 1 then [] else (args.getD (index - 2) []).drop k
    | none => []
  let ended (index : Nat) : Found := ⟨'?', none, none, index, none, true⟩
  /- an option at the start of a text that ends an argument, with the arguments after it. -/
  let option (c : Char) (cs : Chars) (index : Nat) : Found :=
    let here : Option Nat := some ((args.getD (index - 2) []).length - cs.length)
    match knownLetter? c known with
    | none =>
      if silent then ⟨'?', some [c], none, index, here, false⟩
      else ⟨'?', none, some ("Illegal option -".toList ++ [c]), index, here, false⟩
    | some false => ⟨c, some [], none, index, here, false⟩
    | some true =>
      if cs ≠ [] then ⟨c, some cs, none, index, none, false⟩
      else match args[index - 1]? with
        | some a => ⟨c, some a, none, index + 1, none, false⟩
        | none =>
          if silent then ⟨':', some [c], none, index, here, false⟩
          else ⟨'?', none, some ("No arg for -".toList ++ c :: " option".toList), index, here, false⟩
  match inside with
  | c :: cs => option c cs index
  | [] =>
    match args[index - 1]? with
    | some ['-', '-'] => ended (index + 1)
    | some ('-' :: c :: cs) => option c cs (index + 1)
    | _ => ended index

def getopts : Builtin := fun args m =>
  match args with
  | known :: name :: given =>
    let given := if given.isEmpty then m.arguments else given
    let (index, offset) :=
      if m.optionIndex ≤ given.length + 1 then (m.optionIndex, m.optionOffset) else (1, none)
    let r := nextOption known given index offset
    let m := match r.complaint with
      | some cs => m.complain cs
      | none => m
    let m := if r.isOver then m else match r.argument with
      | some a => m.set "OPTARG".toList a
      | none => m.unset "OPTARG".toList
    let m := m.set "OPTIND".toList (Nat.toDigits 10 r.index)
    match assign m name [r.letter] with
    | .ok m => ({ m with optionIndex := r.index, optionOffset := r.offset }, .ok (if r.isOver then 1 else 0))
    | .error e => (m, .error e)
  | _ => (m, .error "Usage: getopts optstring var [arg...]".toList)

end Regen.Shell.Builtins
