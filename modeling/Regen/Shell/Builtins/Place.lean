import Regen.Shell.Builtins.Basic

/-!
# Commands for the process that the shell is

* `Builtins.cd`, `Builtins.pwd`    the current directory;
* `Builtins.umask`                 the permissions that new files do not get.
-/

namespace Regen.Shell.Builtins

/-! ## the directory -/

def pathOf (place : Place) : Chars :=
  if place = [] then ['/'] else charsOf (place.flatMap fun n => Path.slash :: n)

def stale (e : Chars × Found) : Chars × Found := (e.1, { e.2 with isStale := true })

/-- a path from a place, a step back leaving the directory that the step before it went to. -/
def follow (from' : Place) (path : Chars) : Place :=
  let p : Path := ⟨bytesOf path⟩
  (Tree.stepsOf p).foldl (fun place step =>
    if step = [] ∨ step = [Path.dot] then place
    else if step = [Path.dot, Path.dot] then place.dropLast
    else place ++ [step]) (if p.isAbsolute then [] else from')

def enter (physical : Bool) (m : Machine) (path : Chars) : Option Machine :=
  let target := if physical then path else pathOf (follow m.way path)
  match m.tree.resolveFrom m.directory ⟨bytesOf target⟩ with
  | .ok place =>
    if (m.tree.doorway place).isNone then
      let way := if physical then place else follow m.way path
      let before := m.get? "PWD".toList
      let m := { m with directory := place, way := way, hashed := m.hashed.map stale }
      let m := match before with
        | some old => (m.set "OLDPWD".toList old).publish "OLDPWD".toList
        | none => m
      some ((m.set "PWD".toList (pathOf way)).publish "PWD".toList)
    else none
  | .error _ => none

def isAnchored (path : Chars) : Bool :=
  match path with
  | '/' :: _ => true
  | ['.'] => true
  | '.' :: '/' :: _ => true
  | ['.', '.'] => true
  | '.' :: '.' :: '/' :: _ => true
  | _ => false

/-- the directory that a path leads to from one of the directories that such paths are searched in,
and whether it was not the current one. -/
def searched (m : Machine) (path : Chars) : Chars × Bool :=
  let bases := match m.get? "CDPATH".toList with
    | some text => if isAnchored path then [] else (Bytes.segments pathListSeparator (bytesOf text)).map charsOf
    | none => []
  let paths := bases.map fun b => (if b = [] then path else b ++ '/' :: path, !b.isEmpty)
  (paths.find? fun p => (m.entry? p.1).any Entry.isDirectory).getD (path, false)

def cd : Builtin := withOptions "LP" fun opts args m =>
  let physical := opts.getLast?.any fun o => o.1 == 'P'
  let back := args.head? = some ['-']
  let given := match args with
    | [] => (m.get? "HOME".toList).getD []
    | a :: _ => if back then (m.get? "OLDPWD".toList).getD [] else a
  let target := if given = [] then ['.'] else given
  let (path, isTold) := searched m target
  match enter physical m path with
  | some m => (if back || isTold then m.write 1 (pathOf m.way ++ ['\n']) else m, .ok 0)
  | none => (m, .error ("can't cd to ".toList ++ target))

def pwd : Builtin := withOptions "LP" fun opts _ m =>
  let physical := opts.getLast?.any fun o => o.1 == 'P'
  (m.write 1 (pathOf (if physical then m.directory else m.way) ++ ['\n']), .ok 0)

/-! ## permissions -/

def octal (n : Nat) : Chars :=
  let ds := Nat.toDigits 8 n
  List.replicate (4 - ds.length) '0' ++ ds

def bitsOf (allowed : Nat) (c : Char) : Option Nat :=
  let copied (three : Nat) : Nat := 64 * three + 8 * three + three
  match c with
  | 'r' => some 292
  | 'w' => some 146
  | 'x' => some 73
  | 'X' => some (if allowed &&& 73 = 0 then 0 else 73)
  | 's' => some 0
  | 't' => some 0
  | 'u' => some (copied (allowed / 64 % 8))
  | 'g' => some (copied (allowed / 8 % 8))
  | 'o' => some (copied (allowed % 8))
  | _ => none

def usersOf (who : Chars) : Nat :=
  if who.isEmpty ∨ who.contains 'a' then 511
  else (if who.contains 'u' then 448 else 0) + (if who.contains 'g' then 56 else 0) +
    (if who.contains 'o' then 7 else 0)

def operate (users : Nat) : Nat → Chars → Nat → Option Nat
  | 0, _, _ => none
  | n + 1, cs, allowed =>
    match cs with
    | [] => some allowed
    | op :: cs =>
      let letters := cs.takeWhile fun c => !"+-=".toList.contains c
      match letters.mapM (bitsOf allowed) with
      | none => none
      | some bits =>
        let bits := (bits.foldl (· ||| ·) 0) &&& users
        let rest := cs.drop letters.length
        match op with
        | '+' => operate users n rest (allowed ||| bits)
        | '-' => operate users n rest (allowed &&& (511 - bits))
        | '=' => operate users n rest ((allowed &&& (511 - users)) ||| bits)
        | _ => none

def clause (allowed : Nat) (cs : Chars) : Option Nat :=
  let who := cs.takeWhile fun c => "ugoa".toList.contains c
  let rest := cs.drop who.length
  if cs.isEmpty then some allowed
  else if rest.isEmpty then none
  else operate (usersOf who) (rest.length + 1) rest allowed

def clauses (cs : Chars) : List Chars := (Bytes.segments 44 (bytesOf cs)).map charsOf

def symbolic (mask : Nat) : Chars :=
  let three (n : Nat) : Chars :=
    (if n / 4 % 2 = 0 then ['r'] else []) ++ (if n / 2 % 2 = 0 then ['w'] else []) ++
      if n % 2 = 0 then ['x'] else []
  "u=".toList ++ three (mask / 64) ++ ",g=".toList ++ three (mask / 8) ++ ",o=".toList ++ three mask ++ ['\n']

def umask : Builtin := withOptions "S" fun opts args m =>
  match args with
  | [] => (m.write 1 (if opts.isEmpty then octal m.mask ++ ['\n'] else symbolic m.mask), .ok 0)
  | a :: _ =>
    if a.head?.any Char.isDigit then
      if a.all fun c => '0' ≤ c && c ≤ '7' then
        ({ m with mask := (a.foldl (fun n c => 8 * n + (c.toNat - 48)) 0) % 512 }, .ok 0)
      else (m, .error ("Illegal number: ".toList ++ a))
    else match (clauses a).foldlM clause (511 - m.mask) with
      | some allowed => ({ m with mask := 511 - allowed }, .ok 0)
      | none => (m, .error ("Illegal mode: ".toList ++ a))

end Regen.Shell.Builtins
