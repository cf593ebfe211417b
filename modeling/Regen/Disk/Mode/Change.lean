import Regen.Disk.Mode

/-!
# Changes of permissions

A mode is given as octal digits, or as clauses between commas: for whom, and then what is added, taken away
or set. What a clause leaves open is left to the mask of the process.

* `Mode.Change`      one change;
* `Mode.changes?`    the changes that a text asks for;
* `Mode.changed`     a mode after changes.
-/

namespace Regen.Mode

inductive Operator where
  | add
  | remove
  | assign
  deriving DecidableEq

inductive Given where
  | bits (n : Nat)
  /-- these bits, and those to run a file if anybody may run it already; a directory counts as run. -/
  | bitsOrRun (n : Nat)
  | copied (n : Nat)

/-- one change: for whose bits, none for all that the mask leaves, and which bits it names. -/
structure Change where
  operator : Operator
  whose : Nat
  given : Given
  named : Nat

/-! ## reading -/

def Operator.ofChar? : Char → Option Operator
  | '+' => some .add
  | '-' => some .remove
  | '=' => some .assign
  | _ => none

def usersOf : Char → Option Nat
  | 'u' => some 2496
  | 'g' => some 1080
  | 'o' => some 519
  | 'a' => some allBits
  | _ => none

def permissionOf : Char → Option Nat
  | 'r' => some 292
  | 'w' => some 146
  | 'x' => some 73
  | 'X' => some 0
  | 's' => some 3072
  | 't' => some 512
  | _ => none

def isOctal (c : Char) : Bool := '0' ≤ c && c ≤ '7'

/-- the bits of octal digits, unless they are too many. -/
def ofOctal? (ds : List Char) : Option Nat :=
  let n := ds.foldl (fun n d => 8 * n + (d.toNat - 48)) 0
  if allBits < n then none else some n

def clause? (whose : Nat) : Nat → List Char → Option (List Change)
  | 0, _ => none
  | _ + 1, [] => none
  | n + 1, c :: rest => do
    let operator ← Operator.ofChar? c
    let next (change : Change) (rest : List Char) : Option (List Change) :=
      if rest.isEmpty then some [change] else (clause? whose n rest).map (change :: ·)
    let named (bits : Nat) : Nat := if whose = 0 then bits else whose &&& bits
    let copied (bits : Nat) (rest : List Char) : Option (List Change) :=
      next ⟨operator, whose, .copied bits, named bits⟩ rest
    let digits := rest.takeWhile isOctal
    match digits, rest with
    | _ :: _, _ =>
      let bits ← ofOctal? digits
      if whose ≠ 0 ∨ digits.length < rest.length then none
      else some [⟨operator, allBits, .bits bits, allBits⟩]
    | [], 'u' :: rest => copied 448 rest
    | [], 'g' :: rest => copied 56 rest
    | [], 'o' :: rest => copied 7 rest
    | [], _ =>
      let letters := rest.takeWhile fun c => (permissionOf c).isSome
      let bits := letters.foldl (fun n c => n ||| (permissionOf c).getD 0) 0
      next ⟨operator, whose, if letters.contains 'X' then .bitsOrRun bits else .bits bits, named bits⟩
        (rest.drop letters.length)

def betweenCommas : List Char → List (List Char)
  | [] => [[]]
  | ',' :: cs => [] :: betweenCommas cs
  | c :: cs =>
    match betweenCommas cs with
    | p :: ps => (c :: p) :: ps
    | [] => [[c]]

/-- the changes that a text asks for. A short number says nothing about the two bits in front that a directory
keeps, unless it has them. -/
def changes? (text : List Char) : Option (List Change) :=
  if text.head?.any isOctal then
    if text.all isOctal then (ofOctal? text).map fun n =>
      [⟨.assign, allBits, .bits n, if text.length < 5 then (n &&& 3072) ||| 1023 else allBits⟩]
    else none
  else ((betweenCommas text).mapM fun part =>
    let who := part.takeWhile fun c => (usersOf c).isSome
    let changes := part.drop who.length
    clause? (who.foldl (fun n c => n ||| (usersOf c).getD 0) 0) (changes.length + 1) changes).map List.flatten

/-! ## changing -/

def cut (a b : Nat) : Nat := a - (a &&& b)

/-- the bits that a change is about, in view of the mode before it. -/
def Given.value (isDirectory : Bool) (old : Nat) : Given → Nat
  | .bits n => n
  | .bitsOrRun n => if isDirectory ∨ old &&& 73 ≠ 0 then n ||| 73 else n
  | .copied n =>
    let one (three : Nat) : Nat := if old &&& n &&& three = 0 then 0 else three
    (old &&& n) ||| one 292 ||| one 146 ||| one 73

/-- a mode after one change; `mask` has the bits that are left out where a change does not say for whom. A
directory keeps two of its bits unless a change names them. -/
def changedOnce (isDirectory : Bool) (mask : Nat) (old : Mode) (c : Change) : Mode :=
  let untouched := if isDirectory then cut 3072 c.named else 0
  let value := cut (c.given.value isDirectory old.bits &&& if c.whose = 0 then cut allBits mask else c.whose) untouched
  match c.operator with
  | .add => ⟨old.bits ||| value⟩
  | .remove => ⟨cut old.bits value⟩
  | .assign =>
    let kept := (if c.whose = 0 then 0 else cut allBits c.whose) ||| untouched
    ⟨(old.bits &&& kept) ||| value⟩

def changed (isDirectory : Bool) (mask : Nat) (changes : List Change) (old : Mode) : Mode :=
  changes.foldl (changedOnce isDirectory mask) old

end Regen.Mode
