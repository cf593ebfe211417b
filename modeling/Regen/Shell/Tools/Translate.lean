import Regen.Shell.Format
import Regen.Shell.Tools.Basic

/-!
# Characters translated one by one

Two sets of characters say what becomes of each character: it is translated, deleted, or squeezed with
its neighbours. A set is written with ranges, classes and repeated characters.

* `Tools.Piece`           a part of a set;
* `Tools.Piece.ofChars`   the parts of a set, or what is wrong with it;
* `Tools.tr`             the program.
-/

namespace Regen.Shell.Tools

/-! ## sets -/

inductive Piece where
  | single (c : Char)
  | range (first last : Char)
  | named (name : Chars)
  | like (c : Char)
  /-- a character so many times; to fill the set up, if there is no number. -/
  | repeated (c : Char) (count : Option Nat)

def unquoted : Nat → Chars → List (Char × Bool)
  | 0, _ => []
  | _, [] => []
  | _, ['\\'] => [('\\', false)]
  | n + 1, '\\' :: cs =>
    match Escape.one false cs with
    | (some [c], length) => (c, true) :: unquoted n (cs.drop length)
    | _ => (cs.headD '\\', true) :: unquoted n (cs.drop 1)
  | n + 1, c :: cs => (c, false) :: unquoted n cs

def printable (c : Char) : Chars :=
  match ("\\\x07\x08\x0c\n\r\t\x0b".toList.zip "\\abfnrtv".toList).lookup c with
  | some letter => ['\\', letter]
  | none =>
    if ' ' ≤ c ∧ c ≤ '~' then [c]
    else
      let digit (weight : Nat) : Char := Char.ofNat (48 + c.toNat / weight % 8)
      ['\\', digit 64, digit 8, digit 1]

def upToMark (mark : Char) : List (Char × Bool) → Option (Chars × List (Char × Bool))
  | (c, false) :: (']', false) :: rest =>
    if c = mark then some ([], rest)
    else (upToMark mark ((']', false) :: rest)).map fun r => (c :: r.1, r.2)
  | (c, _) :: rest => (upToMark mark rest).map fun r => (c :: r.1, r.2)
  | [] => none

/-- a repeated character after its opening bracket, and what comes after it; none if there is none,
a complaint if its number is wrong. -/
def repeated? (cs : List (Char × Bool)) : Option (Except String (Piece × List (Char × Bool))) :=
  match cs with
  | (c, _) :: ('*', false) :: rest =>
    let number := (rest.takeWhile fun d => !d.2 && d.1 != ']').map Prod.fst
    match rest.drop number.length with
    | (']', false) :: after =>
      let base := if number.head? = some '0' then 8 else 10
      match Numeral.digits base number 0 with
      | (n, []) => some (.ok (.repeated c (if n = 0 then none else some n), after))
      | _ => some (.error (about "invalid repeat count" (number.flatMap printable) ++ " in [c*n] construct"))
    | _ => none
  | _ => none

/-- a class or a character like another one after their opening bracket, and what comes after it. -/
def named? (cs : List (Char × Bool)) : Option (Except String (Piece × List (Char × Bool))) :=
  let inside (mark : Char) (rest : List (Char × Bool)) : Option (Except String (Piece × List (Char × Bool))) :=
    match upToMark mark rest with
    | none => none
    | some ([], _) =>
      some (.error (if mark = ':' then "missing character class name '[::]'"
        else "missing equivalence class character '[==]'"))
    | some (name, after) =>
      if mark = ':' then
        if (Text.classRanges name).isEmpty then some (.error (about "invalid character class" (name.flatMap printable)))
        else some (.ok (.named name, after))
      else match name with
        | [c] => some (.ok (.like c, after))
        | _ => some (.error (String.ofList (shown false (name.flatMap printable)) ++
            ": equivalence class operand must be a single character"))
  match cs with
  | (':', false) :: rest => inside ':' rest
  | ('=', false) :: rest => inside '=' rest
  | _ => none

def Piece.ofMarked : Nat → List (Char × Bool) → Except String (List Piece)
  | 0, _ => .ok []
  | n + 1, cs =>
    let special : Option (Except String (Piece × List (Char × Bool))) := match cs with
      | ('[', false) :: rest =>
        if cs.length < 3 then none
        else match named? rest with
          | some (.ok r) => some (.ok r)
          | some (.error e) => match repeated? rest with
            | some (.ok r) => some (.ok r)
            | _ => some (.error e)
          | none => repeated? rest
      | _ => none
    match special, cs with
    | some (.error e), _ => .error e
    | some (.ok (p, rest)), _ => (Piece.ofMarked n rest).map (p :: ·)
    | none, (a, _) :: ('-', false) :: (b, _) :: rest =>
      if b < a then
        .error ("range-endpoints of '" ++ String.ofList (printable a ++ '-' :: printable b) ++
          "' are in reverse collating sequence order")
      else (Piece.ofMarked n rest).map (.range a b :: ·)
    | none, (a, _) :: rest => (Piece.ofMarked n rest).map (.single a :: ·)
    | none, [] => .ok []

def Piece.ofChars (cs : Chars) : Except String (List Piece) :=
  let marked := unquoted (cs.length + 1) cs
  Piece.ofMarked (marked.length + 1) marked

def between (r : Char × Char) : Chars :=
  (List.range (r.2.toNat + 1 - r.1.toNat)).map fun i => Char.ofNat (r.1.toNat + i)

def Piece.chars (filling : Nat) : Piece → Chars
  | .single c => [c]
  | .range a b => between (a, b)
  | .named name => (Text.classRanges name).flatMap between
  | .like c => [c]
  | .repeated c count => List.replicate (count.getD filling) c

def charsOfParts (filling : Nat) (ps : List Piece) : Chars := ps.flatMap (Piece.chars filling)

/-! ## what may not be asked for -/

def fillers (ps : List Piece) : Nat :=
  ps.countP fun p => match p with | .repeated _ none => true | _ => false

def classPlaces (filling : Nat) : Nat → List Piece → List (Nat × Chars)
  | _, [] => []
  | i, p :: ps =>
    let rest := classPlaces filling (i + (p.chars filling).length) ps
    match p with
    | .named name => (i, name) :: rest
    | _ => rest

def isCase (name : Chars) : Bool := ["lower", "upper"].contains (String.ofList name)

/-- what is wrong with two sets of which one is translated into the other, given how many characters
the first one has and how many fill up the second. -/
def mismatch? (o : Choices) (first second : List Piece) (size filling : Nat) : Option String :=
  let second' := charsOfParts filling second
  let casePlaces (ps : List Piece) := (classPlaces filling 0 ps).filter fun c => isCase c.2
  let classes := classPlaces filling 0 second
  let complement := o.has 'c' || o.has 'C'
  if second.any fun p => match p with | .like _ => true | _ => false then
    some "[=c=] expressions may not appear in string2 when translating"
  else if classes.any fun c => !isCase c.2 then
    some ("when translating, the only character classes that may appear in\n" ++
      "string2 are 'upper' and 'lower'")
  else if !complement && (casePlaces second).any fun c => !((casePlaces first).map Prod.fst).contains c.1 then
    some "misaligned [:upper:] and/or [:lower:] construct"
  else if second'.length < size ∧ ¬ o.has 't' then
    if second'.isEmpty then some "when not truncating set1, string2 must be non-empty"
    else match second.getLast? with
      | some (.named _) => some ("when translating with string1 longer than string2,\n" ++
          "the latter string must not end with a character class")
      | _ => none
  else none

/-! ## the program -/

/-- neighbours of a kind that are equal, only once. -/
def squeeze (p : Char → Bool) : Chars → Chars
  | a :: b :: cs => if a = b ∧ p a then squeeze p (b :: cs) else a :: squeeze p (b :: cs)
  | cs => cs

def operandTrouble? (o : Choices) (sets : List Chars) : Option String :=
  let (deletes, squeezes) := (o.has 'd', o.has 's')
  let least := if deletes == squeezes then 2 else 1
  let most := if deletes && !squeezes then 1 else 2
  match sets with
  | [] => some "missing operand"
  | _ =>
    if sets.length < least then
      some (about "missing operand after" (sets.getLastD []) ++ "\nTwo strings must be given when " ++
        if squeezes then "both deleting and squeezing repeats." else "translating.")
    else match sets[most]? with
      | some extra => some (about "extra operand" extra ++
          if sets.length = 2 then "\nOnly one string may be given when deleting without squeezing repeats." else "")
      | none => none

def translated (o : Choices) (sets : List Chars) (text : Chars) : Except String Chars := do
  let first ← Piece.ofChars (sets.getD 0 [])
  let second ← Piece.ofChars (sets.getD 1 [])
  if fillers first ≠ 0 then throw "the [c*] repeat construct may not appear in string1"
  if 1 < fillers second then throw "only one [c*] repeat construct may appear in string2"
  let complement := o.has 'c' || o.has 'C'
  let listed := charsOfParts 0 first
  let isIn (c : Char) : Bool := listed.contains c != complement
  let domain := if complement then (between ('\x00', '\xff')).filter isIn else listed
  let filling := domain.length - (charsOfParts 0 second).length
  if o.has 'd' ∨ sets.length < 2 then
    if fillers second ≠ 0 then throw "the [c*] construct may appear in string2 only when translating"
    let kept := if o.has 'd' then text.filter fun c => !isIn c else text
    let squeezed := if o.has 'd' then (charsOfParts 0 second).contains else isIn
    return if o.has 's' then squeeze squeezed kept else kept
  else
    match mismatch? o first second domain.length filling with
    | some e => throw e
    | none =>
      let range := charsOfParts filling second
      let range := if o.has 't' then range
        else range ++ List.replicate (domain.length - range.length) (range.getLastD ' ')
      if complement ∧ (first.any fun p => match p with | .named _ => true | _ => false) ∧
          1 < range.eraseDups.length then
        throw ("when translating with complemented character classes,\n" ++
          "string2 must map all characters in the domain to one")
      let table := (domain.zip range).reverse
      let changed := text.map fun c => (table.lookup c).getD c
      return if o.has 's' then squeeze range.contains changed else changed

def tr : Tool :=
  withOptions (switches [('c', "complement"), ('C', ""), ('d', "delete"), ('s', "squeeze-repeats"),
    ('t', "truncate-set1")]) false 1 fun o sets m =>
    match operandTrouble? o sets with
    | some e => (misused m e, 1)
    | none =>
      match translated o sets [], m.readFailure? (m.endpoint 0) with
      | .error e, _ => (accuse m e.toList, 1)
      | .ok _, some e => (accuse m ("read error: " ++ words e).toList, 1)
      | .ok _, none =>
        let (text, m) := m.readAll 0
        (m.write 1 ((translated o sets text).toOption.getD []), 0)

end Regen.Shell.Tools
