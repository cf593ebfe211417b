import Regen.Shell.Tools.Basic
import Regen.Shell.Tools.Collation

/-!
# Lines in order

Lines are compared by keys, which are parts of them, and as a whole where the keys do not decide.

* `Tools.Key`            a part of a line, and how it is compared;
* `Tools.compareKeys`    two lines, key by key;
* `Tools.sort`           the program.
-/

namespace Regen.Shell.Tools

/-! ## keys -/

/-- a part of a line: from a field and a character in it to the end of a field or a character in it;
to the end of the line if there is no `stop`. -/
structure Key where
  field : Nat
  char : Nat
  stop : Option (Nat × Nat)
  manner : Manner
  skipsStart : Bool
  skipsStop : Bool

/-- a text after so many fields, which a character separates, or blanks. A field has the blanks in
front of it; after a separating character comes the next field, unless it is the last one wanted. -/
def afterFields (tab : Option Char) (keepsLast : Bool) : Nat → Chars → Chars
  | 0, cs => cs
  | n + 1, cs =>
    match tab with
    | some t =>
      let rest := cs.dropWhile (· ≠ t)
      afterFields tab keepsLast n (if n = 0 ∧ keepsLast then rest else rest.drop 1)
    | none => afterFields tab keepsLast n ((cs.dropWhile isFieldBlank).dropWhile fun c => !isFieldBlank c)

def Key.part (tab : Option Char) (k : Key) (line : Chars) : Chars :=
  let start := afterFields tab false k.field line
  let start := ((if k.skipsStart then start.dropWhile isFieldBlank else start).drop k.char)
  match k.stop with
  | none => start
  | some (field, char) =>
    let rest :=
      if char = 0 then afterFields tab true (field + 1) line
      else
        let rest := afterFields tab false field line
        (if k.skipsStop then rest.dropWhile isFieldBlank else rest).drop char
    start.take (start.length - rest.length)

/-! ## comparisons -/

def turned (reverse : Bool) (o : Ordering) : Ordering := if reverse then o.swap else o

def compareKeys (tab : Option Char) (keys : List Key) (a b : Chars) : Ordering :=
  keys.foldl (fun o k => o.then
    (turned (k.manner.contains 'r') (compareTexts k.manner (k.part tab a) (k.part tab b)))) .eq

/-! ## the options of `sort` -/

structure Sorting where
  tab : Option Char
  keys : List Key
  /-- lines that the keys do not tell apart: left as they are, or only the first of them. -/
  stable : Bool
  unique : Bool
  reverse : Bool
  ending : Char

def Sorting.compare (s : Sorting) (a b : Chars) : Ordering :=
  let byKeys := compareKeys s.tab s.keys a b
  if s.unique ∨ s.stable then byKeys else byKeys.then (turned s.reverse (compareBytes a b))

def mannerLetters : Chars := "bdfghiMnrV".toList

def countAt (cs : Chars) : Option (Nat × Chars) :=
  let digits := cs.takeWhile Char.isDigit
  if digits.isEmpty then none else some (Text.decimal digits, cs.drop digits.length)

def positionAt (cs : Chars) : Option (Nat × Option Nat × Chars) := do
  let (field, rest) ← countAt cs
  match rest with
  | '.' :: rest => do
    let (char, rest) ← countAt rest
    return (field, some char, rest)
  | _ => return (field, none, rest)

def badKey (reason : String) (value : Chars) : String := reason ++ ": " ++ about "invalid field specification" value

def Key.read (value : Chars) : Except String Key := do
  let some (field, char, rest) := positionAt value
    | throw (about "invalid number at field start: invalid count at start of" value)
  if field = 0 then throw (badKey "field number is zero" value)
  if char = some 0 then throw (badKey "character offset is zero" value)
  let startManner := rest.takeWhile mannerLetters.contains
  let rest := rest.drop startManner.length
  let key : Key := ⟨field - 1, char.getD 1 - 1, none, startManner.filter (· ≠ 'b'), startManner.contains 'b', false⟩
  match rest with
  | [] => return key
  | ',' :: rest => do
    let some (field, char, rest) := positionAt rest
      | throw (about "invalid number after ',': invalid count at start of" rest)
    if field = 0 then throw (badKey "field number is zero" value)
    let stopManner := rest.takeWhile mannerLetters.contains
    if rest.length ≠ stopManner.length then throw (badKey "stray character in field spec" value)
    return { key with
      stop := some (field - 1, char.getD 0)
      manner := key.manner ++ stopManner.filter (· ≠ 'b')
      skipsStop := stopManner.contains 'b' }
  | _ => throw (badKey "stray character in field spec" value)

def separatorOf (value : Chars) : Except String Char :=
  match value with
  | [] => .error "empty tab"
  | [c] => .ok c
  | ['\\', '0'] => .ok '\x00'
  | _ => .error (about "multi-character tab" value)

def mannerOf (word : Chars) : Except Misuse Char :=
  wordMeaning "--sort" [(["general-numeric"], 'g'), (["human-numeric"], 'h'), (["month"], 'M'),
    (["numeric"], 'n'), (["version"], 'V')] word

/-- what is told of lines that are out of order: something, or nothing. -/
def checkOf (word : Chars) : Except Misuse Char :=
  if word.isEmpty then .ok 'c'
  else wordMeaning "--check" [(["quiet", "silent"], 'C'), (["diagnose-first"], 'c')] word

def plainOption (g : Char × Chars) : Char × Chars :=
  match g.1 with
  | '\x01' => ((checkOf g.2).toOption.getD 'c', [])
  | '\x02' => ((mannerOf g.2).toOption.getD 'n', [])
  | _ => g

def sortMisuse (letter : Char) (value : Chars) : Option Misuse :=
  let told (r : Except String Unit) : Option Misuse := match r with
    | .error e => some ⟨e, false⟩
    | .ok _ => none
  match letter with
  | 'k' => told ((Key.read value).map fun _ => ())
  | 't' => told ((separatorOf value).map fun _ => ())
  | '\x01' => misuseOf (checkOf value)
  | '\x02' => misuseOf (mannerOf value)
  | _ => none

/-- how lines are sorted, as options say, or what is wrong with them. A key with a manner of its own does
not take that of the options. -/
def Sorting.ofChoices (o : Choices) : Except String Sorting := do
  let keys ← (o.given.filter fun g => g.1 == 'k').mapM fun g => Key.read g.2
  let tabs ← (o.given.filter fun g => g.1 == 't').mapM fun g => separatorOf g.2
  if 1 < tabs.eraseDups.length then throw "incompatible tabs"
  let manner := (o.given.map Prod.fst).filter mannerLetters.contains
  let inherit (k : Key) : Key :=
    if k.manner.isEmpty ∧ ¬ k.skipsStart ∧ ¬ k.skipsStop then
      { k with manner := manner, skipsStart := manner.contains 'b', skipsStop := manner.contains 'b' }
    else k
  let whole : Key := ⟨0, 0, none, [], false, false⟩
  let keys := if keys.isEmpty then if manner.all (· == 'r') then [] else [whole] else keys
  let keys := (if keys.isEmpty ∧ o.has 'u' then [whole] else keys).map inherit
  match keys.findSome? fun k => conflictOf k.manner with
  | some letters => throw ("options '-" ++ String.ofList letters ++ "' are incompatible")
  | none => return ⟨tabs.getLast?, keys, o.has 's', o.has 'u', o.has 'r', o.ending 'z'⟩

/-! ## sorting -/

def firstOfEach (alike : Chars → Chars → Bool) : List Chars → List Chars
  | a :: b :: ls => if alike a b then firstOfEach alike (a :: ls) else a :: firstOfEach alike (b :: ls)
  | ls => ls
termination_by ls => ls.length

def Sorting.sort (s : Sorting) (ls : List Chars) : List Chars :=
  let sorted := ls.mergeSort fun a b => s.compare a b != .gt
  if s.unique then firstOfEach (fun a b => s.compare a b == .eq) sorted else sorted

/-- the lines of files one after the other, always the least of those that come next; of lines that
are alike, the one of an earlier file. -/
def Sorting.mergeFrom (s : Sorting) : Nat → List (List Chars) → List Chars
  | 0, _ => []
  | n + 1, files =>
    let least := files.foldl (fun (best : Option Chars) f =>
      match best, f with
      | some l, l' :: _ => if s.compare l l' == .gt then some l' else best
      | none, l' :: _ => some l'
      | _, [] => best) none
    match least with
    | none => []
    | some l =>
      let k := (files.findIdx? fun f => match f with
        | l' :: _ => s.compare l l' == .eq
        | [] => false).getD 0
      l :: s.mergeFrom n (files.modify k (·.drop 1))

def Sorting.merge (s : Sorting) (files : List (List Chars)) : List Chars :=
  let merged := s.mergeFrom files.flatten.length files
  if s.unique then firstOfEach (fun a b => s.compare a b == .eq) merged else merged

def Sorting.disorder? (s : Sorting) : Nat → List Chars → Option (Nat × Chars)
  | n, a :: b :: ls =>
    let o := s.compare a b
    if o = .gt ∨ (s.unique ∧ o = .eq) then some (n + 1, b) else s.disorder? (n + 1) (b :: ls)
  | _, _ => none

/-- the complaint about a file that cannot be sorted, or checked. -/
def unsorted (checks : Bool) (m : Machine) (f : Chars) : Source → Machine
  | .unopened e => accuse m ((if checks then "open failed: " else "cannot read: ").toList ++ shown false f ++ (": " ++ words e).toList)
  | .unread e =>
    let verb := if f = ['-'] ∧ m.endpoint 0 = .closed ∧ ¬ checks then "stat failed: " else "read failed: "
    accuse m (verb.toList ++ shown false f ++ (": " ++ words e).toList)
  | .text _ => m

def sortFiles (s : Sorting) (o : Choices) (files : List Chars) (m : Machine) : Machine × Nat :=
  let missing? := files.find? fun f => match (openSource m f).1 with | .unopened _ => f ≠ ['-'] | _ => false
  let checks := o.has 'c' || o.has 'C'
  let (texts, m, status) := gather (unsorted checks) ((missing?.map fun f => [f]).getD files) m
  let parts := texts.map fun t => (endedBy s.ending t).map (bareBy s.ending)
  if status ≠ 0 then (m, 2)
  else if checks then
    match s.disorder? 1 parts.flatten with
    | none => (m, 0)
    | some (n, l) =>
      let place := files.headD [] ++ (":" ++ toString n ++ ": disorder: ").toList ++ l
      (if o.has 'C' then m else accuse m place, 1)
  else
    let out := closedBy s.ending (if o.has 'm' then s.merge parts else s.sort parts.flatten)
    match o.value? 'o' with
    | none => (m.write 1 out, 0)
    | some f =>
      match m.openPath f (.output false) with
      | .ok (e, m) => (m.emit e out, 0)
      | .error e => (accuse m ("open failed: ".toList ++ shown false f ++ (": " ++ words e).toList), 2)

/-- the options of `sort`. Those that have no letter go by one that cannot be typed. -/
def sortOptions : List Known :=
  switches [('b', "ignore-leading-blanks"), ('d', "dictionary-order"), ('f', "ignore-case"),
    ('g', "general-numeric-sort"), ('h', "human-numeric-sort"), ('i', "ignore-nonprinting"), ('M', "month-sort"),
    ('n', "numeric-sort"), ('r', "reverse"), ('V', "version-sort"), ('s', "stable"), ('u', "unique"), ('c', ""),
    ('C', ""), ('m', "merge"), ('z', "zero-terminated")] ++
  valuedAll [('k', "key"), ('t', "field-separator"), ('o', "output"), ('S', "buffer-size"),
    ('T', "temporary-directory"), ('\x02', "sort"), ('\x03', "parallel"), ('\x04', "batch-size"),
    ('\x05', "compress-program")] ++
  possibles [('\x01', "check")]

def sort : Tool :=
  withChecked sortOptions true 2 sortMisuse fun o files m =>
    let o : Choices := ⟨o.given.map plainOption⟩
    let outputs := (o.given.filter fun g => g.1 == 'o').map Prod.snd
    let incompatible (letters : String) : Machine × Nat :=
      (accuse m ("options '-" ++ letters ++ "' are incompatible").toList, 2)
    if o.has 'c' ∧ o.has 'C' then incompatible "cC"
    else if 1 < outputs.eraseDups.length then (accuse m "multiple output files specified".toList, 2)
    else match Sorting.ofChoices o, o.last? "cC" with
      | .error e, _ => (accuse m e.toList, 2)
      | .ok s, none => sortFiles s o (orInput files) m
      | .ok s, some (c, _) =>
        match files[1]? with
        | some extra => (accuse m (about "extra operand" extra ++ " not allowed with -" ++ toString c).toList, 2)
        | none =>
          if outputs.isEmpty then sortFiles s o (orInput files) m else incompatible (toString c ++ "o")

end Regen.Shell.Tools
