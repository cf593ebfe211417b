import Regen.Shell.Tools.Amount
import Regen.Shell.Tools.Sorting

/-!
# Neighbours that are alike

Lines that follow one another and agree in the part that counts are a group.

* `Tools.grouped`        lines in groups of neighbours with one key;
* `Tools.Repetition`     which lines of each group are shown, and how;
* `Tools.uniq`           the program.
-/

namespace Regen.Shell.Tools

def grouped (key : Chars → Chars) : List Chars → List (List Chars)
  | [] => []
  | l :: ls =>
    match grouped key ls with
    | (l' :: g) :: gs => if key l = key l' then (l :: l' :: g) :: gs else [l] :: (l' :: g) :: gs
    | gs => [l] :: gs

/-- where an empty line sets groups apart. -/
inductive Spacing where
  | never
  | before
  | after
  | between
  | around
  deriving DecidableEq

/-- empty lines where they set groups apart, in front of a group and at the end of all; `isFirst` says
whether no group came before. -/
def Spacing.inFront (s : Spacing) (isFirst : Bool) : Bool :=
  match s with
  | .before | .around => true
  | .after | .between => !isFirst
  | .never => false

def Spacing.atEnd (s : Spacing) : Bool := s = .after || s = .around

structure Repetition where
  single : Bool
  several : Bool
  all : Bool
  counted : Bool
  spacing : Spacing
  whole : Bool

def Repetition.lines (r : Repetition) (group : List Chars) : List Chars :=
  if r.whole then group
  else if group.length < 2 then if r.single then group else []
  else
    let early := if r.all then group.dropLast else []
    let representative := if r.all then group.drop (group.length - 1) else group.take 1
    early ++ if r.several then representative else []

def Repetition.shown (r : Repetition) (isFirst : Bool) : List (List Chars) → List Chars
  | [] => if r.spacing.atEnd ∧ r.whole ∧ ¬ isFirst then [[]] else []
  | g :: gs =>
    let counts := r.whole || 2 ≤ g.length
    let space : List Chars := if counts ∧ r.spacing.inFront isFirst then [[]] else []
    let lines := (r.lines g).map fun l => if r.counted then padded 7 g.length ++ ' ' :: l else l
    space ++ lines ++ r.shown (isFirst && !counts) gs

/-- the part of a line that counts: behind some fields and some characters, and so long at most. -/
structure Counted where
  fields : Nat
  characters : Nat
  length : Option Nat
  ignoresCase : Bool

def Counted.part (c : Counted) (line : Chars) : Chars :=
  let rest := (afterFields none false (min c.fields line.length) line).drop c.characters
  let rest := c.length.elim rest rest.take
  if c.ignoresCase then rest.map Char.toUpper else rest

/-- the options of `uniq`. Those that have no letter go by one that cannot be typed. -/
def uniqOptions : List Known :=
  switches ([('c', "count"), ('d', "repeated"), ('D', ""), ('u', "unique"), ('i', "ignore-case"),
    ('z', "zero-terminated")] ++ "0123456789".toList.map fun d => (d, "")) ++
  possibles [('\x01', "all-repeated"), ('\x02', "group")] ++
  valuedAll [('f', "skip-fields"), ('s', "skip-chars"), ('w', "check-chars")]

/-- the number of an option, or what is wrong with it; one that is too large is as large as can be. -/
def uniqNumber (phrase : String) (value : Chars) : Except Misuse Nat :=
  match Amount.read [] value with
  | .number n => .ok n
  | .tooLarge => .ok (UInt64.size - 1)
  | .invalid => .error ⟨String.ofList value ++ ": invalid number of " ++ phrase, false⟩

/-- how repeated lines are set apart; `value` is that of an option. -/
def repeatedSpacing (value : Chars) : Except Misuse Spacing :=
  if value.isEmpty then .ok .never
  else wordMeaning "--all-repeated" [(["none"], .never), (["prepend"], .before), (["separate"], .between)] value

/-- how groups are set apart; `value` is that of an option. -/
def groupSpacing (value : Chars) : Except Misuse Spacing :=
  if value.isEmpty then .ok .between
  else wordMeaning "--group" [(["prepend"], .before), (["append"], .after), (["separate"], .between),
    (["both"], .around)] value

def uniqMisuse (letter : Char) (value : Chars) : Option Misuse :=
  match letter with
  | 'f' => misuseOf (uniqNumber "fields to skip" value)
  | 's' => misuseOf (uniqNumber "bytes to skip" value)
  | 'w' => misuseOf (uniqNumber "bytes to compare" value)
  | '\x01' => misuseOf (repeatedSpacing value)
  | '\x02' => misuseOf (groupSpacing value)
  | _ => none

/-- the part of a line that counts by the options. Digits alone are a number of fields, unless the option
for it comes later. -/
def Counted.ofChoices (o : Choices) : Counted :=
  let number (letter : Char) : Option Nat := (o.value? letter).bind fun v => (uniqNumber "" v).toOption
  let fields := o.given.foldl (fun (old, n) g =>
    if g.1.isDigit then (true, 10 * (if old then n else 0) + (g.1.toNat - 48))
    else if g.1 = 'f' then (false, (uniqNumber "" g.2).toOption.getD 0)
    else (old, n)) (false, 0)
  ⟨fields.2, (number 's').getD 0, number 'w', o.has 'i'⟩

/-- which lines of each group are shown by the options, or what is wrong with them. -/
def Repetition.ofChoices (o : Choices) : Except String Repetition :=
  let all := o.has 'D' || o.has '\x01'
  let whole := o.has '\x02'
  if whole ∧ (all ∨ o.has 'c' ∨ o.has 'd' ∨ o.has 'u') then
    .error "--group is mutually exclusive with -c/-d/-D/-u"
  else if all ∧ o.has 'c' then .error "printing all duplicated lines and repeat counts is meaningless"
  else
    let spacing := match o.last? "D\x01", o.value? '\x02' with
      | some ('\x01', value), _ => (repeatedSpacing value).toOption.getD .never
      | _, some value => (groupSpacing value).toOption.getD .never
      | _, none => .never
    .ok ⟨!(o.has 'd' || all), !o.has 'u', all, o.has 'c', spacing, whole⟩

/-- the complaint about a file that `uniq` cannot read. -/
def unreadLines (m : Machine) (f : Chars) : Source → Machine
  | .unopened e => blame m "" f "" e
  | .unread e => blame m "error reading " f "" e
  | .text _ => m

def isSkip (operand : Chars) : Bool :=
  match operand with
  | '+' :: digits => !digits.isEmpty && digits.all Char.isDigit
  | _ => false

def uniq : Tool := fun args =>
  withChecked uniqOptions true 1 uniqMisuse (fun o operands m =>
    let (skips, files) := if args.contains ['-', '-'] then ([], operands) else operands.partition isSkip
    let o : Choices := ⟨o.given ++ skips.map fun a => ('s', a.drop 1)⟩
    match files[2]?, Repetition.ofChoices o with
    | some extra, _ => (misused m (about "extra operand" extra), 1)
    | none, .error e => (misused m e, 1)
    | none, .ok r =>
      let ending := o.ending 'z'
      let (texts, m, status) := gather unreadLines (orInput (files.take 1)) m
      let lines := texts.flatMap fun t => (endedBy ending t).map (bareBy ending)
      let out := closedBy ending (r.shown true (grouped (Counted.ofChoices o).part lines))
      if status ≠ 0 then (m, 1)
      else match files[1]? with
        | none => (m.write 1 out, 0)
        | some ['-'] => (m.write 1 out, 0)
        | some f =>
          match m.openPath f (.output false) with
          | .ok (e, m) => (m.emit e out, 0)
          | .error e => (blame m "" f "" e, 1)) args

end Regen.Shell.Tools
