import Regen.Decimal.Arithmetic
import Regen.Shell.Format
import Regen.Shell.Tools.Amount

/-!
# Series of numbers

The numbers from one to another in steps. Natural numbers are counted exactly; others are sums that are
rounded, so that it may take one more of them to come to the last one, if that is how it would be written.

* `Tools.Series`      numbers that are written one after the other;
* `Tools.seriesOf`    what `seq` is asked for.
-/

namespace Regen.Shell.Tools

/-- numbers that are written one after the other: how many, each of them, and what stands between
them. -/
structure Series where
  count : Nat
  text : Nat → Chars
  separator : Chars

def Series.piece (s : Series) (start length : Nat) : Chars :=
  (List.range (min length (s.count - start))).flatMap fun k =>
    s.text (start + k) ++ if start + k + 1 = s.count then ['\n'] else s.separator

/-! ## numbers that are given -/

/-- a number that is given: its value, how many places it is written with, unless that is not known, and how
wide it is. -/
structure Bound where
  value : Double
  places : Option Nat
  width : Int

def Bound.one : Bound := ⟨Precision.extended.nearest false 1 0, some 0, 1⟩

def realOf? (text : Chars) : Option Double := do
  let r ← Double.start? .extended text
  let isLost : Bool := r.outside && match r.value with
    | .finite _ m _ => m != 0
    | _ => true
  if r.rest ≠ [] ∨ isLost then none else some r.value

/-- the power of ten after the letter `e` in a number, if it has one, and how many characters that takes. -/
def exponentOf? (text : Chars) : Option (Int × Nat) :=
  let rest := text.dropWhile fun c => c != 'e' && c != 'E'
  match rest with
  | [] => none
  | _ :: digits => some ((Numeral.start false digits).1.getD 0, rest.length)

/-- how many places a number is written with that is given by a text, and how wide it is; nothing is known of a
fraction in hexadecimal. -/
def layoutOf (text : Chars) (isFinite : Bool) : Option Nat × Int :=
  let body := text.dropWhile fun c => isLeadingBlank c || c == '+'
  let point := body.findIdx? (· == '.')
  let unknown := point.isSome || body.contains 'p'
  if body.any (fun c => c == 'x' || c == 'X') ∨ ¬ isFinite then (if unknown then none else some 0, 0)
  else
    let fraction := (point.map fun i => ((body.drop (i + 1)).takeWhile fun c => c != 'e' && c != 'E').length).getD 0
    let places : Int := fraction
    let width : Int := body.length + match point with
      | none => 0
      | some i =>
        if fraction = 0 then -1 else if i = 0 ∨ ¬ ((body[i - 1]?).any Char.isDigit) then 1 else 0
    match exponentOf? body with
    | none => (some places.toNat, width)
    | some (e, length) =>
      let shown := places + if e < 0 then -e else -(min places e)
      let width := width - length
      let isBare := (point.map fun i => body.length - length == i + 1).getD true
      let width := if e < 0 then (if isBare then width + 1 else width) - e
        else (if point.isSome ∧ shown = 0 ∧ fraction ≠ 0 then width - 1 else width) + (e - min (fraction : Int) e)
      (some shown.toNat, width)

def Bound.read (text : Chars) : Except Misuse Bound :=
  let kind (k : String) : String := "invalid " ++ k ++ " argument:"
  match realOf? text with
  | none => .error ⟨about (kind "floating point") text, true⟩
  | some .nan => .error ⟨about (kind "'not-a-number'") text, true⟩
  | some x =>
    let isFinite : Bool := match x with
      | .finite .. => true
      | _ => false
    let (places, width) := layoutOf text isFinite
    .ok ⟨x, places, width⟩

/-! ## how numbers are written -/

/-- how numbers are written: what stands before each, how it is shown, and what stands after it. -/
structure Pattern where
  before : Chars
  spec : Format.Spec
  after : Chars

/-- what stands in a format up to a single percent sign, and what comes after that; or all of it. -/
def upToDirective : Chars → Chars × Option Chars
  | '%' :: '%' :: cs => let r := upToDirective cs; ('%' :: r.1, r.2)
  | '%' :: cs => ([], some cs)
  | c :: cs => let r := upToDirective cs; (c :: r.1, r.2)
  | [] => ([], none)

def Pattern.read (format : Chars) : Except Misuse Pattern :=
  let wrong (reason : String) : Except Misuse Pattern := .error ⟨about "format" format ++ reason, false⟩
  match upToDirective format with
  | (_, none) => wrong " has no % directive"
  | (before, some cs) =>
    let flags := cs.takeWhile fun c => "-+#0 '".toList.contains c
    let cs := cs.drop flags.length
    let width := cs.takeWhile Char.isDigit
    let cs := cs.drop width.length
    let (places, cs) : Option Chars × Chars := match cs with
      | '.' :: cs => let ds := cs.takeWhile Char.isDigit; (some ds, cs.drop ds.length)
      | cs => (none, cs)
    match if cs.head? = some 'L' then cs.drop 1 else cs with
    | [] => wrong " ends in %"
    | c :: cs =>
      if ¬ "efgaEFGA".toList.contains c then wrong (" has unknown %" ++ toString c ++ " directive")
      else match upToDirective cs with
        | (_, some _) => wrong " has too many % directives"
        | (after, none) =>
          .ok ⟨before, ⟨flags.contains '-', flags.contains '0', flags.contains '+', flags.contains ' ',
            flags.contains '#', Text.decimal width, places.map Text.decimal, c⟩, after⟩

def Pattern.plain (width : Nat) (places : Option Nat) (conversion : Char) : Pattern :=
  ⟨[], ⟨false, 0 < width, false, false, false, width, places, conversion⟩, []⟩

/-- how numbers are written unless a format is given: with as many places as the first one or the step has, and
all of one width, if that is asked for. -/
def Pattern.usual (first step last : Bound) (equal : Bool) : Pattern :=
  match first.places, step.places, last.places with
  | some f, some s, some l =>
    let places := max f s
    if equal then
      let point (own : Nat) : Int := if own = 0 ∧ places ≠ 0 then 1 else if own ≠ 0 ∧ places = 0 then -1 else 0
      let firstWidth := first.width + ((places : Int) - f) + (if f = 0 ∧ places ≠ 0 then 1 else 0)
      let lastWidth := last.width + ((places : Int) - l) + point l
      .plain (max firstWidth lastWidth).toNat (some places) 'f'
    else .plain 0 (some places) 'f'
  | _, _, _ => .plain 0 none 'g'

def Pattern.body (p : Pattern) (x : Double) : Chars :=
  let negative : Bool := match x with
    | .finite r _ _ => r
    | .infinite r => r
    | .nan => false
  Format.realText .extended p.spec negative x

def Pattern.show (p : Pattern) (x : Double) : Chars := p.before ++ p.body x ++ p.after

/-! ## series -/

def endless : Nat := Nat.pow 10 40

def Series.ofNaturals (first step : Nat) (last : Option Nat) (separator : Chars) : Series where
  count := match last with
    | some last => if last < first then 0 else (last - first) / step + 1
    | none => endless
  text i := Nat.toDigits 10 (first + i * step)
  separator := separator

def Bound.at (first step : Bound) (i : Nat) : Double :=
  if i = 0 then first.value else Precision.extended.sum first.value (Precision.extended.multiple i step.value)

def roughly (first step last : Double) : Nat :=
  match first, step, last with
  | .finite r m e, .finite s n g, .finite t o h =>
    let (a, b) := Precision.signedFraction r m e
    let (c, d) := Precision.signedFraction s n g
    let (x, y) := Precision.signedFraction t o h
    if c = 0 then endless else (Int.tdiv ((x * b - a * y) * d) (b * y * c)).toNat
  | .finite .., .finite .., .infinite _ => endless
  | _, _, _ => 0

def Series.ofBounds (p : Pattern) (first step last : Bound) (separator : Chars) : Series :=
  let isPast (x : Double) : Bool :=
    if step.value.isNegative then Double.order x last.value == .lt else Double.order last.value x == .lt
  let near := roughly first.value step.value last.value
  let end? := ((List.range 8).map fun k => near + k - 3).find? fun i => 0 < i && isPast (first.at step i)
  let count := match end? with
    | none => endless
    | some n =>
      let text := p.body (first.at step n)
      let isLast := (realOf? text).any fun x => Double.order x last.value == .eq
      if isLast ∧ text ≠ p.body (first.at step (n - 1)) then n + 1 else n
  ⟨if isPast first.value then 0 else count, fun i => p.show (first.at step i), separator⟩

def Double.natural? : Double → Option Nat
  | .finite false m e => let (a, b) := Double.fraction m e; some (Double.roundEven a b)
  | _ => none

/-- the greatest step by which natural numbers are counted exactly. -/
def stepLimit : Nat := 200

def Series.natural? (first step last : Bound) (separator : Chars) : Option Series := do
  if first.places ≠ some 0 ∨ step.places ≠ some 0 ∨ last.places ≠ some 0 then none
  let first ← Double.natural? first.value
  let step ← Double.natural? step.value
  if step = 0 ∨ stepLimit < step then none
  match last.value with
  | .infinite false => some (.ofNaturals first step none separator)
  | x => do some (.ofNaturals first step (some (← Double.natural? x)) separator)

/-! ## what is asked for -/

/-- whether an argument gives options whose value is the next argument. -/
def asksForNext : Chars → Bool
  | '-' :: '-' :: name => name ≠ [] && (name.isPrefixOf "separator".toList || name.isPrefixOf "format".toList)
  | '-' :: letters =>
    match letters.dropWhile (· == 'w') with
    | [c] => c == 's' || c == 'f'
    | _ => false
  | _ => false

/-- the options of `seq`, which end where a number starts. -/
def splitNumbers : List Chars → List Chars × List Chars
  | [] => ([], [])
  | ['-', '-'] :: rest => ([], rest)
  | ('-' :: c :: cs) :: rest =>
    if c = '.' ∨ c.isDigit then ([], ('-' :: c :: cs) :: rest)
    else match asksForNext ('-' :: c :: cs), rest with
      | true, value :: rest => let r := splitNumbers rest; (('-' :: c :: cs) :: value :: r.1, r.2)
      | _, rest => let r := splitNumbers rest; (('-' :: c :: cs) :: r.1, r.2)
  | args => ([], args)

/-- numbers that are given, in turn, up to the first one that is wrong; a step of nothing is wrong too. -/
def readBounds : List Chars → Except Misuse (Bound × Bound × Bound)
  | [last] => do return (.one, .one, ← Bound.read last)
  | [first, last] => do
    let first ← Bound.read first
    return (first, .one, ← Bound.read last)
  | first :: step :: last :: _ => do
    let first ← Bound.read first
    let size ← Bound.read step
    if Double.order size.value (.finite false 0 0) == .eq then throw ⟨about "invalid Zero increment value:" step, true⟩
    return (first, size, ← Bound.read last)
  | [] => .error ⟨"missing operand", true⟩

def seriesFrom (o : Choices) (numbers : List Chars) : Except Misuse Series := do
  match numbers with
  | [] => throw ⟨"missing operand", true⟩
  | _ :: _ :: _ :: extra :: _ => throw ⟨about "extra operand" extra, true⟩
  | _ => pure ()
  let pattern ← (o.value? 'f').mapM Pattern.read
  if pattern.isSome ∧ o.has 'w' then
    throw ⟨"format string may not be specified when printing equal width strings", true⟩
  let separator := (o.value? 's').getD ['\n']
  let isPlain := !o.has 'w' && pattern.isNone && separator.length == 1
  let digits (ds : Chars) : Bool := ds ≠ [] && ds.all Char.isDigit
  let step := match numbers with
    | [_, step, _] => if digits step then Text.decimal step else 0
    | _ => 1
  if isPlain ∧ numbers.all digits ∧ 0 < step ∧ step ≤ stepLimit then
    let first := if numbers.length = 1 then 1 else Text.decimal (numbers.headD [])
    return .ofNaturals first step (some (Text.decimal (numbers.getLastD []))) separator
  let (first, step, last) ← readBounds numbers
  match if isPlain then Series.natural? first step last separator else none with
  | some s => return s
  | none => return .ofBounds (pattern.getD (.usual first step last (o.has 'w'))) first step last separator

def seriesOf (m : Machine) (args : List Chars) : Except Machine Series :=
  let (front, numbers) := splitNumbers args
  let known := [valued 's' "separator", valued 'f' "format"] ++ switches [('w', "equal-width")]
  match (readOptions known false front).checked allowed with
  | .error e => .error (denounce m e)
  | .ok (o, operands) => (seriesFrom o (operands ++ numbers)).mapError (denounce m)

end Regen.Shell.Tools
