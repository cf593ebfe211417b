import Regen.Decimal.Notation
import Regen.Shell.Numeral

/-!
# Escapes and formats

What `echo` and `printf` make of their arguments.

* `Escape.read`     the characters of a text with backslash escapes, by what one escape stands for;
* `Format.print`    a format filled with arguments, again and again until none is left.
-/

namespace Regen.Shell

/-! ## escapes -/

namespace Escape

def isOctal (c : Char) : Bool := '0' ≤ c && c ≤ '7'

def octal (cs : Chars) : Char :=
  Char.ofNat (cs.foldl (fun n c => 8 * n + (c.toNat - 48)) 0 % 256)

def letter? (c : Char) : Option Char :=
  match c with
  | 'a' => some '\x07'
  | 'b' => some '\x08'
  | 'e' => some '\x1b'
  | 'f' => some '\x0c'
  | 'n' => some '\n'
  | 'r' => some '\r'
  | 't' => some '\t'
  | 'v' => some '\x0b'
  | '\\' => some '\\'
  | _ => none

/-- one escape after its backslash: what it stands for, none if the output ends there, and how
many characters it takes. Octal numbers start with a zero that does not count, if `leadingZero`. -/
def one (leadingZero : Bool) (cs : Chars) : Option Chars × Nat :=
  match cs with
  | [] => (some ['\\'], 0)
  | 'c' :: _ => if leadingZero then (none, 1) else (some ['\\', 'c'], 1)
  | c :: rest =>
    match letter? c with
    | some d => (some [d], 1)
    | none =>
      if leadingZero ∧ c = '0' then
        let digits := (rest.takeWhile isOctal).take 3
        (some [octal digits], digits.length + 1)
      else if isOctal c then
        let digits := ((c :: rest).takeWhile isOctal).take 3
        (some [octal digits], digits.length)
      else (some ['\\', c], 1)

/-- one escape of the program `echo`, which knows hexadecimal bytes besides. -/
def oneWithHex : Chars → Option Chars × Nat
  | 'x' :: rest =>
    let digits := (rest.take 2).takeWhile fun c => (Numeral.digit? 16 c).isSome
    if digits.isEmpty then (some ['\\', 'x'], 1)
    else (some [Char.ofNat (Numeral.digits 16 digits 0).1], digits.length + 1)
  | cs => one true cs

/-- the characters of a text with escapes, and whether the output goes on after it; `escape` says what
stands for one escape after its backslash, and how many characters it takes. -/
def read (escape : Chars → Option Chars × Nat) : Nat → Chars → Chars × Bool
  | 0, cs => (cs, true)
  | _, [] => ([], true)
  | n + 1, '\\' :: cs =>
    match escape cs with
    | (none, _) => ([], false)
    | (some out, length) =>
      let r := read escape n (cs.drop length)
      (out ++ r.1, r.2)
  | n + 1, c :: cs => let r := read escape n cs; (c :: r.1, r.2)

/-- the characters of a text with the escapes of the shell's `echo`. -/
def ofEcho (cs : Chars) : Chars × Bool := read (one true) (cs.length + 1) cs

def ofEchoProgram (cs : Chars) : Chars × Bool := read oneWithHex (cs.length + 1) cs

end Escape

/-! ## formats -/

namespace Format

structure Spec where
  left : Bool
  zero : Bool
  plus : Bool
  space : Bool
  alternative : Bool
  width : Nat
  precision : Option Nat
  conversion : Char

def pad (s : Spec) (cs : Chars) : Chars :=
  if s.left then cs ++ List.replicate (s.width - cs.length) ' '
  else List.replicate (s.width - cs.length) ' ' ++ cs

def padAfter (zeros : Bool) (s : Spec) (sign body : Chars) : Chars :=
  if zeros ∧ s.zero ∧ ¬ s.left then
    sign ++ List.replicate (s.width - sign.length - body.length) '0' ++ body
  else pad s (sign ++ body)

def signOf (s : Spec) (negative : Bool) : Chars :=
  if negative then ['-'] else if s.plus then ['+'] else if s.space then [' '] else []

/-! ### integers -/

/-- the digits of an integer with as many as the precision asks for; zero has none if it asks for
none. -/
def digitsOf (s : Spec) (base n : Nat) : Chars :=
  let ds := if n = 0 ∧ s.precision = some 0 then [] else Nat.toDigits base n
  List.replicate (s.precision.getD 1 - ds.length) '0' ++ ds

def padNumber (s : Spec) (sign digits : Chars) : Chars := padAfter s.precision.isNone s sign digits

def unsignedText (s : Spec) (n : Nat) : Chars :=
  match s.conversion with
  | 'o' =>
    let ds := digitsOf s 8 n
    padNumber s [] (if s.alternative ∧ ds.head? ≠ some '0' then '0' :: ds else ds)
  | 'x' => padNumber s (if s.alternative ∧ n ≠ 0 then ['0', 'x'] else []) (digitsOf s 16 n)
  | 'X' => padNumber s (if s.alternative ∧ n ≠ 0 then ['0', 'X'] else []) ((digitsOf s 16 n).map Char.toUpper)
  | _ => padNumber s [] (digitsOf s 10 n)

/-! ### reals -/

def realDigits (p : Precision) (s : Spec) (mantissa : Nat) (exponent : Int) : Chars :=
  let places := s.precision.getD 6
  match s.conversion.toLower with
  | 'f' => Double.fixed places s.alternative mantissa exponent
  | 'e' => Double.scientific places s.alternative mantissa exponent
  | 'g' => Double.general places s.alternative mantissa exponent
  | _ => Double.hexadecimal p s.precision s.alternative mantissa exponent

/-- a real: its sign and its digits put to a width. -/
def realText (p : Precision) (s : Spec) (negative : Bool) (x : Double) : Chars :=
  let cased (cs : Chars) : Chars := if s.conversion.isUpper then cs.map Char.toUpper else cs
  let sign := signOf s negative
  match x with
  | .nan => padAfter false s sign (cased "nan".toList)
  | .infinite _ => padAfter false s sign (cased "inf".toList)
  | .finite _ m e =>
    let body := cased (realDigits p s m e)
    if s.conversion.toLower = 'a' then padAfter true s (sign ++ body.take 2) (body.drop 2)
    else padAfter true s sign body

/-! ### arguments -/

def complaintAbout (text rest : Chars) (outside : Bool) : List Chars :=
  if rest ≠ [] then
    [text ++ (if rest = text then ": expected numeric value" else ": not completely converted").toList]
  else if outside then [text ++ ": Numerical result out of range".toList]
  else []

def quotedCode? : Chars → Option Nat
  | '\'' :: cs => some ((cs.headD '\x00').toNat)
  | '"' :: cs => some ((cs.headD '\x00').toNat)
  | _ => none

def integer (cs : Chars) : Int × List Chars :=
  match quotedCode? cs with
  | some n => (n, [])
  | none =>
    let (n, rest) := Numeral.start true cs
    let n := n.getD 0
    (Numeral.clamp n, complaintAbout cs rest (Numeral.clamp n != n))

/-- the value of an argument that counts as one without a sign, and the complaint about it. -/
def natural (cs : Chars) : Nat × List Chars :=
  match quotedCode? cs with
  | some n => (n, [])
  | none =>
    let (n, rest) := Numeral.start true cs
    let n := n.getD 0
    if UInt64.size ≤ n.natAbs then (UInt64.size - 1, complaintAbout cs rest true)
    else ((Int.emod n UInt64.size).toNat, complaintAbout cs rest false)

/-- the value of a real argument with its sign, and the complaint about it. -/
def real (cs : Chars) : Bool × Double × List Chars :=
  match quotedCode? cs with
  | some n => (false, Double.nearest false n 0, [])
  | none =>
    match Double.start? .double cs with
    | some r => (r.negative, r.value, complaintAbout cs r.rest r.outside)
    | none => (false, Double.nearest false 0 0, complaintAbout cs cs false)

/-- the characters of an argument, whether output goes on after it, and the complaint about it. -/
def show? (s : Spec) (arg : Option Chars) : Chars × Bool × List Chars :=
  let text := arg.getD []
  let cut (cs : Chars) : Chars := match s.precision with
    | some n => cs.take n
    | none => cs
  match s.conversion with
  | 's' => (pad s (cut text), true, [])
  | 'b' => let r := Escape.ofEcho text; (pad s (cut r.1), r.2, [])
  | 'c' => (pad s [text.headD '\x00'], true, [])
  | c =>
    if c = 'd' ∨ c = 'i' then
      let (n, complaint) := integer text
      (padNumber s (signOf s (n < 0)) (digitsOf s 10 n.natAbs), true, complaint)
    else if "ouxX".toList.contains c then
      let (n, complaint) := natural text
      (unsignedText s n, true, complaint)
    else
      let (negative, x, complaint) := real text
      (realText .double s negative x, true, complaint)

/-! ### specifications -/

/-- a number in a specification: written out, or taken from the arguments in 32 bits. -/
structure Measure where
  value : Option Int
  length : Nat
  left : List Chars
  complaints : List Chars

def Measure.read (cs : Chars) (args : List Chars) : Measure :=
  match cs with
  | '*' :: _ =>
    let (n, complaints) := integer (args.head?.getD [])
    ⟨some (Int.bmod n UInt32.size), 1, args.drop 1, complaints⟩
  | _ =>
    let digits := cs.takeWhile Char.isDigit
    ⟨if digits = [] then none else some (Text.decimal digits), digits.length, args, []⟩

inductive Refusal where
  | incomplete
  | unknown (spec : Chars)

def Refusal.message : Refusal → Chars
  | incomplete => "missing format character".toList
  | unknown spec => spec ++ ": invalid directive".toList

structure Specified where
  spec : Except Refusal Spec
  rest : Chars
  left : List Chars
  complaints : List Chars

def Specified.read (cs : Chars) (args : List Chars) : Specified :=
  let flags := cs.takeWhile fun c => "-0+ #".toList.contains c
  let width := Measure.read (cs.drop flags.length) args
  let rest := cs.drop (flags.length + width.length)
  let (precision, rest) : Measure × Chars := match rest with
    | '.' :: r =>
      let p := Measure.read r width.left
      ({ p with value := some (p.value.getD 0) }, r.drop p.length)
    | _ => (⟨none, 0, width.left, []⟩, rest)
  let complaints := width.complaints ++ precision.complaints
  match rest with
  | [] => ⟨.error .incomplete, [], precision.left, complaints⟩
  | c :: after =>
    let spec : Except Refusal Spec :=
      if "sbcdiouxXaAeEfFgG".toList.contains c then
        let columns := width.value.getD 0
        .ok ⟨flags.contains '-' || columns < 0, flags.contains '0', flags.contains '+', flags.contains ' ',
          flags.contains '#', columns.natAbs,
          precision.value.bind fun p => if p < 0 then none else some p.toNat, c⟩
      else .error (.unknown ('%' :: cs.take (cs.length - after.length)))
    ⟨spec, after, precision.left, complaints⟩

/-! ### printing -/

structure Printed where
  out : Chars
  left : List Chars
  asked : Bool
  goesOn : Bool
  complaints : List Chars
  refusal : Option Refusal

def Printed.after (cs : Chars) (p : Printed) : Printed := { p with out := cs ++ p.out }

def fill : Nat → Chars → List Chars → Printed
  | 0, _, args => ⟨[], args, false, true, [], none⟩
  | _, [], args => ⟨[], args, false, true, [], none⟩
  | n + 1, '\\' :: cs, args =>
    match Escape.one false cs with
    | (none, _) => ⟨[], args, false, false, [], none⟩
    | (some out, length) => (fill n (cs.drop length) args).after out
  | n + 1, '%' :: '%' :: cs, args => (fill n cs args).after ['%']
  | n + 1, '%' :: cs, args =>
    let r := Specified.read cs args
    match r.spec with
    | .error e => ⟨[], r.left, false, false, r.complaints, some e⟩
    | .ok s =>
      let (out, goesOn, complaint) := show? s r.left.head?
      let complaints := r.complaints ++ complaint
      if goesOn then
        let t := (fill n r.rest (r.left.drop 1)).after out
        { t with asked := true, complaints := complaints ++ t.complaints }
      else ⟨out, [], true, false, complaints, none⟩
  | n + 1, c :: cs, args => (fill n cs args).after [c]

def print : Nat → Chars → List Chars → Printed
  | 0, _, args => ⟨[], args, false, true, [], none⟩
  | n + 1, format, args =>
    let r := fill (format.length + 1) format args
    if r.goesOn ∧ r.asked ∧ r.left ≠ [] then
      let s := (print n format r.left).after r.out
      { s with complaints := r.complaints ++ s.complaints }
    else r

end Format
end Regen.Shell
