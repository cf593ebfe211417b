import Regen.Shell.Syntax
import Regen.Text.Numeral

/-!
# Numerals of the shell

An integer in a script is decimal, or octal after a zero, hexadecimal after `0x` and binary after
`0b`; blanks and a sign may come before it. Where only decimal numerals count, a leading zero means nothing.

* `Numeral.start`      the integer at the start of a text, and what comes after it;
* `Numeral.word?`      the integer of 64 bits that a whole text stands for;
* `Numeral.natural?`   the same, where it must be decimal and fit 31 bits.
-/

namespace Regen.Shell.Numeral

def isBlank (c : Char) : Bool := c == ' ' || ('\t' ≤ c && c ≤ '\r')

def digit? (base : Nat) (c : Char) : Option Nat :=
  let d := if c.isDigit then c.toNat - 48
    else if 'a' ≤ c ∧ c ≤ 'f' then c.toNat - 87
    else if 'A' ≤ c ∧ c ≤ 'F' then c.toNat - 55 else 99
  if d < base then some d else none

/-- the value of the digits at the start of a text, read on from a value, and what is left. -/
def digits (base : Nat) : Chars → Nat → Nat × Chars
  | [], n => (n, [])
  | c :: cs, n =>
    match digit? base c with
    | some d => digits base cs (base * n + d)
    | none => (n, c :: cs)

def signed : Chars → Bool × Chars
  | '-' :: cs => (true, cs)
  | '+' :: cs => (false, cs)
  | cs => (false, cs)

/-- the natural number at the start of a text, in the base that its first characters name, and what
comes after it; none if there is no digit. -/
def unsigned? (anyBase : Bool) (cs : Chars) : Option (Nat × Chars) :=
  let inBase (base : Nat) (x : Char) (rest : Chars) : Option (Nat × Chars) :=
    if (rest.head?.bind (digit? base)).isSome then some (digits base rest 0) else some (0, x :: rest)
  match cs, anyBase with
  | '0' :: 'x' :: rest, true => inBase 16 'x' rest
  | '0' :: 'X' :: rest, true => inBase 16 'X' rest
  | '0' :: 'b' :: rest, true => inBase 2 'b' rest
  | '0' :: 'B' :: rest, true => inBase 2 'B' rest
  | '0' :: rest, true => some (digits 8 rest 0)
  | c :: rest, _ => if c.isDigit then some (digits 10 (c :: rest) 0) else none
  | [], _ => none

/-- the integer at the start of a text, and what comes after it; without a digit it is none, and
nothing is taken. -/
def start (anyBase : Bool) (cs : Chars) : Option Int × Chars :=
  let (negative, body) := signed (cs.dropWhile isBlank)
  match unsigned? anyBase body with
  | some (n, rest) => (some (if negative then -(n : Int) else n), rest)
  | none => (none, cs)

def half64 : Int := 9223372036854775808

/-- an integer kept within the words of 64 bits. -/
def clamp (n : Int) : Int := max (-half64) (min n (half64 - 1))

/-- the integer that a whole text stands for, blanks around it apart; a blank text is zero where
any base counts. -/
def word? (anyBase : Bool) (cs : Chars) : Option Int :=
  let (n, rest) := start anyBase cs
  if rest.all isBlank then
    match n with
    | some n => if clamp n = n then some n else none
    | none => if anyBase then some 0 else none
  else none

/-- the decimal number of a whole text, if it fits 31 bits. -/
def natural? (cs : Chars) : Option Nat :=
  match word? false cs with
  | some n => if 0 ≤ n ∧ n < 2147483648 then some n.toNat else none
  | none => none

end Regen.Shell.Numeral
