import Regen.Text.Numeral
import Regen.Toml.Value

/-!
# TOML numbers, dates and words

The values that are written without quotes or brackets.

* `Toml.integer?`   decimal with an optional sign, or hexadecimal, octal or binary without one;
                    an underscore may stand between two digits;
* `Toml.float?`     a decimal with a fraction, an exponent or both, or `inf` or `nan`;
* `Toml.isHeld`     the integers that a document may hold; a float that is too large for a double
                    cannot be read either;
* `Toml.isMoment`   a date, a time, or both with an optional offset;
* `Toml.scalar?`    any of these, or a truth value.
-/

namespace Regen.Toml

open Text (isDigit digitValue decimal)

/-! ## digits -/

/-- the digits of a text in which underscores stand between digits only; none if there are no
digits, or others than these. -/
def plainDigits? (ok : Char → Bool) : List Char → Option (List Char)
  | [] => none
  | [c] => if ok c then some [c] else none
  | c :: '_' :: d :: cs =>
    if ok c && ok d then (plainDigits? ok (d :: cs)).map (c :: ·) else none
  | c :: d :: cs => if ok c then (plainDigits? ok (d :: cs)).map (c :: ·) else none

def hexValue (c : Char) : Nat :=
  if isDigit c then digitValue c
  else if 'a' ≤ c ∧ c ≤ 'f' then c.toNat - 'a'.toNat + 10
  else c.toNat - 'A'.toNat + 10

def isHexDigit (c : Char) : Bool := isDigit c || ('a' ≤ c && c ≤ 'f') || ('A' ≤ c && c ≤ 'F')

def inBase (base : Nat) (ds : List Char) : Nat := ds.foldl (fun n c => base * n + hexValue c) 0

def noLeadingZero : List Char → Bool
  | '0' :: _ :: _ => false
  | _ => true

def signed : List Char → Bool × List Char
  | '-' :: cs => (true, cs)
  | '+' :: cs => (false, cs)
  | cs => (false, cs)

/-! ## numbers -/

def decimalInteger? (cs : List Char) : Option Int := do
  let (negative, cs) := signed cs
  let ds ← plainDigits? isDigit cs
  if noLeadingZero ds then some (if negative then -(decimal ds : Int) else decimal ds) else none

def integer? : List Char → Option Int
  | '0' :: 'x' :: cs => (plainDigits? isHexDigit cs).map fun ds => (inBase 16 ds : Int)
  | '0' :: 'o' :: cs =>
    (plainDigits? (fun c => '0' ≤ c && c ≤ '7') cs).map fun ds => (inBase 8 ds : Int)
  | '0' :: 'b' :: cs =>
    (plainDigits? (fun c => c = '0' || c = '1') cs).map fun ds => (inBase 2 ds : Int)
  | cs => decimalInteger? cs

def splitWhere (p : Char → Bool) (cs : List Char) : Option (List Char × List Char) :=
  match cs.dropWhile (fun c => !p c) with
  | [] => none
  | _ :: after => some (cs.takeWhile (fun c => !p c), after)

def exponent? (cs : List Char) : Option Int := do
  let (negative, cs) := signed cs
  let ds ← plainDigits? isDigit cs
  some (if negative then -(decimal ds : Int) else decimal ds)

def half128 : Int := 170141183460469231731687303715884105728

def isHeld (n : Int) : Bool := -half128 ≤ n && n < 2 * half128

/-- the number of so many times a power of ten, if it is not too large for a double. -/
def finite? (negative : Bool) (digits : Nat) (e : Int) : Option Double :=
  match Double.nearest negative digits e with
  | .infinite _ => none
  | x => some x

def float? (cs : List Char) : Option Double := do
  let (negative, cs) := signed cs
  if cs = "inf".toList then return .infinite negative
  if cs = "nan".toList then return .nan
  let (body, e) ← match splitWhere (fun c => c = 'e' || c = 'E') cs with
    | some (body, e) => (exponent? e).map fun e => (body, some e)
    | none => some (cs, none)
  let (whole, fraction) ← match splitWhere (· = '.') body with
    | some (w, f) => (plainDigits? isDigit f).map fun f => (w, f)
    | none => some (body, [])
  let whole ← plainDigits? isDigit whole
  if noLeadingZero whole && (e.isSome || fraction ≠ []) then
    finite? negative (decimal (whole ++ fraction)) (e.getD 0 - fraction.length)
  else none

/-! ## dates and times -/

/-- the value of exactly so many digits, and the rest. -/
def fixed? (n : Nat) (cs : List Char) : Option (Nat × List Char) :=
  let ds := cs.take n
  if ds.length = n && ds.all isDigit then some (decimal ds, cs.drop n) else none

def daysIn (year month : Nat) : Nat :=
  if month = 2 then
    if year % 4 = 0 ∧ (year % 100 ≠ 0 ∨ year % 400 = 0) then 29 else 28
  else if month ∈ [4, 6, 9, 11] then 30 else 31

def afterDate? (cs : List Char) : Option (List Char) := do
  let (year, cs) ← fixed? 4 cs
  let '-' :: cs := cs | none
  let (month, cs) ← fixed? 2 cs
  let '-' :: cs := cs | none
  let (day, cs) ← fixed? 2 cs
  if 1 ≤ month ∧ month ≤ 12 ∧ 1 ≤ day ∧ day ≤ daysIn year month then some cs else none

def afterFraction? : List Char → Option (List Char)
  | '.' :: c :: cs => if isDigit c then some (cs.dropWhile isDigit) else none
  | '.' :: [] => none
  | cs => some cs

/-- what follows a time of day; the seconds may be left out. -/
def afterTime? (cs : List Char) : Option (List Char) := do
  let (hour, cs) ← fixed? 2 cs
  let ':' :: cs := cs | none
  let (minute, cs) ← fixed? 2 cs
  if 23 < hour ∨ 59 < minute then none
  match cs with
  | ':' :: cs =>
    let (second, cs) ← fixed? 2 cs
    if 60 < second then none
    afterFraction? cs
  | cs => some cs

def isOffset (cs : List Char) : Bool :=
  match cs with
  | [] => true
  | ['Z'] => true
  | ['z'] => true
  | c :: cs =>
    (c = '+' || c = '-') &&
      match fixed? 2 cs with
      | some (hour, ':' :: cs) =>
        match fixed? 2 cs with
        | some (minute, []) => hour ≤ 23 && minute ≤ 59
        | _ => false
      | _ => false

def isMoment (cs : List Char) : Bool :=
  match afterDate? cs with
  | some [] => true
  | some (c :: rest) =>
    (c = 'T' || c = 't' || c = ' ') &&
      match afterTime? rest with
      | some rest => isOffset rest
      | none => false
  | none => afterTime? cs = some []

/-! ## words -/

def scalar? (cs : List Char) : Option Value :=
  if cs = "true".toList then some (.boolean true)
  else if cs = "false".toList then some (.boolean false)
  else match integer? cs with
    | some n => if isHeld n then some (.integer n) else none
    | none =>
      match float? cs with
      | some x => some (.float x)
      | none => if isMoment cs then some .moment else none

end Regen.Toml
