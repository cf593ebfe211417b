import Regen.Decimal.Double

/-!
# Notations of doubles

A double written with a number of digits that the reader of it chose, always rounded exactly, a tie
going to the even digit; and the texts that are read as one, as programs written for a terminal
take them.

* `Double.fixed`          so many places after the point;
* `Double.scientific`     one digit before the point, so many after it, and a power of ten;
* `Double.general`        the shorter of the two for so many digits;
* `Double.hexadecimal`    the binary mantissa in hexadecimal digits, and a power of two;
* `Double.Reading`        what is read at the start of a text.
-/

namespace Regen.Double

/-! ## writing -/

def padded (width : Nat) (ds : List Char) : List Char := List.replicate (width - ds.length) '0' ++ ds

/-- digits with a point before the last so many; no point before none, unless it is asked for. -/
def pointed (places : Nat) (always : Bool) (ds : List Char) : List Char :=
  let ds := padded (places + 1) ds
  let whole := ds.take (ds.length - places)
  whole ++ (if places = 0 ∧ ¬ always then [] else ['.']) ++ ds.drop whole.length

def fraction (mantissa : Nat) (exponent : Int) : Nat × Nat := scale 2 mantissa 1 exponent

def fixed (places : Nat) (always : Bool) (mantissa : Nat) (exponent : Int) : List Char :=
  let r := fraction mantissa exponent
  pointed places always (Nat.toDigits 10 (roundEven (r.1 * Nat.pow 10 places) r.2))

/-- the first digits of a number, one and so many more, and the power of ten of the first. -/
def leading (places : Nat) (mantissa : Nat) (exponent : Int) : List Char × Int :=
  if mantissa = 0 then (List.replicate (places + 1) '0', 0)
  else
    let r := fraction mantissa exponent
    let e := magnitude r.1 r.2 - 1
    let s := scale 10 r.1 r.2 (places - e)
    let ds := Nat.toDigits 10 (roundEven s.1 s.2)
    if ds.length = places + 2 then (ds.take (places + 1), e + 1) else (ds, e)

def signedExponent (width : Nat) (e : Int) : List Char :=
  (if e < 0 then '-' else '+') :: padded width (Nat.toDigits 10 e.natAbs)

def scientific (places : Nat) (always : Bool) (mantissa : Nat) (exponent : Int) : List Char :=
  let (ds, e) := leading places mantissa exponent
  pointed places always ds ++ 'e' :: signedExponent 2 e

def withoutZeros (ds : List Char) : List Char :=
  if ds.contains '.' then
    let kept := ds.reverse.dropWhile (· = '0')
    (if kept.head? = some '.' then kept.drop 1 else kept).reverse
  else ds

/-- the shorter of the positional and the scientific form for so many digits; zeros at the end of
the fraction are left out, unless they are asked for. -/
def general (digits : Nat) (always : Bool) (mantissa : Nat) (exponent : Int) : List Char :=
  let digits := max digits 1
  let e := (leading (digits - 1) mantissa exponent).2
  let tidy (ds : List Char) : List Char := if always then ds else withoutZeros ds
  if -4 ≤ e ∧ e < digits then tidy (fixed ((digits : Int) - 1 - e).toNat always mantissa exponent)
  else
    let (ds, e) := leading (digits - 1) mantissa exponent
    tidy (pointed (digits - 1) always ds) ++ 'e' :: signedExponent 2 e

/-- the binary mantissa in hexadecimal digits, and a power of two; without a number of digits, as
many as it takes. The digits behind the point are whole ones. -/
def hexadecimal (p : Precision) (places : Option Nat) (always : Bool) (mantissa : Nat) (exponent : Int) :
    List Char :=
  let most := (p.bits - 1) / 4
  let e : Int := if mantissa = 0 then 0 else exponent + 4 * most
  let width := min (places.getD most) most
  let n := roundEven mantissa (Nat.pow 16 (most - width))
  let unit := Nat.pow 16 width
  let after := padded width (Nat.toDigits 16 (n % unit))
  let after := match places with
    | some p => (if p = 0 then [] else after) ++ List.replicate (p - most) '0'
    | none => (after.reverse.dropWhile (· = '0')).reverse
  let point : List Char := if after.isEmpty ∧ ¬ always then [] else ['.']
  let whole := if n / unit < 16 then (n / unit, e) else (n / unit / 16, e + 4)
  '0' :: 'x' :: Nat.toDigits 16 whole.1 ++ point ++ after ++ 'p' :: signedExponent 1 whole.2

/-! ## reading -/

/-- what is read at the start of a text: whether a minus stands there, the double, what comes after
it, and whether the number lies outside of the doubles. -/
structure Reading where
  negative : Bool
  value : Double
  rest : List Char
  outside : Bool

def startsWith (word : String) (cs : List Char) : Bool :=
  (cs.take word.length).map Char.toLower = word.toList

/-- the digits of a kind with at most one point among them: those before it, those after it, and
the rest. -/
def pointedDigits (ok : Char → Bool) (cs : List Char) : List Char × List Char × List Char :=
  let whole := cs.takeWhile ok
  match cs.drop whole.length with
  | '.' :: cs =>
    let after := cs.takeWhile ok
    if whole = [] ∧ after = [] then ([], [], '.' :: cs) else (whole, after, cs.drop after.length)
  | cs => (whole, [], cs)

/-- the exponent after one of two letters, if digits follow it, and the rest. -/
def exponentAfter (lower upper : Char) (cs : List Char) : Int × List Char :=
  match cs with
  | c :: rest =>
    let (negative, body) : Bool × List Char := match rest with
      | '-' :: r => (true, r)
      | '+' :: r => (false, r)
      | r => (false, r)
    let ds := body.takeWhile Char.isDigit
    if (c = lower ∨ c = upper) ∧ ds ≠ [] then
      let e : Int := ds.foldl (fun n c => 10 * n + (c.toNat - 48)) 0
      (if negative then -e else e, body.drop ds.length)
    else (0, cs)
  | [] => (0, [])

def hexDigit (c : Char) : Nat :=
  if c.isDigit then c.toNat - 48 else c.toLower.toNat - 87

def isHexDigit (c : Char) : Bool :=
  c.isDigit || ('a' ≤ c.toLower && c.toLower ≤ 'f')

/-- whether a double that was rounded to is among the smallest ones or zero, though the number is not
zero, or is infinite. -/
def isOutside (p : Precision) (digits : Nat) : Double → Bool
  | .finite _ m _ => digits ≠ 0 && m < p.mantissaEnd / 2
  | .infinite _ => true
  | .nan => false

/-- a double at the start of a text, after its sign; none if there is no number. -/
def unsigned? (p : Precision) (negative : Bool) (cs : List Char) : Option Reading :=
  if startsWith "infinity" cs then some ⟨negative, .infinite negative, cs.drop 8, false⟩
  else if startsWith "inf" cs then some ⟨negative, .infinite negative, cs.drop 3, false⟩
  else if startsWith "nan" cs then some ⟨negative, .nan, cs.drop 3, false⟩
  else
    let decimal : Option Reading :=
      let (whole, after, rest) := pointedDigits Char.isDigit cs
      if whole = [] ∧ after = [] then none
      else
        let (e, rest) := exponentAfter 'e' 'E' rest
        let n := (whole ++ after).foldl (fun n c => 10 * n + (c.toNat - 48)) 0
        let v := p.nearest negative n (e - after.length)
        some ⟨negative, v, rest, isOutside p n v⟩
    match cs with
    | '0' :: x :: body =>
      let (whole, after, rest) := pointedDigits isHexDigit body
      if (x = 'x' ∨ x = 'X') ∧ ¬ (whole = [] ∧ after = []) then
        let (e, rest) := exponentAfter 'p' 'P' rest
        let n := (whole ++ after).foldl (fun n c => 16 * n + hexDigit c) 0
        let v := p.nearestBinary negative n (e - 4 * after.length)
        some ⟨negative, v, rest, isOutside p n v⟩
      else decimal
    | _ => decimal

/-- a double at the start of a text, after blanks and a sign; none if there is no number. -/
def start? (p : Precision) (cs : List Char) : Option Reading :=
  match cs.dropWhile fun c => c == ' ' || ('\t' ≤ c && c ≤ '\r') with
  | '-' :: body => unsigned? p true body
  | '+' :: body => unsigned? p false body
  | body => unsigned? p false body

end Regen.Double
