/-!
# Doubles, read and written in decimal

The numbers with a mantissa and an exponent of so many binary digits. A decimal is read as the
nearest of them, a tie going to the even mantissa; a double is written with the fewest digits
that read back as it.

* `Double`             such a number, an infinity, or no number;
* `Precision`          how many of them there are;
* `Precision.nearest`  the one next to a decimal;
* `Double.nearest`     the same among those of 53 binary digits;
* `Double.shortest`    the fewest digits that read back, and the power of ten they are scaled by;
* `Double.text`        the positional text, with a point in every finite number.
-/

namespace Regen

/-- a number of binary digits; a finite one is `mantissa * 2 ^ exponent`. -/
inductive Double where
  | nan
  | infinite (negative : Bool)
  | finite (negative : Bool) (mantissa : Nat) (exponent : Int)
  deriving DecidableEq, Repr

/-- how many numbers there are: the mantissas below a power of two, and the exponents between two. The mantissa
of a number that is not among the smallest is not below the half of its end. -/
structure Precision where
  mantissaEnd : Nat
  minExponent : Int
  maxExponent : Int

def Precision.double : Precision := ⟨9007199254740992, -1074, 971⟩

/-- numbers of 64 binary digits with an exponent of 15. -/
def Precision.extended : Precision := ⟨18446744073709551616, -16445, 16320⟩

namespace Double

def mantissaEnd : Nat := Precision.double.mantissaEnd

def minExponent : Int := Precision.double.minExponent

def scale (base : Nat) (num den : Nat) (e : Int) : Nat × Nat :=
  if 0 ≤ e then (num * Nat.pow base e.toNat, den) else (num, den * Nat.pow base (-e).toNat)

/-- a quotient rounded to the nearest integer, a tie to the even one. -/
def roundEven (num den : Nat) : Nat :=
  let q := num / den
  let twice := 2 * (num % den)
  if twice < den then q else if den < twice then q + 1 else if q % 2 = 0 then q else q + 1

/-! ## reading -/

end Double

namespace Precision

open Double (scale roundEven)

def bits (p : Precision) : Nat := p.mantissaEnd.log2

def ofFraction (p : Precision) (negative : Bool) (num den : Nat) : Double :=
  let guess : Int := max p.minExponent ((num.log2 : Int) - den.log2 - p.bits)
  let s := scale 2 num den (-guess)
  let exponent := if p.mantissaEnd ≤ s.1 / s.2 then guess + 1 else guess
  let s := scale 2 num den (-exponent)
  let m := roundEven s.1 s.2
  let m' := if m = p.mantissaEnd then p.mantissaEnd / 2 else m
  let exponent := if m = p.mantissaEnd then exponent + 1 else exponent
  if p.maxExponent < exponent then .infinite negative else .finite negative m' exponent

def nearest (p : Precision) (negative : Bool) (digits : Nat) (e : Int) : Double :=
  let size : Int := (Nat.toDigits 10 digits).length + e
  if digits = 0 ∨ 3 * size < p.minExponent then .finite negative 0 p.minExponent
  else if p.maxExponent + 2 * p.bits < 3 * size then .infinite negative
  else
    let s := scale 10 digits 1 e
    p.ofFraction negative s.1 s.2

def nearestBinary (p : Precision) (negative : Bool) (digits : Nat) (e : Int) : Double :=
  let size : Int := (digits.log2 : Int) + e
  if digits = 0 ∨ size < p.minExponent - 2 then .finite negative 0 p.minExponent
  else if p.maxExponent + p.bits < size then .infinite negative
  else let s := scale 2 digits 1 e; p.ofFraction negative s.1 s.2

end Precision

namespace Double

def nearest (negative : Bool) (digits : Nat) (e : Int) : Double := Precision.double.nearest negative digits e

/-! ## writing -/

/-- the ends of the interval of numbers that read as `mantissa * 2 ^ exponent`, in quarters of
`2 ^ exponent`. Below a power of two the numbers lie twice as close. -/
def readsBack (mantissa : Nat) (exponent : Int) : Nat × Nat :=
  if mantissa = mantissaEnd / 2 ∧ minExponent < exponent then (4 * mantissa - 1, 4 * mantissa + 2)
  else (4 * mantissa - 2, 4 * mantissa + 2)

def isReadAs (mantissa : Nat) (exponent : Int) (digits : Nat) (e : Int) : Bool :=
  let s := scale 10 digits 1 e
  let t := scale 2 s.1 s.2 (2 - exponent)
  let ends := readsBack mantissa exponent
  if mantissa % 2 = 0 then ends.1 * t.2 ≤ t.1 && t.1 ≤ ends.2 * t.2
  else ends.1 * t.2 < t.1 && t.1 < ends.2 * t.2

/-- the decimal with unit `10 ^ e` that is nearest to the number, if one reads back; of two that are
as near, the greater one. -/
def onGrid (mantissa : Nat) (exponent : Int) (e : Int) : Option Nat :=
  let v := scale 2 mantissa 1 exponent
  let s := scale 10 v.1 v.2 (-e)
  let low := s.1 / s.2
  let below := isReadAs mantissa exponent low e
  let above := isReadAs mantissa exponent (low + 1) e
  if below && above then some (if 2 * (s.1 % s.2) < s.2 then low else low + 1)
  else if below then some low
  else if above then some (low + 1)
  else none

/-- the power of ten just above a positive fraction: `10 ^ (k - 1) ≤ num / den < 10 ^ k`. -/
def magnitude (num den : Nat) : Int :=
  let guess : Int := (Nat.toDigits 10 num).length - (Nat.toDigits 10 den).length
  let s := scale 10 num den (-guess)
  if s.1 < s.2 then guess else guess + 1

/-- the coarsest of the grids `10 ^ (k - n)`, `10 ^ (k - n - 1)`, … with a decimal that reads
back, given how many may be tried. -/
def coarsest (mantissa : Nat) (exponent : Int) (k : Int) : Nat → Nat → Nat × Int
  | 0, n => ((onGrid mantissa exponent (k - n)).getD 0, k - n)
  | tries + 1, n =>
    match onGrid mantissa exponent (k - n) with
    | some d => if d = 0 then coarsest mantissa exponent k tries (n + 1) else (d, k - n)
    | none => coarsest mantissa exponent k tries (n + 1)

/-- the fewest digits that read back, and the power of ten they are scaled by. Seventeen digits
always read back; a nine rounded up leaves a zero, which is dropped. -/
def shortest (mantissa : Nat) (exponent : Int) : Nat × Int :=
  let v := scale 2 mantissa 1 exponent
  let d := coarsest mantissa exponent (magnitude v.1 v.2) 17 1
  if d.1 % 10 = 0 then (d.1 / 10, d.2 + 1) else d

def positional (digits : Nat) (e : Int) : List Char :=
  let ds := Nat.toDigits 10 digits
  if 0 ≤ e then ds ++ List.replicate e.toNat '0' ++ ['.', '0']
  else
    let places := (-e).toNat
    let ds := List.replicate (places + 1 - ds.length) '0' ++ ds
    ds.take (ds.length - places) ++ '.' :: ds.drop (ds.length - places)

def text : Double → String
  | .nan => "NaN"
  | .infinite negative => if negative then "-inf" else "inf"
  | .finite negative m e =>
    let d := if m = 0 then (0, 0) else shortest m e
    String.ofList ((if negative then ['-'] else []) ++ positional d.1 d.2)

end Double
end Regen
