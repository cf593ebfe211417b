import Regen.Decimal.Notation

/-!
# Sums and order

Numbers of binary digits are added and multiplied exactly, and what comes out is rounded to the nearest one.

* `Double.order`          the order of two numbers;
* `Precision.multiple`    a number so many times;
* `Precision.sum`         the sum of two numbers.
-/

namespace Regen

def Double.order : Double → Double → Ordering
  | .nan, .nan => .eq
  | .nan, _ => .lt
  | _, .nan => .gt
  | .infinite p, .infinite q => compare q p
  | .infinite p, .finite .. => if p then .lt else .gt
  | .finite .., .infinite q => if q then .gt else .lt
  | .finite p m e, .finite q n g =>
    let (a, b) := Double.fraction m e
    let (c, d) := Double.fraction n g
    let signed (negative : Bool) (n : Nat) : Int := if negative then -n else n
    compare (signed p (a * d)) (signed q (c * b))

def Double.isNegative : Double → Bool
  | .infinite p => p
  | .finite p m _ => p && m != 0
  | .nan => false

namespace Precision

def ofSigned (p : Precision) (num : Int) (den : Nat) : Double :=
  if num = 0 then .finite false 0 p.minExponent else p.ofFraction (num < 0) num.natAbs den

def signedFraction (negative : Bool) (mantissa : Nat) (exponent : Int) : Int × Nat :=
  let (a, b) := Double.fraction mantissa exponent
  (if negative then -(a : Int) else a, b)

def multiple (p : Precision) (n : Nat) : Double → Double
  | .finite negative m e => let (a, b) := signedFraction negative m e; p.ofSigned (a * n) b
  | x => x

def sum (p : Precision) : Double → Double → Double
  | .finite r m e, .finite s n g =>
    let (a, b) := signedFraction r m e
    let (c, d) := signedFraction s n g
    p.ofSigned (a * d + c * b) (b * d)
  | .infinite r, .infinite s => if r = s then .infinite r else .nan
  | .nan, _ => .nan
  | _, .nan => .nan
  | .infinite r, _ => .infinite r
  | _, .infinite s => .infinite s

end Precision
end Regen
