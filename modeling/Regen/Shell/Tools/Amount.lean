import Regen.Shell.Tools.Basic

/-!
# Amounts

A number of bytes, lines or the like, as an argument gives it: digits, and a letter that multiplies them.

* `Tools.Amount`       what a text says about an amount;
* `Tools.Amount.read`  reads it;
* `Tools.amountOr`     the amount of a value, or what is wrong with it.
-/

namespace Regen.Shell.Tools

inductive Amount where
  | number (n : Nat)
  | tooLarge
  | invalid
  deriving DecidableEq

/-- the letters that multiply amounts of bytes and lines. -/
def multipliers : Chars := "bkKmMGTPEZYRQ0".toList

def stepsOf? (c : Char) : Option Nat :=
  ("kKmMGgTtPEZYRQ".toList.zip [1, 1, 2, 2, 3, 3, 4, 4, 5, 6, 7, 8, 9, 10]).lookup c

/-- what the letters after the digits of an amount multiply by, if they are among the ones that may stand
there. A zero among those lets steps of 1000 be told from steps of 1024. -/
def factor? (allowed cs : Chars) : Option Nat :=
  match cs with
  | [] => some 1
  | c :: rest =>
    if ¬ allowed.contains c then none
    else match c, stepsOf? c, rest with
      | 'b', _, [] => some 512
      | 'B', _, [] => some 1024
      | 'c', _, [] => some 1
      | 'w', _, [] => some 2
      | _, some n, [] => some (Nat.pow 1024 n)
      | _, some n, ['i', 'B'] => if allowed.contains '0' then some (Nat.pow 1024 n) else none
      | _, some n, ['B'] => if allowed.contains '0' then some (Nat.pow 1000 n) else none
      | _, some n, ['D'] => if allowed.contains '0' then some (Nat.pow 1000 n) else none
      | _, _, _ => none

def isLeadingBlank (c : Char) : Bool := c == ' ' || ('\t' ≤ c && c ≤ '\r')

/-- the amount that a text stands for. Without digits the letters alone stand for one time what they
multiply by. -/
def Amount.read (allowed cs : Chars) : Amount :=
  let cs := cs.dropWhile isLeadingBlank
  let cs := if cs.head? = some '+' then cs.drop 1 else cs
  let digits := cs.takeWhile Char.isDigit
  let unit := cs.drop digits.length
  if digits.isEmpty ∧ unit.isEmpty then .invalid
  else match factor? allowed unit with
    | none => .invalid
    | some f =>
      let n := f * if digits.isEmpty then 1 else Text.decimal digits
      if UInt64.size ≤ n then .tooLarge else .number n

def amountOr (phrase : String) (allowed : Chars) (least most : Nat) (value : Chars) : Except Misuse Nat :=
  let wrong (reason : String) : Except Misuse Nat := .error ⟨about (phrase ++ ":") value ++ reason, false⟩
  match Amount.read allowed value with
  | .invalid => wrong ""
  | .tooLarge => wrong ": Value too large for defined data type"
  | .number n =>
    if n < least ∨ most < n then wrong (if 1073741823 < n then ": Value too large for defined data type"
      else ": Numerical result out of range")
    else .ok n

def amountUpTo (phrase : String) (allowed value : Chars) : Except Misuse Nat :=
  amountOr phrase allowed 0 (UInt64.size - 1) value

end Regen.Shell.Tools
