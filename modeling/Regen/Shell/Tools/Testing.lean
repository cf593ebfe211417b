import Regen.Shell.Tools.Basic

/-!
# Conditions as a program tells them

The program that tests conditions reads up to four words in ways of their own, and more of them from the left.
Numbers may be of any size.

* `Tools.Test.Fault`     what is wrong with a condition;
* `Tools.Test.holds`     whether a condition holds;
* `Tools.testing`, `Tools.bracketed`   the program by its two names.
-/

namespace Regen.Shell.Tools
namespace Test

inductive Fault where
  | notUnary (word : Chars)
  | notBinary (word : Chars)
  | notNumber (word : Chars)
  | ended
  | extra (word : Chars)
  | notClosed (found : Option Chars)
  | noBracket

def Fault.message (last : Chars) : Fault → Chars
  | notUnary w => cited w ++ ": unary operator expected".toList
  | notBinary w => cited w ++ ": binary operator expected".toList
  | notNumber w => "invalid integer ".toList ++ cited w
  | ended => "missing argument after ".toList ++ cited last
  | extra w => "extra argument ".toList ++ cited w
  | notClosed none => "')' expected".toList
  | notClosed (some w) => "')' expected, found ".toList ++ cited w
  | noBracket => "missing ']'".toList

def binaryNames : List String :=
  ["=", "!=", "==", "-nt", "-ot", "-ef", "-eq", "-ne", "-lt", "-le", "-gt", "-ge"]

def isBinary (word : Chars) : Bool := binaryNames.any fun w => w.toList == word

def isDashed : Chars → Bool
  | ['-', _] => true
  | _ => false

def number (x : Chars) : Except Fault Int :=
  let isSpace (c : Char) : Bool := c == ' ' || ('\t' ≤ c && c ≤ '\r')
  let cs := ((x.dropWhile isSpace).reverse.dropWhile isSpace).reverse
  let digits := if cs.head? = some '-' ∨ cs.head? = some '+' then cs.drop 1 else cs
  if digits = [] ∨ ¬ digits.all Char.isDigit then .error (.notNumber x)
  else .ok ((if cs.head? = some '-' then -1 else 1) * Text.decimal digits)

/-- a condition on two operands; a file that is not there is older than one that is. -/
def compared (m : Machine) (a op b : Chars) : Except Fault Bool :=
  let numbers (r : Int → Int → Bool) : Except Fault Bool := do return r (← number a) (← number b)
  match String.ofList op with
  | "=" | "==" => .ok (a == b)
  | "!=" => .ok (a != b)
  | "-eq" => numbers fun x y => x == y
  | "-ne" => numbers fun x y => x != y
  | "-lt" => numbers fun x y => x < y
  | "-le" => numbers fun x y => x ≤ y
  | "-gt" => numbers fun x y => x > y
  | "-ge" => numbers fun x y => x ≥ y
  | "-nt" => .ok (match Condition.timeOf m a, Condition.timeOf m b with
    | some s, some t => t < s
    | s, none => s.isSome
    | none, _ => false)
  | "-ot" => .ok (match Condition.timeOf m a, Condition.timeOf m b with
    | some s, some t => s < t
    | none, t => t.isSome
    | _, none => false)
  | _ => .ok ((m.numberAt? a).isSome && m.numberAt? a == m.numberAt? b)

abbrev Reading := Except Fault (Bool × List Chars)

def more : List Chars → Except Fault (List Chars)
  | _ :: w :: ws => .ok (w :: ws)
  | _ => .error .ended

def unary (m : Machine) (op : Chars) (ws : List Chars) : Reading :=
  if ¬ (Condition.unaryNames.any fun w => w.toList == op) ∧ op ≠ ['-', 'N'] then .error (.notUnary op)
  else match ws with
    | [] => .error .ended
    | x :: rest => do
      if op = ['-', 't'] then let _ ← number x
      let isRead : Bool := op == ['-', 'N']
      return (!isRead && Condition.unary m (String.ofList op) x, rest)

def one (ws : List Chars) : Reading := .ok (!(ws.headD []).isEmpty, ws.drop 1)

/-- two words: a negation, or an operator in front of an operand. -/
def two (m : Machine) (ws : List Chars) : Reading :=
  match ws with
  | ['!'] :: rest => (one rest).map fun r => (!r.1, r.2)
  | op :: rest => if isDashed op then unary m op rest else .error .ended
  | [] => .error .ended

/-- how many words there are up to a closing parenthesis; all of them, if it does not come soon. -/
def inner (ws : List Chars) : Nat :=
  let n := ((ws.drop 1).findIdx? (· == [')'])).getD ws.length
  if n < 4 then min (n + 1) ws.length else ws.length

mutual

def condition (m : Machine) : Nat → Nat → List Chars → Reading
  | 0, _, _ => .error .ended
  | n + 1, count, ws =>
    match count, ws with
    | 1, _ => one ws
    | 2, _ => two m ws
    | 3, _ => three m n ws
    | 4, ['!'] :: rest => (three m n rest).map fun r => (!r.1, r.2)
    | 4, ['('] :: a :: b :: [')'] :: _ => (two m [a, b]).map fun r => (r.1, ws.drop 4)
    | _, _ => alternatives m n ws

def three (m : Machine) : Nat → List Chars → Reading
  | 0, _ => .error .ended
  | n + 1, ws =>
    match ws with
    | a :: op :: b :: rest =>
      if isBinary op then do return (← compared m a op b, rest)
      else if a = ['!'] then (two m (op :: b :: rest)).map fun r => (!r.1, r.2)
      else if a = ['('] ∧ b = [')'] then .ok (!op.isEmpty, rest)
      else if op = ['-', 'a'] ∨ op = ['-', 'o'] then alternatives m n ws
      else .error (.notBinary op)
    | _ => .error .ended

def alternatives (m : Machine) : Nat → List Chars → Reading
  | 0, _ => .error .ended
  | n + 1, ws => do
    let (a, rest) ← together m n ws
    match rest with
    | ['-', 'o'] :: rest => do
      let (b, rest) ← alternatives m n rest
      return (a || b, rest)
    | _ => return (a, rest)

def together (m : Machine) : Nat → List Chars → Reading
  | 0, _ => .error .ended
  | n + 1, ws => do
    let (a, rest) ← term m n ws
    match rest with
    | ['-', 'a'] :: rest => do
      let (b, rest) ← together m n rest
      return (a && b, rest)
    | _ => return (a, rest)

def term (m : Machine) : Nat → List Chars → Reading
  | 0, _ => .error .ended
  | n + 1, ws =>
    match ws with
    | [] => .error .ended
    | ['!'] :: _ => do
      let (a, rest) ← term m n (← more ws)
      return (!a, rest)
    | ['('] :: _ => do
      let ws ← more ws
      let (a, rest) ← condition m n (inner ws) ws
      match rest with
      | [] => throw (.notClosed none)
      | w :: rest => if w = [')'] then return (a, rest) else throw (.notClosed (some w))
    | a :: rest =>
      match rest with
      | op :: b :: after =>
        if isBinary op then do return (← compared m a op b, after)
        else if isDashed a then unary m a rest
        else .ok (!a.isEmpty, rest)
      | _ => if isDashed a then unary m a rest else .ok (!a.isEmpty, rest)

end

def holds (m : Machine) (ws : List Chars) : Except Fault Bool := do
  if ws = [] then return false
  match ← condition m (8 * ws.length + 16) ws.length ws with
  | (a, []) => return a
  | (_, w :: _) => throw (.extra w)

end Test

def answerTest (m : Machine) (words : List Chars) (r : Except Test.Fault Bool) : Machine × Nat :=
  match r with
  | .ok true => (m, 0)
  | .ok false => (m, 1)
  | .error e => (accuse m (e.message (words.getLastD [])), 2)

def testing : Tool := fun args m => answerTest m args (Test.holds m args)

def bracketed : Tool := fun args m =>
  if args.getLast? = some [']'] then answerTest m args.dropLast (Test.holds m args.dropLast)
  else answerTest m args (.error .noBracket)

end Regen.Shell.Tools
