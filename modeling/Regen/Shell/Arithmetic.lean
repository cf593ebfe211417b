import Regen.Shell.Machine
import Regen.Shell.Numeral

/-!
# Integer expressions

The expressions between double parentheses, over integers of 64 bits and variables. A part that
decides nothing, after `&&`, `||` or `?`, is read but neither looks up nor changes a variable.

* `Arithmetic.Failure`    why an expression has no value;
* `Arithmetic.Token`      what an expression is made of;
* `Arithmetic.value`      the value of an expression, and the machine with its assignments.
-/

namespace Regen.Shell.Arithmetic

inductive Failure where
  | divisionByZero
  | overflow
  | expecting (what : String)
  | notInteger (value : Chars)
  | fixed (name : Chars)
  deriving DecidableEq

def Failure.message (expression : Chars) : Failure → Chars
  | divisionByZero => "arithmetic expression: division by zero: \"".toList ++ expression ++ ['"']
  | overflow => []
  | expecting what =>
    ("arithmetic expression: expecting " ++ what ++ ": \"").toList ++ expression ++ ['"']
  | notInteger value => "Illegal number: ".toList ++ value
  | fixed name => name ++ ": is read only".toList

/-! ## tokens -/

inductive Token where
  | number (n : Int)
  | name (chars : Chars)
  | operator (mark : String)
  | junk
  deriving DecidableEq

def marks : List String :=
  ["<<=", ">>=", "<<", ">>", "<=", ">=", "==", "!=", "&&", "||", "*=", "/=", "%=", "+=", "-=", "&=",
   "^=", "|=", "=", "<", ">", "*", "/", "%", "+", "-", "&", "^", "|", "!", "~", "(", ")", "?", ":"]

def tokensUpTo : Nat → Chars → List Token
  | 0, _ => []
  | n + 1, cs =>
    match cs with
    | [] => []
    | c :: rest =>
      if c == ' ' || c == '\t' || c == '\n' then tokensUpTo n rest
      else if c.isDigit then
        match Numeral.unsigned? true cs with
        | some (v, rest) => .number (Numeral.clamp v) :: tokensUpTo n rest
        | none => []
      else if c.isAlpha || c == '_' then
        let name := cs.takeWhile fun c => c.isAlphanum || c == '_'
        .name name :: tokensUpTo n (cs.drop name.length)
      else match marks.find? fun o => o.toList.isPrefixOf cs with
        | some o => .operator o :: tokensUpTo n (cs.drop o.length)
        | none => .junk :: tokensUpTo n rest

def tokens (cs : Chars) : List Token := tokensUpTo (cs.length + 1) cs

/-! ## operators -/

/-- an integer taken modulo the words of 64 bits. -/
def wrap (n : Int) : Int := Int.bmod n UInt64.size

def shiftFactor (n : Int) : Int := (Nat.pow 2 (n % 64).toNat : Nat)

/-- the binary operators of several levels, from the weakest to the strongest. -/
def levels : List (List String) :=
  [["|"], ["^"], ["&"], ["==", "!="], ["<=", ">=", "<", ">"], ["<<", ">>"], ["+", "-"], ["*", "/", "%"]]

def apply (op : String) (a b : Int) : Except Failure Int :=
  let truth (x : Bool) : Except Failure Int := .ok (if x then 1 else 0)
  let divide (f : Int → Int → Int) : Except Failure Int :=
    if b = 0 then .error .divisionByZero
    else if a = -Numeral.half64 ∧ b = -1 then .error .overflow
    else .ok (f a b)
  match op with
  | "==" => truth (a == b)
  | "!=" => truth (a != b)
  | "<=" => truth (a ≤ b)
  | ">=" => truth (a ≥ b)
  | "<" => truth (a < b)
  | ">" => truth (a > b)
  | "+" => .ok (wrap (a + b))
  | "-" => .ok (wrap (a - b))
  | "*" => .ok (wrap (a * b))
  | "/" => divide Int.tdiv
  | "%" => divide Int.tmod
  | "<<" => .ok (wrap (a * shiftFactor b))
  | ">>" => .ok (Int.fdiv a (shiftFactor b))
  | "&" => .ok (Int64.ofInt a &&& Int64.ofInt b).toInt
  | "|" => .ok (Int64.ofInt a ||| Int64.ofInt b).toInt
  | "^" => .ok (Int64.ofInt a ^^^ Int64.ofInt b).toInt
  | _ => .error (.expecting "primary")

/-- the variable of an assignment, and the operator that it applies first; the empty one if it just
assigns. -/
def assignment? : List Token → Option (Chars × String)
  | .name x :: .operator o :: _ =>
    (["", "*", "/", "%", "+", "-", "<<", ">>", "&", "^", "|"].find? fun p => p ++ "=" == o).map fun p =>
      (x, p)
  | _ => none

/-! ## expressions -/

abbrev Calc := StateT (List Token × Machine) (Except Failure)

def fail {α : Type} (f : Failure) : Calc α := fun _ => .error f

def peek : Calc (List Token) := do return (← get).1

def pass (n : Nat) : Calc Unit := modify fun s => (s.1.drop n, s.2)

def expect (mark : String) : Calc Unit := do
  if (← peek).head? = some (.operator mark) then pass 1
  else fail (.expecting ("'" ++ mark ++ "'"))

def lookUp (name : Chars) : Calc Int := do
  let text := ((← get).2.parameter name).getD []
  match Numeral.word? true text with
  | some n => return n
  | none => fail (.notInteger text)

def joined (op : String) (a b : Int) : Calc Int :=
  match apply op a b with
  | .ok n => return n
  | .error f => fail f

def store (name : Chars) (n : Int) : Calc Int := do
  let (ts, m) ← get
  match m.assign? name (toString n).toList with
  | some m => do
    set (ts, m)
    return n
  | none => fail (.fixed name)

mutual

/-- an expression; `live` says whether its value decides anything. -/
def expression (live : Bool) : Nat → Calc Int
  | 0 => fail (.expecting "primary")
  | n + 1 => do
    match assignment? (← peek) with
    | none => choice live n
    | some (x, op) => do
      pass 2
      let v ← expression live n
      if !live then return v
      else if op = "" then store x v
      else store x (← joined op (← lookUp x) v)

def choice (live : Bool) : Nat → Calc Int
  | 0 => fail (.expecting "primary")
  | n + 1 => do
    let a ← alternatives live n
    if (← peek).head? = some (.operator "?") then
      pass 1
      let b ← expression (live && a != 0) n
      expect ":"
      let c ← choice (live && a == 0) n
      return if a ≠ 0 then b else c
    else return a

def alternatives (live : Bool) : Nat → Calc Int
  | 0 => fail (.expecting "primary")
  | n + 1 => do
    let a ← together live n
    if (← peek).head? = some (.operator "||") then
      pass 1
      let b ← alternatives (live && a == 0) n
      return if a ≠ 0 ∨ b ≠ 0 then 1 else 0
    else return a

def together (live : Bool) : Nat → Calc Int
  | 0 => fail (.expecting "primary")
  | n + 1 => do
    let a ← level live levels n
    if (← peek).head? = some (.operator "&&") then
      pass 1
      let b ← together (live && a != 0) n
      return if a ≠ 0 ∧ b ≠ 0 then 1 else 0
    else return a

def level (live : Bool) (ls : List (List String)) : Nat → Calc Int
  | 0 => fail (.expecting "primary")
  | n + 1 =>
    match ls with
    | [] => operand live n
    | ops :: stronger => do more live ops stronger (← level live stronger n) n

/-- what is joined to a value by operators of a level, from the left. -/
def more (live : Bool) (ops : List String) (stronger : List (List String)) (a : Int) : Nat → Calc Int
  | 0 => fail (.expecting "primary")
  | n + 1 => do
    match ← peek with
    | .operator o :: _ =>
      if ops.contains o then
        pass 1
        let b ← level live stronger n
        more live ops stronger (← if live then joined o a b else pure b) n
      else return a
    | _ => return a

def operand (live : Bool) : Nat → Calc Int
  | 0 => fail (.expecting "primary")
  | n + 1 => do
    let first ← peek
    pass 1
    match first with
    | .number v :: _ => return v
    | .name x :: _ => if live then lookUp x else return 0
    | .operator "(" :: _ => do
      let v ← expression live n
      expect ")"
      return v
    | .operator "+" :: _ => operand live n
    | .operator "-" :: _ => do return wrap (-(← operand live n))
    | .operator "!" :: _ => do return if (← operand live n) = 0 then 1 else 0
    | .operator "~" :: _ => do return -(← operand live n) - 1
    | _ => fail (.expecting "primary")

end

def entire (fuel : Nat) : Calc Int := do
  let v ← expression true fuel
  if (← peek).isEmpty then return v else fail (.expecting "EOF")

def value (m : Machine) (cs : Chars) : Except Failure (Int × Machine) :=
  let ts := tokens cs
  ((entire (16 * ts.length + 64)).run (ts, m)).map fun r => (r.1, r.2.2)

end Regen.Shell.Arithmetic
