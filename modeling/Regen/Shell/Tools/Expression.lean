import Regen.Shell.Numeral
import Regen.Shell.Tools.Basic
import Regen.Text.Regex.Reader

/-!
# Expressions made of arguments

Each argument is an operand or an operator. Operators bind in six levels: `|`, `&`, comparisons, sums,
products and `:`, which matches an expression at the start of a text.

* `Tools.expr`    the program.
-/

namespace Regen.Shell.Tools

/-- why an expression has no value, and the status that says so. -/
structure Failure where
  message : String
  status : Nat

def wholeNumber? (cs : Chars) : Option Int :=
  let (negative, body) := match cs with
    | '-' :: rest => (true, rest)
    | _ => (false, cs)
  if body.isEmpty ∨ ¬ body.all Char.isDigit then none
  else some (if negative then -(Text.decimal body : Int) else Text.decimal body)

/-- whether a value counts as nothing: it is empty or zero. -/
def isNothing (cs : Chars) : Bool :=
  let body := match cs with
    | '-' :: rest => rest
    | _ => cs
  cs.isEmpty || (!body.isEmpty && body.all (· == '0'))

def textOf (n : Int) : Chars := (toString n).toList

def matchDialect : Regex.Dialect where
  extended := false
  limited := false
  needsPiece := false
  repeatsOnce := false
  keepsParenthesis := false
  keepsBraces := false
  repeatsEdges := false
  fold := false

/-- the match of an expression at the start of a text: what the first group kept, or how long it is. -/
def matchStart (text pattern : Chars) : Except Failure Chars :=
  match matchDialect.read pattern with
  | .error e => .error ⟨e.message, 2⟩
  | .ok w =>
    let hasGroup := w.groups ≠ 0
    match (w.matcher ⟨false, none⟩).start? text with
    | some s => .ok (if hasGroup then (s.groups.lookup 1).getD [] else textOf (s.matched.length : Nat))
    | none => .ok (if hasGroup then [] else ['0'])

def operate (operator : String) (a b : Chars) : Except Failure Chars := do
  let numbers : Except Failure (Int × Int) := match wholeNumber? a, wholeNumber? b with
    | some x, some y => .ok (x, y)
    | _, _ => .error ⟨"non-integer argument", 2⟩
  let truth (b : Bool) : Chars := if b then ['1'] else ['0']
  let order : Ordering := match wholeNumber? a, wholeNumber? b with
    | some x, some y => compare x y
    | _, _ => if a = b then .eq else if Bytes.before (bytesOf a) (bytesOf b) then .lt else .gt
  match operator with
  | "|" => return if isNothing a then (if isNothing b then ['0'] else b) else a
  | "&" => return if isNothing a ∨ isNothing b then ['0'] else a
  | "<" => return truth (order == .lt)
  | "<=" => return truth (order != .gt)
  | "=" => return truth (order == .eq)
  | "==" => return truth (order == .eq)
  | "!=" => return truth (order != .eq)
  | ">=" => return truth (order != .lt)
  | ">" => return truth (order == .gt)
  | "+" => let (x, y) ← numbers; return textOf (x + y)
  | "-" => let (x, y) ← numbers; return textOf (x - y)
  | "*" => let (x, y) ← numbers; return textOf (x * y)
  | ":" => matchStart a b
  | _ =>
    let (x, y) ← numbers
    if y = 0 then throw ⟨"division by zero", 2⟩
    return textOf (if operator = "/" then Int.tdiv x y else Int.tmod x y)

def levels : List (List String) :=
  [["|"], ["&"], ["<", "<=", "=", "==", "!=", ">=", ">"], ["+", "-"], ["*", "/", "%"], [":"]]

/-- the complaint about arguments that should go on. -/
def cutShort (previous : Option Chars) : Failure :=
  ⟨match previous with
    | some p => about "syntax error: missing argument after" p
    | none => "syntax error", 2⟩

mutual

/-- the value of the operands and operators from a level on, and the arguments that are left. `previous`
is the argument before them. -/
def valueFrom : Nat → List (List String) → Option Chars → List Chars → Except Failure (Chars × Option Chars × List Chars)
  | 0, _, _, _ => .error ⟨"syntax error", 2⟩
  | n + 1, [], previous, args => operand n previous args
  | n + 1, operators :: more, previous, args => do
    let (a, previous, rest) ← valueFrom n more previous args
    goOn n operators more a previous rest

def goOn : Nat → List String → List (List String) → Chars → Option Chars → List Chars →
    Except Failure (Chars × Option Chars × List Chars)
  | 0, _, _, _, _, _ => .error ⟨"syntax error", 2⟩
  | n + 1, operators, more, a, previous, args =>
    match args with
    | [] => .ok (a, previous, [])
    | o :: rest =>
      if operators.contains (String.ofList o) then do
        let (b, previous, rest) ← valueFrom n more (some o) rest
        let value ← operate (String.ofList o) a b
        goOn n operators more value previous rest
      else .ok (a, previous, args)

def operand : Nat → Option Chars → List Chars → Except Failure (Chars × Option Chars × List Chars)
  | 0, _, _ => .error ⟨"syntax error", 2⟩
  | n + 1, previous, args => do
    match args with
    | [] => throw (cutShort previous)
    | a :: rest =>
      match String.ofList a with
      | "(" =>
        let (value, previous, rest) ← valueFrom n levels (some a) rest
        match rest with
        | [')'] :: rest => return (value, some [')'], rest)
        | [] => throw ⟨about "syntax error: expecting ')' after" (previous.getD []), 2⟩
        | r :: _ => throw ⟨about "syntax error: expecting ')' instead of" r, 2⟩
      | ")" => throw ⟨"syntax error: unexpected ')'", 2⟩
      | "+" =>
        match rest with
        | b :: rest => return (b, some b, rest)
        | [] => throw (cutShort (some a))
      | "length" =>
        let (text, previous, rest) ← operand n (some a) rest
        return (textOf text.length, previous, rest)
      | "match" =>
        let (text, previous, rest) ← operand n (some a) rest
        let (pattern, previous, rest) ← operand n previous rest
        return (← matchStart text pattern, previous, rest)
      | "index" =>
        let (text, previous, rest) ← operand n (some a) rest
        let (set, previous, rest) ← operand n previous rest
        return (textOf (match text.findIdx? set.contains with | some i => (i + 1 : Nat) | none => 0), previous, rest)
      | "substr" =>
        let (text, previous, rest) ← operand n (some a) rest
        let (start, previous, rest) ← operand n previous rest
        let (length, previous, rest) ← operand n previous rest
        match wholeNumber? start, wholeNumber? length with
        | some s, some l =>
          return (if s ≤ 0 ∨ l ≤ 0 then [] else (text.drop (s.toNat - 1)).take l.toNat, previous, rest)
        | _, _ => return ([], previous, rest)
      | _ => return (a, some a, rest)

end

def expr : Tool := fun args m =>
  let args := if args.head? = some "--".toList then args.drop 1 else args
  if args.isEmpty then (misused m "missing operand", 2)
  else match valueFrom (16 * args.length + 16) levels none args with
    | .error e => (accuse m e.message.toList, e.status)
    | .ok (value, _, []) => (m.write 1 (value ++ ['\n']), if isNothing value then 1 else 0)
    | .ok (_, _, extra :: _) => (accuse m (about "syntax error: unexpected argument" extra).toList, 2)

end Regen.Shell.Tools
