import Regen.Shell.Format
import Regen.Shell.Machine.Descriptors

/-!
# Conditions

What `test` and its bracket say about strings, numbers and files. A condition is read from the
left: alternatives, what must hold together, negations, and operands with operators between them
or in front. An operator counts as an operand where nothing could follow it.

* `Condition.Failure`    why a condition has no answer;
* `Condition.holds`      whether a condition holds.
-/

namespace Regen.Shell.Condition

inductive Failure where
  | unexpected (word : Chars)
  | nothingAfter (op : String)
  | notClosed
  | notNumber (word : Chars)
  deriving DecidableEq

def Failure.message : Failure → Chars
  | unexpected word => word ++ ": unexpected operator".toList
  | nothingAfter op => (op ++ ": argument expected").toList
  | notClosed => "closing paren expected".toList
  | notNumber word => "Illegal number: ".toList ++ word

/-! ## one operator -/

def unaryNames : List String :=
  ["-b", "-c", "-d", "-e", "-f", "-g", "-h", "-k", "-n", "-p", "-r", "-s", "-t", "-u", "-w", "-x", "-z",
   "-L", "-O", "-G", "-S"]

def binaryNames : List String :=
  ["=", "!=", "<", ">", "-eq", "-ne", "-lt", "-le", "-gt", "-ge", "-nt", "-ot", "-ef"]

def isLink (m : Machine) (path : Chars) : Bool :=
  match m.tree.slot m.directory ⟨bytesOf path⟩ with
  | .ok (dir, name) => match (m.tree.node? (dir ++ [name])).map Node.entry with
    | some (.link _) => true
    | _ => false
  | .error _ => false

def fileHas (letter : Char) (n : Node) : Bool :=
  let bit (weight : Nat) : Bool := n.mode.bits / weight % 2 == 1
  match letter, n.entry with
  | 'f', .file _ => true
  | 'f', .tool _ => true
  | 'd', .directory => true
  | 'c', .device _ => true
  | 'p', .pipe => true
  | 's', .file b => !b.isEmpty
  | 's', .tool _ => true
  | 's', .directory => true
  | 'r', _ => n.mode.reads
  | 'w', _ => n.mode.writes
  | 'x', _ => n.mode.runs
  | 'u', _ => bit 2048
  | 'g', _ => bit 1024
  | 'k', _ => bit 512
  | 'e', _ => true
  | 'O', _ => true
  | 'G', _ => true
  | _, _ => false

def unary (m : Machine) (op : String) (x : Chars) : Bool :=
  match op.toList with
  | ['-', 'z'] => x.isEmpty
  | ['-', 'n'] => !x.isEmpty
  | ['-', 'h'] => isLink m x
  | ['-', 'L'] => isLink m x
  | ['-', letter] => (m.node? x).any (fileHas letter)
  | _ => false

/-- an operand that must be an integer; blanks around it do not count. -/
def number (x : Chars) : Except Failure Int :=
  let blank (c : Char) : Bool := c == ' ' || ('\t' ≤ c && c ≤ '\r')
  let cs := ((x.dropWhile blank).reverse.dropWhile blank).reverse
  let (sign, digits) : Int × Chars := match cs with
    | '-' :: r => (-1, r)
    | '+' :: r => (1, r)
    | _ => (1, cs)
  let n : Int := sign * Text.decimal digits
  if digits ≠ [] ∧ digits.all Char.isDigit ∧ -9223372036854775808 ≤ n ∧ n < 9223372036854775808 then .ok n
  else .error (.notNumber x)

def timeOf (m : Machine) (path : Chars) : Option Time :=
  (m.tree.findFrom m.directory ⟨bytesOf path⟩).toOption.map fun n => n.modified

def binary (m : Machine) (a : Chars) (op : String) (b : Chars) : Except Failure Bool :=
  let numbers (r : Int → Int → Bool) : Except Failure Bool := do return r (← number a) (← number b)
  match op with
  | "=" => .ok (a == b)
  | "!=" => .ok (a != b)
  | "<" => .ok (Bytes.before (bytesOf a) (bytesOf b))
  | ">" => .ok (Bytes.before (bytesOf b) (bytesOf a))
  | "-eq" => numbers fun x y => x == y
  | "-ne" => numbers fun x y => x != y
  | "-lt" => numbers fun x y => x < y
  | "-le" => numbers fun x y => x ≤ y
  | "-gt" => numbers fun x y => x > y
  | "-ge" => numbers fun x y => x ≥ y
  | "-nt" => .ok (match timeOf m a, timeOf m b with | some s, some t => t < s | _, _ => false)
  | "-ot" => .ok (match timeOf m a, timeOf m b with | some s, some t => s < t | _, _ => false)
  | _ => .ok ((m.numberAt? a).isSome && m.numberAt? a == m.numberAt? b)

/-! ## reading -/

inductive Token where
  | nothing
  | operand
  | opening
  | closing
  | both
  | either
  | negation
  | unary (op : String)
  | binary (op : String)
  deriving DecidableEq

def tokenOf (word : Chars) : Token :=
  let name := String.ofList word
  if name = "(" then .opening
  else if name = ")" then .closing
  else if name = "-a" then .both
  else if name = "-o" then .either
  else if name = "!" then .negation
  else if unaryNames.contains name then .unary name
  else if binaryNames.contains name then .binary name
  else .operand

def isBinary (word : Chars) : Bool := binaryNames.contains (String.ofList word)

def countsAsOperand : List Chars → Bool
  | [] => true
  | [_] => false
  | w :: _ :: _ => isBinary w

def token : List Chars → Token
  | [] => .nothing
  | w :: ws =>
    match tokenOf w with
    | .unary op => if countsAsOperand ws then .operand else .unary op
    | .opening => if ws.isEmpty then .operand else .opening
    | t => t

abbrev Reading := Except Failure (Bool × List Chars)

mutual

def alternatives (m : Machine) : Nat → List Chars → Reading
  | 0, _ => .error .notClosed
  | n + 1, ws => do
    let (a, rest) ← together m n ws
    if token (rest.drop 1) = .either then
      let (b, rest) ← alternatives m n (rest.drop 2)
      return (a || b, rest)
    else return (a, rest)

def together (m : Machine) : Nat → List Chars → Reading
  | 0, _ => .error .notClosed
  | n + 1, ws => do
    let (a, rest) ← negated m n ws
    if token (rest.drop 1) = .both then
      let (b, rest) ← together m n (rest.drop 2)
      return (a && b, rest)
    else return (a, rest)

def negated (m : Machine) : Nat → List Chars → Reading
  | 0, _ => .error .notClosed
  | n + 1, ws =>
    if token ws = .negation then do
      let (a, rest) ← negated m n (if ws.length < 2 then [] else ws.drop 1)
      return (!a, rest)
    else primary m n ws

def primary (m : Machine) : Nat → List Chars → Reading
  | 0, _ => .error .notClosed
  | n + 1, ws =>
    match token ws, ws with
    | .opening, _ :: ws =>
      if token ws = .closing then .ok (false, ws)
      else do
        let (a, rest) ← alternatives m n ws
        if token (rest.drop 1) = .closing then return (a, rest.drop 1) else throw .notClosed
    | .unary op, _ :: ws =>
      match ws with
      | [] => .error (.nothingAfter op)
      | x :: _ => do
        if op = "-t" then let _ ← number x
        return (unary m op x, ws)
    | _, [] => .ok (false, [])
    | _, a :: ws =>
      match token ws, ws with
      | .binary op, _ :: b :: rest => do return (← binary m a op b, b :: rest)
      | .binary op, _ => .error (.nothingAfter op)
      | _, _ => .ok (!a.isEmpty, a :: ws)

end

/-- a whole condition: nothing may follow what was read. -/
def entire (m : Machine) (ws : List Chars) : Except Failure Bool := do
  let (a, rest) ← alternatives m (4 * ws.length + 8) ws
  match rest with
  | w :: _ :: _ => throw (.unexpected w)
  | _ => return a

def holds (m : Machine) (ws : List Chars) : Except Failure Bool :=
  match ws with
  | [] => .ok false
  | [a, op, b] =>
    if isBinary op then binary m a (String.ofList op) b
    else if a = ['('] ∧ b = [')'] then entire m [op]
    else if a = ['!'] then (entire m [op, b]).map not
    else entire m ws
  | ['!'] :: [a, op, b] =>
    if isBinary op then (binary m a (String.ofList op) b).map not else (entire m [a, op, b]).map not
  | [a, b, c, d] => if a = ['('] ∧ d = [')'] then entire m [b, c] else entire m ws
  | _ => entire m ws

end Regen.Shell.Condition
