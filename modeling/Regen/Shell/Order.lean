import Regen.Shell.Builtins
import Regen.Shell.Expansion
import Regen.Shell.Redirection
import Regen.Shell.Tools

/-!
# Orders

Before a simple command runs, its words are expanded, its descriptors are set and its assignments are
made. What it orders is told by its first words.

* `Order`               the words of a command without the `command` in front of them;
* `Order.words`         expands the words of a command;
* `Order.redirect`      sets descriptors;
* `Order.assign`        makes assignments;
* `Order.trace`         shows a command before it runs.
-/

namespace Regen.Shell

structure Order where
  words : List Chars
  /-- `command` stood in front: functions do not count, and no refusal ends the shell. -/
  plain : Bool
  standard : Bool

namespace Order

open Run

/-- the words that `command` runs, and whether it is told to search where the programs of the system
are; none if it is asked for something else. -/
def afterCommand : List Chars → Option (Bool × List Chars)
  | [] => none
  | a :: rest =>
    match a with
    | ['-', '-'] => if rest.isEmpty then none else some (false, rest)
    | '-' :: c :: cs =>
      if (c :: cs).all (· == 'p') then (afterCommand rest).map fun r => (true, r.2) else none
    | _ => some (false, a :: rest)

/-- an order without the `command`s in front of it, so many at most. -/
def strip (m : Machine) : Nat → Order → Order
  | 0, o => o
  | n + 1, o =>
    match o.words with
    | [] => o
    | name :: rest =>
      if name = "command".toList ∧ (o.plain ∨ (m.functions.lookup name).isNone) then
        match afterCommand rest with
        | some (standard, words) => strip m n ⟨words, true, o.standard || standard⟩
        | none => { o with plain := true }
      else o

def ofWords (m : Machine) (words : List Chars) : Order := strip m words.length ⟨words, false, false⟩

def name (o : Order) : Chars := o.words.headD []

def searchPath (m : Machine) (o : Order) : Chars :=
  if o.standard then Names.standardPath else Names.searchPath m

def meaning (m : Machine) (o : Order) : Meaning := Names.meaning m (!o.plain) (o.searchPath m) o.name

def takesAssignments (m : Machine) (o : Order) : Bool :=
  (["alias", "export", "local", "readonly"].map String.toList).contains o.name &&
    (o.plain || (m.functions.lookup o.name).isNone)

def isSpecial (o : Order) : Bool := !o.plain && Names.isSpecial o.name

def keepsDescriptors (o : Order) : Bool := o.name == "exec".toList

def assignment? : Word → Option (Chars × Word)
  | .text cs false :: ps =>
    (Reader.assignmentName cs).map fun name =>
      let value := cs.drop (name.length + 1)
      (name, if value = [] then ps else .text value false :: ps)
  | _ => none

/-! ## words -/

def expand (take : Command → Eval Chars) (done : List Chars) : List Word → Eval (List Chars)
  | [] => return done
  | w :: ws => do
    let m ← get
    match if (ofWords m done).takesAssignments m then assignment? w else none with
    | some (name, value) => do
      let v ← Expansion.text take true value
      expand take (done ++ [name ++ '=' :: v]) ws
    | none => do
      let fields ← Expansion.fields take w
      expand take (done ++ fields) ws

def fields (take : Command → Eval Chars) : List Word → Eval (List Chars)
  | [] => return []
  | w :: ws => do
    let first ← Expansion.fields take w
    return first ++ (← fields take ws)

/-! ## descriptors -/

/-- a redirection with its target, which is known unless it is a text to be read. -/
structure Aim where
  descriptor : Nat
  direction : Direction
  target : Word
  known : Chars

/-- the targets of redirections. A text to be read is left as it is. -/
def aims (take : Command → Eval Chars) : List Redirect → Eval (List Aim)
  | [] => return []
  | .mk fd .here text :: rs => return ⟨fd, .here, text, []⟩ :: (← aims take rs)
  | .mk fd direction target :: rs => do
    let cs ← Expansion.text take false target
    if direction = .duplicate ∧ ¬ Redirection.isDescriptor cs then
      modify fun m => { m with line := m.readUpTo }
      refuse "Syntax error: Bad fd number".toList
    return ⟨fd, direction, target, cs⟩ :: (← aims take rs)

/-- follows redirections, until one fails with a complaint. What is wrong in a text to be read is a
failure of its redirection. -/
def followAll (take : Command → Eval Chars) : List Aim → Eval Bool
  | [] => return true
  | a :: rest => do
    let target ← match a.direction with
      | .here => attempt (Expansion.text take false a.target)
      | _ => pure (.ok a.known)
    match target with
    | .error .failed => return false
    | .error l => throw l
    | .ok cs =>
      match ← Redirection.follow a.descriptor a.direction cs with
      | none => followAll take rest
      | some e => do
        fail e 2
        return false

def redirect (take : Command → Eval Chars) (rs : List Redirect) : Eval Bool := do
  followAll take (← aims take rs)

/-! ## assignments -/

inductive Reach where
  | lasting
  | published
  | passing

def Reach.apply (r : Reach) (m : Machine) (name value : Chars) : Except Chars Machine :=
  match r with
  | .lasting => Builtins.assign m name value
  | .published => (Builtins.assign m name value).map fun m => m.publish name
  | .passing => (Builtins.assign (m.makeLocal name) name value).map fun m => m.publish name

def assign (take : Command → Eval Chars) (reach : Reach) : List (Chars × Word) → Eval (List Chars)
  | [] => return []
  | (name, w) :: as => do
    let value ← Expansion.text take true w
    match reach.apply (← get) name value with
    | .error e => refuse e
    | .ok m => do
      set m
      return (name ++ '=' :: value) :: (← assign take reach as)

def trace (take : Command → Eval Chars) (outlet : Endpoint) (shown : List Chars) : Eval Unit := do
  let m ← get
  if m.isOn .xtrace then
    let mark ← match Reader.quotedText ((m.get? "PS4".toList).getD []) with
      | .ok w => Expansion.text take false w
      | .error _ => pure []
    modify fun m => m.emit outlet (mark ++ List.intercalate [' '] shown ++ ['\n'])

/-! ## endings -/

/-- takes over how a program ended; the death by a signal is told, if it is one to tell of. -/
def mourn : Ending → Eval Unit
  | .status s => setStatus s
  | .signal s => modify fun m =>
    { (match Signal.epitaph? s with
        | some words => m.complain words.toList
        | none => m) with status := 128 + s }

/-- a failed command ends a strict shell, unless it was tested. -/
def check (stance : Stance) : Eval Unit := do
  let m ← get
  if m.isOn .errexit ∧ ¬ stance.tested ∧ m.status ≠ 0 then throw .exited

def numberOr (otherwise : Nat) : List Chars → Eval Nat
  | [] => return otherwise
  | a :: _ =>
    match Builtins.number a with
    | .ok n => return n
    | .error e => refuse e

/-- a text without the line ends at its end, and without zero bytes. -/
def withoutNewlines (cs : Chars) : Chars :=
  (cs.reverse.dropWhile (· == '\n')).reverse.filter (· != '\x00')

end Order
end Regen.Shell
