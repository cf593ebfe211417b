import Regen.Shell.Evaluation
import Regen.Shell.Tools.Basic

/-!
# Redirections

What becomes of a machine's descriptor when a command asks it to lead somewhere else.

* `Redirection.isDescriptor`   whether a word names a descriptor, or none;
* `Redirection.follow`         a redirection carried out, or the complaint about it.
-/

namespace Regen.Shell.Redirection

open Run

def reason (create : Bool) (e : SystemError) : String :=
  if e = .noSuchFile ∨ e = .notADirectory then if create then "Directory nonexistent" else "No such file"
  else Tools.words e

/-- a complaint about a file that cannot be made or written. -/
def uncreated (path : Chars) (e : SystemError) : Chars :=
  "cannot create ".toList ++ path ++ (": " ++ reason true e).toList

/-- a complaint about a file that cannot be read. -/
def unopened (path : Chars) (e : SystemError) : Chars :=
  "cannot open ".toList ++ path ++ (": " ++ reason false e).toList

/-- a descriptor that leads to a file, which is opened; or the complaint about it. -/
def openInto (fd : Nat) (path : Chars) (o : Machine.Opening) : Eval (Option Chars) := do
  match ← openPath path o with
  | .error e => return some (if o.creates then uncreated path e else unopened path e)
  | .ok e => do
    close e
    modify fun m => m.redirect fd e
    return none

def isKept (m : Machine) (path : Chars) : Bool :=
  m.isOn .noclobber && match m.entry? path with
    | some (.file _) => true
    | some (.tool _) => true
    | _ => false

def isDescriptor (word : Chars) : Bool :=
  match word with
  | [c] => c.isDigit || c == '-'
  | _ => false

def follow (fd : Nat) (direction : Direction) (target : Chars) : Eval (Option Chars) := do
  let m ← get
  match direction with
  | .input => openInto fd target .input
  | .output =>
    if isKept m target then return some (uncreated target (.code 17)) else openInto fd target (.output false)
  | .overwrite => openInto fd target (.output false)
  | .append => openInto fd target (.output true)
  | .both => openInto fd target .both
  | .duplicate =>
    if target = ['-'] then
      set (m.redirect fd .closed)
      return none
    else match m.endpoint (Text.decimal target) with
      | .closed => return some (target ++ ": Bad file descriptor".toList)
      | e => do
        set (m.redirect fd e)
        return none
  | .here => do
    let (i, m) := m.newPipe (.ofText target none)
    set (m.redirect fd (.pipe i true false))
    return none

end Regen.Shell.Redirection
