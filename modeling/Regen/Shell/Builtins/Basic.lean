import Regen.Shell.Cursor
import Regen.Shell.Numeral
import Regen.Shell.Tools.Basic

/-!
# What the commands of the shell have in common

A command of the shell changes the machine and has a status, or it refuses to work. A refusal ends
the shell, if the command is a special one.

* `Builtin`             a command of the shell;
* `Builtins.options`    the options among its arguments;
* `Builtins.assign`     gives a variable a value, if the shell lets it;
* `Builtins.quoted`     a text as it could be written in a script.
-/

namespace Regen.Shell

/-- a command of the shell: from its arguments and the machine to the machine and a status, or to the
words of a refusal. -/
abbrev Builtin := List Chars → Machine → Machine × Except Chars Nat

namespace Builtins

def printing (f : Machine → Chars) : Builtin := fun _ m => (m.write 1 (f m), .ok 0)

def inTurn (f : Machine → Chars → Except Chars Machine) (m : Machine) : List Chars → Machine × Except Chars Nat
  | [] => (m, .ok 0)
  | a :: args =>
    match f m a with
    | .ok m => inTurn f m args
    | .error e => (m, .error e)

/-! ## arguments -/

/-- the letters of one argument with options, each with its own argument; and the arguments that are
left. A colon after a letter that is known says that an argument goes with it. -/
def letters (known : Chars) (rest : List Chars) : Chars → Except Chars (List (Char × Chars) × List Chars)
  | [] => .ok ([], rest)
  | c :: cs =>
    match known.dropWhile (· ≠ c) with
    | [] => .error ("Illegal option -".toList ++ [c])
    | _ :: ':' :: _ =>
      if cs ≠ [] then .ok ([(c, cs)], rest)
      else match rest with
        | a :: rest => .ok ([(c, a)], rest)
        | [] => .error ("No arg for -".toList ++ c :: " option".toList)
    | _ => (letters known rest cs).map fun r => ((c, []) :: r.1, r.2)

def optionsUpTo (known : Chars) : Nat → List Chars → Except Chars (List (Char × Chars) × List Chars)
  | 0, args => .ok ([], args)
  | n + 1, args =>
    match args with
    | ['-', '-'] :: rest => .ok ([], rest)
    | ('-' :: c :: cs) :: rest =>
      match letters known rest (c :: cs) with
      | .error e => .error e
      | .ok (found, rest) => (optionsUpTo known n rest).map fun r => (found ++ r.1, r.2)
    | _ => .ok ([], args)

def options (known : String) (args : List Chars) : Except Chars (List (Char × Chars) × List Chars) :=
  optionsUpTo known.toList (args.length + 1) args

def withOptions (known : String) (f : List (Char × Chars) → Builtin) : Builtin := fun args m =>
  match options known args with
  | .ok (opts, rest) => f opts rest m
  | .error e => (m, .error e)

def number (cs : Chars) : Except Chars Nat :=
  match Numeral.natural? cs with
  | some n => .ok n
  | none => .error ("Illegal number: ".toList ++ cs)

def cutAssignment (cs : Chars) : Chars × Option Chars :=
  let name := cs.takeWhile (· ≠ '=')
  (name, if name.length < cs.length then some (cs.drop (name.length + 1)) else none)

/-! ## variables -/

/-- the name of a variable, if it may have that name; what stands after an equals sign does not count. -/
def checkedName (text : Chars) : Except Chars Chars :=
  let name := text.takeWhile (· ≠ '=')
  if Reader.isName name then .ok name else .error (name ++ ": bad variable name".toList)

def assign (m : Machine) (name value : Chars) : Except Chars Machine := do
  let name ← checkedName name
  match m.assign? name value with
  | some m => return m
  | none => throw (name ++ ": is read only".toList)

def remove (m : Machine) (name : Chars) : Except Chars Machine := do
  let name ← checkedName name
  if (m.variableOf name).fixed then throw (name ++ ": is read only".toList)
  else return m.unset name

/-! ## quotes -/

/-- the rest of a quoted text and the closing quote, given the quote that is open; a single quote
stands between double ones. -/
def quotedFrom : Char → Chars → Chars
  | q, [] => [q]
  | q, c :: cs =>
    let wanted := if c = '\'' then '"' else '\''
    if q = wanted then c :: quotedFrom q cs else q :: wanted :: c :: quotedFrom wanted cs

def quoted (cs : Chars) : Chars := '\'' :: quotedFrom '\'' cs

end Builtins
end Regen.Shell
