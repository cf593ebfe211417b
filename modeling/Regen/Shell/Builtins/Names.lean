import Regen.Shell.Builtins.Basic
import Regen.Shell.Program
import Regen.Shell.Reader

/-!
# Commands that say what a name stands for

A name at the start of a command may be a reserved word, an alias, a function, a command of the shell
or a program on the search path. Programs that were found are remembered.

* `Meaning`, `Names.meaning`     what a name stands for;
* `Names.describe`               the same, told;
* `Names.define`, `Names.unalias`, `Names.hash`, `Names.type`   the commands.
-/

namespace Regen.Shell

inductive Meaning where
  | function (body : Command)
  | builtin (special : Bool)
  | program (path : Chars)
  | nothing (reason : Option SystemError)

namespace Names

/-- the commands of the shell that are special: a refusal of one ends the shell. -/
def isSpecial (name : Chars) : Bool := Reader.specialNames.contains (String.ofList name)

def regular : List String :=
  ["[", "alias", "bg", "cd", "chdir", "command", "echo", "false", "fg", "getopts", "hash", "jobs", "kill", "printf",
   "pwd", "read", "test", "true", "type", "ulimit", "umask", "unalias", "wait"]

def searchPath (m : Machine) : Chars := (m.get? "PATH".toList).getD []

def standardPath : Chars := "/usr/local/sbin:/usr/local/bin:/usr/sbin:/usr/bin:/sbin:/bin".toList

/-- the path of a program that is looked for. Where it was found before it still is, unless the current
directory has changed; even then the paths before it that do not depend on that are not looked at again. -/
def found? (m : Machine) (path name : Chars) : Option Chars :=
  let all := Program.candidates path name
  match if path = searchPath m then m.hashed.lookup name else none with
  | none => all.find? (Program.isRunnable m.tree m.directory)
  | some ⟨p, false⟩ => some p
  | some ⟨p, true⟩ =>
    let isFixed (c : Chars) : Bool := c.head? == some '/'
    let before := all.takeWhile (· ≠ p)
    (before.filter (!isFixed ·) ++ all.drop before.length).find? fun c =>
      (c == p && isFixed c) || Program.isRunnable m.tree m.directory c

def meaning (m : Machine) (functions : Bool) (path name : Chars) : Meaning :=
  if name.contains '/' then .program name
  else match if functions then m.functions.lookup name else none with
    | some body => .function body
    | none =>
      if isSpecial name then .builtin true
      else if regular.contains (String.ofList name) then .builtin false
      else match found? m path name with
        | some p => .program p
        | none => .nothing (Program.refusal? m.tree m.directory (Program.candidates path name))

def startPath (m : Machine) (path name found : Chars) : Chars :=
  let later := (Program.candidates path name).dropWhile (· ≠ found)
  (Program.best m.tree m.directory later).getD found

def remember (m : Machine) (name path : Chars) : Machine :=
  if name.contains '/' then m else { m with hashed := withEntry name ⟨path, false⟩ m.hashed }

def forget (m : Machine) (name : Chars) : Machine := { m with hashed := m.hashed.filter fun e => e.1 ≠ name }

/-- the words about a name that stands for nothing. -/
def absence (reason : Option SystemError) : Chars :=
  match reason with
  | some e => ": ".toList ++ (Tools.words e).toList
  | none => ": not found".toList

/-- the place of a name in a table with so many rows, which listings follow. -/
def row (rows : Nat) (name : Chars) : Nat :=
  name.foldl (fun n c => n + c.toNat) (16 * (name.headD '\x00').toNat) % 32768 % rows

def byRow {α : Type} (rows : Nat) (entries : List (Chars × α)) : List (Chars × α) :=
  (List.range rows).flatMap fun r => entries.filter fun e => row rows e.1 == r

/-! ## telling -/

def aliasText (a : Chars × Chars) : Chars := a.1 ++ '=' :: quoted a.2
where quoted := Builtins.quoted

def describe (m : Machine) (path : Option Chars) (sentence : Bool) (name : Chars) : Machine × Nat :=
  let say (m : Machine) (word : Chars) (phrase : String) : Machine × Nat :=
    (m.write 1 ((if sentence then name ++ phrase.toList else word) ++ ['\n']), 0)
  if Reader.reserved.contains (String.ofList name) then say m name " is a shell keyword"
  else match m.aliases.lookup name with
    | some value =>
      if sentence then say m [] (" is an alias for " ++ String.ofList value)
      else say m ("alias ".toList ++ aliasText (name, value)) ""
    | none =>
      let known := if path.isNone then (m.hashed.lookup name).map Found.path else none
      match meaning m true (path.getD (searchPath m)) name, known with
      | .function _, _ => say m name " is a shell function"
      | .builtin special, _ => say m name (if special then " is a special shell builtin" else " is a shell builtin")
      | _, some p => say m p (" is a tracked alias for " ++ String.ofList p)
      | .program p, none =>
        if name.contains '/' ∧ (m.entry? p).isNone then missing m
        else say (if path.isNone then remember m name p else m) p (" is " ++ String.ofList p)
      | .nothing _, none => missing m
where
  missing (m : Machine) : Machine × Nat :=
    (if sentence then m.write 1 (name ++ ": not found\n".toList) else m, 127)

def type : Builtin := fun args m =>
  let r := args.foldl (fun (r : Machine × Nat) a =>
    let d := describe r.1 none true a
    (d.1, if d.2 = 0 then r.2 else d.2)) (m, 0)
  (r.1, .ok r.2)

/-- the command `command`, where it only tells what a name stands for. -/
def locate : Builtin := Builtins.withOptions "pvV" fun opts args m =>
  let path := if opts.any fun o => o.1 == 'p' then some standardPath else none
  match (opts.filter fun o => o.1 ≠ 'p').getLast?, args with
  | some (c, _), name :: _ => let r := describe m path (c == 'V') name; (r.1, .ok r.2)
  | _, _ => (m, .ok 0)

/-! ## tables -/

def define : Builtin := fun args m =>
  if args.isEmpty then
    (m.write 1 ((byRow 39 m.aliases).flatMap fun a => aliasText a ++ ['\n']), .ok 0)
  else
    let r := args.foldl (fun (r : Machine × Nat) a =>
      let m := r.1
      let name := a.take 1 ++ (a.drop 1).takeWhile (· ≠ '=')
      if name.length < a.length then
        ({ m with aliases := withEntry name (a.drop (name.length + 1)) m.aliases }, r.2)
      else match m.aliases.lookup a with
        | some value => (m.write 1 (aliasText (a, value) ++ ['\n']), r.2)
        | none => (m.complain ("alias: ".toList ++ a ++ " not found".toList), 1)) (m, 0)
    (r.1, .ok r.2)

def unalias : Builtin := Builtins.withOptions "a" fun opts args m =>
  if ¬ opts.isEmpty then ({ m with aliases := [] }, .ok 0)
  else
    let r := args.foldl (fun (r : Machine × Nat) a =>
      if (r.1.aliases.lookup a).isSome then
        ({ r.1 with aliases := r.1.aliases.filter fun b => b.1 ≠ a }, r.2)
      else (r.1.complain ("unalias: ".toList ++ a ++ " not found".toList), 1)) (m, 0)
    (r.1, .ok r.2)

def hash : Builtin := Builtins.withOptions "r" fun opts args m =>
  if ¬ opts.isEmpty then ({ m with hashed := [] }, .ok 0)
  else if args.isEmpty then
    (m.write 1 ((byRow 31 m.hashed).flatMap fun e => e.2.path ++ if e.2.isStale then ['*', '\n'] else ['\n']), .ok 0)
  else
    let r := args.foldl (fun (r : Machine × Nat) a =>
      let m := forget r.1 a
      match meaning m true (searchPath m) a with
      | .program p => (remember m a p, r.2)
      | .nothing reason => (m.complainAt (a ++ absence reason), 1)
      | _ => (m, r.2)) (m, 0)
    (r.1, .ok r.2)

end Names
end Regen.Shell
