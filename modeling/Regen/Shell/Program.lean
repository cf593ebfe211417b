import Regen.Shell.Tools

/-!
# Programs at paths

A path leads to a program if it leads to an executable file: one that comes with the system, or a
script whose first line names the program that reads it.

* `Program.load`      the program of the system that runs in the end, and its arguments;
* `Program.search`    the path of a file that is named without a slash;
* `Program.refusal?`  why no path leads to a program;
* `Program.loadFirst` the first program among paths that can be started;
* `Program.exceeds`   whether arguments and variables are too long.
-/

namespace Regen.Shell.Program

/-- how many characters of a script are looked at for the name of a program. -/
def firstLineLimit : Nat := 256

def isGap (c : Char) : Bool := c == ' ' || c == '\t'

/-- the first line of a script without the two characters in front. Zeros follow a script that is short. A
line that has no end among the characters looked at is cut, unless that could cut the name of the program. -/
def firstLine? (text : Chars) : Option Chars :=
  match (text ++ List.replicate firstLineLimit '\x00').take firstLineLimit with
  | '#' :: '!' :: seen =>
    if seen.contains '\n' then some (seen.takeWhile (· ≠ '\n'))
    else if (seen.dropWhile isGap).any fun c => isGap c || c == '\x00' then some seen.dropLast
    else none
  | _ => none

/-- the program named by the first line of a script, and its one argument. A zero ends either. -/
def interpreter? (text : Chars) : Option (Chars × Option Chars) :=
  match (firstLine? text).map fun line => ((line.reverse.dropWhile isGap).reverse).dropWhile isGap with
  | none => none
  | some [] => none
  | some line =>
    let program := line.takeWhile fun c => !isGap c && c != '\x00'
    match line.drop program.length with
    | [] => some (program, none)
    | c :: rest =>
      some (program, if isGap c then some ((rest.dropWhile isGap).takeWhile (· ≠ '\x00')) else none)

/-- the program of the system that runs in the end when a path is started from a directory, and
all its arguments, its name first. -/
def load (t : Tree) (here : Place) (scripts : Nat) (path : Chars) (arguments : List Chars) :
    Except SystemError (String × List Chars) :=
  match t.findFrom here ⟨bytesOf path⟩ with
  | .error e => .error e
  | .ok node =>
    match (if node.mode.runs then node.entry else .directory), scripts with
    | .tool name, _ => .ok (name, arguments)
    | .file bytes, 0 =>
      .error (if (interpreter? (charsOf bytes.toList)).isSome then .tooManyLinks else .execFormat)
    | .file bytes, n + 1 =>
      match interpreter? (charsOf bytes.toList) with
      | some ([], _) => .error .permissionDenied
      | some (program, argument) =>
        load t here n program (program :: argument.toList ++ path :: arguments.drop 1)
      | none => .error .execFormat
    | _, _ => .error .permissionDenied

def nesting : Nat := 5

/-- whether a path can be started, if only as a script without a first line that names a program. -/
def canStart (t : Tree) (here : Place) (path : Chars) : Bool :=
  match load t here nesting path [] with
  | .ok _ => true
  | .error e => e == .execFormat

def directories (searchPath : Chars) : List Chars :=
  (Bytes.segments pathListSeparator (bytesOf searchPath)).map charsOf

def within (directory name : Chars) : Chars :=
  if directory = [] then name else directory ++ '/' :: name

def isFile (t : Tree) (here : Place) (path : Chars) : Bool :=
  match (t.findFrom here ⟨bytesOf path⟩).toOption.map Node.entry with
  | some (.file _) => true
  | some (.tool _) => true
  | _ => false

def isRunnable (t : Tree) (here : Place) (path : Chars) : Bool :=
  isFile t here path && (t.findFrom here ⟨bytesOf path⟩).toOption.any fun n => n.mode.runs

def candidates (searchPath name : Chars) : List Chars := (directories searchPath).map fun d => within d name

def search (t : Tree) (here : Place) (searchPath name : Chars) : Option Chars :=
  (candidates searchPath name).find? (isFile t here)

/-- what is to be said of paths none of which leads to a program: what stands at the last at which there is
something cannot be run, or it cannot be looked at. -/
def refusal? (t : Tree) (here : Place) (paths : List Chars) : Option SystemError :=
  paths.foldl (fun before path =>
    match t.findFrom here ⟨bytesOf path⟩ with
    | .ok _ => some .permissionDenied
    | .error e => if e = .noSuchFile ∨ e = .notADirectory then before else some e) none

def best (t : Tree) (here : Place) (paths : List Chars) : Option Chars :=
  (paths.find? (canStart t here)).orElse fun _ => paths.reverse.find? fun path =>
    match load t here nesting path [] with
    | .ok _ => true
    | .error e => e ≠ .noSuchFile && e ≠ .notADirectory

/-- the first program among paths that can be started; a file that is no program of any kind is read
by the shell. -/
def loadFirst (t : Tree) (place : Place) (argv : List Chars) (denied : Bool) :
    List Chars → Except SystemError (String × List Chars)
  | [] => .error (if denied then .permissionDenied else .noSuchFile)
  | path :: paths =>
    match load t place nesting path argv with
    | .ok r => .ok r
    | .error e =>
      if e = .execFormat then .ok ("sh", "/bin/sh".toList :: path :: argv.drop 1)
      else if e = .permissionDenied then loadFirst t place argv true paths
      else if e = .noSuchFile ∨ e = .notADirectory then loadFirst t place argv denied paths
      else .error e

/-! ## what a program can be handed -/

/-- how long an argument, or a variable with its value, can be at most, with a zero after it. -/
def textLimit : Nat := 131072

/-- how long all of them can be together, with the path of the program. Each takes room for a pointer
too. -/
def totalLimit : Nat := 2097152

def exceeds (path : Chars) (arguments : List Chars) (environment : List (Chars × Chars)) : Bool :=
  let sizes := arguments.map (fun a => a.length + 1) ++ environment.map fun v => v.1.length + v.2.length + 2
  let total := sizes.foldl (fun n k => n + k + 8) (path.length + 1)
  decide (totalLimit < total) || sizes.any fun k => textLimit < k

def usualPath : Chars := "/bin:/usr/bin".toList

end Regen.Shell.Program
