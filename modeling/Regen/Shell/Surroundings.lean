import Regen.Shell.Builtins.Basic
import Regen.Shell.Program
import Regen.Shell.Signal
import Regen.Shell.Startup
import Regen.Shell.Surroundings.Words

/-!
# Changed surroundings

The program `env` runs another program in changed surroundings: with fewer variables or with more of
them, in another directory, or with other signals ignored. Without a program it shows the variables.

* `Surroundings`             what is to change;
* `Surroundings.read`        the options of `env`;
* `Surroundings.prepare`     makes the changes;
* `Surroundings.display`     shows the variables.
-/

namespace Regen.Shell

structure SignalChange where
  ignores : Bool
  insists : Bool

structure Surroundings where
  clears : Bool
  drops : List Chars
  /-- the variables are shown with a zero after each instead of a line end. -/
  zeros : Bool
  directory : Option Chars
  tells : Bool
  signals : List (Nat × SignalChange)
  lists : Bool

namespace Surroundings

def unchanged : Surroundings := ⟨false, [], false, none, false, [], false⟩

/-! ## options -/

/-- the options of `env`; those without a letter go by letters that cannot be typed. -/
def options : List Tools.Known :=
  Tools.switches [('i', "ignore-environment"), ('0', "null"), ('v', "debug"), ('\x04', "list-signal-handling")] ++
    Tools.valuedAll [('u', "unset"), ('C', "chdir"), ('S', "split-string")] ++
    Tools.possibles [('\x01', "ignore-signal"), ('\x02', "default-signal"), ('\x03', "block-signal")]

def namedSignals : List Nat := (List.range Signal.count).filter fun n => 0 < n && (n < 32 || 34 ≤ n)

def signalNames : List (Nat × String) := [(6, "IOT"), (16, "STKFLT"), (17, "CLD"), (29, "POLL")]

/-- the signal of a word: a name, a number, or the status of what a signal has killed. -/
def signalOf? (word : Chars) : Option Nat :=
  let upper := word.map Char.toUpper
  let name := if "SIG".toList.isPrefixOf upper then upper.drop 3 else upper
  let number : Option Nat :=
    if word ≠ [] ∧ word.all Char.isDigit then
      let n := Text.decimal word
      some (if 255 ≤ n then n % 256 else n % 128)
    else ((signalNames.find? fun s => s.2.toList == name).map Prod.fst).orElse fun _ =>
      namedSignals.find? fun n => (Signal.name n).toList == name
  number.filter namedSignals.contains

def signalWords (value : Chars) : List Chars :=
  (value.splitBy fun a b => (a == ',') == (b == ',')).filter fun w => w.head? ≠ some ','

def misuse (letter : Char) (value : Chars) : Option Tools.Misuse :=
  if letter = '\x01' ∨ letter = '\x02' ∨ letter = '\x03' then
    ((signalWords value).find? fun w => (signalOf? w).isNone).map fun w =>
      ⟨String.ofList (Tools.cited w) ++ ": invalid signal", true⟩
  else none

def withSignals (s : Surroundings) (ignores : Bool) (value : Chars) : Surroundings :=
  let named := (signalWords value).filterMap signalOf?
  let changes := if value.isEmpty then namedSignals.map fun n => (n, ⟨ignores, false⟩)
    else named.map fun n => (n, (⟨ignores, true⟩ : SignalChange))
  { s with signals := changes.reverse ++ s.signals }

def withOption (s : Surroundings) (o : Char × Chars) : Surroundings :=
  match o.1 with
  | 'i' => { s with clears := true }
  | '0' => { s with zeros := true }
  | 'v' => { s with tells := true }
  | 'u' => { s with drops := s.drops ++ [o.2] }
  | 'C' => { s with directory := some o.2 }
  | '\x01' => s.withSignals true o.2
  | '\x02' => s.withSignals false o.2
  | '\x04' => { s with lists := true }
  | _ => s

/-- options that cannot be read, and a hint if a blank was taken for one. -/
def hinted (name : Chars) (e : Tools.Misuse) : Tools.Misuse :=
  match e.message.toList.reverse with
  | '\'' :: c :: _ =>
    if Words.isBlank c then
      { e with message := e.message ++ "\n" ++ String.ofList name ++ ": use -[v]S to pass options in shebang lines" }
    else e
  | _ => e

def firstSplit? (args : List Chars) : Option (Tools.Reading × List Chars) :=
  (List.range args.length).findSome? fun k =>
    let r := Tools.readOptions options false (args.take (k + 1))
    if r.given.any fun o => o.1 == 'S' then some (r, args.drop (k + 1)) else none

/-- what has been read: what is told, and what is to change with the arguments that are left, or what is wrong. -/
abbrev Outcome := List Chars × Except Tools.Misuse (Surroundings × List Chars)

def splitRemarks (text : Chars) (ps : List Words.Part) (words : List Chars) : List Chars :=
  let told (label : String) (w : Chars) : Chars := label.toList ++ Tools.cited w
  Words.remarks ps ++ if words.isEmpty then [] else
    told "split -S:  " text :: words.zipIdx.map fun (w, i) => told (if i = 0 then " into:    " else "     &    ") w

/-- the options in front of the arguments, and what is left of the arguments; or what is wrong. The words of a
text that is to be split are arguments too, in front of those that come after it. -/
def read (m : Machine) (s : Surroundings) : Nat → List Chars → Outcome
  | 0, args => ([], .ok (s, args))
  | n + 1, args =>
    match firstSplit? args with
    | some (r, later) =>
      match r.checked misuse with
      | .error e => ([], .error e)
      | .ok (o, _) =>
        let s := o.given.foldl withOption s
        let text := (o.value? 'S').getD []
        let (ps, wrong) := Words.partsOf (fun name => m.environment.lookup name) text
        let words := Words.ofParts none ps
        match wrong with
        | some e => (if s.tells then Words.remarks ps else [], .error ⟨e, false⟩)
        | none =>
          let r := read m s n (words ++ later)
          ((if s.tells then splitRemarks text ps words else []) ++ r.1, r.2)
    | none =>
      match (Tools.readOptions options false args).checked misuse with
      | .error e => ([], .error (hinted m.name e))
      | .ok (o, rest) =>
        let s := o.given.foldl withOption s
        match rest with
        | ['-'] :: rest => ([], .ok ({ s with clears := true }, rest))
        | _ => ([], .ok (s, rest))

/-! ## changes -/

def tell (s : Surroundings) (m : Machine) (line : Chars) : Machine :=
  if s.tells then m.write 2 (line ++ ['\n']) else m

def drop (s : Surroundings) (m : Machine) : Except Machine Machine :=
  let kept : Machine := { m with bindings := m.bindings.filter fun v => v.2.exported }
  if s.clears then .ok { s.tell kept "cleaning environ".toList with bindings := [] }
  else s.drops.foldlM (fun m name =>
    let m := s.tell m ("unset:    ".toList ++ name)
    if name = [] ∨ name.contains '=' then .error (Tools.deny m "cannot unset " name (.code 22))
    else .ok { m with bindings := m.bindings.filter fun v => v.1 != name }) kept

def heed (s : Surroundings) (m : Machine) : Except Machine Machine :=
  (namedSignals.filterMap fun n => (s.signals.lookup n).map fun c => (n, c)).foldlM (fun (m : Machine) (n, c) =>
    let isFixed := n = 9 ∨ n = 19
    if isFixed ∧ c.insists then
      .error (Tools.accuse m ("failed to set signal action for signal " ++ toString n ++ ": Invalid argument").toList)
    else
      let name : String := (signalNames.lookup n).getD (Signal.name n)
      let m := s.tell m ("Reset signal " ++ name ++ " (" ++ toString n ++ ") to " ++
        (if c.ignores then "IGNORE" else "DEFAULT") ++ (if c.insists then "" else " (failure ignored)")).toList
      let others := m.deaf.filter (· != n)
      .ok { m with deaf := if isFixed then m.deaf else if c.ignores then n :: others else others }) m

def ignoredLines (m : Machine) : Chars :=
  (namedSignals.filter m.deaf.contains).flatMap fun n =>
    let name : Chars := (if n = 6 ∨ n = 17 then Signal.name n else (signalNames.lookup n).getD (Signal.name n)).toList
    name ++ List.replicate (10 - name.length) ' ' ++ " (".toList ++ Tools.padded 2 n ++ "): IGNORE\n".toList

def move (s : Surroundings) (m : Machine) : Except Machine Machine :=
  match s.directory with
  | none => .ok m
  | some d =>
    let m := s.tell m ("chdir:    ".toList ++ Tools.shown true d)
    let failed (e : SystemError) : Except Machine Machine := .error (Tools.blame m "cannot change directory to " d "" e)
    match m.tree.resolveFrom m.directory ⟨bytesOf d⟩ with
    | .error e => failed e
    | .ok place =>
      match m.tree.doorway place with
      | none => .ok { m with directory := place, way := place }
      | some e => failed e

/-- makes the changes and then some assignments, or complains; what is left is the program with its arguments. -/
def prepare (s : Surroundings) (args : List Chars) (m : Machine) : Except Machine (Machine × List Chars) := do
  let assignments := args.takeWhile fun a => a.contains '='
  let command := args.drop assignments.length
  let m ← s.drop m
  let m := assignments.foldl (fun m a =>
    let (name, value) := Builtins.cutAssignment a
    (s.tell m ("setenv:   ".toList ++ a)).putVariable name ⟨some (value.getD []), true, false⟩) m
  if s.zeros ∧ command ≠ [] then throw (Tools.misused m "cannot specify --null (-0) with command")
  if s.directory.isSome ∧ command = [] then throw (Tools.misused m "must specify command with --chdir (-C)")
  if command = [] then return (m, [])
  let m ← s.heed m
  let m ← s.move (if s.lists then m.write 2 (ignoredLines m) else m)
  let m := s.tell m ("executing: ".toList ++ command.headD [])
  return (command.zipIdx.foldl (fun m (a, i) =>
    s.tell m ("   arg[".toList ++ Nat.toDigits 10 i ++ "]= ".toList ++ Tools.cited a)) m, command)

def display (s : Surroundings) (m : Machine) : Machine :=
  m.write 1 (m.environment.flatMap fun v => v.1 ++ '=' :: v.2 ++ [if s.zeros then '\x00' else '\n'])

end Surroundings
end Regen.Shell
