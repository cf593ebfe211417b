import Regen.Shell.Builtins.Basic

/-!
# Commands for variables and arguments

* `Builtins.publish`, `Builtins.protect`, `Builtins.localAssign`, `Builtins.unset`
* `Builtins.set`, `Builtins.shift`
* `Builtins.switchOptions`    the switches among the arguments of a shell.
-/

namespace Regen.Shell.Builtins

/-! ## listings -/

def sorted (m : Machine) : List (Chars × Variable) :=
  m.bindings.mergeSort fun a b => !Bytes.before (bytesOf b.1) (bytesOf a.1)

def shown (v : Chars × Variable) : Chars :=
  v.1 ++ match v.2.value with
    | some x => '=' :: quoted x
    | none => []

def listing (command : Chars) (kind : Variable → Bool) (m : Machine) : Chars :=
  ((sorted m).filter fun v => kind v.2).flatMap fun v =>
    (if command = [] then [] else command ++ [' ']) ++ shown v ++ ['\n']

/-! ## marks -/

/-- one argument of a command that marks variables: an assignment, or a name alone. -/
def mark (f : Machine → Chars → Machine) (m : Machine) (a : Chars) : Except Chars Machine := do
  let (name, value) := cutAssignment a
  let name ← checkedName name
  match value with
  | some v => return f (← assign m name v) name
  | none => return f m name

def marking (command : String) (kind : Variable → Bool) (f : Machine → Chars → Machine) : Builtin :=
  withOptions "p" fun opts args m =>
    if ¬ opts.isEmpty ∨ args.isEmpty then (m.write 1 (listing command.toList kind m), .ok 0)
    else inTurn (mark f) m args

def publish : Builtin := marking "export" Variable.exported Machine.publish

def protect : Builtin := marking "readonly" Variable.fixed Machine.fix

/-- variables that the running command makes its own, as long as one runs that is not special; a dash stands for the switches. -/
def localAssign : Builtin := fun args m =>
  if m.frames.isEmpty then (m, .error "not in a function".toList)
  else inTurn (fun m a =>
    let (name, value) := cutAssignment a
    if a = ['-'] then
      .ok (m.changeFrame fun f => { f with switches := f.switches.orElse fun _ => m.switches })
    else do
      let name ← checkedName name
      let m := m.makeLocal name
      match value with
      | some v => assign m name v
      | none => return if (m.bindings.lookup name).isSome then m else m.putVariable name Machine.noVariable)
    m args

def unset : Builtin := withOptions "vf" fun opts names m =>
  if opts.getLast?.any fun o => o.1 == 'f' then
    ({ m with functions := m.functions.filter fun f => !names.contains f.1 }, .ok 0)
  else inTurn remove m names

/-! ## switches and arguments -/

/-- the letters of one argument with switches, until one is unknown; the letters that are known
besides are gathered. -/
def switchLetters (besides : Chars) (value : Bool) (m : Machine) :
    Chars → Machine × Chars × Nat × Option Chars
  | [] => (m, [], 0, none)
  | c :: cs =>
    if c = 'o' then
      let r := switchLetters besides value m cs
      (r.1, r.2.1, r.2.2.1 + 1, r.2.2.2)
    else if besides.contains c then
      let r := switchLetters besides value m cs
      (r.1, c :: r.2.1, r.2.2)
    else match Switch.ofLetter? c with
      | some s => switchLetters besides value { m with switches := Switch.turn m.switches value s } cs
      | none => (m, [], 0, some ("Illegal option -".toList ++ [c]))

def namedSwitches (value : Bool) (m : Machine) : Nat → List Chars → Machine × List Chars × Option Chars
  | 0, args => (m, args, none)
  | n + 1, [] =>
    let m := m.write 1 (if value then Switch.table m.switches else Switch.orders m.switches)
    namedSwitches value m n []
  | n + 1, name :: args =>
    match Switch.ofName? name with
    | some s => namedSwitches value { m with switches := Switch.turn m.switches value s } n args
    | none => (m, args, some ("Illegal option -o ".toList ++ name))

/-- what the switches in front of some arguments did: the machine, the letters that are known besides,
the arguments after them, whether a dash or two ended them, and a refusal. -/
structure Switched where
  machine : Machine
  letters : Chars
  rest : List Chars
  mark : Option Chars
  refusal : Option Chars

def switchesUpTo (besides : Chars) : Nat → List Chars → Machine → Switched
  | 0, args, m => ⟨m, [], args, none, none⟩
  | n + 1, args, m =>
    match args with
    | (sign :: cs) :: rest =>
      if sign = '-' ∧ (cs = [] ∨ cs = ['-']) then ⟨m, [], rest, some (sign :: cs), none⟩
      else if sign = '-' ∨ sign = '+' then
        let (m, found, names, refusal) := switchLetters besides (sign = '-') m cs
        match refusal with
        | some e => ⟨m, found, rest, none, some e⟩
        | none =>
          let (m, rest, refusal) := namedSwitches (sign = '-') m names rest
          match refusal with
          | some e => ⟨m, found, rest, none, some e⟩
          | none => let r := switchesUpTo besides n rest m; { r with letters := found ++ r.letters }
      else ⟨m, [], args, none, none⟩
    | _ => ⟨m, [], args, none, none⟩

/-- the switches among the arguments of a shell; a string of commands and other letters may be asked
for besides. -/
def switchOptions (besides : String) (args : List Chars) (m : Machine) : Switched :=
  switchesUpTo besides.toList (args.length + 1) args m

def withArguments (m : Machine) (args : List Chars) : Machine :=
  { m with arguments := args, optionIndex := 1, optionOffset := none }

def set : Builtin := fun args m =>
  if args.isEmpty then (m.write 1 (listing [] (fun v => v.value.isSome) m), .ok 0)
  else
    let r := switchOptions "" args m
    match r.refusal with
    | some e => (r.machine, .error e)
    | none =>
      let m := if r.mark = some ['-'] then
          { r.machine with switches := (r.machine.switches.filter fun s => s != .xtrace && s != .verbose) }
        else r.machine
      let replaces := ¬ r.rest.isEmpty ∨ r.mark = some "--".toList
      (if replaces then withArguments m r.rest else m, .ok 0)

def shift : Builtin := fun args m =>
  match number (args.headD ['1']) with
  | .error e => (m, .error e)
  | .ok n =>
    if n ≤ m.arguments.length then ({ m with arguments := m.arguments.drop n, optionIndex := 1, optionOffset := none }, .ok 0)
    else (m, .error "can't shift that many".toList)

end Regen.Shell.Builtins
