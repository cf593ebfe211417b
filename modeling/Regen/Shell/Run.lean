import Regen.Shell.Builtins.Pausing
import Regen.Shell.Children
import Regen.Shell.Surroundings

/-!
# Running scripts

Commands run on a machine, each with fuel for what it may call.

* `Run.command`       runs a command;
* `Run.script`        runs a text as a script, line by line;
* `Run.program`       runs a program of the system, a shell among them;
* `Run.task`          what a new process does, to its end.
-/

namespace Regen.Shell
namespace Run

def seen (status : Nat) : Nat := status % 256

def action? (m : Machine) (signal : Nat) : Option Chars :=
  (m.traps.lookup signal).filter fun a => !a.isEmpty && !m.deaf.contains signal

/-- how many functions may run inside of one another. -/
def callLimit : Nat := 1000

/-- the end of a program that has written all it had to: nobody reads it, or something is lost. -/
def settled (name : String) (status : Nat) : Eval Ending := do
  flushed 1
  flushed 2
  let m ← get
  if m.isBroken then return .signal 13
  match m.lost with
  | none => return .status (seen status)
  | some e => do
    let (m, status) := Tools.lossOf name (seen status) m e
    set m
    return .status status

mutual

/-- the end of a shell, after its last command: the trap of its exit. -/
def finish : Nat → Except Leave Unit → Eval Ending
  | 0, _ => exhausted
  | n + 1, r => do
    match r with
    | .error (.killed s) => return .signal s
    | .error .replaced => return .status (seen (← get).status)
    | _ =>
      match ← attempt (atExit n) with
      | .error (.killed s) => return .signal s
      | _ => return .status (seen (← get).status)

def atExit : Nat → Eval Unit
  | 0 => exhausted
  | n + 1 => do
    let m ← get
    match action? m 0 with
    | none => return
    | some action => do
      set { m with traps := m.traps.filter (fun t => t.1 ≠ 0), kept := some m.status }
      match ← attempt (script n action false false) with
      | .ok _ => setStatus m.status
      | .error l => throw l

def heed : Nat → Eval Unit
  | 0 => exhausted
  | n + 1 => do
    let m ← get
    match m.pending with
    | [] => return
    | s :: rest => do
      set { m with pending := rest }
      match action? m s with
      | none => heed n
      | some action => do
        modify fun m => { m with kept := some (m.kept.getD m.status) }
        let r ← attempt (script n action false false)
        modify fun after => { after with kept := m.kept }
        match r with
        | .ok _ => do
          setStatus m.status
          heed n
        | .error l => throw l

/-- the lines of a script; its status is zero if there is no command in it. -/
def lines (tested echoes ran : Bool) : Nat → Cursor → Eval Unit
  | 0, _ => exhausted
  | n + 1, s => do
    let m ← get
    if s.rest.isEmpty then
      if !ran then setStatus 0
    else
      let echo (rest : Chars) : Eval Unit := do
        if echoes ∧ m.isOn .verbose then
          modify fun m => m.emit (m.endpoint 2) (s.rest.take (s.rest.length - rest.length))
      match Reader.next { s with aliases := m.aliases } with
      | .error complaint => do
        echo []
        modify fun m => { m with line := complaint.line }
        refuse complaint.message.toList
      | .ok (.nothing, t) => do
        echo t.rest
        lines tested echoes ran n t
      | .ok (c, t) => do
        echo t.rest
        modify fun m => { m with readUpTo := t.line }
        command n c ⟨tested, false⟩
        lines tested echoes true n t

def script : Nat → Chars → Bool → Bool → Eval Unit
  | 0, _, _, _ => exhausted
  | n + 1, cs, tested, echoes => do
    let before := (← get).readUpTo
    lines tested echoes false n (Cursor.start cs)
    modify fun m => { m with readUpTo := before }

def main : Nat → List Chars → Eval Unit
  | 0, _ => exhausted
  | n + 1, args => do
    let r := Builtins.switchOptions "cl" args (← get)
    set r.machine
    match r.refusal with
    | some e => refuse e
    | none => pure ()
    let readsInput : Eval Unit := do
      let cs ← allFrom ((← get).endpoint 0) n n []
      modify fun m => { m with switches := Switch.turn m.switches true .stdin }
      script n cs false true
    if r.letters.contains 'c' then
      match r.rest with
      | [] => refuse "-c requires an argument".toList
      | text :: rest => do
        modify fun m => { m with name := rest.headD m.name, arguments := rest.drop 1 }
        script n text false false
        if (← get).isOn .stdin then readsInput
    else match if r.machine.isOn .stdin then [] else r.rest with
      | path :: rest => do
        match ← textAt n path with
        | .ok cs => do
          modify fun m => { m with name := path, arguments := rest }
          script n cs false true
        | .error e =>
          refuse ("cannot open ".toList ++ path ++ (": " ++ Redirection.reason false e).toList)
      | [] => do
        modify fun m => { m with arguments := r.rest }
        readsInput

def shell : Nat → List Chars → Eval Ending
  | 0, _ => exhausted
  | n + 1, argv => do
    modify fun m => Startup.fresh m (argv.headD [])
    let r ← attempt (main n (argv.drop 1))
    finish n r

def program : Nat → String → List Chars → Eval Ending
  | 0, _, _ => exhausted
  | n + 1, name, argv =>
    match name with
    | "sh" | "dash" => shell n argv
    | "env" => do
      modify fun m => { m with name := argv.headD [] }
      let (remarks, r) := Surroundings.unchanged.read (← get) (argv.flatten.length + 1) (argv.drop 1)
      modify fun m => remarks.foldl (fun m line => m.write 2 (line ++ ['\n'])) m
      match r with
      | .error e => do
        modify fun m => Tools.denounce m e
        return .status 125
      | .ok (s, args) => do
        surrounded n s args
    | _ =>
      match Tools.run? name with
      | none => return .status 127
      | some f => do
        modify fun m => { m with name := argv.headD [], builtin := none, lost := none }
        settled name (← f n (argv.drop 1))

/-- a program in changed surroundings, or the variables if none is named. -/
def surrounded : Nat → Surroundings → List Chars → Eval Ending
  | 0, _, _ => exhausted
  | n + 1, s, args => do
    match s.prepare args (← get) with
    | .error m => do
      set m
      return .status 125
    | .ok (m, []) => do
      set (s.display m)
      settled "env" 0
    | .ok (m, name :: rest) => do
      set m
      let path := (m.environment.lookup "PATH".toList).getD Program.usualPath
      let paths := if name = [] then [] else if name.contains '/' then [name] else Program.candidates path name
      match Program.loadFirst m.tree m.directory (name :: rest) false paths with
      | .ok (name, argv) => program n name argv
      | .error e => do
        let m := Tools.deny m "" name e
        let isHint := e = .noSuchFile ∧ name.any Words.isBlank
        set (if isHint then Tools.accuse m "use -[v]S to pass options in shebang lines".toList else m)
        return .status (if e = .noSuchFile then 127 else 126)

/-- the process becomes the program at a path, and runs it to its end; a file that is no program of any
kind is read by a shell. -/
def become : Nat → Chars → List Chars → Eval Ending
  | 0, _, _ => exhausted
  | n + 1, path, argv => do
    spend Pace.program
    modify fun m => { m with bindings := Names.byRow 39 m.bindings }
    let m ← get
    let refused (e : SystemError) : Eval Ending := do
      let unknown := [SystemError.noSuchFile, .notADirectory].contains e
      let status := if unknown ∨ e = .tooManyLinks ∨ e = .nameTooLong then 127 else 126
      fail (argv.headD [] ++ if unknown then ": not found".toList else (": " ++ Tools.words e).toList) status
      flushed 2
      return .status status
    let starts (name : String) (argv : List Chars) : Eval Ending := do
      modify fun m => { m with
        saved := []
        deaf := m.deaf ++ (Startup.inherited m.traps).map Prod.fst
        traps := []
        pending := [] }
      program n name argv
    match Program.load m.tree m.directory Program.nesting path argv with
    | .ok (name, argv) =>
      if Program.exceeds path argv m.environment then refused (.code 7) else starts name argv
    | .error e =>
      if e = .execFormat then starts "sh" ("/bin/sh".toList :: path :: argv.drop 1) else refused e

def order (stance : Stance) : Nat → Order → Eval Unit
  | 0, _ => exhausted
  | n + 1, o => do
    let m ← get
    match o.meaning m with
    | .function body => call stance.tested body n (o.words.drop 1)
    | .builtin _ => builtin stance o.isSpecial n o.words
    | .program path => do
      if !o.standard then modify fun m => Names.remember m o.name path
      let path := if o.name.contains '/' then path else Names.startPath m (o.searchPath m) o.name path
      if stance.last ∧ m.hasNoTraps then
        match ← become n path o.words with
        | .status s => do
          setStatus s
          throw .replaced
        | .signal s => throw (.killed s)
      else foreground (.program path o.words)
    | .nothing reason => do
      if !o.standard then modify fun m => Names.forget m o.name
      fail (o.name ++ Names.absence reason) 127

def call (tested : Bool) (body : Command) : Nat → List Chars → Eval Unit
  | 0, _ => exhausted
  | n + 1, args => do
    let before ← get
    if callLimit ≤ before.calls then
      refuse ("Maximum function recursion depth (".toList ++ Nat.toDigits 10 callLimit ++ ") reached".toList)
    set { before with
      arguments := args
      calls := before.calls + 1
      loops := 0
      optionIndex := 1
      optionOffset := none }
    let r ← attempt (command n body ⟨tested, false⟩)
    modify fun m => { m with
      arguments := before.arguments
      loops := before.loops
      calls := before.calls
      optionIndex := before.optionIndex
      optionOffset := before.optionOffset }
    match r with
    | .error .returned => return
    | r => resume r

/-- runs a command of the shell. What it says names it, and what it could not write is told. -/
def builtin (stance : Stance) (special : Bool) : Nat → List Chars → Eval Unit
  | 0, _ => exhausted
  | n + 1, argv => do
    let before ← get
    let name := argv.headD []
    set { before with builtin := some name, lost := none }
    let r ← attempt (own stance n (String.ofList name) (argv.drop 1))
    match r with
    | .ok _ => do
      flushed 1
      flushed 2
      perishIfBroken
      modify fun m =>
        if m.lost.isSome then { m.complainAt (name ++ ": I/O error".toList) with status := m.status ||| 1 } else m
    | .error _ => pure ()
    modify fun m => { m with builtin := before.builtin, lost := before.lost }
    match r with
    | .error .failed => if special then throw .failed else return
    | r => resume r

def own (stance : Stance) : Nat → String → List Chars → Eval Unit
  | 0, _, _ => exhausted
  | n + 1, name, args => do
    let m ← get
    match name with
    | "exit" => do
      setStatus (← Order.numberOr (m.kept.getD m.status) args)
      throw .exited
    | "break" | "continue" => do
      let k ← Order.numberOr 1 args
      if k = 0 then refuse ("Illegal number: ".toList ++ args.headD [])
      setStatus 0
      let k := min k m.loops
      if k ≠ 0 then throw (if name = "break" then .breaks k else .continues k)
    | "return" => do
      setStatus (← Order.numberOr m.status args)
      throw .returned
    | "eval" =>
      if args.isEmpty then setStatus 0 else script n (List.intercalate [' '] args) stance.tested false
    | "." => do
      match Builtins.options "" args with
      | .error e => refuse e
      | .ok (_, []) => setStatus 0
      | .ok (_, name :: _) => do
        let found := if name.contains '/' then some name
          else Program.search m.tree m.directory (Names.searchPath m) name
        match found with
        | none => refuse (name ++ ": not found".toList)
        | some path =>
          match ← textAt n path with
          | .error e => refuse ("cannot open ".toList ++ path ++ (": " ++ Redirection.reason false e).toList)
          | .ok cs => do
            modify fun m => { m with builtin := some path }
            match ← attempt (script n cs false true) with
            | .error .returned => return
            | r => resume r
    | "exec" =>
      match args with
      | [] => setStatus 0
      | name :: _ => do
        let found := if name.contains '/' then some name
          else Program.best m.tree m.directory (Program.candidates (Names.searchPath m) name)
        match found with
        | none => do
          fail (name ++ ": not found".toList) 127
          throw .exited
        | some path => do
          match ← become n path args with
          | .signal s => throw (.killed s)
          | .status s => do
            setStatus s
            throw (if Program.canStart m.tree m.directory path then .replaced else .exited)
    | "read" => Builtins.read n args
    | "wait" => Builtins.wait args
    | _ =>
      match Builtins.table.lookup name with
      | none => setStatus 0
      | some f => do
        let (m, r) := f args m
        set m
        if ¬ m.sent.isEmpty then spend Pace.command
        match r with
        | .ok s => setStatus s
        | .error e => refuse e

def loop (tested whileTrue : Bool) (test body : Command) : Nat → Nat → Eval Unit
  | 0, _ => exhausted
  | n + 1, last => do
    match ← attempt (command n test ⟨true, false⟩) with
    | .error (.breaks k) => do
      setStatus last
      if 1 < k then throw (.breaks (k - 1))
    | .error (.continues k) => do
      if 1 < k then throw (.continues (k - 1))
      loop tested whileTrue test body n last
    | .error l => throw l
    | .ok _ =>
      if ((← get).status == 0) == whileTrue then
        match ← attempt (command n body ⟨tested, false⟩) with
        | .error (.breaks k) => if 1 < k then throw (.breaks (k - 1))
        | .error (.continues k) => do
          if 1 < k then throw (.continues (k - 1))
          loop tested whileTrue test body n (← get).status
        | .error l => throw l
        | .ok _ => loop tested whileTrue test body n (← get).status
      else setStatus last

def each (tested : Bool) (name : Chars) (body : Command) : Nat → List Chars → Eval Unit
  | 0, _ => exhausted
  | n + 1, vs =>
    match vs with
    | [] => return
    | v :: vs => do
      match Builtins.assign (← get) name v with
      | .error e => refuse e
      | .ok m => set m
      match ← attempt (command n body ⟨tested, false⟩) with
      | .error (.breaks k) => if 1 < k then throw (.breaks (k - 1))
      | .error (.continues k) => do
        if 1 < k then throw (.continues (k - 1))
        each tested name body n vs
      | .error l => throw l
      | .ok _ => each tested name body n vs

def choose (stance : Stance) (subject : Chars) : Nat → List (List Word × Command) → Eval Unit
  | 0, _ => exhausted
  | n + 1, arms =>
    match arms with
    | [] => setStatus 0
    | (ps, body) :: arms => do
      if ← anyPattern subject n ps then
        match body with
        | .nothing => setStatus 0
        | body => command n body stance
      else choose stance subject n arms

def anyPattern (subject : Chars) : Nat → List Word → Eval Bool
  | 0, _ => exhausted
  | n + 1, ps =>
    match ps with
    | [] => return false
    | p :: ps => do
      let pattern ← Expansion.pattern (taken n) p
      if Pattern.fits (Pattern.ofChars pattern) subject then return true
      else anyPattern subject n ps

/-- a simple command: its words, its descriptors, its assignments, and what they order. -/
def simple (as : List (Chars × Word)) (ws : List Word) (rs : List Redirect) (stance : Stance) : Nat → Eval Unit
  | 0 => exhausted
  | n + 1 => do
    let argv ← Order.expand (taken n) [] ws
    let before ← get
    let o := Order.ofWords before argv
    let outlet := before.endpoint 2
    let old ← kept rs
    if ← Order.redirect (taken n) rs then
      let isBuiltin := match o.meaning before with
        | .builtin _ => true
        | _ => false
      let lasts := argv.isEmpty || (o.isSpecial && isBuiltin)
      let reach : Order.Reach :=
        if !lasts then .passing else if o.keepsDescriptors ∧ 1 < o.words.length then .published else .lasting
      if !lasts then modify Machine.newFrame
      let r ← attempt do
        let shown ← Order.assign (taken n) reach as
        Order.trace (taken n) outlet (shown ++ argv)
        if argv.isEmpty then modify fun m => { m with status := m.taken } else order stance n o
      if o.keepsDescriptors then modify fun m => m.without (old.map Prod.snd) else putBack old
      let goesOn : Bool := match r with
        | .ok _ => true
        | .error l => l.isInside
      if !lasts ∧ goesOn then modify fun m => m.leaveFrames before.frames.length
      resume r
    else
      putBack old
      if o.isSpecial then throw .failed

/-- runs a command in a process of its own, which does not hold what descriptors led to before; if the
shell ends with it, the shell is that process. -/
def subshell (c : Command) (old : List (Nat × Endpoint)) (stance : Stance) : Nat → Eval Unit
  | 0 => exhausted
  | n + 1 => do
    let release (m : Machine) : Machine := m.without (old.map Prod.snd)
    if stance.last ∧ (← get).hasNoTraps then
      modify release
      command n c stance
      throw .exited
    else
      let child ← fork (.command c stance.tested) release
      putBack old
      (← endings [child]).forM Order.mourn
      heed n
      Order.check stance

def command : Nat → Command → Stance → Eval Unit
  | 0, _, _ => exhausted
  | n + 1, c, stance => do
    match if (← get).isOn .noexec then .nothing else c with
    | .nothing => return
    | .simple line as ws rs => do
      tick
      modify fun m => { m with line := line, taken := 0 }
      simple as ws rs stance n
      perishIfBroken
      heed n
      Order.check stance
    | .sequence a b => do
      command n a { stance with last := false }
      command n b stance
    | .background c => background c
    | .pipe a b => do
      pipelineInFront stance.tested (.pipe a b)
      heed n
      Order.check stance
    | .negate c => do
      command n c ⟨true, false⟩
      modify fun m => { m with status := if m.status = 0 then 1 else 0 }
    | .both a b => do
      command n a ⟨true, false⟩
      if (← get).status = 0 then command n b stance
    | .either a b => do
      command n a ⟨true, false⟩
      if (← get).status ≠ 0 then command n b stance
    | .subshell c => subshell c [] stance n
    | .redirected line c rs => do
      modify fun m => { m with line := line, taken := 0 }
      let old ← kept rs
      if ← Order.redirect (taken n) rs then
        match c with
        | .subshell c => subshell c old stance n
        | c => do
          let r ← attempt (command n c { stance with last := false })
          putBack old
          resume r
      else
        putBack old
        Order.check stance
    | .conditional test yes no => do
      command n test ⟨true, false⟩
      if (← get).status = 0 then command n yes stance
      else match no with
        | .nothing => setStatus 0
        | no => command n no stance
    | .loop whileTrue test body => do
      let loops := (← get).loops
      modify fun m => { m with loops := loops + 1 }
      let r ← attempt (loop stance.tested whileTrue test body n 0)
      modify fun m => { m with loops := loops }
      resume r
    | .each line name ws body => do
      modify fun m => { m with line := line }
      let vs ← match ws with
        | some ws => Order.fields (taken n) ws
        | none => do pure (← get).arguments
      let loops := (← get).loops
      if vs.isEmpty then setStatus 0
      modify fun m => { m with loops := loops + 1 }
      let r ← attempt (each stance.tested name body n vs)
      modify fun m => { m with loops := loops }
      resume r
    | .choose line subject arms => do
      modify fun m => { m with line := line }
      let cs ← Expansion.text (taken n) false subject
      choose stance cs n arms
    | .define name body => do
      modify fun m => { m with functions := (name, body) :: m.functions.filter fun f => f.1 ≠ name }
      setStatus 0

end

def task (n : Nat) : Task → Eval Ending
  | .command c tested => do
    modify Startup.deferred
    let r ← attempt (command n c ⟨tested, true⟩)
    finish n r
  | .program path argv => become n path argv
  | .start name argv => program n name argv

end Run
end Regen.Shell
