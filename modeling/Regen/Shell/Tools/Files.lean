import Regen.Disk.Mode.Change
import Regen.Shell.Tools.Asking
import Regen.Shell.Tools.Dates
import Regen.Shell.Tools.Names
import Regen.Shell.Tools.Permissions

/-!
# Files and directories made and removed

* `Tools.touch`, `Tools.mkdir`
* `Tools.rm`, `Tools.rmdir`
-/

namespace Regen.Shell.Tools

/-- the directory that a path's last name is in, and the place of that name; slashes at its end do not
count. -/
def slotOf (m : Machine) (name : Chars) : Except SystemError Place :=
  (m.tree.slot m.directory (pathOf (trimmed name))).map fun s => s.1 ++ [s.2]

def entryAt (m : Machine) (place : Place) : Option Entry := (m.tree.node? place).map Node.entry

/-- the place where something can be made, unless something is there or the directory may not be changed. -/
def vacantSlot (m : Machine) (name : Chars) : Except SystemError Place :=
  match slotOf m name with
  | .error e => .error (if e = .isADirectory then .code 17 else e)
  | .ok place =>
    if (entryAt m place).isSome then .error (.code 17)
    else if m.tree.isOpen place.dropLast then .ok place
    else .error .permissionDenied

/-! ## times -/

structure Timing where
  modifies : Bool
  creates : Bool
  follows : Bool
  time : Time

def Timing.apply (t : Timing) (m : Machine) (f : Chars) : Machine × Nat :=
  let put (m : Machine) (place : Place) : Machine × Nat :=
    (if t.modifies then { m with tree := m.tree.stamp place t.time } else m, 0)
  let untimed (e : SystemError) : Machine × Nat := (blame m "setting times of " f "" e, 1)
  if f = ['-'] then
    if m.endpoint 1 = .closed ∧ t.creates then untimed (.code 9) else (m, 0)
  else if ¬ t.follows then
    match slotOf m f with
    | .ok place => if (entryAt m place).isSome then put m place else untimed .noSuchFile
    | .error .isADirectory => match m.tree.resolveFrom m.directory (pathOf f) with
      | .ok place => put m place
      | .error e => untimed e
    | .error e => untimed e
  else match m.tree.resolveFrom m.directory (pathOf f) with
    | .ok place => put m place
    | .error e =>
      if ¬ t.creates then if e = .noSuchFile then (m, 0) else untimed e
      else if e = .noSuchFile ∧ f.getLast? = some '/' then untimed e
      else match m.tree.touch m.directory (pathOf f) (Mode.shared.without m.mask) m.wall with
        | .error e => (blame m "cannot touch " f "" e, 1)
        | .ok (place, tree) => put { m with tree := tree } place

/-- the options of `touch`; one without a letter goes by one that cannot be typed. -/
def touchOptions : List Known :=
  switches [('c', "no-create"), ('a', ""), ('m', ""), ('f', ""), ('h', "no-dereference")] ++
    valuedAll [('r', "reference"), ('d', "date"), ('t', ""), ('\x01', "time")]

def timeKind (value : Chars) : Except Misuse Bool :=
  wordMeaning "--time" [(["atime", "access", "use"], false), (["mtime", "modify"], true)] value

def touch : Tool := fun args m =>
  let badDate (value : Chars) : Misuse := ⟨about "invalid date format" value, false⟩
  let check (letter : Char) (value : Chars) : Option Misuse :=
    match letter with
    | 't' => if (Dates.stamp? value m.wall).isNone then some (badDate value) else none
    | '\x01' => misuseOf (timeKind value)
    | _ => none
  withChecked touchOptions true 1 check (fun o files m =>
    let kinds := o.given.filterMap fun g => match g.1 with
      | 'a' => some false
      | 'm' => some true
      | '\x01' => (timeKind g.2).toOption
      | _ => none
    let modifies := kinds.isEmpty || kinds.contains true
    let run (time : Time) : Machine × Nat :=
      if files.isEmpty then (misused m "missing file operand", 1)
      else eachArgument (Timing.apply ⟨modifies, !(o.has 'c' || o.has 'h'), !o.has 'h', time⟩) files m
    let dated (now : Time) : Machine × Nat :=
      match o.value? 'd' with
      | none => run now
      | some text =>
        match Dates.read? text now with
        | some time => run time
        | none => (denounce m (badDate text), 1)
    match o.value? 't', o.value? 'r' with
    | some stamp, reference =>
      if reference.isSome ∨ o.has 'd' then (misused m "cannot specify times from more than one source", 1)
      else run ((Dates.stamp? stamp m.wall).getD m.wall)
    | none, some f =>
      match m.tree.findFrom m.directory (pathOf f) with
      | .error e => (blame m "failed to get attributes of " f "" e, 1)
      | .ok n => dated n.modified
    | none, none => dated m.wall) args m

/-! ## directories made -/

def makeDirectory (o : Choices) (mode : Mode) (m : Machine) (place : Place) (name : Chars) : Machine :=
  let m := { m with tree := m.tree.add place ⟨.directory, mode, m.wall⟩ m.wall }
  if o.has 'v' then m.write 1 (m.name ++ (": " ++ aboutFile "created directory" name ++ "\n").toList) else m

def waysTo (path : Chars) : List Chars :=
  let ends := (List.range path.length).filter fun i => path[i]? ≠ some '/' && path[i + 1]? == some '/'
  ends.map (fun i => path.take (i + 1)) ++ [trimmed path]

/-- a directory of a mode and those on its way, made where they are missing. Its owner can go on in those. -/
def makeWays (o : Choices) (mode : Mode) (m : Machine) (path : Chars) : List Chars → Machine × Nat
  | [] => (m, 0)
  | way :: ways =>
    let failed (name : Chars) (e : SystemError) : Machine × Nat := (deny m "cannot create directory " name e, 1)
    match m.tree.findFrom m.directory (pathOf way) with
    | .ok n =>
      if n.entry.isDirectory then makeWays o mode m path ways
      else failed way (if ways.isEmpty then .code 17 else .notADirectory)
    | .error _ =>
      match vacantSlot m way with
      | .ok place =>
        let onTheWay : Mode := ⟨(Mode.full.without m.mask).bits ||| 192⟩
        makeWays o mode (makeDirectory o (if ways.isEmpty then mode else onTheWay) m place way) path ways
      | .error e => failed (if e = .permissionDenied then way else path) e

def mkdir : Tool :=
  withOptions (switches [('p', "parents"), ('v', "verbose"), ('Z', "")] ++ [valued 'm' "mode"]) true 1
    fun o names m =>
    let given := (o.value? 'm').map fun text => (text, Mode.changes? text)
    match names, given with
    | [], _ => (misused m "missing operand", 1)
    | _, some (text, none) => (accuse m (about "invalid mode" text).toList, 1)
    | _, _ =>
      let mode := match given with
        | some (_, some changes) => Mode.full.changed true m.mask changes
        | _ => Mode.full.without m.mask
      eachArgument (fun m f =>
        if o.has 'p' ∧ f ≠ [] then makeWays o mode m f (waysTo f)
        else match vacantSlot m f with
          | .ok place => (makeDirectory o mode m place f, 0)
          | .error e => (deny m "cannot create directory " f e, 1)) names m

/-! ## removing -/

inductive Caution where
  | never
  | once
  | always
  deriving DecidableEq

structure Removal where
  caution : Caution
  ignoresMissing : Bool
  recursive : Bool
  directories : Bool
  verbose : Bool

inductive Fate where
  | removed
  | refused
  | failed
  deriving DecidableEq

def kindOf : Entry → String
  | .file b => if b.isEmpty then "regular empty file" else "regular file"
  | .tool _ => "regular file"
  | .directory => "directory"
  | .link _ => "symbolic link"
  | .pipe => "fifo"
  | _ => "character special file"

def Removal.confirms (r : Removal) (verb : String) (m : Machine) (f : Chars) (n : Node) : Bool × Machine :=
  if r.caution ≠ .always then (true, m)
  else
    let isLocked : Bool := !n.mode.writes && match n.entry with
      | .link _ => false
      | _ => true
    let locked := if isLocked then "write-protected " else ""
    ask m ((verb ++ " " ++ locked ++ kindOf n.entry ++ " ").toList ++ shown true f)

def Removal.excise (r : Removal) (phrase : String) (m : Machine) (f : Chars) (place : Place) : Machine × Fate :=
  if ¬ m.tree.isOpen place.dropLast then (blame m "cannot remove " f "" .permissionDenied, .failed)
  else
    let m := { m with tree := m.tree.prune place m.wall }
    (if r.verbose then m.write 1 ((aboutFile phrase f).toList ++ ['\n']) else m, .removed)

/-- removes what a path names, and what is below it if that is asked for, given how deep it may go. A directory
stays without a word if something in it stays. -/
def Removal.descend (r : Removal) : Nat → Machine → Chars → Machine × Fate
  | 0, m, _ => (m, .failed)
  | n + 1, m, f =>
    let failed (m : Machine) (e : SystemError) : Machine × Fate := (blame m "cannot remove " f "" e, .failed)
    match slotOf m f with
    | .error e => failed m e
    | .ok place =>
      match m.tree.node? place with
      | none => failed m .noSuchFile
      | some node =>
        let gone (m : Machine) : Machine × Fate := r.excise "removed directory" m f place
        if ¬ node.entry.isDirectory then
          let (isWanted, m) := r.confirms "remove" m f node
          if isWanted then r.excise "removed" m f place else (m, .refused)
        else
          let names := m.tree.namesAt place
          let isEmpty := names.isEmpty && node.mode.reads
          if ¬ r.recursive ∧ ¬ (r.directories ∧ (isEmpty ∨ ¬ node.mode.reads)) then
            failed m (if r.directories then .code 39 else .isADirectory)
          else
            let isShut := !node.mode.reads
            let (isWanted, m) :=
              if ¬ isShut then r.confirms (if isEmpty then "remove" else "descend into") m f node
              else if r.recursive ∨ r.caution ≠ .always then (true, m)
              else ask m ("attempt removal of inaccessible directory ".toList ++ shown true f)
            if ¬ isWanted then (m, .refused)
            else if isShut ∧ (¬ names.isEmpty ∨ (r.recursive ∧ r.caution = .always)) then failed m .permissionDenied
            else if names.isEmpty then gone m
            else
              let (m, fates) := names.foldl (fun (m, fates) name =>
                let s := r.descend n m (inside f (charsOf name))
                (s.1, s.2 :: fates)) (m, ([] : List Fate))
              if fates.contains .failed then (m, .failed)
              else if fates.contains .refused then (m, .refused)
              else
                let (isWanted, m) := r.confirms "remove" m f node
                if isWanted then gone m else (m, .refused)

def isDirectoryAt (m : Machine) (f : Chars) : Bool := (m.entry? f).any Entry.isDirectory

/-- removes what an argument of `rm` names. -/
def Removal.start (r : Removal) (m : Machine) (f : Chars) : Machine × Nat :=
  let last := lastName f
  let failed (e : SystemError) : Machine × Nat := (blame m "cannot remove " f "" e, 1)
  let missing (e : SystemError) : Machine × Nat :=
    if r.ignoresMissing ∧ (e = .noSuchFile ∨ e = .notADirectory ∨ e = .nameTooLong) then (m, 0) else failed e
  let descend : Machine × Nat :=
    let (m, fate) := r.descend m.tree.depth m f
    (m, if fate = .failed then 1 else 0)
  if last = ['.'] ∨ last = ['.', '.'] then
    if r.recursive then
      match m.tree.resolveFrom m.directory (pathOf f) with
      | .error e => missing e
      | .ok _ => (accuse m (aboutFile "refusing to remove '.' or '..' directory: skipping" f).toList, 1)
    else failed .isADirectory
  else if r.recursive ∧ (m.tree.resolveFrom m.directory (pathOf f)).toOption = some [] then
    (accuse (accuse m (aboutFile "it is dangerous to operate recursively on" f).toList)
      "use --no-preserve-root to override this failsafe".toList, 1)
  else match slotOf m f with
    | .error e => missing e
    | .ok place =>
      match entryAt m place with
      | none => missing .noSuchFile
      | some .directory => descend
      | some _ =>
        if f.getLast? = some '/' then
          if isDirectoryAt m f then failed (if r.recursive then .notADirectory else .isADirectory)
          else if r.ignoresMissing ∧ ¬ r.recursive then (m, 0) else failed .notADirectory
        else descend

/-- the options of `rm`; those without a letter go by one that cannot be typed. -/
def rmOptions : List Known :=
  switches [('r', "recursive"), ('R', ""), ('f', "force"), ('d', "dir"), ('v', "verbose"), ('i', ""), ('I', ""),
    ('\x02', "one-file-system"), ('\x03', "no-preserve-root")] ++
  possibles [('\x01', "interactive"), ('\x04', "preserve-root")]

def cautionOf (value : Chars) : Except Misuse Caution :=
  if value.isEmpty then .ok .always
  else wordMeaning "--interactive" [(["never", "no", "none"], .never), (["once"], .once), (["always", "yes"], .always)]
    value

def rmMisuse (letter : Char) (value : Chars) : Option Misuse :=
  match letter with
  | '\x01' => misuseOf (cautionOf value)
  | '\x04' =>
    if value.isEmpty ∨ value = "all".toList then none
    else some ⟨about "unrecognized --preserve-root argument:" value, false⟩
  | _ => none

/-- how much `rm` may remove before it asks once. -/
def fewFiles : Nat := 3

/-- how a file can be removed whose name looks like options, after options that cannot be read. -/
def dashedHint (args : List Chars) (m : Machine) : String :=
  match args.find? fun a => a.head? == some '-' && a != ['-'] && (entryThere m a) with
  | some a => "\nTry '" ++ String.ofList (m.name ++ " ./".toList ++ shown false a) ++ "' to remove the file " ++
      String.ofList (shown true a) ++ "."
  | none => ""
where
  entryThere (m : Machine) (a : Chars) : Bool := (slotOf m a).toOption.any fun place => (entryAt m place).isSome

def rmReading (args : List Chars) (m : Machine) : Reading :=
  let r := readOptions rmOptions true args
  { r with mistake := r.mistake.map (· ++ dashedHint args m) }

def rm : Tool := fun args m =>
  match (rmReading args m).checked rmMisuse with
  | .error e => (denounce m e, 1)
  | .ok (o, files) =>
    let cautions := o.given.filterMap fun g => match g.1 with
      | 'f' => some Caution.never
      | 'i' => some .always
      | 'I' => some .once
      | '\x01' => (cautionOf g.2).toOption
      | _ => none
    let caution := cautions.getLast?
    let isForced : Bool := match o.given.reverse.find? fun g =>
        g.1 == 'f' || g.1 == 'i' || g.1 == 'I' || (g.1 == '\x01' && (cautionOf g.2).toOption != some .never) with
      | some g => g.1 == 'f'
      | none => false
    let recursive := o.has 'r' || o.has 'R'
    let r : Removal := ⟨caution.getD .never, isForced, recursive, o.has 'd', o.has 'v'⟩
    if files.isEmpty then bif isForced then (m, 0) else (misused m "missing operand", 1)
    else
      let count := String.ofList (Nat.toDigits 10 files.length) ++ if files.length = 1 then " argument" else " arguments"
      let (goes, m') := if caution = some .once ∧ (recursive ∨ fewFiles < files.length) then
          ask m ("remove " ++ count ++ if recursive then " recursively" else "").toList
        else (true, m)
      if ¬ goes then afterAsking m (m', 0) else afterAsking m (eachArgument r.start files m')

/-- removes an empty directory; a word about it comes first. -/
def removeEmpty (o : Choices) (phrase : String) (m : Machine) (f : Chars) : Machine × Nat :=
  let m := if o.has 'v' then m.write 1 (m.name ++ (": " ++ aboutFile "removing directory," f ++ "\n").toList) else m
  let failed (e : SystemError) : Machine × Nat := (blame m phrase f "" e, 1)
  if lastName f = ['.'] then failed (.code 22)
  else if trimmed f = ['/'] then failed (.code 16)
  else if lastName f = ['.', '.'] then
    match m.tree.resolveFrom m.directory (pathOf f) with
    | .error e => failed e
    | .ok _ => if o.has 'i' then (m, 0) else failed (.code 39)
  else match slotOf m f with
    | .error e => failed e
    | .ok place =>
      match entryAt m place with
      | none => failed .noSuchFile
      | some .directory =>
        if ¬ m.tree.isOpen place.dropLast then failed .permissionDenied
        else if (m.tree.namesAt place).isEmpty then ({ m with tree := m.tree.prune place m.wall }, 0)
        else if o.has 'i' then (m, 0)
        else failed (.code 39)
      | some e =>
        let isLink : Bool := match e with
          | .link _ => true
          | _ => false
        if ¬ m.tree.isOpen place.dropLast then failed .permissionDenied
        else if isLink ∧ f.getLast? = some '/' ∧ isDirectoryAt m f then failed (.text "Symbolic link not followed")
        else failed .notADirectory

def removeWays (o : Choices) (m : Machine) : List Chars → Machine × Nat
  | [] => (m, 0)
  | way :: ways =>
    let r := removeEmpty o "failed to remove directory " m way
    if r.2 = 0 then removeWays o r.1 ways else r

def rmdir : Tool :=
  withOptions (switches [('p', "parents"), ('v', "verbose"), ('i', "ignore-fail-on-non-empty")]) true 1
    fun o names m =>
    if names.isEmpty then (misused m "missing operand", 1)
    else eachArgument (fun m f =>
      let r := removeEmpty o "failed to remove " m f
      if r.2 = 0 ∧ o.has 'p' then removeWays o r.1 ((waysTo (trimmed f)).dropLast.reverse) else r) names m

end Regen.Shell.Tools
