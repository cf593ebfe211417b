import Regen.Shell.Tools.Destination

/-!
# Files copied

A copy has the bytes of a file and the permissions that the mask leaves of its own. Directories are copied with
all that is in them. Instead of copies there may be links.

* `Tools.CopyPlan`           what is asked for;
* `Tools.Haul`               what copying has come to;
* `Tools.CopyPlan.carry`     one thing copied, and what is below it;
* `Tools.cp`                 the program.
-/

namespace Regen.Shell.Tools

inductive Following where
  | always
  | arguments
  | never
  deriving DecidableEq

inductive Product where
  | copy
  | hardLink
  | softLink
  deriving DecidableEq

structure CopyPlan where
  recursive : Bool
  following : Following
  product : Product
  reads : Bool
  keepsMode : Bool
  keepsTimes : Bool
  keepsNames : Bool
  bare : Bool
  forces : Bool
  removes : Bool
  clobber : Clobber
  updates : Bool
  backups : Backups
  verbose : Bool

/-- what copying has come to: the numbers of files with the names of their copies, those of directories that
were made, those of files that were made and those that were asked for by name. -/
structure Haul where
  machine : Machine
  twins : List (Nat × Chars)
  first : Option Place
  made : List (Place × Nat)
  sources : List (Place × Nat)

def Haul.object (h : Haul) (complaint : Chars) : Haul × Bool := ({ h with machine := accuse h.machine complaint }, false)

def Haul.blame (h : Haul) (phrase : String) (name : Chars) (e : SystemError) : Haul × Bool :=
  ({ h with machine := Tools.blame h.machine phrase name "" e }, false)

def Haul.change (h : Haul) (f : Machine → Machine) : Haul := { h with machine := f h.machine }

def nameAt (m : Machine) (f : Chars) : Option Place :=
  match located m false f with
  | .ok (place, _) => some place
  | .error _ => none

/-- whether copying a file to where it would go changes anything, and whether it may be done at all. -/
inductive Sameness where
  | distinct
  | harmless
  | forbidden
  deriving DecidableEq

/-- whether two paths lead to one file, so that copying would destroy it. -/
def CopyPlan.sameness (p : CopyPlan) (m : Machine) (source target : Chars) (a b : Place × Node) : Sameness :=
  let number (q : Place) : Option Nat := m.tree.number? q
  let isSame := number a.1 = number b.1
  let isLink (n : Node) : Bool := match n.entry with
    | .link _ => true
    | _ => false
  let direct (f : Chars) : Option (Place × Node) := (located m false f).toOption
  if isSame ∧ p.product = .hardLink then .harmless
  else if p.following = .never ∧ isLink a.2 ∧ isLink b.2 then
    if nameAt m source = nameAt m target then .forbidden
    else if isSame ∧ p.backups.kind = none then .harmless
    else .distinct
  else if p.following ≠ .never ∧ ¬ isSame then .distinct
  else match direct source, direct target with
    | some (sa, na), some (sb, nb) =>
      let sameLink := number sa = number sb
      if p.following ≠ .never ∧ isLink na ∧ isLink nb ∧ p.removes then .distinct
      else if p.backups.kind.isSome then
        if sameLink then if sa = sb then .forbidden else .distinct
        else if p.following ≠ .never ∧ isLink na ∧ ¬ isLink nb then .forbidden
        else .distinct
      else if p.removes ∧ (isLink nb ∨ (sameLink ∧ sa ≠ sb)) then .distinct
      else if ¬ isLink na ∧ ¬ isLink nb ∧ ¬ sameLink then .distinct
      else if p.product = .softLink ∧ isLink nb then .distinct
      else if p.following = .never then
        match (located m true source).toOption, (located m true target).toOption with
        | some (x, _), some (y, _) =>
          if number x ≠ number y then .distinct
          else if p.product = .hardLink then if isLink nb then .distinct else .harmless
          else .forbidden
        | _, _ => .distinct
      else .forbidden
    | _, _ => .distinct

/-- the bytes that a file gives when it is read, or why it cannot be. -/
def bytesToCopy (m : Machine) (source : Chars) (n : Node) : Except SystemError (Entry × Machine) :=
  match n.entry with
  | .file _ => if n.mode.reads then .ok (n.entry, m) else .error .permissionDenied
  | .tool _ => .ok (n.entry, m)
  | _ =>
    match openSource m source with
    | (.text cs, m) => .ok (.ofBytes (bytesOf cs), m)
    | (.unopened e, _) => .error e
    | (.unread e, _) => .error e

def textIn (e : Entry) : Chars :=
  match e with
  | .file b => charsOf b.toList
  | _ => []

def CopyPlan.dress (p : CopyPlan) (n : Node) (copy : Node) (m : Machine) : Node :=
  { copy with
    modified := if p.keepsTimes then n.modified else m.wall
    mode := if p.keepsMode then n.mode else copy.mode }

def CopyPlan.create (p : CopyPlan) (h : Haul) (target : Chars) (n : Node) (entry : Entry) : Haul × Bool :=
  let m := h.machine
  let failed (e : SystemError) : Haul × Bool := h.blame "cannot create regular file " target e
  if target.getLast? = some '/' then failed .notADirectory
  else match m.tree.slot m.directory (pathOf target) with
    | .error e => failed e
    | .ok (dir, name) =>
      let place := dir ++ [name]
      match entryAt m place with
      | some (.link _) => h.object ("not writing through dangling symlink ".toList ++ shown true target)
      | some _ => failed (.code 17)
      | none =>
        if ¬ m.tree.isOpen dir then failed .permissionDenied
        else
          let mode : Mode := (⟨n.mode.bits &&& 511⟩ : Mode).without m.mask
          let copy := p.dress n ⟨if p.bare then .ofBytes [] else entry, mode, m.wall⟩ m
          (h.change fun m => { m with tree := m.tree.add place copy m.wall }, true)

/-- a file written over what is there, which keeps its mode; what cannot be written may be removed. -/
def CopyPlan.overwrite (p : CopyPlan) (h : Haul) (target : Chars) (n : Node) (entry : Entry) : Haul × Bool :=
  let m := h.machine
  let failed (h : Haul) (e : SystemError) : Haul × Bool := h.blame "cannot create regular file " target e
  match located m true target with
  | .error e => failed h e
  | .ok (place, old) =>
    match old.entry with
    | .file _ | .tool _ =>
      if old.mode.writes then
        let copy := p.dress n ⟨if p.bare then old.entry else entry, old.mode, m.wall⟩ m
        (h.change fun m => { m with tree := m.tree.put place copy }, true)
      else if p.forces then
        match slotOf m target with
        | .error e => failed h e
        | .ok slot =>
          if ¬ m.tree.isOpen slot.dropLast then h.blame "cannot remove " target .permissionDenied
          else
            let h := h.change fun m =>
              let m := { m with tree := m.tree.prune slot m.wall }
              if p.verbose then m.write 1 ((aboutFile "removed" target).toList ++ ['\n']) else m
            p.create h target n entry
      else failed h .permissionDenied
    | _ =>
      match m.openPath target (.output false) with
      | .error e => failed h e
      | .ok (there, m) => ({ h with machine := m.emit there (textIn entry) }, true)

def makeRoom (m : Machine) (target : Chars) : Except SystemError Machine :=
  match slotOf m target with
  | .error e => .error e
  | .ok place =>
    match entryAt m place with
    | none => .ok m
    | some .directory => .error .isADirectory
    | some _ => if m.tree.isOpen place.dropLast then .ok { m with tree := m.tree.prune place m.wall } else .error .permissionDenied

def linkAt (replaces : Bool) (m : Machine) (target : Chars) (make : Tree → Place → Tree) : Except SystemError Machine := do
  let isThere := (nameAt m target).isSome
  if isThere ∧ ¬ replaces then throw (.code 17)
  let m ← makeRoom m target
  let place ← if target.getLast? = some '/' then throw SystemError.noSuchFile else vacantSlot m target
  return { m with tree := make m.tree place }

def CopyPlan.hardLink (p : CopyPlan) (h : Haul) (number : Nat) (source target : Chars) (replaces : Bool) : Haul × Bool :=
  let m := h.machine
  let isThere := (nameAt m target).isSome
  match linkAt replaces m target fun t place => t.join place number m.wall with
  | .error e => h.object (pair "cannot create hard link " target " to " source (": " ++ words e))
  | .ok m =>
    let tells : Bool := p.verbose && p.product = .copy && isThere
    ({ h with machine := if tells then m.write 1 ((aboutFile "removed" target).toList ++ ['\n']) else m }, true)

def CopyPlan.softLink (p : CopyPlan) (h : Haul) (phrase : Chars) (path : Chars) (target : Chars) (time : Time) : Haul × Bool :=
  let m := h.machine
  match linkAt p.forces m target fun t place => t.add place (.link (pathOf path) time) m.wall with
  | .error e => h.object (phrase ++ (": " ++ words e).toList)
  | .ok m => ({ h with machine := m }, true)

/-- something that is no directory copied, linked or read. -/
def CopyPlan.produce (p : CopyPlan) (h : Haul) (source target : Chars) (place : Place) (n : Node) (isNew : Bool) :
    Haul × Bool :=
  let m := h.machine
  let isLink : Bool := match n.entry with
    | .link _ => true
    | _ => false
  match p.product, n.entry with
  | .softLink, _ =>
    let isHere := (m.tree.slot m.directory (pathOf target)).toOption.all fun s => s.1 = m.directory
    if source.head? ≠ some '/' ∧ ¬ isHere then
      h.object (shown false target ++ ": can make relative symbolic links only in current directory".toList)
    else p.softLink h (pair "cannot create symbolic link " target " to " source "") source target m.wall
  | .hardLink, _ =>
    match m.tree.number? place with
    | some number => p.hardLink h number source target (p.forces || p.clobber = .asks)
    | none => h.blame "cannot stat " source .noSuchFile
  | .copy, .link path =>
    p.softLink h ("cannot create symbolic link ".toList ++ shown true target) (charsOf path.raw) target
      (if p.keepsTimes then n.modified else m.wall)
  | .copy, entry =>
    let isSpecial : Bool := match entry with
      | .pipe => true
      | .device _ => true
      | _ => false
    if isSpecial ∧ p.recursive ∧ ¬ p.reads ∧ ¬ isLink then
      let made : Except SystemError Place := if entry matches .pipe then vacantSlot m target else
        match vacantSlot m target with
        | .ok _ => .error (.code 1)
        | .error e => .error e
      match made with
      | .ok there => (h.change fun m => { m with tree := m.tree.add there (p.dress n n m) m.wall }, true)
      | .error e => h.blame (if entry matches .pipe then "cannot create fifo " else "cannot create special file ") target e
    else match bytesToCopy m source n with
      | .error e => ({ h with machine := Tools.blame m "cannot open " source " for reading" e }, false)
      | .ok (entry, m) =>
        let h := { h with machine := m }
        if isNew then p.create h target n entry else p.overwrite h target n entry

/-- what stands at a target while something is about to be copied there, if anything does. -/
def CopyPlan.obstacle (p : CopyPlan) (m : Machine) (n : Node) (target : Chars) : Except SystemError (Option (Place × Node)) :=
  let isPlain : Bool := match n.entry with
    | .directory => false
    | .link _ => false
    | .file _ => true
    | .tool _ => true
    | _ => !p.recursive || p.reads
  let direct : Bool := !isPlain || p.product ≠ .copy || p.backups.kind.isSome || p.removes
  match located m (!direct) target with
  | .ok there => .ok (some there)
  | .error e =>
    if e = .noSuchFile ∨ (e = .tooManyLinks ∧ p.forces) then .ok none else .error e

/-- what becomes of something that is there: it stays, it is in the way, or there is room now; with the path of
its backup. -/
inductive Clearing where
  | stays (h : Haul) (good : Bool)
  | ready (h : Haul) (isNew : Bool) (backup : Option Chars)

def CopyPlan.clear (p : CopyPlan) (h : Haul) (source target : Chars) (a b : Place × Node) (isArgument : Bool) : Clearing :=
  let m := h.machine
  let isTree := a.2.entry.isDirectory
  let sameness := if p.clobber = .keeps then .distinct else p.sameness m source target a b
  let stop (r : Haul × Bool) : Clearing := .stays r.1 r.2
  if sameness = .forbidden then stop (h.object (pair "" source " and " target " are the same file"))
  else if p.updates ∧ ¬ isTree ∧ a.2.modified ≤ b.2.modified then .stays h true
  else if p.clobber = .keeps ∧ ¬ isTree then .stays h true
  else
    let (isWanted, m) := if p.clobber = .asks ∧ ¬ isTree then ask m ("overwrite ".toList ++ shown true target) else (true, m)
    let h := { h with machine := m }
    if ¬ isWanted then .stays h false
    else if sameness = .harmless then .stays h true
    else if ¬ b.2.entry.isDirectory ∧ isTree then
      stop (h.object (pair "cannot overwrite non-directory " target " with directory " source ""))
    else if ¬ b.2.entry.isDirectory ∧ isArgument ∧ p.backups.kind ≠ some .numbered ∧
        (m.tree.number? b.1).any fun n => h.made.contains (b.1, n) then
      stop (h.object (pair "will not overwrite just-created " target " with " source ""))
    else if b.2.entry.isDirectory ∧ ¬ isTree then
      stop (h.object ("cannot overwrite directory ".toList ++ shown true target ++ " with non-directory".toList))
    else match p.backups.kind with
      | some kind =>
        if b.2.entry.isDirectory ∨ [['.'], ['.', '.']].contains (lastName source) then .ready h false none
        else if kind ≠ .numbered ∧
            nameAt m (p.backups.pathFor kind m target b.1) = some a.1 then
          stop (h.object (pair "backing up " target " might destroy source;  " source " not copied"))
        else match p.backups.keep kind m target b.1 with
          | .ok (backup, m) => .ready { h with machine := m } true (some backup)
          | .error e => stop (h.blame "cannot backup " target e)
      | none =>
        let isLink : Bool := match a.2.entry with
          | .link _ => true
          | _ => false
        if ¬ b.2.entry.isDirectory ∧ (p.removes ∨
            (p.product = .copy ∧ p.following = .never ∧ isLink)) then
          match makeRoom m target with
          | .error e => stop (h.blame "cannot remove " target e)
          | .ok m =>
            let m := if p.verbose then m.write 1 ((aboutFile "removed" target).toList ++ ['\n']) else m
            .ready { h with machine := m } true none
        else .ready h false none

/-- what a copy of a directory started with: the two paths of the argument. -/
abbrev Roots := Chars × Chars

def CopyPlan.carryDirectory (p : CopyPlan) (below : Haul → Chars → Chars → Haul × Bool) (h : Haul) (source target : Chars)
    (a : Place × Node) (isNew : Bool) : Haul × Bool :=
  let mode : Mode := (⟨a.2.mode.bits &&& 4095⟩ : Mode).without h.machine.mask
  let made : Except SystemError Haul :=
    if ¬ isNew then .ok h
    else (vacantSlot h.machine target).map fun place =>
      let m := h.machine
      let m := { m with tree := m.tree.add place ⟨.directory, ⟨mode.bits ||| 448⟩, m.wall⟩ m.wall }
      { h with
        machine := tellChange p.verbose "" source target none m
        first := h.first.orElse fun _ => some place }
  match made with
  | .error e => h.blame "cannot create directory " target e
  | .ok h =>
    let m := h.machine
    let (h, good) :=
      if ¬ a.2.mode.reads then h.blame "cannot access " source .permissionDenied
      else (m.tree.namesAt a.1).foldl (fun (h, good) name =>
        let name := charsOf name
        let r := below h (inside source name) (inside target name)
        (r.1, good && r.2)) (h, true)
    let h := match located h.machine true target with
      | .ok (place, n) =>
        let final := if p.keepsMode then a.2.mode else if isNew then mode else n.mode
        let node : Node := ⟨n.entry, final, if p.keepsTimes then a.2.modified else n.modified⟩
        h.change fun m => { m with tree := m.tree.put place node }
      | .error _ => h
    (h, good)

/-- one thing copied, and what is below it, given how deep it may go. `roots` are the paths of the argument, and
`isNew` says that nothing is at its target for sure. -/
def CopyPlan.carry (p : CopyPlan) : Nat → Roots → Bool → Haul → Chars → Chars → Haul × Bool
  | 0, _, _, h, _, _ => (h, false)
  | n + 1, roots, isArgument, h, source, target =>
    let m := h.machine
    let follows := p.following = .always ∨ (p.following = .arguments ∧ isArgument)
    match located m follows source with
    | .error e => h.blame "cannot stat " source e
    | .ok a =>
      let isTree := a.2.entry.isDirectory
      let number := (m.tree.number? a.1).getD 0
      let seen := isArgument && !isTree && p.backups.kind.isNone &&
        (nameAt m source).any fun s => h.sources.contains (s, number)
      if isTree ∧ ¬ p.recursive then
        h.object ("-r not specified; omitting directory ".toList ++ shown true source)
      else if seen then
        let r := h.object ("warning: source file ".toList ++ shown true source ++ " specified more than once".toList)
        (r.1, true)
      else
        let h := { h with sources := if isArgument then ((nameAt m source).getD [], number) :: h.sources else h.sources }
        match p.obstacle m a.2 target with
        | .error e => h.blame "cannot stat " target e
        | .ok there =>
          match match there with
            | some b => p.clear h source target a b isArgument
            | none => .ready h true none with
          | .stays h good => (h, good)
          | .ready h isNew backup =>
            let h := if isTree then h else h.change (tellChange p.verbose "" source target backup)
            let twin := h.twins.lookup number
            if isTree then
              if ¬ isArgument ∧ h.first = some a.1 then
                h.object (pair "cannot copy a directory, " roots.1 ", into itself, " roots.2 "")
              else
                let here := (slotOf h.machine target).toOption
                let again := twin.filter fun t => (slotOf h.machine t).toOption != here || here.isNone
                if twin.isSome ∧ again.isNone then
                  let r := h.object ("warning: source directory ".toList ++ shown true roots.1 ++
                    " specified more than once".toList)
                  (r.1, true)
                else match again.filter fun _ => !follows with
                  | some earlier => h.object (pair "will not create hard link " target " to directory " earlier "")
                  | none =>
                    let h := { h with twins := if isArgument ∨ p.keepsNames then (number, target) :: h.twins else h.twins }
                    p.carryDirectory (fun h s t => p.carry n roots false h s t) h source target a isNew
            else match twin.filter fun _ => p.keepsNames with
              | some earlier => p.hardLink h (((located h.machine false earlier).toOption.bind fun t =>
                  h.machine.tree.number? t.1).getD 0) earlier target true
              | none =>
                let r := p.produce h source target a.1 a.2 isNew
                let arrived := (nameAt r.1.machine target).bind fun s => (r.1.machine.tree.number? s).map fun k => (s, k)
                if r.2 then
                  ({ r.1 with
                      twins := if p.keepsNames then (number, target) :: r.1.twins else r.1.twins
                      made := if isArgument then arrived.toList ++ r.1.made else r.1.made }, true)
                else r

/-! ## the directories on the way -/

/-- the directories of a source's path made in a directory, with the permissions of those they are copies of. -/
def CopyPlan.makeParents (p : CopyPlan) (h : Haul) (directory : Chars) : List Chars → Haul × Bool
  | [] => (h, true)
  | way :: ways =>
    let m := h.machine
    let target := inside directory (way.dropWhile (· == '/'))
    match located m true target, located m true way with
    | .ok (_, n), _ =>
      if n.entry.isDirectory then p.makeParents h directory ways
      else h.object (shown true target ++ " exists but is not a directory".toList)
    | _, .error e => h.blame "failed to get attributes of " way e
    | _, .ok (_, n) =>
      match vacantSlot m target with
      | .error e => h.blame "cannot make directory " target e
      | .ok place =>
        let mode := if p.keepsMode then n.mode else (⟨n.mode.bits &&& 511⟩ : Mode).without m.mask
        let m := { m with tree := m.tree.add place ⟨.directory, mode, m.wall⟩ m.wall }
        let m := if p.verbose then m.write 1 (way ++ " -> ".toList ++ target ++ ['\n']) else m
        p.makeParents { h with machine := m } directory ways

/-! ## the program -/

inductive Kept where
  | mode
  | times
  | owner
  | names
  | other
  | all
  deriving DecidableEq

/-- what copies are to keep by a list of words; nothing said means the usual. -/
def keptOf (option : String) (value : Chars) : Except Misuse (List Kept) :=
  if value.isEmpty then .ok [.mode, .owner, .times]
  else (Mode.betweenCommas value).mapM (wordMeaning option [(["mode"], Kept.mode), (["timestamps"], .times),
    (["ownership"], .owner), (["links"], .names), (["context"], .other), (["xattr"], .other), (["all"], .all)])

/-- which files are replaced by a word: all, only older ones, or none. -/
def updateOf (value : Chars) : Except Misuse (Option Bool) :=
  if value.isEmpty then .ok (some true)
  else wordMeaning "--update" [(["all"], some false), (["none"], none), (["older"], some true)] value

/-- the options of `cp`; those without a letter go by one that cannot be typed. -/
def cpOptions : List Known :=
  destinationOptions ++ switches [('a', "archive"), ('\x01', "attributes-only"), ('\x02', "copy-contents"), ('d', ""),
    ('H', ""), ('L', "dereference"), ('P', "no-dereference"), ('l', "link"), ('s', "symbolic-link"), ('n', "no-clobber"),
    ('p', ""), ('\x03', "parents"), ('r', "recursive"), ('R', ""), ('\x04', "remove-destination"),
    ('\x05', "strip-trailing-slashes"), ('u', ""), ('x', "one-file-system"), ('\x0b', "debug"), ('Z', "")] ++
  valuedAll [('\x06', "no-preserve"), ('\x07', "sparse")] ++
  possibles [('\x08', "preserve"), ('\x0c', "reflink"), ('\x0e', "update"), ('\x0f', "context")]

def cpMisuse (letter : Char) (value : Chars) : Option Misuse :=
  match letter with
  | '\x06' => misuseOf (keptOf "--no-preserve" value)
  | '\x08' => misuseOf (keptOf "--preserve" value)
  | '\x07' => misuseOf (wordMeaning "--sparse" [(["never"], ()), (["auto"], ()), (["always"], ())] value)
  | '\x0c' =>
    if value.isEmpty then none
    else misuseOf (wordMeaning "--reflink" [(["auto"], ()), (["always"], ()), (["never"], ())] value)
  | '\x0e' => misuseOf (updateOf value)
  | _ => none

def keepMore (kept : List Kept) (g : Char × Chars) : List Kept :=
  let usual : List Kept := [.mode, .owner, .times]
  match g.1 with
  | 'p' => usual ++ kept
  | 'a' => usual ++ Kept.names :: kept
  | 'd' => .names :: kept
  | '\x08' => ((keptOf "--preserve" g.2).toOption.getD []).flatMap (fun k => if k = .all then usual ++ [.names] else [k]) ++ kept
  | '\x06' =>
    let gone := (keptOf "--no-preserve" g.2).toOption.getD []
    if gone.contains .all then [] else kept.filter fun k => !gone.contains k
  | _ => kept

def CopyPlan.ofChoices (o : Choices) (backups : Backups) : CopyPlan :=
  let recursive := o.has 'r' || o.has 'R' || o.has 'a'
  let kept := o.given.foldl keepMore []
  let update : Option Bool := match o.last? "u\x0e" with
    | some ('\x0e', value) => (updateOf value).toOption.getD (some true)
    | some _ => some true
    | none => some false
  let asked := Clobber.ofChoices o "in"
  let clobber : Clobber := if asked = .replaces ∧ update.isNone then .keeps else asked
  { recursive
    following := match o.last? "adHLP" with
      | some ('L', _) => .always
      | some ('H', _) => .arguments
      | some _ => .never
      | none => if recursive ∧ ¬ o.has 'l' then .never else .always
    product := if o.has 'l' then .hardLink else if o.has 's' then .softLink else .copy
    reads := o.has '\x02'
    keepsMode := kept.contains .mode
    keepsTimes := kept.contains .times
    keepsNames := kept.contains .names
    bare := o.has '\x01'
    forces := o.has 'f'
    removes := o.has '\x04'
    clobber
    updates := update == some true && clobber ≠ .keeps
    backups
    verbose := o.has 'v' || o.has '\x0b' }

def stripped (o : Choices) (f : Chars) : Chars := if o.has '\x05' then trimmed f else f

def cp : Tool :=
  withChecked cpOptions true 1 cpMisuse fun o files m =>
    match destinations o files (isDirectoryAt m) m with
    | .error m => (m, 1)
    | .ok journey =>
      match Backups.ofChoices o m with
      | .error e => (denounce m e, 1)
      | .ok backups =>
        let plan := CopyPlan.ofChoices o backups
        if o.has 'l' ∧ o.has 's' then (misused m "cannot make both hard and symbolic links", 1)
        else if backups.kind.isSome ∧ plan.clobber = .keeps then
          (misused m "options --backup and --no-clobber are mutually exclusive", 1)
        else if o.has '\x03' ∧ journey.into.isNone then
          (misused m "with --parents, the destination must be a directory", 1)
        else
          let one (h : Haul) (source target : Chars) : Haul × Bool :=
            plan.carry h.machine.tree.depth (source, target) true { h with first := none } source target
          let (h, good) := journey.pairs.foldl (fun (h, good) (source, target) =>
            let source := stripped o source
            let r := match journey.into.filter fun _ => o.has '\x03' with
              | none => one h source target
              | some directory =>
                let whole := inside directory ((trimmed source).dropWhile (· == '/'))
                let s := plan.makeParents h directory ((waysTo source).dropLast)
                if s.2 then one s.1 source whole else s
            (r.1, good && r.2)) ((⟨m, [], none, [], []⟩ : Haul), true)
          afterAsking m (h.machine, if good then 0 else 1)

end Regen.Shell.Tools
