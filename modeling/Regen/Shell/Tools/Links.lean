import Regen.Disk.Canonical
import Regen.Shell.Builtins.Place
import Regen.Shell.Tools.Copies

/-!
# Links made and read

A link holds a path, or it is a second name of a file.

* `Tools.LinkPlan.link`   one link made;
* `Tools.ln`, `Tools.readlink`
-/

namespace Regen.Shell.Tools

structure LinkPlan where
  symbolic : Bool
  relative : Bool
  follows : Bool
  clobber : Clobber
  forces : Bool
  backups : Backups
  verbose : Bool

def pathFrom (directory place : Place) : Chars :=
  let common := ((directory.zip place).takeWhile fun p => p.1 = p.2).length
  let steps := List.replicate (directory.length - common) ['.', '.'] ++ (place.drop common).map charsOf
  if steps.isEmpty then ['.'] else List.intercalate ['/'] steps

def LinkPlan.unmade (p : LinkPlan) (m : Machine) (source target : Chars) (e : SystemError) : Machine :=
  let failed (phrase : String) : Machine := blame m ("failed to create " ++ phrase) target "" e
  if p.symbolic then
    if e = .nameTooLong ∨ source.isEmpty then
      accuse m (pair "failed to create symbolic link " target " -> " source (": " ++ words e))
    else failed "symbolic link "
  else if e = .code 17 then failed "hard link "
  else accuse m (pair "failed to create hard link " target " => " source (": " ++ words e))

/-- what a link is made of: a node that holds a path, or the number of a file. -/
def LinkPlan.stuff (p : LinkPlan) (m : Machine) (source target : Chars) : Except SystemError (Chars × Option Nat) := do
  if p.symbolic then
    let path ← if p.relative then
        match m.tree.canonical .missing m.directory (pathOf source), m.tree.canonical .missing m.directory (pathOf (frontOf target)) with
        | .ok place, .ok directory => .ok (pathFrom directory place)
        | _, _ => .ok source
      else .ok source
    return (path, none)
  else
    let (place, _) ← located m p.follows source
    return (source, m.tree.number? place)

def LinkPlan.link (p : LinkPlan) (made : List (Place × Nat)) (m : Machine) (source target : Chars) : Machine × Bool :=
  let told (m : Machine) (path : Chars) (backup : Option Chars) : Machine × Bool :=
    let kept := match backup with
      | some b => shown true b ++ " ~ ".toList
      | none => []
    (if p.verbose then m.write 1 (kept ++ pair "" target (if p.symbolic then " -> " else " => ") path "\n") else m, true)
  let object (m : Machine) (complaint : Chars) : Machine × Bool := (accuse m complaint, false)
  match p.stuff m source target with
  | .error e => (blame m "failed to access " source "" e, false)
  | .ok (path, number) =>
    let isTree := (number.bind fun n => m.tree.nodes[n]?).any fun n => n.entry.isDirectory
    let make (m : Machine) : Except SystemError Machine :=
      if path.isEmpty ∨ (target.getLast? = some '/') then
        .error (if target.getLast? = some '/' ∧ (nameAt m target).isSome then .code 17 else .noSuchFile)
      else (vacantSlot m target).map fun place =>
        let t := match number with
          | some n => m.tree.join place n m.wall
          | none => m.tree.add place (.link (pathOf path) m.wall) m.wall
        { m with tree := t }
    match if isTree then .error (SystemError.code 1) else make m with
    | .ok m => told m path none
    | .error e =>
      let forced : Bool := p.forces || p.clobber = .asks || p.backups.kind.isSome
      if isTree then object m (shown false source ++ ": hard link not allowed for directory".toList)
      else match if forced then located m false target else .error .noSuchFile with
        | .error f =>
          if f ≠ .noSuchFile then (blame m "failed to access " target "" f, false)
          else (p.unmade m path target e, false)
        | .ok (there, old) =>
          let isItself : Bool :=
            (p.forces || (!p.symbolic && p.backups.kind.isSome)) && (p.backups.kind.isNone || !p.symbolic) &&
            match located m (p.symbolic || p.follows) source with
            | .ok (from', _) => m.tree.number? from' = m.tree.number? there &&
                ((m.tree.names.countP fun e => some e.2 = m.tree.number? there) ≤ 1 || nameAt m source = some there)
            | .error _ => false
          if old.entry.isDirectory then object m (shown false target ++ ": cannot overwrite directory".toList)
          else if (m.tree.number? there).any fun n => made.contains (there, n) then
            object m (pair "will not overwrite just-created " target " with " source "")
          else if isItself then object m (pair "" source " and " target " are the same file")
          else if e ≠ .code 17 then (p.unmade m path target e, false)
          else
            let (isWanted, m) := if p.clobber = .asks then ask m ("replace ".toList ++ shown true target) else (true, m)
            if ¬ isWanted then (m, false)
            else
              let kept : Except SystemError (Machine × Option Chars) :=
                match p.backups.kind with
                | some kind => (p.backups.keep kind m target there).map fun r => (r.2, some r.1)
                | none => (makeRoom m target).map fun m => (m, none)
              match kept with
              | .error e =>
                if p.backups.kind.isSome then (blame m "cannot backup " target "" e, false)
                else (p.unmade m path target e, false)
              | .ok (m', backup) =>
                match make m' with
                | .ok m => told m path backup
                | .error e => (p.unmade m path target e, false)

def lnOptions : List Known :=
  destinationOptions ++ switches [('s', "symbolic"), ('n', "no-dereference"), ('r', "relative"), ('L', "logical"),
    ('P', "physical"), ('d', "directory"), ('F', "")]

def ln : Tool :=
  withOptions lnOptions true 1 fun o files m =>
    let isLink (f : Chars) : Bool := match (located m false f).toOption with
      | some (_, ⟨.link _, _, _⟩) => true
      | _ => false
    let isTarget (f : Chars) : Bool := isDirectoryAt m f && !(o.has 'n' && isLink f)
    if files.isEmpty then (misused m "missing file operand", 1)
    else if o.has 'r' ∧ ¬ o.has 's' then (accuse m "cannot do --relative without --symbolic".toList, 1)
    else
      let journey := match files, o.value? 't' with
        | [f], none => if o.has 'T' then destinations o files isTarget m else .ok (intoDirectory ['.'] [f])
        | fs, some d =>
          if ¬ o.has 'T' ∧ ¬ isTarget d ∧ (m.entry? d).isSome then
            .error (accuse m ((aboutFile "target" d).toList ++ " is not a directory".toList))
          else destinations o fs isTarget m
        | fs, none => destinations o fs isTarget m
      match journey with
      | .error m => (m, 1)
      | .ok journey =>
        match Backups.ofChoices o m with
        | .error e => (denounce m e, 1)
        | .ok backups =>
          let plan : LinkPlan := ⟨o.has 's', o.has 'r', o.last? "LP" = some ('L', []), Clobber.ofChoices o "fi", o.has 'f',
            backups, o.has 'v'⟩
          let tracks : Bool := journey.pairs.length ≥ 2 && o.has 'f' && !o.has 's' && backups.kind ≠ some .numbered
          let (m', good, _) := journey.pairs.foldl (fun (m, good, made) (source, target) =>
            let r := plan.link made m source target
            let arrived := (nameAt r.1 target).bind fun s => (r.1.tree.number? s).map fun k => (s, k)
            (r.1, good && r.2, if r.2 ∧ tracks then arrived.toList ++ made else made)) (m, true, ([] : List (Place × Nat)))
          afterAsking m (m', if good then 0 else 1)

/-! ## reading -/

def linkTarget (m : Machine) (f : Chars) : Except SystemError Chars := do
  let (_, n) ← located m false f
  match n.entry with
  | .link p => return charsOf p.raw
  | _ => throw (.code 22)

def readlinkOptions : List Known :=
  switches [('f', "canonicalize"), ('e', "canonicalize-existing"), ('m', "canonicalize-missing"), ('n', "no-newline"),
    ('q', "quiet"), ('s', "silent"), ('v', "verbose"), ('z', "zero")]

def readlink : Tool :=
  withOptions readlinkOptions true 1 fun o files m =>
    if files.isEmpty then (misused m "missing operand", 1)
    else
      let isBare := o.has 'n' && files.length == 1
      let m := if o.has 'n' ∧ ¬ isBare then accuse m "ignoring --no-newline with multiple arguments".toList else m
      let verbose : Bool := match o.last? "qsv" with
        | some ('v', _) => true
        | _ => false
      let found (m : Machine) (f : Chars) : Except SystemError Chars :=
        let canonical (slack : Tree.Slack) : Except SystemError Chars :=
          (m.tree.canonical slack m.directory (pathOf f)).map Builtins.pathOf
        match o.last? "fem" with
        | some ('f', _) => canonical .last
        | some ('e', _) => canonical .none
        | some _ => canonical .missing
        | none => linkTarget m f
      eachArgument (fun m f =>
        match found m f with
        | .ok p => (m.write 1 (if isBare then p else closed o 'z' p), 0)
        | .error e => (if verbose then blame m "" f "" e else m, 1)) files m

end Regen.Shell.Tools
