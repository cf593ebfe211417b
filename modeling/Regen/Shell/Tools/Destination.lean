import Regen.Shell.Tools.Backup

/-!
# Where files go

The last operand of a program says where the others go: into a directory under their own names, or to a path
of their own. Files that were there before stay, are asked about, are kept as backups or are replaced.

* `Tools.Clobber`         what happens to files that are there already;
* `Tools.Journey`         the operands, and where they go;
* `Tools.destinations`    finds that out.
-/

namespace Regen.Shell.Tools

inductive Clobber where
  | replaces
  | asks
  | keeps
  deriving DecidableEq

structure Journey where
  pairs : List (Chars × Chars)
  into : Option Chars

/-- where something is: what a path leads to, or the link that is there. -/
def located (m : Machine) (follows : Bool) (f : Chars) : Except SystemError (Place × Node) := do
  let place ← if follows ∨ f.getLast? = some '/' then m.tree.resolveFrom m.directory (pathOf f)
    else match slotOf m f with
      | .error .isADirectory => m.tree.resolveFrom m.directory (pathOf f)
      | r => r
  match m.tree.node? place with
  | some n => return (place, n)
  | none => throw .noSuchFile

def noDirectory (m : Machine) (f : Chars) : SystemError :=
  match m.tree.findFrom m.directory (pathOf f) with
  | .error e => e
  | .ok _ => .notADirectory

/-- the name that a source gets in a directory; one that goes up gets none. -/
def arrivalName (source : Chars) : Chars :=
  let name := lastName source
  if name = ['.', '.'] then ['.'] else name

def intoDirectory (directory : Chars) (fs : List Chars) : Journey :=
  ⟨fs.map fun f => (f, inside directory (arrivalName f)), some directory⟩

def pair (before : String) (a : Chars) (between : String) (b : Chars) (after : String) : Chars :=
  before.toList ++ shown true a ++ between.toList ++ shown true b ++ after.toList

/-- where each operand goes, or the machine with a complaint. `isTarget` says whether a path is a directory that
things go into. -/
def destinations (o : Choices) (files : List Chars) (isTarget : Chars → Bool) (m : Machine) : Except Machine Journey :=
  match o.value? 't', files with
  | _, [] => .error (misused m "missing file operand")
  | some d, fs =>
    if o.has 'T' then .error (accuse m ("cannot combine --target-directory " ++
      (if m.name = "ln".toList then "" else "(-t) ") ++ "and --no-target-directory" ++
      if m.name = "ln".toList then "" else " (-T)").toList)
    else if isTarget d then .ok (intoDirectory d fs)
    else .error (blame m "target directory " d "" (noDirectory m d))
  | none, [f] => .error (misused m (aboutFile "missing destination file operand after" f))
  | none, [f, target] =>
    if ¬ o.has 'T' ∧ isTarget target then .ok (intoDirectory target [f]) else .ok ⟨[(f, target)], none⟩
  | none, fs =>
    let target := fs.getLastD []
    if o.has 'T' then .error (misused m (aboutFile "extra operand" (fs.getD 2 [])))
    else if isTarget target then .ok (intoDirectory target fs.dropLast)
    else .error (blame m "target " target "" (noDirectory m target))

def destinationOptions : List Known :=
  [valued 't' "target-directory"] ++
    switches [('T', "no-target-directory"), ('f', "force"), ('i', "interactive"), ('v', "verbose")] ++ backupOptions

/-- the words about a change: where it comes from, where it goes, and the backup of what was there. -/
def tellChange (verbose : Bool) (before : String) (source target : Chars) (backup : Option Chars) (m : Machine) :
    Machine :=
  let kept : Chars := match backup with
    | some b => " (backup: ".toList ++ shown true b ++ [')']
    | none => []
  if verbose then m.write 1 (pair before source " -> " target "" ++ kept ++ ['\n']) else m

/-- what the last of some options says about files that are there already. -/
def Clobber.ofChoices (o : Choices) (letters : String) : Clobber :=
  match o.last? letters with
  | some ('i', _) => .asks
  | some ('n', _) => .keeps
  | _ => .replaces

end Regen.Shell.Tools
