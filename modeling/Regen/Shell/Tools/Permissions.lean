import Regen.Disk.Mode.Change
import Regen.Shell.Tools.Names

/-!
# Permissions changed

`chmod` changes the permissions of files, and of all that is below directories if that is asked for. It can
tell what it did.

* `Tools.Repermission`   what is to become of permissions, and what is told about it;
* `Tools.chmod`          the program.
-/

namespace Regen.Shell.Tools

def pathOf (name : Chars) : Path := ⟨bytesOf name⟩

inductive Telling where
  | nothing
  | changes
  | everything
  deriving DecidableEq

structure Repermission where
  changes : List Mode.Change
  mask : Nat
  surprised : Bool
  telling : Telling
  silent : Bool
  recursive : Bool

/-- what is told about a file whose mode was one and became another. -/
def Repermission.report (r : Repermission) (name : Chars) (old new : Mode) (m : Machine) : Machine :=
  let shownMode (p : Mode) : Chars := p.octal ++ " (".toList ++ p.letters ++ [')']
  let line (rest : Chars) : Machine := m.write 1 ("mode of ".toList ++ shown true name ++ rest ++ ['\n'])
  if r.telling = .nothing ∨ (r.telling = .changes ∧ old = new) then m
  else if old = new then line (" retained as ".toList ++ shownMode old)
  else line (" changed from ".toList ++ shownMode old ++ " to ".toList ++ shownMode new)

def Repermission.change (r : Repermission) (m : Machine) (name : Chars) (place : Place) (n : Node) : Machine × Nat :=
  let isDirectory := n.entry.isDirectory
  let new := n.mode.changed isDirectory r.mask r.changes
  let expected := n.mode.changed isDirectory 0 r.changes
  let m := if place = [] then m else { m with tree := m.tree.put place { n with mode := new } }
  let m := r.report name n.mode new m
  if r.surprised ∧ Mode.cut new.bits expected.bits ≠ 0 then
    (accuse m (shown false name ++ ": new permissions are ".toList ++ new.letters ++ ", not ".toList ++
      expected.letters), 1)
  else (m, 0)

def Repermission.fail (r : Repermission) (m : Machine) (phrase : String) (name : Chars) (e : Option SystemError) :
    Machine × Nat :=
  let m := if r.silent then m else match e with
    | some e => blame m phrase name "" e
    | none => accuse m (phrase.toList ++ shown true name)
  let told := shown true name ++ " could not be accessed\n".toList
  (if r.telling = .everything then m.write 1 told else m, 1)

/-- the permissions of what is at a place, and of all below it if that is asked for, given how deep it may
go. Links on the way are left alone. -/
def Repermission.descend (r : Repermission) : Nat → Machine → Chars → Place → Machine × Nat
  | 0, m, _, _ => (m, 0)
  | n + 1, m, name, place =>
    match m.tree.node? place with
    | none => (m, 0)
    | some ⟨.link _, _, _⟩ =>
      let told := "neither symbolic link ".toList ++ shown true name ++ " nor referent has been changed\n".toList
      (if r.telling = .everything then m.write 1 told else m, 0)
    | some node =>
      let (m, status) := r.change m name place node
      if ¬ (r.recursive ∧ node.entry.isDirectory) then (m, status)
      else match m.tree.node? place with
        | some ⟨_, mode, _⟩ =>
          if ¬ mode.reads then
            let (m, _) := r.fail m "cannot read directory " name (some .permissionDenied)
            (m, 1)
          else (m.tree.namesAt place).foldl (fun (m, status) b =>
            let below := inside name (charsOf b)
            let s := if mode.runs then r.descend n m below (place ++ [b])
              else r.fail m "cannot access " below (some .permissionDenied)
            (s.1, max status s.2)) (m, status)
        | none => (m, status)

def Repermission.start (r : Repermission) (m : Machine) (name : Chars) : Machine × Nat :=
  match m.tree.resolveFrom m.directory (pathOf name) with
  | .ok place => r.descend m.tree.depth m name place
  | .error e =>
    if e = .noSuchFile ∧ m.isThere name then r.fail m "cannot operate on dangling symlink " name none
    else r.fail m "cannot access " name (some e)

/-- the options of `chmod`. Those for which there is no letter go by one that cannot be typed; the letters of
permissions start a mode that takes permissions away. -/
def chmodOptions : List Known :=
  switches [('R', "recursive"), ('c', "changes"), ('f', "quiet"), ('f', "silent"), ('v', "verbose"),
    ('\x01', "preserve-root"), ('\x02', "no-preserve-root")] ++ [valued '\x03' "reference"] ++
  possibles ("rwxXstugoa,+=01234567".toList.map fun c => (c, ""))

def isModeLetter (c : Char) : Bool := "rwxXstugoa,+=01234567".toList.contains c

def chmod : Tool :=
  withOptions chmodOptions true 1 fun o operands m =>
    let dashed := (o.given.filter fun g => isModeLetter g.1).map fun g => '-' :: g.1 :: g.2
    let given := if dashed.isEmpty then none else some (List.intercalate [','] dashed)
    let telling : Telling := match o.last? "cv" with
      | some ('v', _) => .everything
      | some _ => .changes
      | none => .nothing
    let run (changes : List Mode.Change) (mask : Nat) (files : List Chars) (m : Machine) : Machine × Nat :=
      eachArgument (Repermission.start ⟨changes, mask, !dashed.isEmpty, telling, o.has 'f', o.has 'R'⟩) files m
    match o.value? '\x03', given with
    | some _, some _ => (misused m "cannot combine mode and --reference options", 1)
    | some f, none =>
      if operands.isEmpty then (misused m "missing operand", 1)
      else match m.tree.findFrom m.directory (pathOf f) with
        | .error e => (blame m "failed to get attributes of " f "" e, 1)
        | .ok n => run [⟨.assign, Mode.allBits, .bits n.mode.bits, Mode.allBits⟩] 0 operands m
    | none, _ =>
      let text := given.orElse fun _ => operands.head?
      let files := if given.isSome then operands else operands.drop 1
      match text, files with
      | none, _ => (misused m "missing operand", 1)
      | some text, [] => (misused m (if given.isSome then "missing operand" else about "missing operand after" text), 1)
      | some text, _ =>
        match Mode.changes? text with
        | none => (misused m (about "invalid mode:" text), 1)
        | some changes => run changes m.mask files m

end Regen.Shell.Tools
