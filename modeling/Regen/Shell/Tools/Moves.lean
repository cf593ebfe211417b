import Regen.Shell.Tools.Copies

/-!
# Files moved

What is moved gets another name, and keeps all else. A directory goes with all that is in it, but not into itself.

* `Tools.renamed`        the places that something moves between;
* `Tools.MovePlan.move`  one thing moved;
* `Tools.mv`             the program.
-/

namespace Regen.Shell.Tools

structure MovePlan where
  clobber : Clobber
  updates : Bool
  backups : Backups
  verbose : Bool

/-- the places that something moves between, or why it cannot; what is there already is no hindrance if it may be
replaced. -/
def renamed (m : Machine) (replaces : Bool) (source target : Chars) : Except SystemError (Place × Place) := do
  let busy (r : Except SystemError Place) : Except SystemError Place :=
    match r with
    | .error .isADirectory => .error (.code 16)
    | r => r
  let a ← busy (slotOf m source)
  let b ← busy (slotOf m target)
  match m.tree.node? a with
  | none => throw .noSuchFile
  | some n =>
    let isTree := n.entry.isDirectory
    let isThere := m.tree.node? b
    if isThere.isSome ∧ ¬ replaces then throw (.code 17)
    if ¬ isTree ∧ (source.getLast? = some '/' ∨ target.getLast? = some '/') then throw .notADirectory
    if a ≠ b ∧ isTree ∧ a.isPrefixOf b then throw (.code 22)
    if a ≠ b ∧ b.isPrefixOf a then throw (.code 39)
    if ¬ m.tree.isOpen a.dropLast ∨ ¬ m.tree.isOpen b.dropLast then throw .permissionDenied
    match isThere with
    | some there =>
      if isTree ∧ ¬ there.entry.isDirectory then throw .notADirectory
      if ¬ isTree ∧ there.entry.isDirectory then throw .isADirectory
    | none => pure ()
    if isTree ∧ a.dropLast ≠ b.dropLast ∧ ¬ n.mode.writes then throw .permissionDenied
    if isThere.isSome ∧ isTree ∧ m.tree.namesAt b ≠ [] then throw (.code 39)
    return (a, b)

/-- a complaint about something that cannot be moved. -/
def unmoved (m : Machine) (source target : Chars) (e : SystemError) : Machine :=
  if e = .code 22 then accuse m (pair "cannot move " source " to a subdirectory of itself, " target "")
  else if e = .code 17 ∨ e = .isADirectory ∨ e = .code 39 then blame m "cannot overwrite " target "" e
  else accuse m (pair "cannot move " source " to " target (": " ++ words e))

/-- something that has been moved; what was there is gone, and two names of one file become one. -/
def moved (m : Machine) (places : Place × Place) : Machine :=
  if m.tree.number? places.1 = m.tree.number? places.2 then
    if places.1 = places.2 then m else m
  else { m with tree := m.tree.move places.1 places.2 m.wall }

/-- whether a link would replace what it leads to, or a name another name of the same file. -/
def isMoveOntoItself (p : MovePlan) (m : Machine) (source target : Chars) (a b : Place × Node) : Bool :=
  let isLink (n : Node) : Bool := match n.entry with
    | .link _ => true
    | _ => false
  let isSame := m.tree.number? a.1 = m.tree.number? b.1
  let names (n : Option Nat) : Nat := n.elim 0 fun n => m.tree.names.countP fun e => e.2 = n
  if isLink a.2 ∧ isLink b.2 then
    if a.1 = b.1 then true else p.backups.kind.isNone && isSame
  else if p.backups.kind.isSome then isSame && a.1 = b.1
  else if isLink b.2 then false
  else if isSame then true
  else if ¬ isLink a.2 then false
  else match (located m true source).toOption, (located m true target).toOption with
    | some (x, _), some (y, _) =>
      if m.tree.number? x ≠ m.tree.number? y then false
      else if 1 < names (m.tree.number? b.1) then x = y
      else true
    | _, _ => false

def MovePlan.move (p : MovePlan) (made : List (Place × Nat)) (isArgument : Bool) (m : Machine) (source target : Chars) :
    Machine × Bool :=
  let done (m : Machine) (places : Place × Place) (backup : Option Chars) : Machine × Bool :=
    (tellChange p.verbose "renamed " source target backup (moved m places), true)
  let object (m : Machine) (complaint : Chars) : Machine × Bool := (accuse m complaint, false)
  match renamed m false source target with
  | .ok places => done m places none
  | .error e =>
    match if e = .code 17 ∧ p.clobber = .keeps then .error (SystemError.code 17) else located m false source with
    | .error e => if e = .code 17 then (m, true) else (blame m "cannot stat " source "" e, false)
    | .ok a =>
      match located m false target with
      | .error f => if f = .noSuchFile then (unmoved m source target e, false) else (blame m "cannot stat " target "" f, false)
      | .ok b =>
        let isTree := a.2.entry.isDirectory
        let isTarget := b.2.entry.isDirectory
        if p.clobber = .keeps then (m, true)
        else if isMoveOntoItself p m source target a b then
          object m (pair "" source " and " target " are the same file")
        else if p.updates ∧ ¬ isTree ∧ a.2.modified ≤ b.2.modified then (m, true)
        else
          let (isWanted, m) := if p.clobber = .asks then ask m ("overwrite ".toList ++ shown true target) else (true, m)
          if ¬ isWanted then (m, false)
          else if ¬ isTarget ∧ isTree ∧ p.backups.kind.isNone then
            object m (pair "cannot overwrite non-directory " target " with directory " source "")
          else if ¬ isTarget ∧ isArgument ∧ p.backups.kind ≠ some .numbered ∧
              (m.tree.number? b.1).any fun n => made.contains (b.1, n) then
            object m (pair "will not overwrite just-created " target " with " source "")
          else if isTarget ∧ ¬ isTree ∧ p.backups.kind.isNone then
            object m ("cannot overwrite directory ".toList ++ shown true target ++ " with non-directory".toList)
          else
            let kept : Except (Machine × Bool) (Machine × Option Chars) :=
              match p.backups.kind with
              | none => .ok (m, none)
              | some kind =>
                if [['.'], ['.', '.']].contains (lastName source) then .ok (m, none)
                else if kind ≠ .numbered ∧ nameAt m (p.backups.pathFor kind m target b.1) = some a.1 then
                  .error (object m (pair "backing up " target " might destroy source;  " source " not moved"))
                else match p.backups.keep kind m target b.1 with
                  | .ok (backup, m) => .ok (m, some backup)
                  | .error e => .error (blame m "cannot backup " target "" e, false)
            match kept with
            | .error r => r
            | .ok (m, backup) =>
              match renamed m true source target with
              | .ok places => done m places backup
              | .error e => (unmoved m source target e, false)

/-- the options of `mv`; those without a letter go by one that cannot be typed. -/
def mvOptions : List Known :=
  destinationOptions ++ switches [('n', "no-clobber"), ('\x05', "strip-trailing-slashes"), ('u', ""), ('Z', "context"),
    ('\x0b', "debug"), ('\x0c', "no-copy")] ++ possibles [('\x0e', "update")]

def mvMisuse (letter : Char) (value : Chars) : Option Misuse :=
  if letter = '\x0e' then misuseOf (updateOf value) else none

def mv : Tool :=
  withChecked mvOptions true 1 mvMisuse fun o files m =>
    let isTarget (f : Chars) : Bool := isDirectoryAt m f
    match destinations o files isTarget m with
    | .error m => (m, 1)
    | .ok journey =>
      match Backups.ofChoices o m with
      | .error e => (denounce m e, 1)
      | .ok backups =>
        let update : Option Bool := match o.last? "u\x0e" with
          | some ('\x0e', value) => (updateOf value).toOption.getD (some true)
          | some _ => some true
          | none => some false
        let asked := Clobber.ofChoices o "fin"
        let clobber : Clobber := if asked = .replaces ∧ update.isNone then .keeps else asked
        if backups.kind.isSome ∧ clobber = .keeps then
          (misused m "options --backup and --no-clobber are mutually exclusive", 1)
        else
          let plan : MovePlan := ⟨clobber, update == some true && clobber ≠ .keeps, backups, o.has 'v'⟩
          let (m', good, _) := journey.pairs.foldl (fun (m, good, made) (source, target) =>
            let r := plan.move made true m (stripped o source) target
            let arrived := (nameAt r.1 target).bind fun s => (r.1.tree.number? s).map fun k => (s, k)
            (r.1, good && r.2, if r.2 then arrived.toList ++ made else made)) (m, true, ([] : List (Place × Nat)))
          afterAsking m (m', if good then 0 else 1)

end Regen.Shell.Tools
