import Regen.Shell.Tools.Files

/-!
# Backups

What is about to be replaced may be kept under another name: its own with an ending, or with a number that
is one higher than that of the last backup.

* `Tools.BackupKind`     how backups are named;
* `Tools.Backups`        the same with the ending, as options and the environment say;
* `Tools.Backups.keep`   something kept under the name of a backup.
-/

namespace Regen.Shell.Tools

inductive BackupKind where
  | simple
  | numbered
  | existing
  deriving DecidableEq

structure Backups where
  kind : Option BackupKind
  ending : Chars

def backupKind (value : Chars) : Except Misuse (Option BackupKind) :=
  wordMeaning "backup type" [(["none", "off"], none), (["simple", "never"], some .simple),
    (["existing", "nil"], some .existing), (["numbered", "t"], some .numbered)] value

/-- the options about backups; one without a letter goes by one that cannot be typed. -/
def backupOptions : List Known :=
  [⟨'b', "", .never⟩, ⟨'\x10', "backup", .possible⟩, valued 'S' "suffix"]

/-- what options and the environment say about backups, or what is wrong with it. -/
def Backups.ofChoices (o : Choices) (m : Machine) : Except Misuse Backups :=
  let ending := (o.value? 'S').orElse fun _ => m.get? "SIMPLE_BACKUP_SUFFIX".toList
  let usable := ending.filter fun e => !e.isEmpty && !e.contains '/'
  let asked := o.has 'b' || o.has '\x10' || o.has 'S'
  let word := ((o.given.filter fun g => g.1 == '\x10' && !g.2.isEmpty).getLast?.map Prod.snd).orElse fun _ =>
    (m.get? "VERSION_CONTROL".toList).filter fun w => !w.isEmpty
  if ¬ asked then .ok ⟨none, ['~']⟩
  else match word with
    | none => .ok ⟨some .existing, usable.getD ['~']⟩
    | some w => (backupKind w).map fun kind => ⟨kind, usable.getD ['~']⟩

def backupNumber? (base name : Chars) : Option Nat :=
  match if (base ++ ['.', '~']).isPrefixOf name then name.drop (base.length + 2) else [] with
  | c :: cs =>
    let digits := (c :: cs).dropLast
    if (c :: cs).getLast? = some '~' ∧ digits ≠ [] ∧ digits.all Char.isDigit ∧ c ≠ '0' then some (Text.decimal digits)
    else none
  | [] => none

def Backups.pathFor (b : Backups) (kind : BackupKind) (m : Machine) (path : Chars) (place : Place) : Chars :=
  let base := charsOf (place.getLast?.getD [])
  let last := ((m.tree.namesAt place.dropLast).filterMap fun n => backupNumber? base (charsOf n)).foldl max 0
  if kind = .numbered ∨ (kind = .existing ∧ last ≠ 0) then
    trimmed path ++ ".~".toList ++ Nat.toDigits 10 (last + 1) ++ ['~']
  else trimmed path ++ b.ending

def Backups.keep (b : Backups) (kind : BackupKind) (m : Machine) (path : Chars) (place : Place) :
    Except SystemError (Chars × Machine) := do
  let backup := b.pathFor kind m path place
  let there ← slotOf m backup
  if ¬ m.tree.isOpen place.dropLast then throw .permissionDenied
  return (backup, { m with tree := m.tree.move place there m.wall })

end Regen.Shell.Tools
