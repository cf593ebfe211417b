import Regen.Disk.Subtree
import Regen.Shell.Tools.Names

/-!
# Where a search goes

A search goes to the files that it is given, and into directories if that is asked for. Rules about names
leave some of them out: of the rules that a name is of, the last one counts; for a name that is of none it is
the opposite of the first.

* `Tools.NameRule`, `Tools.isLeftOut`   rules about names;
* `Tools.Bounds`                         what is done about directories, links and devices;
* `Tools.Site`                          what a search comes to;
* `Tools.Bounds.sites`                   all of it for an argument.
-/

namespace Regen.Shell.Tools

/-! ## rules about names -/

structure NameRule where
  pattern : List Pattern.Item
  includes : Bool

/-- a pattern in which a caret negates a bracket too. -/
def withCarets : Chars → Chars
  | '\\' :: c :: cs => '\\' :: c :: withCarets cs
  | '[' :: '^' :: cs => '[' :: '!' :: withCarets cs
  | c :: cs => c :: withCarets cs
  | [] => []

def NameRule.read (includes : Bool) (text : Chars) : NameRule :=
  ⟨Pattern.ofChars ((withCarets text).map fun c => (c, false)), includes⟩

def endingsOf (path : Chars) : List Chars :=
  path :: (((Pattern.tails path).filter fun p => p.head? == some '/' && p[1]? != some '/').map fun p => p.drop 1)

def NameRule.fits (isGiven : Bool) (path : Chars) (r : NameRule) : Bool :=
  (if isGiven then endingsOf path else [path]).any fun p => Pattern.fits r.pattern p

def isLeftOut (rules : List NameRule) (isGiven : Bool) (path : Chars) : Bool :=
  match rules.reverse.find? (NameRule.fits isGiven path) with
  | some r => !r.includes
  | none => rules.head?.any NameRule.includes

def NameRule.readAll (text : Chars) : List NameRule :=
  let lines := (linesOf text).map fun l => (l.reverse.dropWhile fun c => c.isWhitespace || c == '\x0b' || c == '\x0c').reverse
  (lines.filter fun l => !l.isEmpty).map (NameRule.read false)

/-! ## how far a search goes -/

inductive DirectoryUse where
  | read
  | recurse
  | skip
  deriving DecidableEq

structure Bounds where
  files : List NameRule
  directories : List NameRule
  use : DirectoryUse
  follows : Bool
  devices : Option Bool

inductive Site where
  | file (path : Chars)
  | within (path : Chars)
  | loop (path : Chars)
  | closed (path : Chars) (e : SystemError)

def isDevice : Entry → Bool
  | .device _ => true
  | .pipe => true
  | _ => false

/-- what a search comes to in a directory, given how deep it may go and the directories that lead there. -/
def Bounds.descend (r : Bounds) (m : Machine) : Nat → List Place → Chars → Place → List Site
  | 0, _, _, _ => []
  | n + 1, way, path, place =>
    match m.tree.node? place with
    | none => []
    | some node =>
      if ¬ node.mode.reads then [.closed (if path.isEmpty then ['.'] else path) (.code 13)]
      else (m.tree.namesAt place).flatMap fun b =>
        let name := charsOf b
        let below := if path.isEmpty then name else inside path name
        let here := place ++ [b]
        let target : Except SystemError Place :=
          if ¬ node.mode.runs then .error (.code 13)
          else match m.tree.node? here with
            | some ⟨.link _, _, _⟩ => if r.follows then m.tree.resolveFrom place ⟨b⟩ else .ok here
            | _ => .ok here
        match target with
        | .error e => if isLeftOut r.files false name then [] else [.closed below e]
        | .ok q =>
          match (m.tree.node? q).map Node.entry with
          | some .directory =>
            if isLeftOut r.directories false name then []
            else if way.contains q then [.loop below]
            else r.descend m n (q :: way) below q
          | some (.link _) => []
          | some e => if isLeftOut r.files false name ∨ (isDevice e ∧ r.devices ≠ some true) then [] else [.within below]
          | none => []

def Bounds.sites (r : Bounds) (m : Machine) (path : Chars) : List Site :=
  match m.tree.resolveFrom m.directory ⟨bytesOf path⟩ with
  | .error _ => [.file path]
  | .ok place =>
    match (m.tree.node? place).map Node.entry with
    | some .directory =>
      if r.use = .skip ∨ isLeftOut r.directories true path then []
      else if r.use = .recurse then r.descend m m.tree.depth [place] path place
      else [.file path]
    | some e => if isLeftOut r.files true path ∨ (isDevice e ∧ r.devices = some false) then [] else [.file path]
    | none => [.file path]

def Bounds.sitesHere (r : Bounds) (m : Machine) : List Site := r.descend m m.tree.depth [m.directory] [] m.directory

end Regen.Shell.Tools
