import Regen.Shell.Tools.Display
import Regen.Shell.Tools.Versions

/-!
# Directories shown

Arguments that lead to directories are shown by what is in them, after all other arguments. What cannot be
looked at is complained about and shown by its name.

* `Tools.Item`       a name that is shown, and what is known about what it stands for;
* `Tools.Table`      lines with all that is known about items;
* `Tools.Exhibit`    what has been shown so far;
* `Tools.ls`         the program.
-/

namespace Regen.Shell.Tools

/-- a name that is shown, the path it stands for, its kind, and what is known about it. -/
structure Item where
  name : Chars
  path : Chars
  kind : Char
  node : Option Node
  links : Nat
  number : Nat
  target : Option Chars
  leadsTo : Option Node

/-- how many names lead to what is at a place. A directory has its own, the one in itself and those in the
directories in it. -/
def linksTo (m : Machine) (place : Place) (n : Node) : Nat :=
  if n.entry.isDirectory then
    2 + (m.tree.namesAt place).countP fun name => (entryAt m (place ++ [name])).any Entry.isDirectory
  else
    let number := m.tree.number? place
    m.tree.names.countP fun e => some e.2 == number

def Item.of (m : Machine) (name path : Chars) (kind : Char) (found : Option (Place × Node)) : Item :=
  match found with
  | some (place, n) =>
    let target : Option Chars := match n.entry with
      | .link p => some (charsOf p.raw)
      | .descriptor _ => some "pipe".toList
      | _ => none
    ⟨name, path, kindLetter n.entry, n, linksTo m place n, (m.tree.number? place).getD 0, target,
      if target.isSome then m.node? path else none⟩
  | none => ⟨name, path, kind, none, 0, 0, none, none⟩

def Item.isDirectory (i : Item) : Bool := i.kind == 'd'

/-! ## order -/

def endingOf (name : Chars) : Chars :=
  if name.contains '.' then '.' :: (name.reverse.takeWhile (· ≠ '.')).reverse else []

def byBytes (a b : Chars) : Ordering :=
  if Bytes.before (bytesOf a) (bytesOf b) then .lt else if Bytes.before (bytesOf b) (bytesOf a) then .gt else .eq

def Display.name (d : Display) (heads : Bool) (name : Chars) : Chars :=
  let text := d.nameStyle.show heads name
  let masked : Bool := d.masks && match d.nameStyle with
    | .literal | .shell _ => true
    | _ => false
  if masked then text.map fun c => if isBare c then '?' else c else text

def Display.compare (d : Display) (a b : Item) : Ordering :=
  let names := byBytes a.name b.name
  let time (i : Item) : Time := (i.node.map Node.modified).getD 0
  let size (i : Item) : Nat := (i.node.map sizeOf).getD 0
  let extent (i : Item) : Nat := Layout.extent (d.name false i.name)
  match d.rank with
  | .name => names
  | .time => (Ord.compare (time b) (time a)).then names
  | .size => (Ord.compare (size b) (size a)).then names
  | .ending => (byBytes (endingOf a.name) (endingOf b.name)).then names
  | .version => (compareVersions a.name b.name).then names
  | .extent => (Ord.compare (extent a) (extent b)).then names
  | .none => .eq

def Display.sorted (d : Display) (items : List Item) : List Item :=
  if d.rank = .none then items
  else
    let leads (i : Item) : Bool := i.isDirectory || i.leadsTo.any fun n => n.entry.isDirectory
    let group (i : Item) : Nat := if d.directoriesFirst ∧ leads i then 0 else 1
    items.mergeSort fun a b =>
      let o := d.compare a b
      ((Ord.compare (group a) (group b)).then (if d.backwards then o.swap else o)) != .gt

/-! ## items -/

/-- what is wrong while looking, and the status that it leads to: a greater one for an argument. -/
def objection (m : Machine) (phrase : String) (path : Chars) (isArgument : Bool) (e : SystemError) : Machine × Nat :=
  (blame m phrase path "" e, if isArgument then 2 else 1)

def Display.argument (d : Display) (m : Machine) (path : Chars) : Except SystemError Item := do
  let direct (follows : Bool) : Except SystemError Item := (located m follows path).map fun f => .of m path path '-' f
  match d.tracing with
  | .none => direct false
  | .all | .arguments => direct true
  | .toDirectories =>
    match direct true with
    | .ok i => if i.isDirectory then return i else direct false
    | .error e => if e = .noSuchFile ∨ e = .tooManyLinks then direct false else throw e

def Display.shows (d : Display) (name : Chars) : Bool :=
  let isLike (p : List Pattern.Item) : Bool :=
    let isOpen : Bool := match p with
      | .exactly _ :: _ => true
      | _ => false
    (name.head? != some '.' || isOpen) && Pattern.fits p name
  let pointed := name.head? == some '.'
  let hides : Bool := match d.hidden with
    | .nothing => false
    | .own => name == ['.'] || name == ['.', '.']
    | .pointed => pointed || d.ignoredToo.any isLike
  !hides && !d.ignored.any isLike

def Display.looksAt (d : Display) (kind : Char) : Bool :=
  d.arrangement == .long || d.blocks || d.rank == .time || d.rank == .size || d.context || d.numbers ||
    (d.marking == .all && kind == '-') ||
    (kind == 'l' && ((d.tracing == .all && (d.recursive || d.marking != .none || d.directoriesFirst)) || d.directoriesFirst))

def kindIn (m : Machine) (place : Place) (name : Chars) : Char :=
  if name = ['.'] ∨ name = ['.', '.'] then 'd'
  else ((entryAt m (place ++ [bytesOf name])).map kindLetter).getD '-'

/-- a list of something, made while the machine complains, and the worst status. -/
abbrev Gathered (α : Type) := List α × Machine × Nat

def Display.itemsIn (d : Display) (m : Machine) (place : Place) (directory : Chars) : Gathered Item :=
  let names := (['.'] :: ['.', '.'] :: (m.tree.namesAt place).map charsOf).filter d.shows
  let r := names.foldl (fun ((items, m, status) : Gathered Item) name =>
    let path := inside directory name
    let kind := kindIn m place name
    if ¬ d.looksAt kind then (Item.of m name path kind (located m false path).toOption :: items, m, status)
    else match located m (d.tracing == .all) path with
      | .ok found => (Item.of m name path kind found :: items, m, status)
      | .error e =>
        let (m, s) := objection m "cannot access " (if directory = ['.'] then name else path) false e
        (Item.of m name path kind none :: items, m, max s status)) ([], m, 0)
  (r.1.reverse, r.2)

/-! ## lines -/

def flushRight (width : Nat) (text : Chars) : Chars := List.replicate (width - text.length) ' ' ++ text

def flushLeft (width : Nat) (text : Chars) : Chars := text ++ List.replicate (width - text.length) ' '

def Display.ownerName (d : Display) : Chars := if d.numeric then ['0'] else "root".toList

/-- what is told about items besides their names, and how wide that gets. -/
structure Table where
  display : Display
  now : Time
  numberWidth : Nat
  blockWidth : Nat
  linkWidth : Nat
  ownerWidth : Nat
  sizeWidth : Nat
  majorWidth : Nat
  minorWidth : Nat
  shifts : Bool

def Item.numberText (i : Item) : Chars := if i.node.isSome then Nat.toDigits 10 (i.number + 1) else ['?']

def Item.blockText (d : Display) (i : Item) : Chars :=
  match i.node with
  | some n => d.blockUnits.show (512 * blocksOf n)
  | none => ['?']

def Item.linkText (i : Item) : Chars := if i.node.isSome then Nat.toDigits 10 i.links else ['?']

def Item.device? (i : Item) : Option (Chars × Chars) :=
  match i.node.map Node.entry with
  | some (.device k) => some (Nat.toDigits 10 (deviceNumbers k).1, Nat.toDigits 10 (deviceNumbers k).2)
  | _ => none

def Item.sizeText (d : Display) (i : Item) : Chars :=
  match i.node with
  | some n => d.units.show (sizeOf n)
  | none => ['?']

def widest (items : List Item) (text : Item → Chars) : Nat := items.foldl (fun w i => max w (text i).length) 0

def Table.of (d : Display) (now : Time) (items : List Item) : Table :=
  let major := widest items fun i => (i.device?.map Prod.fst).getD []
  let minor := widest items fun i => (i.device?.map Prod.snd).getD []
  let plain := widest (items.filter fun i => i.device?.isNone) (Item.sizeText d)
  let quotes : Bool := match d.nameStyle with
    | .shell false | .shellEscape false | .programText false => true
    | _ => false
  let aligned : Bool := match d.arrangement with
    | .long => true
    | .downward | .across => d.page.width ≠ 0
    | _ => false
  { display := d
    now := now
    numberWidth := widest items Item.numberText
    blockWidth := widest items (Item.blockText d)
    linkWidth := widest items Item.linkText
    ownerWidth := if items.any fun i => i.node.isSome then d.ownerName.length else 1
    sizeWidth := max plain (if major = 0 then 0 else major + 2 + minor)
    majorWidth := major
    minorWidth := minor
    shifts := quotes && aligned && items.any fun i => d.nameStyle.show false i.name != i.name }

def Table.named (t : Table) (i : Item) : Chars :=
  let d := t.display
  let name := d.name false i.name
  let shift : Chars := if t.shifts ∧ d.nameStyle.show false i.name = i.name then [' '] else []
  let mark : Chars := match i.node with
    | some n => markFor d.marking n
    | none => if i.kind = 'd' ∧ d.marking ≠ .none then ['/']
      else if i.kind = 'l' ∧ d.marking ≠ .none ∧ d.marking ≠ .slashes then ['@'] else []
  match d.arrangement, i.target with
  | .long, some target =>
    let end' : Chars := match i.leadsTo with
      | some n => if d.marking = .slashes then [] else markFor d.marking n
      | none => []
    shift ++ name ++ " -> ".toList ++ d.name false target ++ end'
  | _, _ => shift ++ name ++ mark

def Table.front (t : Table) (i : Item) : Chars :=
  let d := t.display
  let width (n : Nat) : Nat := if d.arrangement = .commas then 0 else n
  (if d.numbers then flushRight (width t.numberWidth) i.numberText ++ [' '] else []) ++
  (if d.blocks then flushRight (width t.blockWidth) (i.blockText d) ++ [' '] else [])

def Table.size (t : Table) (i : Item) : Chars :=
  match i.device? with
  | some (major, minor) =>
    flushRight (t.sizeWidth - 2 - t.minorWidth) major ++ ", ".toList ++ flushRight t.minorWidth minor
  | none => flushRight t.sizeWidth (i.sizeText t.display)

def Table.line (t : Table) (i : Item) : Chars :=
  let d := t.display
  let person : Chars := match i.node with
    | some _ => d.ownerName
    | none => flushLeft t.ownerWidth ['?']
  let mode : Chars := match i.node with
    | some n => i.kind :: n.mode.letters
    | none => i.kind :: List.replicate 9 '?'
  let time : Chars := match i.node with
    | some n => d.times.show t.now n.modified
    | none => flushRight (d.times.show t.now t.now).length ['?']
  let people : List Chars := (if d.owner then [person] else []) ++ (if d.group then [person] else []) ++
    (if d.author then [person] else []) ++ (if d.context then [['?']] else [])
  let cells : List Chars := [mode, flushRight t.linkWidth i.linkText] ++ people ++ [t.size i, time]
  t.front i ++ cells.flatMap (fun c => c ++ [' ']) ++ t.named i

def Display.lay (d : Display) (now : Time) (items : List Item) : Chars :=
  let t := Table.of d now items
  let cell (i : Item) : Chars := t.front i ++ (if d.context then ['?', ' '] else []) ++ t.named i
  let cells := items.map cell
  match d.arrangement with
  | _ => if items.isEmpty then [] else match d.arrangement with
    | .lines => closedBy d.page.ending cells
    | .long => closedBy d.page.ending (items.map t.line)
    | .commas => Layout.inOneRow d.page [','] cells
    | .downward => if d.page.width = 0 then Layout.inOneRow d.page [' '] cells else Layout.downward d.page cells
    | .across => if d.page.width = 0 then Layout.inOneRow d.page [' '] cells else Layout.across d.page cells

/-! ## directories -/

/-- what has been shown so far: the parts, the machine, the worst status, and whether directories have names
over them. -/
structure Exhibit where
  parts : List Chars
  machine : Machine
  status : Nat
  headed : Bool

def Exhibit.object (x : Exhibit) (phrase : String) (path : Chars) (isArgument : Bool) (e : SystemError) : Exhibit :=
  let r := objection x.machine phrase path isArgument e
  { x with machine := r.1, status := max x.status r.2 }

/-- a directory shown, and those below it if that is asked for, given how deep it may go; `above` are the
numbers of the directories that led here. -/
def Display.enter (d : Display) : Nat → List Nat → Bool → Chars → Exhibit → Exhibit
  | 0, _, _, _, x => x
  | n + 1, above, isArgument, path, x =>
    let failed (e : SystemError) : Exhibit := x.object "cannot open directory " path isArgument e
    match located x.machine true path with
    | .error e => failed e
    | .ok (place, node) =>
      let number := (x.machine.tree.number? place).getD 0
      if ¬ node.entry.isDirectory then failed .notADirectory
      else if ¬ node.mode.reads then failed .permissionDenied
      else if d.recursive ∧ above.contains number then
        { x with
          machine := accuse x.machine (shown false path ++ ": not listing already-listed directory".toList)
          status := 2 }
      else
        let (items, m, status) := d.itemsIn x.machine place path
        let items := d.sorted items
        let heading : Chars := if d.recursive ∨ x.headed then d.name true path ++ [':', '\n'] else []
        let total := items.foldl (fun s i => s + (i.node.map blocksOf).getD 0) 0
        let summary : Chars := if d.arrangement = .long ∨ d.blocks then
          "total ".toList ++ d.blockUnits.show (512 * total) ++ [d.page.ending] else []
        let part := heading ++ summary ++ d.lay m.time items
        let x : Exhibit := ⟨x.parts ++ [part], m, max x.status status, true⟩
        let below := items.filter fun i => i.isDirectory && i.name != ['.'] && i.name != ['.', '.']
        if d.recursive then below.foldl (fun x i => d.enter n (number :: above) false i.path x) x else x

def Display.run (d : Display) (files : List Chars) (m : Machine) : Machine × Nat :=
  let paths := if files.isEmpty then [['.']] else files
  let (items, m, status) := paths.foldl (fun ((items, m, status) : Gathered Item) path =>
    match d.argument m path with
    | .ok i => (items ++ [i], m, status)
    | .error e => let r := objection m "cannot access " path true e; (items, r.1, max status r.2)) ([], m, 0)
  let (directories, others) := (d.sorted items).partition fun i => i.isDirectory && !d.plain
  let single := files.length ≤ 1 && others.isEmpty && directories.length == 1
  let x := directories.foldl (fun x i => d.enter (x.machine.tree.depth + 1) [] true i.path x)
    ⟨[], m, status, !single⟩
  let first := d.lay m.time others
  let gap : Chars := if others.isEmpty ∨ directories.isEmpty then [] else ['\n']
  (x.machine.write 1 (first ++ gap ++ List.intercalate ['\n'] x.parts), x.status)

def ls : Tool :=
  withChecked listingOptions true 2 Display.misuse fun o files m =>
    let setting (name : String) : Option Chars := (m.environment.lookup name.toList).filter fun v => !v.isEmpty
    match Display.ofChoices o setting with
    | .error e => (denounce m e, 2)
    | .ok d => d.run files ((Display.doubts o setting).foldl accuse m)

/-- the program `pwd`: the current directory as a path. -/
def pwd : Tool := fun _ m =>
  (m.write 1 (if m.directory = [] then ['/', '\n'] else charsOf (m.directory.flatMap fun n => Path.slash :: n) ++ ['\n']), 0)

end Regen.Shell.Tools
