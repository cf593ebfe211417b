import Regen.Shell.Numeral
import Regen.Shell.Pattern
import Regen.Shell.Tools.Amount
import Regen.Shell.Tools.Details
import Regen.Shell.Tools.Layout

/-!
# How files are listed

Options say which files of a directory are listed, in which order, what is told about each and how all of it
is laid out.

* `Tools.Arrangement`, `Tools.Rank`   how names are laid out and ordered;
* `Tools.Display`                     all that is said about a listing;
* `Tools.Display.ofChoices`           the same from options and the environment;
* `Tools.Display.misuse`              what is wrong with an option.
-/

namespace Regen.Shell.Tools

inductive Arrangement where
  | lines
  | long
  | commas
  | downward
  | across
  deriving DecidableEq

inductive Rank where
  | name
  | time
  | size
  | ending
  | version
  | extent
  | none
  deriving DecidableEq

inductive Hidden where
  | pointed
  | own
  | nothing
  deriving DecidableEq

inductive Tracing where
  | none
  | toDirectories
  | arguments
  | all
  deriving DecidableEq

structure Display where
  arrangement : Arrangement
  page : Layout.Page
  hidden : Hidden
  /-- names like these are left out; the second ones only if names that start with a point are, too. -/
  ignored : List (List Pattern.Item)
  ignoredToo : List (List Pattern.Item)
  plain : Bool
  recursive : Bool
  tracing : Tracing
  rank : Rank
  backwards : Bool
  directoriesFirst : Bool
  nameStyle : NameStyle
  /-- question marks stand for bytes without a printed form. -/
  masks : Bool
  marking : Marking
  numbers : Bool
  blocks : Bool
  owner : Bool
  group : Bool
  author : Bool
  numeric : Bool
  context : Bool
  units : Units
  blockUnits : Units
  times : TimeStyle

/-! ## options -/

/-- the options about listings; those without a letter go by letters that cannot be typed. -/
def listingOptions : List Known :=
  switches [('a', "all"), ('A', "almost-all"), ('b', "escape"), ('B', "ignore-backups"), ('c', ""), ('C', ""),
    ('d', "directory"), ('D', "dired"), ('f', ""), ('F', ""), ('g', ""), ('G', "no-group"), ('h', "human-readable"),
    ('H', "dereference-command-line"), ('i', "inode"), ('k', "kibibytes"), ('l', ""), ('L', "dereference"), ('m', ""),
    ('n', "numeric-uid-gid"), ('N', "literal"), ('o', ""), ('p', ""), ('q', "hide-control-chars"),
    ('Q', "quote-name"), ('r', "reverse"), ('R', "recursive"), ('s', "size"), ('S', ""), ('t', ""), ('u', ""),
    ('U', ""), ('v', ""), ('x', ""), ('X', ""), ('1', ""), ('Z', "context"), ('\x01', "author"), ('\x04', "file-type"),
    ('\x06', "full-time"), ('\x07', "group-directories-first"), ('\x0e', "show-control-chars"), ('\x0f', "si"),
    ('\x13', "zero"), ('\x15', "dereference-command-line-symlink-to-dir")] ++
  valuedAll [('I', "ignore"), ('T', "tabsize"), ('w', "width"), ('\x02', "block-size"), ('\x05', "format"),
    ('\x08', "hide"), ('\x0b', "indicator-style"), ('\x0c', "quoting-style"), ('\x10', "sort"), ('\x11', "time"),
    ('\x12', "time-style")] ++
  possibles [('\x03', "color"), ('\x14', "hyperlink"), ('\x16', "classify")]

def arrangementOf (value : Chars) : Except Misuse Arrangement :=
  wordMeaning "--format" [(["verbose", "long"], .long), (["commas"], .commas), (["horizontal", "across"], .across),
    (["vertical"], .downward), (["single-column"], .lines)] value

def rankOf (value : Chars) : Except Misuse Rank :=
  wordMeaning "--sort" [(["none"], .none), (["time"], .time), (["size"], .size), (["extension"], .ending),
    (["version"], .version), (["width"], .extent)] value

/-- whether a word asks for a time that is not the one that is usually shown. Files have one only, but names are
in the order of the time that was asked for. -/
def timeWord (value : Chars) : Except Misuse Bool :=
  wordMeaning "--time" [(["atime", "access", "use"], true), (["ctime", "status"], true),
    (["mtime", "modification"], false), (["birth", "creation"], true)] value

def markingOf (value : Chars) : Except Misuse Marking :=
  wordMeaning "--indicator-style" [(["none"], .none), (["slash"], .slashes), (["file-type"], .kinds),
    (["classify"], .all)] value

/-- whether a word asks for something; it does, if it is not given. Nobody looks at a terminal here. -/
def isAsked (option : String) (value : Chars) : Except Misuse Bool :=
  if value.isEmpty then .ok true
  else wordMeaning option [(["always", "yes", "force"], true), (["never", "no", "none"], false),
    (["auto", "tty", "if-tty"], false)] value

def basedNumber? (value : Chars) : Option Nat :=
  let cs := value.dropWhile isLeadingBlank
  match Numeral.unsigned? true (if cs.head? = some '+' then cs.drop 1 else cs) with
  | some (n, []) => some n
  | _ => none

def unitsOf (value : Chars) : Except Misuse Units :=
  let letters : Chars := "eEgGkKmMpPQRtTyYzZ0".toList
  let argument : String := "--block-size argument " ++ String.ofList (cited value)
  let text := if value.head? = some '\'' then value.drop 1 else value
  if value = "human-readable".toList then .ok (.fitting 1024)
  else if value = "si".toList then .ok (.fitting 1000)
  else match Amount.read letters text with
    | .tooLarge => .error ⟨argument ++ " too large", false⟩
    | .invalid =>
      .error ⟨(if text.head?.any Char.isDigit then "invalid suffix in " else "invalid ") ++ argument, false⟩
    | .number 0 => .error ⟨"invalid " ++ argument, false⟩
    | .number n =>
      if text.head?.any Char.isDigit then .ok (.fixed n [])
      else
        let first := (text.headD 'K').toUpper
        let letter := if text.drop 1 = ['B'] ∧ first = 'K' then 'k' else first
        .ok (.fixed n (letter :: text.drop 1))

def Display.misuse (letter : Char) (value : Chars) : Option Misuse :=
  match letter with
  | 'w' => if (basedNumber? value).isNone then some ⟨about "invalid line width:" value, false⟩ else none
  | 'T' => if (basedNumber? value).isNone then some ⟨about "invalid tab size:" value, false⟩ else none
  | '\x02' => misuseOf (unitsOf value)
  | '\x03' => misuseOf (isAsked "--color" value)
  | '\x14' => misuseOf (isAsked "--hyperlink" value)
  | '\x16' => misuseOf (isAsked "--classify" value)
  | '\x05' => misuseOf (arrangementOf value)
  | '\x10' => misuseOf (rankOf value)
  | '\x11' => misuseOf (timeWord value)
  | '\x0b' => misuseOf (markingOf value)
  | '\x0c' => misuseOf (wordMeaning "--quoting-style" nameStyles value)
  | _ => none

/-! ## what options say -/

def arrangementAfter (a : Arrangement) (g : Char × Chars) : Arrangement :=
  match g.1 with
  | 'l' | 'g' | 'o' | 'n' | '\x06' => .long
  | 'm' => .commas
  | 'C' => .downward
  | 'x' => .across
  | '1' | '\x13' => if a = .long then .long else .lines
  | '\x05' => (arrangementOf g.2).toOption.getD a
  | _ => a

def rankAfter (r : Option Rank) (g : Char × Chars) : Option Rank :=
  match g.1 with
  | 't' => some .time
  | 'S' => some .size
  | 'X' => some .ending
  | 'v' => some .version
  | 'U' | 'f' => some .none
  | '\x10' => (rankOf g.2).toOption
  | _ => r

def markingAfter (k : Marking) (g : Char × Chars) : Marking :=
  match g.1 with
  | 'F' => .all
  | 'p' => .slashes
  | '\x04' => .kinds
  | '\x0b' => (markingOf g.2).toOption.getD k
  | '\x16' => if (isAsked "--classify" g.2).toOption = some true then .all else k
  | _ => k

def nameStyleAfter (s : NameStyle) (g : Char × Chars) : NameStyle :=
  match g.1 with
  | 'b' => .escape
  | 'Q' => .programText true
  | 'N' | '\x13' => .literal
  | '\x0c' => (wordMeaning "--quoting-style" nameStyles g.2).toOption.getD s
  | _ => s

def hiddenAfter (h : Hidden) (g : Char × Chars) : Hidden :=
  match g.1 with
  | 'a' | 'f' => .nothing
  | 'A' => .own
  | _ => h

def tracingAfter (t : Option Tracing) (g : Char × Chars) : Option Tracing :=
  match g.1 with
  | 'L' => some .all
  | 'H' => some .arguments
  | '\x15' => some .toDirectories
  | _ => t

def unitsAfter (u : Units × Units) (g : Char × Chars) : Units × Units :=
  match g.1 with
  | 'h' => (.fitting 1024, .fitting 1024)
  | '\x0f' => (.fitting 1000, .fitting 1000)
  | '\x02' => match unitsOf g.2 with
    | .ok v => (v, v)
    | .error _ => u
  | _ => u

def namePattern (cs : Chars) : List Pattern.Item := Pattern.ofChars (cs.map fun c => (c, false))

/-- what is to be said about variables of the environment that mean nothing. -/
def Display.doubts (o : Choices) (setting : String → Option Chars) : List Chars :=
  let doubt (name : String) (isGood : Chars → Bool) (phrase : String) (after : String) : List Chars :=
    match setting name with
    | some v => if isGood v then [] else [(phrase ++ name ++ after).toList ++ cited v]
    | none => []
  let isNumber (v : Chars) : Bool := (basedNumber? v).isSome
  let arrangement := o.given.foldl arrangementAfter .lines
  let isWide : Bool := arrangement == .commas || arrangement == .downward || arrangement == .across
  let isStyled := o.given.any fun g => ['b', 'Q', 'N', '\x13', '\x0c'].contains g.1
  (if isStyled then [] else doubt "QUOTING_STYLE" (fun v => nameStyles.any fun w => w.1.any (·.toList == v))
    "ignoring invalid value of environment variable " ": ") ++
  (if isWide ∧ ¬ o.has 'w' then doubt "COLUMNS" isNumber "ignoring invalid width in environment variable " ": " else []) ++
  (if isWide ∧ ¬ o.has 'T' then doubt "TABSIZE" isNumber "ignoring invalid tab size in environment variable " ": " else [])

def Display.ofChoices (o : Choices) (setting : String → Option Chars) : Except Misuse Display := do
  let g := o.given
  let arrangement := g.foldl arrangementAfter .lines
  let style := (setting "QUOTING_STYLE").bind fun v => (nameStyles.find? fun w => w.1.any (·.toList == v)).map Prod.snd
  let width := ((o.value? 'w').orElse fun _ => setting "COLUMNS").bind basedNumber?
  let tab := ((o.value? 'T').orElse fun _ => setting "TABSIZE").bind basedNumber?
  let marking := g.foldl markingAfter .none
  let usual (name : String) : Option Units := (setting name).bind fun v => (unitsOf v).toOption
  let both := (usual "LS_BLOCK_SIZE").orElse fun _ => usual "BLOCK_SIZE"
  let blocks := (both.orElse fun _ => usual "BLOCKSIZE").getD (.fixed 1024 [])
  let units := g.foldl unitsAfter (both.getD (.fixed 1 []), if o.has 'k' then .fixed 1024 [] else blocks)
  let styled := ((o.last? "\x06\x12").map fun g => if g.1 = '\x06' then "full-iso".toList else g.2).orElse fun _ =>
    setting "TIME_STYLE"
  let times ← if arrangement = .long then (styled.map timeStyle).getD (.ok .usual) else .ok .usual
  let backups : List Chars := if o.has 'B' then ["*~".toList, ".*~".toList] else []
  let patterns (letter : Char) : List Chars := (g.filter fun g => g.1 == letter).map Prod.snd
  let timed : Bool := match o.last? "cu\x11" with
    | some ('\x11', word) => (timeWord word).toOption != some false
    | some _ => true
    | none => false
  return {
    arrangement := arrangement
    page := ⟨width.getD 80, tab.getD 8, if o.has '\x13' then '\x00' else '\n'⟩
    hidden := g.foldl hiddenAfter .pointed
    ignored := (backups ++ patterns 'I').map namePattern
    ignoredToo := (patterns '\x08').map namePattern
    plain := o.has 'd'
    recursive := o.has 'R'
    tracing := (g.foldl tracingAfter none).getD
      (if o.has 'd' ∨ marking = .all ∨ arrangement = .long then .none else .toDirectories)
    rank := (g.foldl rankAfter none).getD (if timed ∧ arrangement ≠ .long then .time else .name)
    backwards := o.has 'r'
    directoriesFirst := o.has '\x07'
    nameStyle := g.foldl nameStyleAfter (style.getD .literal)
    masks := (o.last? "q\x0e\x13").any fun g => g.1 = 'q'
    marking := marking
    numbers := o.has 'i'
    blocks := o.has 's'
    owner := !o.has 'g'
    group := !(o.has 'G' || o.has 'o')
    author := o.has '\x01'
    numeric := o.has 'n'
    context := o.has 'Z'
    units := units.1
    blockUnits := units.2
    times := times }

end Regen.Shell.Tools
