import Regen.Shell.Tools.Intake
import Regen.Shell.Tools.Search
import Regen.Shell.Tools.Sites

/-!
# Files searched

`grep` looks at lines as they come, and at no more of them than it has to.

* `Tools.SearchPlan`     what `grep` is asked for, and where;
* `Tools.searchFile`     one file searched;
* `Tools.grep`           the program.
-/

namespace Regen.Shell.Tools

open Run

/-! ## what is asked for -/

/-- the options of `grep`. Those that have no letter go by one that cannot be typed. -/
def grepOptions : List Known :=
  switches [('G', "basic-regexp"), ('E', "extended-regexp"), ('F', "fixed-regexp"), ('F', "fixed-strings")] ++
  valuedAll [('A', "after-context"), ('B', "before-context")] ++ switches [('b', "byte-offset"), ('U', "binary")] ++
  valuedAll [('\x06', "binary-files"), ('C', "context")] ++ possibles [('\x05', "color"), ('\x05', "colour")] ++
  switches [('c', "count")] ++
  valuedAll [('D', "devices"), ('d', "directories"), ('\x0f', "exclude"), ('\x10', "exclude-from"),
    ('\x11', "exclude-dir"), ('f', "file")] ++
  switches [('l', "files-with-matches"), ('L', "files-without-match")] ++
  valuedAll [('\x03', "group-separator"), ('\x0e', "include")] ++
  switches [('i', "ignore-case"), ('\x07', "no-ignore-case"), ('T', "initial-tab")] ++ valuedAll [('\x04', "label")] ++
  switches [('\x01', "line-buffered"), ('n', "line-number"), ('x', "line-regexp")] ++ valuedAll [('m', "max-count")] ++
  switches [('h', "no-filename"), ('\x02', "no-group-separator"), ('s', "no-messages"), ('Z', "null"), ('z', "null-data"),
    ('o', "only-matching"), ('q', "quiet"), ('r', "recursive"), ('R', "dereference-recursive")] ++
  valuedAll [('e', "regexp")] ++
  switches [('v', "invert-match"), ('q', "silent"), ('a', "text"), ('u', "unix-byte-offsets"), ('H', "with-filename"),
    ('w', "word-regexp"), ('y', ""), ('I', "")] ++
  switches ("0123456789".toList.map fun c => (c, ""))

structure SearchPlan where
  order : SearchOrder
  operands : List Chars
  /-- files are told by their names: always, never, or if there are several. -/
  labelled : Option Bool
  inputName : Chars
  bounds : Bounds
  silent : Bool
  eager : Bool

/-- a complaint of `grep` about its arguments. -/
def searchUsage (m : Machine) : Machine :=
  (m.complain "Usage: grep [OPTION]... PATTERNS [FILE]...".toList).complain
    "Try 'grep --help' for more information.".toList

def directoryUses : List (List String × DirectoryUse) := [(["read"], .read), (["recurse"], .recurse), (["skip"], .skip)]

def searchMisuse (letter : Char) (value : Chars) : Option Misuse :=
  let isCount (ds : Chars) : Bool := ds != [] && ds.all Char.isDigit
  let needed (good : Bool) (message : String) : Option Misuse := if good then none else some ⟨message, false⟩
  let isOneOf (words : List String) : Bool := words.any fun w => w.toList == value
  match letter with
  | 'A' | 'B' | 'C' => needed (isCount value) (String.ofList value ++ ": invalid context length argument")
  | 'm' => needed (isCount (if value.head? = some '-' then value.drop 1 else value)) "invalid max count"
  | 'd' => misuseOf (wordMeaning "--directories" directoryUses value)
  | 'D' => needed (isOneOf ["read", "skip"]) "unknown devices method"
  | '\x06' => needed (isOneOf ["binary", "text", "without-match"]) "unknown binary-files type"
  | _ => none

/-- how many lines are to be selected at most; any number of them, if there is a sign before it. -/
def mostOf (value : Option Chars) : Option Nat :=
  value.bind fun ds => if ds.head? = some '-' then none else some (Text.decimal ds)

def patternsOf (m : Machine) : List (Char × Chars) → Except Machine (List Chars × Machine)
  | [] => .ok ([], m)
  | ('e', text) :: given => (patternsOf m given).map fun r => (text :: r.1, r.2)
  | ('f', name) :: given =>
    match openSource m name with
    | (.text [], m) => patternsOf m given
    | (.text cs, m) => (patternsOf m given).map fun r => (withoutEnd cs :: r.1, r.2)
    | (.unopened e, m) => .error (accuse m (name ++ (": " ++ words e).toList))
    | (.unread e, m) => .error (accuse m (name ++ (": " ++ words e).toList))
  | _ :: given => patternsOf m given

def showingOf (o : Choices) : Showing :=
  if o.has 'q' then .nothing
  else if o.has 'l' ∨ o.has 'L' then .name ((o.last? "lL").any fun c => c.1 == 'l')
  else if o.has 'c' then .count
  else if o.has 'o' then .matched
  else .lines

/-- the machine with warnings of doubts; or with a complaint, since a class that has no bracket around it does
not count as an expression. -/
def doubted (m : Machine) : List Regex.Doubt → Except Machine Machine
  | [] => .ok m
  | .bareClass :: _ => .error (accuse m Regex.Doubt.bareClass.message.toList)
  | d :: ds => doubted (accuse m ("warning: " ++ d.message).toList) ds

def rulesOf (m : Machine) : List (Char × Chars) → Except Machine (List NameRule × Machine)
  | [] => .ok ([], m)
  | ('\x0e', text) :: given => (rulesOf m given).map fun r => (.read true text :: r.1, r.2)
  | ('\x0f', text) :: given => (rulesOf m given).map fun r => (.read false text :: r.1, r.2)
  | ('\x10', name) :: given =>
    match openSource m name with
    | (.text cs, m) => (rulesOf m given).map fun r => (NameRule.readAll cs ++ r.1, r.2)
    | (.unopened e, m) => .error (accuse m (name ++ (": " ++ words e).toList))
    | (.unread e, m) => .error (accuse m (name ++ (": " ++ words e).toList))
  | _ :: given => rulesOf m given

/-- what is done about directories, and whether links in them are followed. -/
def directoryUseOf (o : Choices) : DirectoryUse :=
  match o.last? "rRd" with
  | some ('d', value) => (wordMeaning "--directories" directoryUses value).toOption.getD .read
  | some _ => .recurse
  | none => .read

/-- how parts stand out, if that is asked for, by what the environment says; with warnings. -/
def highlightOf (o : Choices) (m : Machine) : Option Highlight × Machine :=
  let setting (name : String) : Option Chars := (m.environment.lookup name.toList).filter fun v => !v.isEmpty
  let isAlways (value : Chars) : Bool := ["always", "yes", "force"].any fun w => w.toList == value.map Char.toLower
  if (o.value? '\x05').any isAlways then
    let (h, m) := match setting "GREP_COLOR" with
      | some code =>
        if isCode code then
          (Highlight.usual.withMatches code, accuse m ("warning: GREP_COLOR='".toList ++ code ++
            "' is deprecated; use GREP_COLORS='mt=".toList ++ code ++ ['\'']))
        else (Highlight.usual, m)
      | none => (Highlight.usual, m)
    (some (((setting "GREP_COLORS").map h.read).getD h), m)
  else (none, m)

/-- what the arguments ask for; or the machine with a complaint, and a status. -/
def SearchPlan.read (m : Machine) (args : List Chars) : Except (Machine × Nat) (SearchPlan × Machine) := do
  let given := readOptions grepOptions true args
  let failing {α : Type} (r : Except Machine α) : Except (Machine × Nat) α := r.mapError fun m => (m, 2)
  match given.checked searchMisuse with
  | .error e =>
    let isWord : Bool := given.given.any fun g => g.1 == 'd' && (searchMisuse 'd' g.2).isSome
    let m := accuse m e.message.toList
    throw (if e.hinted then searchUsage m else m, if isWord then 1 else 2)
  | .ok (o, operands) =>
    let m := (List.replicate (o.count 'u') ()).foldl (fun m _ => accuse m "warning: --unix-byte-offsets (-u) is obsolete".toList) m
    let digits := (o.given.map Prod.fst).filter Char.isDigit
    let lines (letter : Char) : Option Nat := (o.value? letter).map Text.decimal
    let around := if digits.isEmpty then lines 'C' else some (Text.decimal digits)
    let (rules, m) ← failing (rulesOf m o.given)
    let hasPatterns := o.has 'e' || o.has 'f'
    let (patterns, m) ← failing (if hasPatterns then patternsOf m o.given else .ok (operands.take 1, m))
    if ¬ hasPatterns ∧ operands = [] then throw (searchUsage m, 2)
    let (highlight, m) := highlightOf o m
    match Search.ofPatterns o patterns with
    | .error e => throw (accuse m e.toList, 2)
    | .ok (s, doubts) =>
      let m ← failing (doubted m doubts)
      let texts := o.last? "aI\x06"
      let order : SearchOrder :=
        { search := s
          inverted := o.has 'v'
          showing := showingOf o
          numbers := o.has 'n'
          offsets := o.has 'b'
          before := (lines 'B').orElse fun _ => around
          after := (lines 'A').orElse fun _ => around
          most := mostOf (o.value? 'm')
          separator := match o.last? "\x02\x03" with
            | some ('\x03', text) => some text
            | some _ => none
            | none => some ['-', '-']
          asText := texts.any fun g => g.1 == 'a' || g.2 == "text".toList
          passesOver := texts.any fun g => g.1 == 'I' || g.2 == "without-match".toList
          ending := o.ending 'z'
          closesNames := o.has 'Z'
          tabbed := o.has 'T'
          numberWidth := 0
          highlight := highlight }
      let bounds : Bounds :=
        { files := rules
          directories := (o.given.filter fun g => g.1 == '\x11').map fun g => .read false (trimmed g.2)
          use := directoryUseOf o
          follows := o.has 'R'
          devices := (o.value? 'D').map fun v => v == "read".toList }
      return ({ order := order
                operands := if hasPatterns then operands else operands.drop 1
                labelled := (o.last? "hH").map fun c => c.1 == 'H'
                inputName := (o.value? '\x04').getD "(standard input)".toList
                bounds := bounds
                silent := o.has 's'
                eager := o.has '\x01' }, m)

/-! ## files -/

def searchBlock : Nat := 4096

/-- what is to be written goes to standard output, if there is enough of it. -/
def Hits.deliver (h : Hits) (least : Nat) : Eval Hits := do
  if least ≤ h.out.foldl (fun n l => n + l.length) 0 then
    say 1 h.out.reverse.flatten
    return { h with out := [] }
  else return h

def searchLines (p : SearchPlan) (label : Option Chars) (n : Nat) : Nat → Intake → Hits → Eval Hits
  | 0, _, _ => exhausted
  | k + 1, i, h => do
    let (lines, i) ← i.more n
    let (h, rest) := h.lookAtBlock p.order label lines
    if h.isDone p.order then
      let isFile : Bool := match i.endpoint with
        | .file _ => true
        | _ => false
      let exact := p.order.most.any (· ≤ h.selected)
      i.leave (if isFile then (if exact then 1 else 98304) else Pipe.usualCapacity)
        (if isFile ∧ exact then h.since.reverse ++ rest else rest)
      return h
    else if i.isOver then return h
    else do
      let h ← h.deliver (if p.eager then 0 else searchBlock)
      if ← isAtLoss then return h
      searchLines p label n k i h

def Hits.conclude (r : SearchOrder) (label : Option Chars) (name : Chars) (h : Hits) : Hits :=
  let told : Chars := match r.showing with
    | .count => (label.map fun f => r.nameHead f ':').getD [] ++ Nat.toDigits 10 h.selected ++ ['\n']
    | .name ifSelected =>
      if (0 < h.selected) == ifSelected then
        around r.highlight Highlight.name name ++ [if r.closesNames then '\x00' else '\n']
      else []
    | _ => []
  { h with out := told :: h.out }

def isOutputToo (m : Machine) (e : Endpoint) : Bool :=
  match e, m.endpoint 1 with
  | .file i, .file j =>
    match m.opened.lookup i, m.opened.lookup j with
    | some f, some g => f.number == g.number
    | _, _ => false
  | _, _ => false

def SearchPlan.bites (p : SearchPlan) (m : Machine) (e : Endpoint) : Bool :=
  (p.order.showing == .lines || p.order.showing == .matched) && p.order.most.all (1 < ·) && isOutputToo m e

def SearchPlan.aligned (p : SearchPlan) (m : Machine) (e : Endpoint) : SearchPlan :=
  if ¬ p.order.tabbed then p
  else
    let greatest := match m.entryOf e with
      | some (.file bytes) => bytes.size + if p.order.numbers then 1 else 0
      | _ => 9223372036854775807
    { p with order := { p.order with numberWidth := (Nat.toDigits 10 greatest).length } }

/-- one file searched; says whether a line was selected, or that something went wrong. -/
def searchFile (p : SearchPlan) (label : Option Chars) (n : Nat) (h : Hits) (file : Chars) : Eval (Hits × Option Bool) := do
  let name := if file = ['-'] then p.inputName else file
  let label := label.map fun _ => name
  let complain (e : SystemError) (h : Hits) : Eval (Hits × Option Bool) := do
    if ¬ p.silent then modify fun m => accuse m (name ++ (": " ++ words e).toList)
    return (h, none)
  let opened ← if file = ['-'] then do pure (.ok ((← get).endpoint 0)) else openPath file .input
  match opened with
  | .error e => complain e h
  | .ok e => do
    match (← get).readFailure? e with
    | some failure =>
      let h := match p.order.showing with
        | .count | .name _ => if e = .closed then h else h.next.conclude p.order label name
        | _ => h
      complain failure h
    | none => do
      if p.bites (← get) e then
        if ¬ p.silent then modify fun m => accuse m (name ++ ": input file is also the output".toList)
        if file ≠ ['-'] then close e
        return (h, none)
      let p := p.aligned (← get) e
      let h ← searchLines p label n n (.start e p.order.ending) h.next
      if file ≠ ['-'] then close e
      let hasMatch : Bool := decide (0 < h.selected) && !(h.isBinary && p.order.passesOver)
      let h := if h.isBinary && p.order.passesOver then { h with selected := 0 } else h
      if h.isBinary ∧ hasMatch ∧ (p.order.showing = .lines ∨ p.order.showing = .matched) then
        modify fun m => accuse m (name ++ ": binary file matches".toList)
      return (h.conclude p.order label name, some hasMatch)

def SearchPlan.sites (p : SearchPlan) (m : Machine) : List (Site × Bool) :=
  let several : Bool := 1 < p.operands.length
  let withName (s : Site) : Site × Bool :=
    match s with
    | .file _ => (s, p.labelled.getD several)
    | _ => (s, p.labelled.getD true)
  if p.operands = [] then
    if p.bounds.use = .recurse then (p.bounds.sitesHere m).map withName else [(.file ['-'], p.labelled.getD false)]
  else p.operands.flatMap fun f => (if f = ['-'] then [Site.file f] else p.bounds.sites m f).map withName

/-- files searched in turn; says whether a line was selected, and whether something went wrong. -/
def searchSites (p : SearchPlan) (n : Nat) (h : Hits) (found wrong : Bool) : List (Site × Bool) → Eval (Hits × Bool × Bool)
  | [] => return (h, found, wrong)
  | (site, labelled) :: sites => do
    let complain (told : Chars) : Eval Unit := do
      if ¬ p.silent then modify fun m => accuse m told
    let search (f : Chars) : Eval (Hits × Option Bool) := searchFile p (if labelled then some f else none) n h f
    let (h, r) ← match site with
      | .file f => search f
      | .within f => search f
      | .loop f => do
        complain (f ++ ": warning: recursive directory loop".toList)
        pure (h, some false)
      | .closed f e => do
        complain (f ++ (": " ++ words e).toList)
        pure (h, none)
    let found := found || r.getD false
    if p.order.showing = .nothing ∧ found then return (h, found, wrong)
    if ← isAtLoss then return (h, found, wrong)
    searchSites p n h found (wrong || r.isNone) sites

/-! ## the program -/

def grep : Flow := fun n args => do
  let plan ← untilFed (fun m =>
    match SearchPlan.read m args with
    | .error (m, status) => (.error status, m)
    | .ok (p, m) => (.ok p, m)) n
  match (plan : Except Nat SearchPlan) with
  | .error status => return status
  | .ok p => do
    if p.order.most = some 0 then return 1
    let (h, found, wrong) ← searchSites p n .start false false (p.sites (← get))
    let _ ← h.deliver 0
    return if wrong ∧ ¬ (p.order.showing = .nothing ∧ found) then 2 else if found then 0 else 1

end Regen.Shell.Tools
