import Regen.Shell.Tools.Highlight
import Regen.Text.Regex.Reader

/-!
# Lines that are searched for

A line is selected if one of the expressions matches in it. It may be shown with lines before it and
after it; between groups of lines that do not meet stands a mark.

* `Tools.Search`            what is searched for, and what counts as a match;
* `Tools.SearchOrder`       what `grep` is asked for;
* `Tools.Hits`              how far a search has come;
* `Tools.Hits.look`         one line looked at.
-/

namespace Regen.Shell.Tools

/-- an expression that is searched for: as it finds places in lines, and as it tells whole lines, if it can.
The second one stands for all of what is asked for, and may repeat edges. -/
structure Sought where
  finding : Regex.Matcher
  telling : Option Regex.Matcher

structure Search where
  expressions : List Sought
  words : Bool
  lines : Bool

def bestMatch (ms : List Regex.Match) : Option Regex.Match :=
  match ms with
  | [] => none
  | m :: ms => some (ms.foldl (fun best m =>
      if m.before.length < best.before.length ∨
          (m.before.length = best.before.length ∧ best.matched.length < m.matched.length) then m else best) m)

/-- the first of the ends of a match, the last ones first, at which it stands alone. One that does not is cut
short by at least one character more than were passed over. -/
def aloneAt? (isAlone : Nat → Bool) (passed : Nat) : Nat → List Nat → Option Nat
  | _, [] => none
  | limit, stop :: stops =>
    if limit < stop then aloneAt? isAlone passed limit stops
    else if stop = 0 then none
    else if isAlone stop then some stop
    else if stop ≤ passed then none
    else aloneAt? isAlone passed (stop - 1 - passed) stops

/-- the first match of an expression in a line after a character that is a word: no word characters are
beside it. A match may be cut short for that, if something is left of it. So many characters of the line were
passed over. -/
def wordMatch? (r : Regex.Matcher) (passed : Nat) : Nat → Option Char → Chars → Option Regex.Match
  | 0, _, _ => none
  | n + 1, previous, line =>
    match r.find? previous line with
    | none => none
    | some m =>
      let left := (previous.toList ++ m.before).getLast?
      let rest := m.matched ++ m.after
      let length := m.matched.length
      let isAlone (stop : Nat) : Bool := !left.any Regex.isWordChar && !rest[stop]?.any Regex.isWordChar
      let stop? := if isAlone length then some length
        else if length ≤ passed then none
        else aloneAt? isAlone passed (length - 1 - passed) (r.ends left rest).reverse
      match stop?, rest with
      | some stop, _ => some { m with matched := rest.take stop, after := rest.drop stop }
      | none, [] => none
      | none, c :: rest =>
        (wordMatch? r passed n (some c) rest).map fun t => { t with before := m.before ++ c :: t.before }

def lineMatch? (r : Regex.Matcher) (previous : Option Char) (line : Chars) : Option Regex.Match :=
  if previous.isNone ∧ (r.ends none line).contains line.length then some ⟨[], line, [], []⟩ else none

/-- the match of an expression in a line after a character, as far as it counts, where so many characters
were passed over. -/
def Search.matchOf? (s : Search) (passed : Nat) (previous : Option Char) (line : Chars) (r : Regex.Matcher) :
    Option Regex.Match :=
  if s.lines then lineMatch? r previous line
  else if s.words then wordMatch? r passed (line.length + 1) previous line
  else r.find? previous line

def Search.find? (s : Search) (passed : Nat) (previous : Option Char) (line : Chars) : Option Regex.Match :=
  bestMatch (s.expressions.filterMap fun e => s.matchOf? passed previous line e.finding)

def Search.selects (s : Search) (line : Chars) : Bool :=
  s.expressions.any fun e =>
    match e.telling with
    | some r => r.matches line
    | none => (s.matchOf? 0 none line e.finding).isSome

def Search.matched (s : Search) : Nat → Option Char → Nat → Chars → List (Nat × Chars)
  | 0, _, _, _ => []
  | n + 1, previous, place, line =>
    match s.find? place previous line with
    | none => []
    | some m =>
      let start := place + m.before.length
      if m.matched.isEmpty then
        match m.after with
        | [] => []
        | c :: rest => s.matched n (some c) (start + 1) rest
      else (start, m.matched) :: s.matched n m.matched.getLast? (start + m.matched.length) m.after

/-- how expressions are written in basic and in extended ones; edges can be repeated, or they cannot. -/
def searchDialect (extended repeatsEdges fold : Bool) : Regex.Dialect where
  extended := extended
  limited := false
  needsPiece := false
  repeatsOnce := false
  keepsParenthesis := extended
  keepsBraces := extended
  repeatsEdges := repeatsEdges
  fold := fold

def surrounded (extended words lines : Bool) (pattern : Chars) : Chars :=
  let opening := if extended then "(" else "\\("
  let closing := if extended then ")" else "\\)"
  let bar := if extended then "|" else "\\|"
  let other := "[^[:alnum:]_]"
  if lines then ("^" ++ opening).toList ++ pattern ++ (closing ++ "$").toList
  else if words then
    (opening ++ "^" ++ bar ++ other ++ closing ++ opening).toList ++ pattern ++
      (closing ++ opening ++ other ++ bar ++ "$" ++ closing).toList
  else pattern

def Sought.ofText (fold : Bool) (text : Chars) : Sought :=
  ⟨.ofRegex ⟨fold, none⟩ (Regex.literally text) 0, none⟩

/-- what is searched for by patterns, each on a line of its own, and what is doubtful in them; or what is
wrong with them. -/
def Search.ofPatterns (o : Choices) (patterns : List Chars) : Except String (Search × List Regex.Doubt) := do
  let kind := (o.last? "EFG").map Prod.fst
  let fold : Bool := ((o.last? "iy\x07").any fun c => c.1 != '\x07')
  let (words, lines) := (o.has 'w', o.has 'x')
  let extended := kind = some 'E'
  let patterns := patterns.flatMap fun p => if p.isEmpty then [[]] else bareLines p
  if kind = some 'F' then return (⟨patterns.map (Sought.ofText fold), words, lines⟩, [])
  let exact ← patterns.mapM fun p => ((searchDialect extended false fold).read p).mapError Regex.Fault.message
  let wide (p : Chars) : Option Regex.Written := ((searchDialect extended true fold).read p).toOption
  let sought := (exact.zip patterns).map fun (e, p) =>
    let finding := e.matcher ⟨fold, none⟩
    let isExact := e.namesSymbol || !finding.program.backs.isEmpty
    let telling := (wide (surrounded extended words lines p)).map fun w => w.matcher ⟨fold, none⟩
    (⟨finding, if isExact then none else telling⟩ : Sought)
  return (⟨sought, words, lines⟩, patterns.flatMap fun p => ((wide p).map Regex.Written.doubts).getD [])

/-! ## what is asked for -/

inductive Showing where
  | lines
  | matched
  | count
  | name (ifSelected : Bool)
  | nothing
  deriving DecidableEq

structure SearchOrder where
  search : Search
  inverted : Bool
  showing : Showing
  numbers : Bool
  offsets : Bool
  before : Option Nat
  after : Option Nat
  most : Option Nat
  separator : Option Chars
  asText : Bool
  passesOver : Bool
  ending : Char
  closesNames : Bool
  /-- a tab comes before a line that something stands in front of. -/
  tabbed : Bool
  numberWidth : Nat
  highlight : Option Highlight

def SearchOrder.endsAtOnce (r : SearchOrder) : Bool :=
  match r.showing with
  | .name _ => true
  | .nothing => true
  | _ => false

/-! ## looking at lines -/

/-- how far a search has come: the line that comes next, with how many lines and characters are before it,
how many are selected, and what is to be shown. -/
structure Hits where
  number : Nat
  offset : Nat
  selected : Nat
  front : List (Nat × Nat × Chars)
  pending : Nat
  shownUpTo : Option Nat
  hasShown : Bool
  isBinary : Bool
  out : List Chars
  since : List Chars

def Hits.start : Hits := ⟨0, 0, 0, [], 0, none, false, false, [], []⟩

def Hits.next (h : Hits) : Hits := { Hits.start with hasShown := h.hasShown, out := h.out }

def SearchOrder.nameHead (r : SearchOrder) (name : Chars) (mark : Char) : Chars :=
  around r.highlight Highlight.name name ++
    if r.closesNames then ['\x00'] else around r.highlight Highlight.mark [mark]

/-- what stands in front of a part of a line: what it is told by, and marks. -/
def SearchOrder.head (r : SearchOrder) (label : Option Chars) (mark : Char) (number offset : Nat) (part : Chars) : Chars :=
  let counted (isAsked : Bool) (kind : Highlight → Chars) (n : Nat) : Chars :=
    if isAsked then around r.highlight kind (padded r.numberWidth n) ++ around r.highlight Highlight.mark [mark] else []
  let told := (label.map fun f => r.nameHead f mark).getD [] ++ counted r.numbers Highlight.number (number + 1) ++
    counted r.offsets Highlight.offset offset
  told ++ if r.tabbed ∧ told ≠ [] ∧ part ≠ [] then ['\t'] else []

/-- a line whose parts stand out, where a match in it begins a part. -/
def Highlight.line (h : Highlight) (lineCode matchCode : Chars) (matched : List (Nat × Chars)) (line : Chars) : Chars :=
  let parts := if matchCode.isEmpty then [] else matched
  let (begun, place) := parts.foldl (fun ((out, place) : List Chars × Nat) (start, part) =>
    ((h.opening matchCode ++ part ++ h.closing matchCode) :: (line.take start).drop place :: h.opening lineCode :: out,
      start + part.length)) ([], 0)
  let rest := line.drop place
  let bare := bareBy '\r' rest
  begun.reverse.flatten ++
    if bare.isEmpty then rest else h.opening lineCode ++ bare ++ h.closing lineCode ++ rest.drop bare.length

def SearchOrder.body (r : SearchOrder) (isSelected : Bool) (line : Chars) : Chars :=
  match r.highlight with
  | none => line
  | some h =>
    let lineCode := if isSelected != (r.inverted && h.swapped) then h.selectedLine else h.contextLine
    let matchCode := if isSelected then h.selectedMatch else h.contextMatch
    h.line lineCode matchCode (if isSelected != r.inverted then r.search.matched (line.length + 1) none 0 line else []) line

def Hits.show (r : SearchOrder) (label : Option Chars) (h : Hits) (isSelected : Bool) (l : Nat × Nat × Chars) : Hits :=
  let (number, offset, line) := l
  let out : List Chars := match r.showing with
    | .matched =>
      let kind := if isSelected then Highlight.selectedMatch else Highlight.contextMatch
      if isSelected != r.inverted then
        (r.search.matched (line.length + 1) none 0 line).map fun part =>
          r.head label (if r.inverted then '-' else ':') number (offset + part.1) part.2 ++
            around r.highlight kind part.2 ++ [r.ending]
      else []
    | _ => [r.head label (if isSelected then ':' else '-') number offset line ++ r.body isSelected line ++ [r.ending]]
  { h with out := out.reverse ++ h.out, shownUpTo := some number }

def Hits.select (r : SearchOrder) (label : Option Chars) (h : Hits) (l : Nat × Nat × Chars) : Hits :=
  let h := { h with selected := h.selected + 1, since := [] }
  if h.isBinary ∨ r.endsAtOnce ∨ r.showing = .count then h
  else
    let first := (h.front.getLast?.getD l).1
    let meets := h.shownUpTo.any fun n => n + 1 == first
    let h := if (r.before.isSome || r.after.isSome) && h.hasShown && !meets then
        { h with out := (r.separator.map fun s => around r.highlight Highlight.mark s ++ ['\n']).toList ++ h.out }
      else h
    let h := h.front.foldr (fun l h => h.show r label false l) h
    { h.show r label true l with front := [], pending := r.after.getD 0, hasShown := true }

def Hits.isDone (r : SearchOrder) (h : Hits) : Bool :=
  (0 < h.selected && (r.endsAtOnce || (h.isBinary && r.showing != .count))) ||
    (r.most.any (· ≤ h.selected) && h.pending == 0)

def Hits.look (r : SearchOrder) (label : Option Chars) (h : Hits) (line : Chars) : Hits :=
  let bare := bareBy r.ending line
  let l := (h.number, h.offset, bare)
  let mayCount := !r.most.any (· ≤ h.selected)
  let h' := { h with number := h.number + 1, offset := h.offset + line.length, since := line :: h.since }
  if mayCount && (r.search.selects bare != r.inverted) then h'.select r label l
  else if 0 < h.pending then { h'.show r label false l with pending := h.pending - 1 }
  else { h' with front := (l :: h.front).take (r.before.getD 0) }

/-- lines looked at until enough of the file has been; and those that are left. -/
def Hits.lookAll (r : SearchOrder) (label : Option Chars) : List Chars → Hits → Hits × List Chars
  | [], h => (h, [])
  | l :: ls, h =>
    if h.isDone r then (h, l :: ls)
    else (h.look r label l).lookAll r label ls

/-- lines that have come; from those with a zero in them on, a file is no text. -/
def Hits.lookAtBlock (r : SearchOrder) (label : Option Chars) (lines : List Chars) (h : Hits) : Hits × List Chars :=
  let isBinary := h.isBinary || (!r.asText && r.ending != '\x00' && lines.any fun l => l.contains '\x00')
  { h with isBinary := isBinary }.lookAll r label lines

end Regen.Shell.Tools
