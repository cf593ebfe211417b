import Regen.Shell.Tools.Basic

/-!
# Parts of lines

* `Tools.Ranges`   places in a line: numbers and ranges of them;
* `Tools.cut`      the places of each line;
* `Tools.paste`    the lines of files side by side.
-/

namespace Regen.Shell.Tools

/-! ## places -/

/-- a range of places, counted from one, which goes on to the end if it has none. -/
structure Range where
  first : Nat
  last : Option Nat

abbrev Ranges := List Range

/-- a range as far as it has been read: the digits before and behind a dash, if there is one. -/
structure RangeText where
  start : Chars
  dashed : Bool
  stop : Chars

def RangeText.nothing : RangeText := ⟨[], false, []⟩

def fromZero (field : Bool) : String :=
  if field then "fields are numbered from 1" else "byte/character positions are numbered from 1"

def RangeText.range (field : Bool) (t : RangeText) : Except String Range :=
  let first := if t.start.isEmpty then 1 else Text.decimal t.start
  if ¬ t.dashed then
    if Text.decimal t.start = 0 then .error (fromZero field) else .ok ⟨first, some first⟩
  else if t.start.isEmpty ∧ t.stop.isEmpty then .error "invalid range with no endpoint: -"
  else if t.stop.isEmpty then .ok ⟨first, none⟩
  else if Text.decimal t.stop < first then .error "invalid decreasing range"
  else .ok ⟨first, some (Text.decimal t.stop)⟩

def oneMoreDigit (field : Bool) (digits : Chars) (c : Char) (rest : Chars) : Except String Chars :=
  let digits := digits ++ [c]
  if Text.decimal digits < UInt64.size - 1 then .ok digits
  else
    let number := String.ofList (cited (digits ++ rest.takeWhile Char.isDigit))
    .error ((if field then "field number " else "byte/character offset ") ++ number ++ " is too large")

/-- the ranges of a list in the order in which it gives them, or the first thing that is wrong with it. -/
def Ranges.readAfter (field : Bool) (t : RangeText) : Chars → Except String Ranges
  | [] => return [← t.range field]
  | c :: cs => do
    if c = '-' then
      if t.dashed then throw (if field then "invalid field range" else "invalid byte or character range")
      if ¬ t.start.isEmpty ∧ Text.decimal t.start = 0 then throw (fromZero field)
      readAfter field { t with dashed := true } cs
    else if c = ',' ∨ c = ' ' ∨ c = '\t' then
      let r ← t.range field
      return r :: (← readAfter field .nothing cs)
    else if c.isDigit then
      if t.dashed then
        let digits ← oneMoreDigit field t.stop c cs
        readAfter field { t with stop := digits } cs
      else
        let digits ← oneMoreDigit field t.start c cs
        readAfter field { t with start := digits } cs
    else throw (about (if field then "invalid field value" else "invalid byte/character position") (c :: cs))

/-- a range in front of others that start no earlier; the first of them may be a part of it, or overlap. -/
def Ranges.insertFirst (r : Range) : Ranges → Ranges
  | [] => [r]
  | s :: rs =>
    match r.last with
    | none => [r]
    | some last =>
      if s.first ≤ last then insertFirst ⟨r.first, s.last.map (max last)⟩ rs else r :: s :: rs

def Ranges.merged (rs : Ranges) : Ranges :=
  let merge (rs : Ranges) : Ranges := rs.foldr Ranges.insertFirst []
  merge (rs.mergeSort fun r s => r.first ≤ s.first)

def Ranges.between (start : Nat) : Ranges → Ranges
  | [] => [⟨start, none⟩]
  | r :: rs =>
    let gap : Ranges := if start < r.first then [⟨start, some (r.first - 1)⟩] else []
    match r.last with
    | none => gap
    | some last => gap ++ between (last + 1) rs

def Range.part {α : Type} (r : Range) (items : List α) : List α :=
  let rest := items.drop (r.first - 1)
  match r.last with
  | some last => rest.take (last + 1 - r.first)
  | none => rest

/-! ## places of lines -/

/-- the complaint about a file that cannot be opened or read. -/
def unreadable (m : Machine) (f : Chars) : Source → Machine
  | .unopened e => blame m "" f "" e
  | .unread e => blame m "" f "" e
  | .text _ => m

structure Cutting where
  ranges : Ranges
  delimiter : Option Char
  joint : Chars
  skips : Bool
  ending : Char

def Cutting.line? (c : Cutting) (line : Chars) : Option Chars :=
  match c.delimiter with
  | none => some (List.intercalate c.joint ((c.ranges.map fun r => r.part line).filter fun p => !p.isEmpty))
  | some d =>
    if ¬ line.contains d then if c.skips then none else some line
    else
      let fields := endedBy d line
      let fields := fields.map (bareBy d) ++ if line.getLast? = some d then [[]] else []
      some (List.intercalate c.joint (c.ranges.flatMap fun r => r.part fields))

/-- a text cut, line by line. If fields are separated by what ends lines, the text is one line. -/
def Cutting.text (c : Cutting) (cs : Chars) : Chars :=
  let lines :=
    if cs.isEmpty then [] else if c.delimiter = some c.ending then [cs] else endedBy c.ending cs
  closedBy c.ending (lines.filterMap fun l => c.line? (bareBy c.ending l))

/-- what `cut` is asked for by its options, or what is wrong with them. -/
def Cutting.ofChoices (o : Choices) : Except String Cutting :=
  match o.given.filter fun g => "bcf".toList.contains g.1 with
  | [] => .error "you must specify a list of bytes, characters, or fields"
  | _ :: _ :: _ => .error "only one list may be specified"
  | [(kind, text)] => do
    let field := kind == 'f'
    if ¬ field ∧ o.has 'd' then throw "an input delimiter may be specified only when operating on fields"
    if ¬ field ∧ o.has 's' then
      throw "suppressing non-delimited lines makes sense\n\tonly when operating on fields"
    let ranges := Ranges.merged (← Ranges.readAfter field .nothing text)
    let delimiter := match o.value? 'd' with
      | some value => value.headD '\x00'
      | none => '\t'
    return {
      ranges := if o.has 'C' then ranges.between 1 else ranges
      delimiter := if field then some delimiter else none
      joint := match o.value? 'O' with
        | some [] => ['\x00']
        | some value => value
        | none => if field then [delimiter] else []
      skips := o.has 's'
      ending := o.ending 'z' }

def cutMisuse (letter : Char) (value : Chars) : Option Misuse :=
  if letter = 'd' ∧ 1 < value.length then some ⟨"the delimiter must be a single character", true⟩ else none

def cut : Tool :=
  withChecked (switches [('s', "only-delimited"), ('n', ""), ('C', "complement"), ('z', "zero-terminated")] ++
    valuedAll [('b', "bytes"), ('c', "characters"), ('f', "fields"), ('d', "delimiter"),
      ('O', "output-delimiter")]) true 1 cutMisuse fun o files m =>
    match Cutting.ofChoices o with
    | .error e => (misused m e, 1)
    | .ok c =>
      let (texts, m, status) := gather unreadable (orInput files) m
      closeInput (orInput files) (m.write 1 (texts.flatMap c.text), status)

/-! ## side by side -/

def joinedBy (separators : List Chars) (items : List Chars) : Chars :=
  ((items.zipIdx).flatMap fun (item, i) =>
    (if i = 0 then [] else separators.getD ((i - 1) % separators.length) ['\t']) ++ item)

/-- the separators that a list stands for, or none if it ends in a backslash. A backslash and a zero stand
for nothing between two items. -/
def separatorsOf? : Chars → Option (List Chars)
  | [] => some []
  | ['\\'] => none
  | '\\' :: c :: cs =>
    let separator := if c = '0' then [] else [(("bfnrtv".toList.zip "\x08\x0c\n\r\t\x0b".toList).lookup c).getD c]
    (separatorsOf? cs).map (separator :: ·)
  | c :: cs => (separatorsOf? cs).map ([c] :: ·)

def shareInput (files : List Chars) (columns : List (List Chars)) : List (List Chars) :=
  let count := files.count ['-']
  let lines := (((files.zip columns).find? fun p => p.1 == ['-']).map Prod.snd).getD []
  let places := (files.zipIdx.filter fun f => f.1 == ['-']).map Prod.snd
  (columns.zipIdx).map fun (column, i) =>
    match places.idxOf? i with
    | some k => (lines.zipIdx.filter fun l => l.2 % count == k).map Prod.fst
    | none => column

def Source.isOpen : Source → Bool
  | .unopened _ => false
  | _ => true

def pasteFiles (o : Choices) (separators : List Chars) (files : List Chars) (m : Machine) : Machine × Nat :=
  let ending := o.ending 'z'
  let (sources, after) := openSources files m
  let complain (m : Machine) (s : Chars × Source) : Machine := unreadable m s.1 s.2
  let columns := (sources.filter fun s => s.2.isOpen).map fun s =>
    (endedBy ending (s.2.text?.getD [])).map (bareBy ending)
  let told (rows : List (List Chars)) : Machine × Nat :=
    closeInput files ((sources.foldl complain after).write 1 (closedBy ending (rows.map (joinedBy separators))),
      if sources.all fun s => s.2.text?.isSome then 0 else 1)
  if o.has 's' then told columns
  else match sources.find? fun s => !s.2.isOpen with
    | some s => (complain m s, 1)
    | none =>
      if m.endpoint 0 = .closed ∧ files.contains ['-'] ∧ files.any fun f => f ≠ ['-'] then
        (accuse m "standard input is closed".toList, 1)
      else
        let columns := shareInput files columns
        told ((List.range ((columns.map List.length).foldl max 0)).map fun i => columns.map fun c => c.getD i [])

def paste : Tool :=
  withOptions (switches [('s', "serial"), ('z', "zero-terminated")] ++ [valued 'd' "delimiters"]) true 1
    fun o files m =>
      let list := (o.value? 'd').getD ['\t']
      match separatorsOf? (if list.isEmpty then ['\\', '0'] else list) with
      | none => (accuse m ("delimiter list ends with an unescaped backslash: ".toList ++ list), 1)
      | some separators => pasteFiles o separators (orInput files) m

end Regen.Shell.Tools
