import Regen.Toml.Scalar

/-!
# TOML documents

A document is a list of lines: an assignment, a table header, or nothing, each with an optional
comment. Between the parts of an array or an inline table line ends and comments count as blanks;
between the keys of a dotted key they do not.

* `Toml.value?`      reads a value;
* `Toml.keys?`       reads a dotted key;
* `Toml.document?`   the top-level entries of a document, none if the text is no TOML.
-/

namespace Regen.Toml

/-- how deep brackets and braces may be nested, and how many keys there may be between dots. -/
def depthLimit : Nat := 80

/-! ## blanks, comments and line ends -/

def isSpace (c : Char) : Bool := c = ' ' || c = '\t'

def skipSpaces (cs : List Char) : List Char := cs.dropWhile isSpace

def isControl (c : Char) : Bool := (c.toNat < 0x20 && c ≠ '\t') || c.toNat = 0x7F

def afterBreak? : List Char → Option (List Char)
  | '\n' :: cs => some cs
  | '\r' :: '\n' :: cs => some cs
  | _ => none

def skipComment : List Char → List Char
  | '#' :: cs => cs.dropWhile fun c => !isControl c
  | cs => cs

def endLine? (cs : List Char) : Option (List Char) :=
  match skipComment (skipSpaces cs) with
  | [] => some []
  | cs => afterBreak? cs

/-- a text without leading blanks, comments and line ends, given how many lines may go. -/
def skipLines : Nat → List Char → List Char
  | 0, cs => cs
  | n + 1, cs =>
    let cs := skipComment (skipSpaces cs)
    match afterBreak? cs with
    | some cs => skipLines n cs
    | none => cs

/-- a text without leading blanks, comments and line ends. -/
def skipGap (cs : List Char) : List Char := skipLines cs.length cs

/-! ## quoted texts -/

/-- the character of a hexadecimal number of so many digits, and the rest. -/
def scalarValue? (n : Nat) (cs : List Char) : Option (Char × List Char) :=
  let ds := cs.take n
  let v := inBase 16 ds
  if ds.length = n && ds.all isHexDigit && (v < 0xD800 || (0xE000 ≤ v && v ≤ 0x10FFFF)) then
    some (Char.ofNat v, cs.drop n)
  else none

def escape? : List Char → Option (Char × List Char)
  | 'b' :: cs => some ('\x08', cs)
  | 't' :: cs => some ('\t', cs)
  | 'n' :: cs => some ('\n', cs)
  | 'f' :: cs => some ('\x0c', cs)
  | 'r' :: cs => some ('\r', cs)
  | 'e' :: cs => some ('\x1b', cs)
  | '"' :: cs => some ('"', cs)
  | '\\' :: cs => some ('\\', cs)
  | 'x' :: cs => scalarValue? 2 cs
  | 'u' :: cs => scalarValue? 4 cs
  | 'U' :: cs => scalarValue? 8 cs
  | _ => none

/-- the rest of a text between double quotes, on one line; the text is gathered in reverse. -/
def basic? : Nat → List Char → List Char → Option (List Char × List Char)
  | 0, _, _ => none
  | n + 1, out, cs =>
    match cs with
    | '"' :: cs => some (out.reverse, cs)
    | '\\' :: cs =>
      match escape? cs with
      | some (c, cs) => basic? n (c :: out) cs
      | none => none
    | c :: cs => if isControl c then none else basic? n (c :: out) cs
    | [] => none

/-- the rest of a text between single quotes, on one line. -/
def literal? : List Char → List Char → Option (List Char × List Char)
  | out, '\'' :: cs => some (out.reverse, cs)
  | out, c :: cs => if isControl c then none else literal? (c :: out) cs
  | _, [] => none

/-- at the closing quotes of a text of several lines: up to two more belong to the text. -/
def closing (quote : Char) (out : List Char) (cs : List Char) : Option (List Char × List Char) :=
  let extra := min 2 (cs.takeWhile (· = quote)).length
  some ((List.replicate extra quote ++ out).reverse, cs.drop extra)

def keptBreak? : List Char → Option (List Char × List Char)
  | '\n' :: cs => some (['\n'], cs)
  | '\r' :: '\n' :: cs => some (['\n', '\r'], cs)
  | _ => none

def skipBlankLines : List Char → List Char
  | '\r' :: '\n' :: cs => skipBlankLines cs
  | c :: cs => if isSpace c || c = '\n' then skipBlankLines cs else c :: cs
  | [] => []

/-- what follows a backslash at the end of a line: the next text, on whatever line it stands. -/
def afterFold? (cs : List Char) : Option (List Char) :=
  (afterBreak? (skipSpaces cs)).map skipBlankLines

/-- the rest of a text between three double quotes. -/
def longBasic? : Nat → List Char → List Char → Option (List Char × List Char)
  | 0, _, _ => none
  | n + 1, out, cs =>
    match cs with
    | '"' :: '"' :: '"' :: cs => closing '"' out cs
    | '\\' :: cs =>
      match escape? cs with
      | some (c, cs) => longBasic? n (c :: out) cs
      | none =>
        match afterFold? cs with
        | some cs => longBasic? n out cs
        | none => none
    | cs =>
      match keptBreak? cs with
      | some (kept, cs) => longBasic? n (kept ++ out) cs
      | none =>
        match cs with
        | c :: cs => if isControl c then none else longBasic? n (c :: out) cs
        | [] => none

/-- the rest of a text between three single quotes. -/
def longLiteral? : Nat → List Char → List Char → Option (List Char × List Char)
  | 0, _, _ => none
  | n + 1, out, cs =>
    match cs with
    | '\'' :: '\'' :: '\'' :: cs => closing '\'' out cs
    | cs =>
      match keptBreak? cs with
      | some (kept, cs) => longLiteral? n (kept ++ out) cs
      | none =>
        match cs with
        | c :: cs => if isControl c then none else longLiteral? n (c :: out) cs
        | [] => none

/-- a text of several lines without the line end it starts with. -/
def dropBreak (cs : List Char) : List Char := (afterBreak? cs).getD cs

def quotedText? (cs : List Char) : Option (List Char × List Char) :=
  match cs with
  | '"' :: '"' :: '"' :: cs => longBasic? (cs.length + 1) [] (dropBreak cs)
  | '\'' :: '\'' :: '\'' :: cs => longLiteral? (cs.length + 1) [] (dropBreak cs)
  | '"' :: cs => basic? (cs.length + 1) [] cs
  | '\'' :: cs => literal? [] cs
  | _ => none

/-! ## keys -/

def isBare (c : Char) : Bool :=
  ('a' ≤ c && c ≤ 'z') || ('A' ≤ c && c ≤ 'Z') || Text.isDigit c || c = '-' || c = '_'

def key? (cs : List Char) : Option (String × List Char) :=
  match cs with
  | '"' :: cs => (basic? (cs.length + 1) [] cs).map fun r => (String.ofList r.1, r.2)
  | '\'' :: cs => (literal? [] cs).map fun r => (String.ofList r.1, r.2)
  | cs =>
    let k := cs.takeWhile isBare
    if k = [] then none else some (String.ofList k, cs.dropWhile isBare)

def keysUpTo? : Nat → List Char → Option (List String × List Char)
  | 0, _ => none
  | n + 1, cs =>
    match key? (skipSpaces cs) with
    | none => none
    | some (k, cs) =>
      match skipSpaces cs with
      | '.' :: cs => (keysUpTo? n cs).map fun r => (k :: r.1, r.2)
      | cs => some ([k], cs)

def keys? (cs : List Char) : Option (List String × List Char) := keysUpTo? depthLimit cs

/-! ## values -/

def isWord (c : Char) : Bool := isBare c || c = '+' || c = '.' || c = ':'

/-- a value without quotes or brackets, and the rest. A date goes on after a blank if a digit
follows. -/
def word? (cs : List Char) : Option (Value × List Char) :=
  let w := cs.takeWhile isWord
  let rest := cs.dropWhile isWord
  match afterDate? w, rest with
  | some [], ' ' :: d :: more =>
    if Text.isDigit d then
      let w := w ++ ' ' :: (d :: more).takeWhile isWord
      (scalar? w).map fun v => (v, (d :: more).dropWhile isWord)
    else some (.moment, rest)
  | _, _ => (scalar? w).map fun v => (v, rest)

mutual

/-- a value, and the rest; `n` bounds how often the reader may step, `depth` how deep it may
nest. -/
def valueUpTo? : Nat → Nat → List Char → Option (Value × List Char)
  | 0, _, _ => none
  | n + 1, depth, cs =>
    match cs with
    | '[' :: cs => if depth = 0 then none else itemsUpTo? n (depth - 1) [] (skipGap cs)
    | '\x7b' :: cs => if depth = 0 then none else pairsUpTo? n (depth - 1) [] (skipGap cs)
    | '"' :: _ => (quotedText? cs).map fun r => (.text (String.ofList r.1), r.2)
    | '\'' :: _ => (quotedText? cs).map fun r => (.text (String.ofList r.1), r.2)
    | cs => word? cs

def itemsUpTo? : Nat → Nat → List Value → List Char → Option (Value × List Char)
  | 0, _, _, _ => none
  | n + 1, depth, out, cs =>
    match cs with
    | ']' :: cs => some (.array out.reverse, cs)
    | cs =>
      match valueUpTo? n depth cs with
      | none => none
      | some (v, cs) =>
        match skipGap cs with
        | ',' :: cs => itemsUpTo? n depth (v :: out) (skipGap cs)
        | ']' :: cs => some (.array (v :: out).reverse, cs)
        | _ => none

/-- the rest of an inline table, after the entries gathered so far. -/
def pairsUpTo? : Nat → Nat → Entries → List Char → Option (Value × List Char)
  | 0, _, _, _ => none
  | n + 1, depth, es, cs =>
    match cs with
    | '\x7d' :: cs => some (.table (toEntries es), cs)
    | cs =>
      match keys? cs with
      | none => none
      | some (ks, cs) =>
        match skipGap cs with
        | '=' :: cs =>
          match valueUpTo? n depth (skipGap cs) with
          | none => none
          | some (v, cs) =>
            match assign v ks es with
            | none => none
            | some es =>
              match skipGap cs with
              | ',' :: cs => pairsUpTo? n depth es (skipGap cs)
              | '\x7d' :: cs => some (.table (toEntries es), cs)
              | _ => none
        | _ => none

end

def value? (cs : List Char) : Option (Value × List Char) :=
  valueUpTo? (2 * cs.length + 2) depthLimit cs

/-! ## lines -/

/-- a document under construction: the table of the last header, and all entries. -/
structure Reading where
  header : List String
  entries : Entries

def closeHeader? (close : List Char) (cs : List Char) : Option (List String × List Char) :=
  match keys? cs with
  | none => none
  | some (ks, cs) =>
    if close.isPrefixOf cs then some (ks, cs.drop close.length) else none

def line? (r : Reading) (cs : List Char) : Option (Reading × List Char) :=
  match cs with
  | '[' :: '[' :: cs => do
    let (ks, cs) ← closeHeader? [']', ']'] cs
    let es ← openElement ks r.entries
    return (⟨ks, es⟩, ← endLine? cs)
  | '[' :: cs => do
    let (ks, cs) ← closeHeader? [']'] cs
    let es ← openTable ks r.entries
    return (⟨ks, es⟩, ← endLine? cs)
  | cs => do
    let (ks, '=' :: cs) ← keys? cs | none
    let (v, cs) ← value? (skipSpaces cs)
    let es ← within (assign v ks) r.header r.entries
    return (⟨r.header, es⟩, ← endLine? cs)

def linesUpTo? : Nat → Reading → List Char → Option Entries
  | 0, _, _ => none
  | n + 1, r, cs =>
    match skipGap cs with
    | [] => some r.entries
    | cs =>
      match line? r cs with
      | some (r, cs) => linesUpTo? n r cs
      | none => none

def dropByteOrderMark : List Char → List Char
  | c :: cs => if c = Char.ofNat 0xFEFF then cs else c :: cs
  | [] => []

def document? (text : List Char) : Option (List (String × Value)) :=
  (linesUpTo? (text.length + 1) ⟨[], []⟩ (dropByteOrderMark text)).map toEntries

end Regen.Toml
