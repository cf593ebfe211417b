import Regen.Shell.Syntax

/-!
# Names and values in complaints and listings

Programs show the name of a file so that a shell could read it back: as it stands if nothing in it is
special, and between quotes otherwise. Other arguments stand between quotes as they would in a program's
text. Listings may show names in other ways.

* `Tools.shown`       a name as complaints show it;
* `Tools.cited`       a value as complaints show it;
* `Tools.NameStyle`   the ways in which listings show names.
-/

namespace Regen.Shell.Tools

def isBare (c : Char) : Bool := c < ' ' || '~' < c

def escape (c : Char) : Chars :=
  match ("\x07\x08\t\n\x0b\x0c\r".toList.zip "abtnvfr".toList).lookup c with
  | some letter => ['\\', letter]
  | none =>
    let digit (weight : Nat) : Char := Char.ofNat (48 + c.toNat / weight % 8)
    ['\\', digit 64, digit 8, digit 1]

/-- whether a name means something else to a shell; `isOdd` are the characters that count besides the usual. -/
def isSpecial (isOdd : Char → Bool) (name : Chars) : Bool :=
  name.isEmpty || ["\x7b", "\x7d"].contains (String.ofList name) || name.head?.any ("#~".toList.contains ·) ||
    name.any fun c => isOdd c || " !\"$&'()*;<=>[^`|?\\".toList.contains c

def isMild (name : Chars) : Bool :=
  name.zipIdx.all fun (c, i) =>
    c.isAlphanum || " '%+,-./:]_@".toList.contains c || (i == 0 && "#~".toList.contains c)

/-- the rest of a name inside single quotes, or behind a byte that was escaped. -/
def inQuotes : Bool → Chars → Chars
  | _, [] => []
  | escaping, c :: cs =>
    if isBare c then (if escaping then [] else "'$'".toList) ++ escape c ++ inQuotes true cs
    else if c = '\'' then "'\\''".toList ++ inQuotes false cs
    else (if escaping then ['\'', '\''] else []) ++ c :: inQuotes false cs

def quotedName (name : Chars) : Chars :=
  if name.contains '\'' ∧ isMild name then '"' :: name ++ ['"'] else '\'' :: inQuotes false name ++ ['\'']

def shown (always : Bool) (name : Chars) : Chars :=
  if ¬ always ∧ ¬ isSpecial (fun c => isBare c || c == ':') name then name else quotedName name

/-- a value as complaints show it: between quotes, with a backslash before a quote and a backslash in it,
and escapes for what has no printed form. -/
def cited (value : Chars) : Chars :=
  let piece (c : Char) : Chars := if c = '\'' ∨ c = '\\' then ['\\', c] else if isBare c then escape c else [c]
  '\'' :: value.flatMap piece ++ ['\'']

/-! ## listings -/

inductive NameStyle where
  | literal
  /-- in quotes where a shell needs them; bytes without a printed form stand for themselves. -/
  | shell (always : Bool)
  | shellEscape (always : Bool)
  /-- in double quotes, as in a program's text; only where it is needed, unless it always is. -/
  | programText (always : Bool)
  | escape
  | cited
  deriving DecidableEq

def nameStyles : List (List String × NameStyle) :=
  [(["literal"], .literal), (["shell"], .shell false), (["shell-always"], .shell true),
   (["shell-escape"], .shellEscape false), (["shell-escape-always"], .shellEscape true), (["c"], .programText true),
   (["c-maybe"], .programText false), (["escape"], .escape), (["locale"], .cited), (["clocale"], .programText true)]

def inProgramText (quotes : Bool) (name : Chars) : Chars :=
  let piece (c : Char) : Chars :=
    if c = '\\' then ['\\', '\\']
    else if quotes ∧ c = '"' then ['\\', '"']
    else if ¬ quotes ∧ c = ' ' then ['\\', ' ']
    else if isBare c then Tools.escape c else [c]
  name.flatMap piece

def inPlainQuotes (name : Chars) : Chars :=
  if name.contains '\'' ∧ isMild name then '"' :: name ++ ['"']
  else '\'' :: name.flatMap (fun c => if c = '\'' then "'\\''".toList else [c]) ++ ['\'']

/-- a name in a listing. A directory that heads a list has a colon after its name, so that colons in it count. -/
def NameStyle.show (s : NameStyle) (heads : Bool) (name : Chars) : Chars :=
  let counts (c : Char) : Bool := heads && c == ':'
  let colons (cs : Chars) : Chars := cs.flatMap fun c => if counts c then ['\\', c] else [c]
  match s with
  | .literal => name
  | .shell always =>
    if always ∨ isSpecial (fun c => counts c || ['\t', '\n', '\r'].contains c) name then inPlainQuotes name else name
  | .shellEscape always =>
    if always ∨ isSpecial (fun c => counts c || isBare c) name then quotedName name else name
  | .programText always =>
    if always ∨ name.any (fun c => isBare c || c == '"') then '"' :: colons (inProgramText true name) ++ ['"'] else name
  | .escape => colons (inProgramText false name)
  | .cited => Tools.cited name

end Regen.Shell.Tools
