import Regen.Shell.Tools.Basic

/-!
# Parts of lines that stand out

What a search shows can stand out by codes around it that terminals take. A setting gives codes for kinds of
parts; what follows a piece of it that is not well formed does not count.

* `Tools.Highlight`          the codes of the kinds of parts;
* `Tools.Highlight.read`     the codes that a setting gives;
* `Tools.around`             a part of what is shown, with its code.
-/

namespace Regen.Shell.Tools

/-- the codes of what is shown by a search, by its kind; an empty one changes nothing. -/
structure Highlight where
  selectedLine : Chars
  contextLine : Chars
  selectedMatch : Chars
  contextMatch : Chars
  name : Chars
  number : Chars
  offset : Chars
  mark : Chars
  /-- lines change their codes with those around them, where lines without a match are selected. -/
  swapped : Bool
  fills : Bool

def Highlight.usual : Highlight where
  selectedLine := []
  contextLine := []
  selectedMatch := "01;31".toList
  contextMatch := "01;31".toList
  name := "35".toList
  number := "32".toList
  offset := "32".toList
  mark := "36".toList
  swapped := false
  fills := true

def isCode (cs : Chars) : Bool := cs.all fun c => c.isDigit || c == ';'

/-- a piece of a setting: a name, and a code after an equals sign if there is one. -/
def settingOf (piece : Chars) : Chars × Option Chars :=
  let name := piece.takeWhile (· ≠ '=')
  (name, (piece.drop name.length).tail?)

def isSetting (piece : Chars) : Bool := piece.head? != some '=' && (settingOf piece).2.all isCode

def Highlight.after (h : Highlight) (s : Chars × Option Chars) : Highlight :=
  let code (old : Chars) : Chars := s.2.getD old
  match String.ofList s.1 with
  | "mt" => { h with selectedMatch := code h.selectedMatch, contextMatch := code h.selectedMatch }
  | "ms" => { h with selectedMatch := code h.selectedMatch }
  | "mc" => { h with contextMatch := code h.contextMatch }
  | "sl" => { h with selectedLine := code h.selectedLine }
  | "cx" => { h with contextLine := code h.contextLine }
  | "fn" => { h with name := code h.name }
  | "ln" => { h with number := code h.number }
  | "bn" => { h with offset := code h.offset }
  | "se" => { h with mark := code h.mark }
  | "rv" => { h with swapped := true }
  | "ne" => { h with fills := false }
  | _ => h

def Highlight.read (h : Highlight) (setting : Chars) : Highlight :=
  let pieces := (endedBy ':' setting).map (bareBy ':')
  ((pieces.takeWhile isSetting).map settingOf).foldl Highlight.after h

def Highlight.withMatches (h : Highlight) (code : Chars) : Highlight :=
  { h with selectedMatch := code, contextMatch := code }

def Highlight.opening (h : Highlight) (code : Chars) : Chars :=
  if code.isEmpty then []
  else "\x1b[".toList ++ code ++ 'm' :: if h.fills then "\x1b[K".toList else []

def Highlight.closing (h : Highlight) (code : Chars) : Chars :=
  if code.isEmpty then [] else "\x1b[m".toList ++ if h.fills then "\x1b[K".toList else []

def around (h : Option Highlight) (kind : Highlight → Chars) (part : Chars) : Chars :=
  match h with
  | some h => h.opening (kind h) ++ part ++ h.closing (kind h)
  | none => part

end Regen.Shell.Tools
