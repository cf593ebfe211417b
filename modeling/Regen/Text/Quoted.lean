import Regen.Text.Unprintable

/-!
# Quoted text

A text between double quotes, as messages show it: a quote and a backslash get a backslash, the
usual controls their letter, and a character that does not print its number.

* `quoted`       the quoted form of a text;
* `listOf`       texts between brackets, separated by commas.
-/

namespace Regen.Text

/-- a number in lower-case hexadecimal digits. -/
def hex (n : Nat) : List Char := Nat.toDigits 16 n

def escaped (c : Char) : List Char :=
  if c = '"' then ['\\', '"']
  else if c = '\\' then ['\\', '\\']
  else if c = '\n' then ['\\', 'n']
  else if c = '\r' then ['\\', 'r']
  else if c = '\t' then ['\\', 't']
  else if c = Char.ofNat 0 then ['\\', '0']
  else if isUnprintable c then ['\\', 'u', '\x7b'] ++ hex c.toNat ++ ['\x7d']
  else [c]

def quoted (s : String) : String :=
  String.ofList ('"' :: s.toList.flatMap escaped ++ ['"'])

def listOf (items : List String) : String := "[" ++ ", ".intercalate items ++ "]"

end Regen.Text
