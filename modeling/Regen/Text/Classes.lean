/-!
# Named classes of characters

Patterns and sets of characters may name a class between colons, such as the digits.

* `Text.classRanges`   the characters of a class, as ranges in the order of their codes.
-/

namespace Regen.Text

def classRanges (name : List Char) : List (Char × Char) :=
  match String.ofList name with
  | "lower" => [('a', 'z')]
  | "upper" => [('A', 'Z')]
  | "alpha" => [('A', 'Z'), ('a', 'z')]
  | "digit" => [('0', '9')]
  | "alnum" => [('0', '9'), ('A', 'Z'), ('a', 'z')]
  | "space" => [('\t', '\r'), (' ', ' ')]
  | "blank" => [('\t', '\t'), (' ', ' ')]
  | "xdigit" => [('0', '9'), ('A', 'F'), ('a', 'f')]
  | "punct" => [('!', '/'), (':', '@'), ('[', '\x60'), ('\x7b', '~')]
  | "print" => [(' ', '~')]
  | "graph" => [('!', '~')]
  | "cntrl" => [('\x00', '\x1f'), ('\x7f', '\x7f')]
  | _ => []

end Regen.Text
