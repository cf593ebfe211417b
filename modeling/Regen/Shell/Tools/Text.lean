import Regen.Shell.Format
import Regen.Shell.Tools.Basic

/-!
# Arguments written

* `Tools.echo`
-/

namespace Regen.Shell.Tools

/-- the letters `n`, `e` and `E` that the arguments of the program `echo` start with, and the arguments
after them. -/
def echoOptions : List Chars → Chars × List Chars
  | ('-' :: c :: cs) :: rest =>
    if (c :: cs).all fun c => c == 'n' || c == 'e' || c == 'E' then
      let r := echoOptions rest
      (c :: cs ++ r.1, r.2)
    else ([], ('-' :: c :: cs) :: rest)
  | args => ([], args)

/-- the program `echo`, which reads escapes only when the last of `e` and `E` tells it to. -/
def echo : Tool := fun args m =>
  let (letters, rest) := echoOptions args
  let text := List.intercalate [' '] rest
  let escapes := (letters.filter fun c => c ≠ 'n').getLast? = some 'e'
  let (out, goesOn) := if escapes then Escape.ofEchoProgram text else (text, true)
  (m.write 1 (if letters.contains 'n' || !goesOn then out else out ++ ['\n']), 0)

end Regen.Shell.Tools
