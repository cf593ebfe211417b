import Regen.Shell.Tools.Basic

/-!
# Questions

A program may ask before it does something, and takes a line of standard input for an answer: yes, if the
line starts with that letter.

* `Tools.ask`          a question and its answer;
* `Tools.afterAsking`  the end of a program that may have asked, which has read more than it used.
-/

namespace Regen.Shell.Tools

/-- a question and its answer. A program that finds no whole line yet has to wait. -/
def ask (m : Machine) (question : Chars) : Bool × Machine :=
  let e := m.endpoint 0
  let (cs, isWhole) := m.incoming e
  let line := cs.takeWhile (· ≠ '\n')
  if line.length = cs.length ∧ ¬ isWhole then (false, m.starve (Machine.hungerFor e))
  else
    let m := m.write 2 (m.name ++ ": ".toList ++ question ++ "? ".toList)
    (line.head?.any fun c => c == 'y' || c == 'Y', m.advance e (min cs.length (line.length + 1)))

def answerBlock : Nat := 4096

/-- the end of a program that may have asked: what it has read of a pipe and not used is lost. -/
def afterAsking (before : Machine) (r : Machine × Nat) : Machine × Nat :=
  let e := r.1.endpoint 0
  match e with
  | .pipe .. =>
    let left := (r.1.incoming e).1.length
    let used := (before.incoming e).1.length - left
    if used = 0 then r else (r.1.advance e (min left ((used + answerBlock - 1) / answerBlock * answerBlock - used)), r.2)
  | _ => r

end Regen.Shell.Tools
