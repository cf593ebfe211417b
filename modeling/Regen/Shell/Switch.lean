import Regen.Shell.Syntax

/-!
# Switches

What a shell can be told to do or not to do, with a letter or by name.

* `Switch`             the switches;
* `Switch.ofLetter?`   the switch of a letter;
* `Switch.shown`       the letters of the switches that are on;
* `Switch.turn`        turns one on or off.
-/

namespace Regen.Shell

inductive Switch where
  | errexit
  | noglob
  | ignoreeof
  | interactive
  | monitor
  | noexec
  | stdin
  | xtrace
  | verbose
  | vi
  | emacs
  | noclobber
  | allexport
  | notify
  | nounset
  | privileged
  | nolog
  | debug
  deriving DecidableEq, Repr

namespace Switch

def all : List (Switch × String × Option Char) :=
  [(errexit, "errexit", some 'e'), (noglob, "noglob", some 'f'), (ignoreeof, "ignoreeof", some 'I'),
   (interactive, "interactive", some 'i'), (monitor, "monitor", some 'm'), (noexec, "noexec", some 'n'),
   (stdin, "stdin", some 's'), (xtrace, "xtrace", some 'x'), (verbose, "verbose", some 'v'),
   (vi, "vi", some 'V'), (emacs, "emacs", some 'E'), (noclobber, "noclobber", some 'C'),
   (allexport, "allexport", some 'a'), (notify, "notify", some 'b'), (nounset, "nounset", some 'u'),
   (privileged, "privileged", some 'p'), (nolog, "nolog", none), (debug, "debug", none)]

def ofLetter? (c : Char) : Option Switch := (all.find? fun s => s.2.2 == some c).map Prod.fst

def ofName? (name : Chars) : Option Switch :=
  (all.find? fun s => s.2.1.toList == name).map Prod.fst

def shown (on : List Switch) : Chars :=
  (all.filterMap fun s => if on.contains s.1 then s.2.2 else none).reverse

def turn (on : List Switch) (value : Bool) (s : Switch) : List Switch :=
  let others := on.filter fun t =>
    t != s && !(value && (s == vi && t == emacs || s == emacs && t == vi))
  if value then s :: others else others

def table (on : List Switch) : Chars :=
  "Current option settings\n".toList ++ all.flatMap fun s =>
    let name := s.2.1.toList
    name ++ List.replicate (16 - name.length) ' ' ++
      (if on.contains s.1 then "on\n" else "off\n").toList

def orders (on : List Switch) : Chars :=
  all.flatMap fun s =>
    (if on.contains s.1 then "set -o " else "set +o ").toList ++ s.2.1.toList ++ ['\n']

end Switch
end Regen.Shell
