import Regen.Shell.Tools.Basic

/-!
# Programs about names

Paths are taken apart as they are written, whether or not anything is there.

* `Tools.lastName`, `Tools.frontOf`   the last part of a path, and what comes before it;
* `Tools.basename`, `Tools.dirname`
* `Tools.printenv`                    the variables of the environment.
-/

namespace Regen.Shell.Tools

/-- a path without the slashes at its end, unless it is the root. -/
def trimmed (path : Chars) : Chars :=
  let rest := (path.reverse.dropWhile (· == '/')).reverse
  if rest.isEmpty then path.take 1 else rest

def lastName (path : Chars) : Chars :=
  let path := trimmed path
  if path = ['/'] then path else (path.reverse.takeWhile (· ≠ '/')).reverse

def frontOf (path : Chars) : Chars :=
  let front := ((trimmed path).reverse.dropWhile (· ≠ '/')).reverse
  if path.head? = some '/' ∧ (trimmed path) = ['/'] then ['/']
  else if front.isEmpty then ['.'] else trimmed front

def inside (directory name : Chars) : Chars :=
  if directory.getLast? = some '/' then directory ++ name else directory ++ '/' :: name

def withoutSuffix (suffix name : Chars) : Chars :=
  if suffix.isSuffixOf name ∧ suffix ≠ name then name.take (name.length - suffix.length) else name

def closed (o : Choices) (letter : Char) (name : Chars) : Chars :=
  name ++ [if o.has letter then '\x00' else '\n']

def basename : Tool :=
  withOptions ([valued 's' "suffix"] ++ switches [('a', "multiple"), ('z', "zero")]) false 1 fun o names m =>
    let several := o.has 'a' || (o.value? 's').isSome
    match names with
    | [] => (misused m "missing operand", 1)
    | name :: rest =>
      match several, rest with
      | false, _ :: extra :: _ => (misused m (about "extra operand" extra), 1)
      | false, _ => (m.write 1 (closed o 'z' (withoutSuffix (rest.headD []) (lastName name))), 0)
      | true, _ =>
        (m.write 1 (names.flatMap fun n => closed o 'z' (withoutSuffix ((o.value? 's').getD []) (lastName n))), 0)

def dirname : Tool :=
  withOptions (switches [('z', "zero")]) true 1 fun o names m =>
    if names.isEmpty then (misused m "missing operand", 1)
    else (m.write 1 (names.flatMap fun n => closed o 'z' (frontOf n)), 0)

def printenv : Tool :=
  withOptions (switches [('0', "null")]) false 2 fun o names m =>
    let entries := m.environment
    if names.isEmpty then (m.write 1 (entries.flatMap fun v => closed o '0' (v.1 ++ '=' :: v.2)), 0)
    else
      let found := names.map fun a => (entries.filter fun v => v.1 == a && a != [] && !a.contains '=').map Prod.snd
      (m.write 1 (found.flatMap fun vs => vs.flatMap (closed o '0')), if found.all fun vs => !vs.isEmpty then 0 else 1)

end Regen.Shell.Tools
