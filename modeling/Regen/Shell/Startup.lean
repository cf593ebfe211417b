import Regen.Shell.Builtins

/-!
# The start of a shell

A shell starts with the variables of its environment and some of its own, and without anything that
the one before it had but the signals it ignores.

* `Startup.bindings`     the variables of a shell that starts;
* `Startup.fresh`        the machine of a shell that starts;
* `Startup.deferred`     the machine of a subshell.
-/

namespace Regen.Shell.Startup

/-- the variables of a shell that a process started in a directory and an environment. Of two entries with
one name the later one counts, and some variables have a value of their own, whatever the environment says. -/
def bindings (parent : Nat) (way : Place) (environment : List (Chars × Chars)) : List (Chars × Variable) :=
  let isGiven (name : Chars) : Bool := environment.any fun v => v.1 == name
  let own (name : String) (value : Chars) : Chars × Variable := (name.toList, ⟨some value, isGiven name.toList, false⟩)
  let fixed := [own "IFS" [' ', '\t', '\n'], own "OPTIND" ['1'], own "PPID" (Nat.toDigits 10 parent),
    ("PWD".toList, ⟨some (Builtins.pathOf way), true, false⟩)]
  let taken := environment.filter fun v => Reader.isName v.1 && (fixed.lookup v.1).isNone
  let given := taken.foldl (fun vs v => withEntry v.1 (⟨some v.2, true, false⟩ : Variable) vs) []
  let defaults := [own "PATH" Names.standardPath, own "PS1" ['#', ' '], own "PS2" ['>', ' '], own "PS4" ['+', ' ']]
  given ++ defaults.filter (fun v => !isGiven v.1) ++ fixed

/-- the traps that a subshell has from the start: signals that are ignored. -/
def inherited (traps : List (Nat × Chars)) : List (Nat × Chars) := traps.filter fun t => t.2.isEmpty

def fresh (m : Machine) (name : Chars) : Machine :=
  { m with
    root := m.number
    jobs := []
    background := none
    name := name
    arguments := []
    bindings := bindings m.parent m.way m.environment
    functions := []
    aliases := []
    hashed := []
    frames := []
    status := 0
    taken := 0
    kept := none
    traps := []
    deaf := m.deaf ++ (inherited m.traps).map Prod.fst
    switches := []
    loops := 0
    calls := 0
    line := 0
    builtin := none
    optionIndex := 1
    optionOffset := none
    lost := none
    pending := [] }

/-- the machine of a subshell, which reads nothing of the script but what comes from standard input. -/
def deferred (m : Machine) : Machine :=
  { m with
    jobs := []
    traps := inherited m.traps
    pending := []
    readUpTo := if m.isOn .stdin then m.readUpTo else 1 }

end Regen.Shell.Startup
