import Regen.Shell.Builtins.Basic

/-!
# Limits of a process

What a process may use is limited twice: the soft limit counts, and may be set up to the hard one, which
can only be lowered. Processes hand their limits down.

* `Builtins.Resource`    what can be limited, and the unit it is told in;
* `Builtins.ulimit`      shows or sets a limit;
* `Builtins.times`       the time that was used.
-/

namespace Regen.Shell.Builtins

/-- what can be limited: its letter, its name with the unit, how much one of the unit is, and the limit
of a process that nobody limited. -/
structure Resource where
  letter : Char
  name : String
  unit : Nat
  usual : Limit

def resources : List Resource :=
  [⟨'t', "time(seconds)", 1, .none⟩, ⟨'f', "file(blocks)", 512, .none⟩, ⟨'d', "data(kbytes)", 1024, .none⟩,
   ⟨'s', "stack(kbytes)", 1024, ⟨some 8388608, none⟩⟩, ⟨'c', "coredump(blocks)", 512, .none⟩,
   ⟨'m', "memory(kbytes)", 1024, .none⟩, ⟨'l', "locked memory(kbytes)", 1024, .both 8388608⟩,
   ⟨'p', "process", 1, .none⟩, ⟨'n', "nofiles", 1, .both 1048576⟩, ⟨'v', "vmemory(kbytes)", 1024, .none⟩,
   ⟨'w', "locks", 1, .none⟩, ⟨'r', "rtprio", 1, .both 0⟩]

def Resource.limit (r : Resource) (m : Machine) : Limit := (m.limits.lookup r.letter).getD r.usual

def Resource.line (r : Resource) (hard : Bool) (m : Machine) : Chars :=
  let l := r.limit m
  let shown := match if hard then l.hard else l.soft with
    | some n => Nat.toDigits 10 (n / r.unit)
    | none => "unlimited".toList
  shown ++ ['\n']

def Resource.entry (r : Resource) (hard : Bool) (m : Machine) : Chars :=
  let name := r.name.toList
  name ++ List.replicate (20 - name.length) ' ' ++ ' ' :: r.line hard m

def isAbove (a b : Option Nat) : Bool :=
  match a, b with
  | _, none => false
  | none, some _ => true
  | some a, some b => decide (b < a)

def Resource.bound (r : Resource) (word : Chars) : Except Chars (Option Nat) :=
  if word = "unlimited".toList then .ok none
  else if word.all Char.isDigit then .ok (some (Text.decimal word * r.unit))
  else .error "bad number".toList

def Resource.change (r : Resource) (soft hard : Bool) (bound : Option Nat) (m : Machine) : Machine × Except Chars Nat :=
  let old := r.limit m
  let new : Limit := ⟨if soft then bound else old.soft, if hard then bound else old.hard⟩
  let refused (e : SystemError) : Machine × Except Chars Nat :=
    (m, .error ("error setting limit (".toList ++ (Tools.words e).toList ++ [')']))
  if isAbove new.soft new.hard then refused (.code 22)
  else if isAbove new.hard old.hard then refused (.code 1)
  else ({ m with limits := (r.letter, new) :: m.limits.filter fun l => l.1 ≠ r.letter }, .ok 0)

def ulimit : Builtin := withOptions "HSatfdscmlpnvwr" fun opts args m =>
  let letters := opts.map Prod.fst
  let side := (letters.filter fun c => c == 'H' || c == 'S').getLast?
  let all := letters.contains 'a'
  let letter := ((letters.filter fun c => !(['H', 'S', 'a'].contains c)).getLast?).getD 'f'
  match resources.find? fun r => r.letter == letter, args with
  | none, _ => (m, .ok 0)
  | some r, [] =>
    let hard := side == some 'H'
    (m.write 1 (if all then resources.flatMap fun r => r.entry hard m else r.line hard m), .ok 0)
  | some r, word :: more =>
    if all ∨ more ≠ [] then (m, .error "too many arguments".toList)
    else match r.bound word with
      | .error e => (m, .error e)
      | .ok bound => r.change (side != some 'H') (side != some 'S') bound m

def times : Builtin := printing fun _ =>
  "0m0.000000s 0m0.000000s\n0m0.000000s 0m0.000000s\n".toList

end Regen.Shell.Builtins
