import Regen.Shell.Tools.Basic

/-!
# Waiting

* `Tools.milliseconds`   how long a number with a unit is;
* `Tools.restOf`         how long `sleep` is asked to wait.
-/

namespace Regen.Shell.Tools

def milliseconds (cs : Chars) : Option Nat :=
  let whole := cs.takeWhile Char.isDigit
  let rest := cs.drop whole.length
  let fraction := match rest with
    | '.' :: ds => ds.takeWhile Char.isDigit
    | _ => []
  let unit := match rest with
    | '.' :: ds => ds.drop fraction.length
    | _ => rest
  let scale := match unit with
    | [] => some 1
    | ['s'] => some 1
    | ['m'] => some 60
    | ['h'] => some 3600
    | ['d'] => some 86400
    | _ => none
  if whole = [] ∧ fraction = [] then none
  else scale.map fun s =>
    s * (1000 * Text.decimal whole + Text.decimal ((fraction ++ ['0', '0', '0']).take 3))

/-- whether a time never comes to an end. -/
def isForever (cs : Chars) : Bool := ["inf", "infinity"].contains (String.ofList (cs.map Char.toLower))

/-- how long `sleep` is asked to wait, in milliseconds, and whether for ever; or the machine with a
complaint. -/
def restOf (m : Machine) (args : List Chars) : Except Machine (Nat × Bool) :=
  match (readOptions [] false args).checked allowed with
  | .error e => .error (denounce m e)
  | .ok (_, times) =>
    let wrong := times.filter fun t => !isForever t && (milliseconds t).isNone
    match times, wrong.getLast? with
    | [], _ => .error (misused m "missing operand")
    | _, some last =>
      let m := wrong.dropLast.foldl (fun m t => accuse m (about "invalid time interval" t).toList) m
      .error (misused m (about "invalid time interval" last))
    | _, none => .ok ((times.filterMap milliseconds).foldl (· + ·) 0, times.any isForever)

end Regen.Shell.Tools
