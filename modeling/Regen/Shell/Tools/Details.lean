import Regen.Shell.Tools.Dates
import Regen.Shell.Tools.Destination

/-!
# Details of files

What a listing tells about a file besides its name: its kind and permissions, how many names it has, how large it
is and when it was modified.

* `Tools.kindLetter`, `Tools.markFor`   what a name stands for, as a letter and as a mark after it;
* `Tools.sizeOf`, `Tools.blocksOf`      how large a file is;
* `Tools.Units`                         how sizes are written;
* `Tools.TimeStyle`                     how times are written.
-/

namespace Regen.Shell.Tools

/-! ## kinds -/

def kindLetter : Entry → Char
  | .directory => 'd'
  | .link _ => 'l'
  | .descriptor _ => 'l'
  | .device _ => 'c'
  | .pipe => 'p'
  | _ => '-'

inductive Marking where
  | none
  | slashes
  | kinds
  | all
  deriving DecidableEq

def markFor (k : Marking) (n : Node) : Chars :=
  match k, n.entry with
  | .none, _ => []
  | _, .directory => ['/']
  | .slashes, _ => []
  | _, .link _ => ['@']
  | _, .descriptor _ => ['@']
  | _, .pipe => ['|']
  | .all, .file _ => if n.mode.runsForAny then ['*'] else []
  | .all, .tool _ => ['*']
  | _, _ => []

/-! ## sizes -/

def sizeOf (n : Node) : Nat :=
  match n.entry with
  | .file bytes => bytes.size
  | .tool name => 4096 * (8 + name.length)
  | .link p => p.raw.length
  | .descriptor _ => 15
  | .directory => 4096
  | _ => 0

def blocksOf (n : Node) : Nat :=
  match n.entry with
  | .directory => 8
  | .file _ => 8 * ((sizeOf n + 4095) / 4096)
  | .tool _ => 8 * ((sizeOf n + 4095) / 4096)
  | _ => 0

def deviceNumbers : Device → Nat × Nat
  | .null => (1, 3)
  | .zero => (1, 5)
  | .full => (1, 7)
  | .terminal => (5, 0)

/-- how sizes are written: in units of so many bytes, with a letter after them, or in the largest unit that
gives a number of one or more, which is a power of a base. -/
inductive Units where
  | fixed (size : Nat) (letter : Chars)
  | fitting (base : Nat)

def unitLetters : Chars := "KMGTPEZYRQ".toList

/-- a number in the largest unit that fits, with one place if it is small; what is left over counts up. -/
def fitted (base n : Nat) : Chars :=
  let power (k : Nat) : Nat := Nat.pow base k
  let k := ((List.range 11).filter fun k => decide (k ≠ 0 ∧ power k ≤ n)).getLast?.getD 0
  let write (k : Nat) : Chars × Bool :=
    let up (d : Nat) : Nat := (n + d - 1) / d
    let letter : Chars := (unitLetters[k - 1]?).toList.map fun c => if base = 1000 ∧ c = 'K' then 'k' else c
    if k = 0 then (Nat.toDigits 10 n, false)
    else
      let tenths := (10 * n + power k - 1) / power k
      if tenths < 100 then (Nat.toDigits 10 (tenths / 10) ++ '.' :: Nat.toDigits 10 (tenths % 10) ++ letter, false)
      else (Nat.toDigits 10 (up (power k)) ++ letter, decide (base ≤ up (power k)))
  let first := write k
  if first.2 then (write (k + 1)).1 else first.1

def Units.show (u : Units) (bytes : Nat) : Chars :=
  match u with
  | .fixed size letter => Nat.toDigits 10 ((bytes + size - 1) / size) ++ letter
  | .fitting base => fitted base bytes

/-! ## times -/

def twoDigits (n : Nat) (pad : Char) : Chars :=
  let ds := Nat.toDigits 10 n
  List.replicate (2 - ds.length) pad ++ ds

def timePart (t : Time) (c : Char) : Chars :=
  let nanos := Dates.nanosOf t
  let day := nanos / Dates.dayNanos
  let inDay := (nanos % Dates.dayNanos).toNat
  let d := Calendar.dateOf day
  let (hour, minute, second) := (inDay / 3600000000000, inDay / 60000000000 % 60, inDay / 1000000000 % 60)
  let name (names : List String) (i : Nat) : Chars := ((names[i]?).getD "").toList
  let year : Chars := if d.year < 0 then '-' :: Nat.toDigits 10 d.year.natAbs else Nat.toDigits 10 d.year.toNat
  let date (sep : Char) : Chars := twoDigits d.month '0' ++ sep :: twoDigits d.day '0'
  let clock : Chars := twoDigits hour '0' ++ ':' :: twoDigits minute '0'
  let half := if hour % 12 = 0 then 12 else hour % 12
  let yearDay := (day - Calendar.dayOf ⟨d.year, 1, 1⟩).toNat
  match c with
  | 'Y' => year
  | 'C' => twoDigits (d.year / 100).toNat '0'
  | 'y' => twoDigits (d.year % 100).toNat '0'
  | 'm' => twoDigits d.month '0'
  | 'd' => twoDigits d.day '0'
  | 'e' => twoDigits d.day ' '
  | 'H' => twoDigits hour '0'
  | 'k' => twoDigits hour ' '
  | 'I' => twoDigits half '0'
  | 'l' => twoDigits half ' '
  | 'M' => twoDigits minute '0'
  | 'S' => twoDigits second '0'
  | 'N' => let ds := Nat.toDigits 10 (inDay % 1000000000); List.replicate (9 - ds.length) '0' ++ ds
  | 'p' => (if hour < 12 then "AM" else "PM").toList
  | 'P' => (if hour < 12 then "am" else "pm").toList
  | 'b' => (name Calendar.months (d.month - 1)).take 3
  | 'h' => (name Calendar.months (d.month - 1)).take 3
  | 'B' => name Calendar.months (d.month - 1)
  | 'a' => (name Calendar.weekdays (Calendar.weekday day)).take 3
  | 'A' => name Calendar.weekdays (Calendar.weekday day)
  | 'u' => Nat.toDigits 10 (if Calendar.weekday day = 0 then 7 else Calendar.weekday day)
  | 'w' => Nat.toDigits 10 (Calendar.weekday day)
  | 'j' => let ds := Nat.toDigits 10 (yearDay + 1); List.replicate (3 - ds.length) '0' ++ ds
  | 's' => (toString (nanos / 1000000000)).toList
  | 'F' => year ++ '-' :: date '-'
  | 'D' => date '/' ++ '/' :: twoDigits (d.year % 100).toNat '0'
  | 'x' => date '/' ++ '/' :: twoDigits (d.year % 100).toNat '0'
  | 'T' => clock ++ ':' :: twoDigits second '0'
  | 'X' => clock ++ ':' :: twoDigits second '0'
  | 'R' => clock
  | 'z' => "+0000".toList
  | 'Z' => "UTC".toList
  | 'n' => ['\n']
  | 't' => ['\t']
  | '%' => ['%']
  | c => ['%', c]

/-- a time in the form that a text gives, in which a percent sign and a letter stand for a part. -/
def timeText (t : Time) : Chars → Chars
  | '%' :: c :: cs => timePart t c ++ timeText t cs
  | c :: cs => c :: timeText t cs
  | [] => []

structure TimeStyle where
  recent : Chars
  old : Chars

def halfYear : Time := 31556952 * 500000

def TimeStyle.show (s : TimeStyle) (now t : Time) : Chars :=
  timeText t (if now - halfYear < t ∧ t ≤ now then s.recent else s.old)

def TimeStyle.usual : TimeStyle := ⟨"%b %e %H:%M".toList, "%b %e  %Y".toList⟩

/-- a way to write times by a word, or by the text that gives the form. -/
def timeStyle (value : Chars) : Except Misuse TimeStyle :=
  let same (s : String) : TimeStyle := ⟨s.toList, s.toList⟩
  let word := if "posix-".toList.isPrefixOf value then value.drop 6 else value
  match value with
  | '+' :: form =>
    let recent := (form.dropWhile (· ≠ '\n')).drop 1
    let old := form.takeWhile (· ≠ '\n')
    .ok ⟨if recent.isEmpty then old else recent, old⟩
  | _ =>
    if word.length < value.length then .ok .usual
    else match wordMeaning "time style" [(["full-iso"], same "%Y-%m-%d %H:%M:%S.%N %z"), (["long-iso"], same "%Y-%m-%d %H:%M"),
        (["iso"], ⟨"%m-%d %H:%M".toList, "%Y-%m-%d ".toList⟩), (["locale"], TimeStyle.usual)] word with
      | .ok s => .ok s
      | .error _ => .error ⟨"invalid argument " ++ String.ofList (cited value) ++ " for 'time style'\nValid arguments are:" ++
          "\n  - [posix-]full-iso\n  - [posix-]long-iso\n  - [posix-]iso\n  - [posix-]locale\n" ++
          "  - +FORMAT (e.g., +%H:%M) for a 'date'-style format", true⟩

end Regen.Shell.Tools
