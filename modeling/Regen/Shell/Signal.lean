import Regen.Shell.Syntax
import Regen.Text.Numeral

/-!
# Signals

Signals by number and name, and what they do to a process that does not ask for them.

* `Signal.ofChars?`    the number of a signal;
* `Signal.name`        its name;
* `Signal.epitaph?`    what a shell says of a program that a signal killed.
-/

namespace Regen.Shell.Signal

def all : List (String × Nat) :=
  [("EXIT", 0), ("HUP", 1), ("INT", 2), ("QUIT", 3), ("ILL", 4), ("TRAP", 5), ("ABRT", 6), ("BUS", 7),
   ("FPE", 8), ("KILL", 9), ("USR1", 10), ("SEGV", 11), ("USR2", 12), ("PIPE", 13), ("ALRM", 14),
   ("TERM", 15), ("CHLD", 17), ("CONT", 18), ("STOP", 19), ("TSTP", 20), ("TTIN", 21),
   ("TTOU", 22), ("URG", 23), ("XCPU", 24), ("XFSZ", 25), ("VTALRM", 26), ("PROF", 27), ("WINCH", 28),
   ("IO", 29), ("PWR", 30), ("SYS", 31)]

/-- how many signals there are, with the one that stands for the end of the shell. -/
def count : Nat := 65

/-- the name of a signal. One without a name goes by its number, and those for real time are counted
from both ends. -/
def name (signal : Nat) : String :=
  match all.find? fun s => s.2 == signal with
  | some s => s.1
  | none =>
    if signal < 34 then toString signal
    else if signal = 34 then "RTMIN"
    else if signal < 50 then "RTMIN+" ++ toString (signal - 34)
    else if signal < 64 then "RTMAX-" ++ toString (64 - signal)
    else "RTMAX"

def ofChars? (cs : Chars) : Option Nat :=
  if cs ≠ [] ∧ cs.all Char.isDigit then
    if Text.decimal cs < count then some (Text.decimal cs) else none
  else (List.range count).find? fun n => (name n).toList == cs.map Char.toUpper

/-- the number of a signal that is sent; the one that stands for the end of the shell has no name here. -/
def sent? (cs : Chars) : Option Nat :=
  (ofChars? cs).filter fun n => n ≠ 0 || cs.head?.any Char.isDigit

def harmless : List Nat := [17, 18, 23, 28]

def stopping : List Nat := [19, 20, 21, 22]

/-- what a shell says of a program that a signal killed; nothing of those that are usual. -/
def epitaph? (signal : Nat) : Option String :=
  [(1, "Hangup"), (3, "Quit"), (4, "Illegal instruction"), (5, "Trace/breakpoint trap"), (6, "Aborted"),
   (7, "Bus error"), (8, "Floating point exception"), (9, "Killed"), (10, "User defined signal 1"),
   (11, "Segmentation fault"), (12, "User defined signal 2"), (14, "Alarm clock"), (15, "Terminated"),
   (16, "Stack fault"), (24, "CPU time limit exceeded"), (25, "File size limit exceeded"),
   (26, "Virtual timer expired"), (27, "Profiling timer expired"), (29, "I/O possible"),
   (30, "Power failure"), (31, "Bad system call")].lookup signal

end Regen.Shell.Signal
