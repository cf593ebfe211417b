import Regen.Shell.Condition
import Regen.Shell.Tools.Options
import Regen.Shell.Tools.Quoted

/-!
# What programs have in common

A program of the system reads the machine's descriptors, changes the machine and ends with a
status.

* `Tool`               a program;
* `Tools.withOptions`, `Tools.withChecked`   a program that reads its options first;
* `Tools.wordMeaning`  what a word stands for that is the value of an option;
* `Tools.blame`        a complaint about a file;
* `Tools.openSource`   the text of a file or of standard input, or why there is none;
* `Tools.gather`       the texts of several files.
-/

namespace Regen.Shell

abbrev Tool := List Chars → Machine → Machine × Nat

namespace Tools

/-! ## complaints -/

def words : SystemError → String
  | .code n => SystemError.describe n
  | .text t => t

def accuse (m : Machine) (complaint : Chars) : Machine := m.complain (m.name ++ ": ".toList ++ complaint)

/-- a complaint of a program about a file, whose name stands between two phrases. -/
def blame (m : Machine) (before : String) (name : Chars) (after : String) (e : SystemError) : Machine :=
  accuse m (before.toList ++ shown (before ≠ "") name ++ (after ++ ": " ++ words e).toList)

def misused (m : Machine) (complaint : String) : Machine :=
  accuse m (complaint.toList ++ "\nTry '".toList ++ m.name ++ " --help' for more information.".toList)

/-- a complaint of a program about a place for a file, whose path is cited. -/
def deny (m : Machine) (before : String) (path : Chars) (e : SystemError) : Machine :=
  accuse m (before.toList ++ cited path ++ (": " ++ words e).toList)

def about (phrase : String) (value : Chars) : String := phrase ++ " " ++ String.ofList (cited value)

def aboutFile (phrase : String) (name : Chars) : String := phrase ++ " " ++ String.ofList (shown true name)

/-! ## options -/

structure Choices where
  given : List (Char × Chars)

def Choices.has (o : Choices) (letter : Char) : Bool := o.given.any fun g => g.1 == letter

def Choices.value? (o : Choices) (letter : Char) : Option Chars := o.given.reverse.lookup letter

def Choices.last? (o : Choices) (letters : String) : Option (Char × Chars) :=
  o.given.reverse.find? fun g => letters.toList.contains g.1

def Choices.count (o : Choices) (letter : Char) : Nat := o.given.countP fun g => g.1 == letter

def valued (letter : Char) (name : String) : Known := ⟨letter, name, .always⟩

/-- what is wrong with an argument, and whether the reader is told where to look further. -/
structure Misuse where
  message : String
  hinted : Bool

def denounce (m : Machine) (e : Misuse) : Machine :=
  if e.hinted then misused m e.message else accuse m e.message.toList

def allowed : Char → Chars → Option Misuse := fun _ _ => none

/-- the options and operands among arguments, or the first thing that is wrong with them; `check` tells
what is wrong with the value of an option. -/
def Reading.checked (r : Reading) (check : Char → Chars → Option Misuse) : Except Misuse (Choices × List Chars) :=
  match r.given.findSome? fun g => check g.1 g.2, r.mistake with
  | some e, _ => .error e
  | none, some e => .error ⟨e, true⟩
  | none, none => .ok (⟨r.given⟩, r.operands)

/-- a program that reads its options first, and ends with a status if something is wrong with them. That the
value of an option is not among its words is a plain failure. -/
def withChecked (known : List Known) (anywhere : Bool) (misuse : Nat) (check : Char → Chars → Option Misuse)
    (run : Choices → List Chars → Machine → Machine × Nat) : Tool := fun args m =>
  let r := readOptions known anywhere args
  match r.checked check with
  | .error e => (denounce m e, if e.hinted ∧ (r.given.findSome? fun g => check g.1 g.2).isSome then 1 else misuse)
  | .ok (o, operands) => run o operands m

def withOptions (known : List Known) (anywhere : Bool) (misuse : Nat)
    (run : Choices → List Chars → Machine → Machine × Nat) : Tool :=
  withChecked known anywhere misuse allowed run

/-- what a word that is the value of an option stands for: its start is enough, if it is the start of
nothing else. `words` are the words in groups of one meaning. -/
def wordMeaning {α : Type} (option : String) (words : List (List String × α)) (value : Chars) : Except Misuse α :=
  let begun := words.filter fun w => w.1.any fun s => value.isPrefixOf s.toList
  match words.find? fun w => w.1.any fun s => s.toList == value, begun with
  | some w, _ => .ok w.2
  | none, [w] => .ok w.2
  | none, ws =>
    let kind := if ws.isEmpty then "invalid" else "ambiguous"
    .error ⟨about (kind ++ " argument") value ++ " for '" ++ option ++ "'\nValid arguments are:" ++
      String.join (words.map fun w => "\n  - " ++ String.intercalate ", " (w.1.map fun s => "'" ++ s ++ "'")), true⟩

def misuseOf {α : Type} (r : Except Misuse α) : Option Misuse :=
  match r with
  | .error e => some e
  | .ok _ => none

def eachArgument (f : Machine → Chars → Machine × Nat) (args : List Chars) (m : Machine) : Machine × Nat :=
  args.foldl (fun (m, status) a => let r := f m a; (r.1, if r.2 = 0 then status else r.2)) (m, 0)

/-! ## texts -/

/-- the text of a file, or why it cannot be opened, or read once it is open. -/
inductive Source where
  | text (cs : Chars)
  | unopened (e : SystemError)
  | unread (e : SystemError)

/-- where the text of a file is to be read; a dash is standard input. A pipe with a name has to be open
before. -/
def sourceAt (m : Machine) (file : Chars) : Except SystemError (Endpoint × Machine) :=
  if file = ['-'] then .ok (m.endpoint 0, m)
  else match m.entry? file, m.numberAt? file, m.descriptorAt? file with
    | some .pipe, some number, none =>
      match m.named.lookup number with
      | some i =>
        if World.isEnd i true m.saved then .ok (.pipe i true false, m)
        else .ok (.device .null true false, m.starve (.named number))
      | none => .ok (.device .null true false, m.starve (.named number))
    | _, _, _ => m.openPath file .input

def openSource (m : Machine) (file : Chars) : Source × Machine :=
  match sourceAt m file with
  | .error e => (.unopened e, m)
  | .ok (e, m) =>
    match m.readFailure? e with
    | some failure => (.unread failure, m)
    | none => let r := m.drain e; (.text r.1, r.2)

/-- a text as far as it has come: whether nothing comes after it, and where it is read. -/
structure Part where
  text : Chars
  isWhole : Bool
  endpoint : Endpoint

def openPart (m : Machine) (file : Chars) : Except Source Part × Machine :=
  match sourceAt m file with
  | .error e => (.error (.unopened e), m)
  | .ok (e, m) =>
    match m.readFailure? e with
    | some failure => (.error (.unread failure), m)
    | none => let r := m.incoming e; (.ok ⟨r.1, r.2, e⟩, m)

/-- so much of a text has been used. What comes through a pipe is taken in blocks of a size; what a
file holds can be given back. -/
def usePart (m : Machine) (p : Part) (count block : Nat) : Machine :=
  match p.endpoint with
  | .pipe .. => m.advance p.endpoint (min p.text.length ((count + block - 1) / block * block))
  | e => m.advance e count

def wantPart (m : Machine) (p : Part) : Machine := m.starve (Machine.hungerFor p.endpoint)

/-- the operands that name files; standard input, if there are none. -/
def orInput (files : List Chars) : List Chars := if files.isEmpty then [['-']] else files

def called (file : Chars) : Chars := if file = ['-'] then "standard input".toList else file

/-- the end of a program that has read standard input: it cannot be closed if it was closed before. -/
def closeInput (files : List Chars) (r : Machine × Nat) : Machine × Nat :=
  if files.contains ['-'] ∧ r.1.endpoint 0 = .closed then
    (accuse r.1 "-: Bad file descriptor".toList, 1)
  else r

def Source.text? : Source → Option Chars
  | .text cs => some cs
  | _ => none

def openSources (files : List Chars) (m : Machine) : List (Chars × Source) × Machine :=
  files.foldl (fun (sources, m) f => let r := openSource m f; (sources ++ [(f, r.1)], r.2)) ([], m)

/-- the texts of files in order, and a status; `complain` says what is wrong with one. -/
def gather (complain : Machine → Chars → Source → Machine) (files : List Chars) (m : Machine) :
    List Chars × Machine × Nat :=
  let (sources, m) := openSources files m
  (sources.filterMap fun s => s.2.text?, sources.foldl (fun m s => complain m s.1 s.2) m,
    if sources.all fun s => s.2.text?.isSome then 0 else 1)

/-- the pieces of a text that end in a character, each with its end; the last one may lack it. -/
def endedBy (ending : Char) (cs : Chars) : List Chars :=
  cs.foldr (fun c (acc : List Chars) =>
    match acc with
    | [] => [[c]]
    | l :: ls => if c = ending then [c] :: l :: ls else (c :: l) :: ls) []

def linesOf (cs : Chars) : List Chars := endedBy '\n' cs

def bareBy (ending : Char) (l : Chars) : Chars := if l.getLast? = some ending then l.dropLast else l

def withoutEnd (l : Chars) : Chars := bareBy '\n' l

def bareLines (cs : Chars) : List Chars := (linesOf cs).map withoutEnd

def closedBy (ending : Char) (ls : List Chars) : Chars := ls.flatMap fun l => l ++ [ending]

/-- the character that ends lines: a zero byte, if that is asked for by an option. -/
def Choices.ending (o : Choices) (letter : Char) : Char := if o.has letter then '\x00' else '\n'

def padded (width n : Nat) : Chars :=
  let d := Nat.toDigits 10 n
  List.replicate (width - d.length) ' ' ++ d

end Tools
end Regen.Shell
