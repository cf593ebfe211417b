import Regen.Shell.Tools.Amount

/-!
# The ends of texts

* `Tools.End`                  which end of a text is meant, and how much of it;
* `Tools.eachFile`             texts with their headings;
* `Tools.head`, `Tools.tail`
-/

namespace Regen.Shell.Tools

/-! ## which end -/

/-- which end of a text is meant, by bytes or by lines that end in a character; `apart` asks for all but
the other end. -/
structure End where
  count : Nat
  bytes : Bool
  apart : Bool
  ending : Char

def endPhrase (letter : Char) : String := "invalid number of " ++ if letter = 'c' then "bytes" else "lines"

def lengthOfLines (ending : Char) (count : Nat) (cs : Chars) : Nat :=
  let rec go : Nat → Nat → Chars → Nat
    | 0, length, _ => length
    | _, length, [] => length
    | n + 1, length, c :: cs => go (if c = ending then n else n + 1) (length + 1) cs
  go count 0 cs

def End.lengthUpTo (e : End) (n : Nat) (cs : Chars) : Nat :=
  if e.bytes then min n cs.length else lengthOfLines e.ending n cs

def endsIn (ending : Char) (cs : Chars) : Nat := cs.count ending

def End.sizeOf (e : End) (cs : Chars) : Nat :=
  if e.bytes then cs.length
  else endsIn e.ending cs + if cs.isEmpty ∨ cs.getLast? = some e.ending then 0 else 1

/-! ## files -/

def hasHeadings (o : Choices) (files : List Chars) : Bool :=
  match o.last? "qv" with
  | some (c, _) => c == 'v'
  | none => 1 < files.length

def heading (first : Bool) (f : Chars) : Chars :=
  (if first then [] else ['\n']) ++ "==> ".toList ++ called f ++ " <==\n".toList

/-- the files of `head` and `tail` in turn, with their headings; `give` writes what is wanted of
one. -/
def eachFile (unread : Machine → Chars → SystemError → Machine)
    (give : Machine → Chars → Part → Machine) (headings : Bool) (files : List Chars) (m : Machine) :
    Machine × Nat :=
  let r := files.foldl (fun (m, first, status) f =>
    let headed (m : Machine) : Machine := if headings then m.write 1 (heading first f) else m
    match openPart m f with
    | (.ok p, m) => (give (headed m) f p, false, status)
    | (.error (.unread e), m) => (unread (headed m) f e, false, 1)
    | (.error (.unopened e), m) => (blame m "cannot open " f " for reading" e, first, 1)
    | (.error (.text _), m) => (m, first, 1)) (m, true, 0)
  closeInput files (r.1, r.2.2)

/-! ## `head` -/

/-- the options of `head`; those of one digit are from an old form, and out of place here. -/
def headOptions : List Known :=
  valuedAll [('c', "bytes"), ('n', "lines")] ++
    switches [('q', "quiet"), ('q', "silent"), ('v', "verbose"), ('z', "zero-terminated")] ++
    switches ("0123456789".toList.map fun d => (d, ""))

/-- an amount for `head`, and whether all but so much is wanted; or what is wrong with it. -/
def headAmount (letter : Char) (value : Chars) : Except Misuse (Bool × Nat) :=
  let apart := value.head? == some '-'
  (amountUpTo (endPhrase letter) multipliers (if apart then value.drop 1 else value)).map fun n => (apart, n)

def headMisuse (letter : Char) (value : Chars) : Option Misuse :=
  if letter = 'c' ∨ letter = 'n' then misuseOf (headAmount letter value)
  else if letter.isDigit then some ⟨"invalid trailing option -- " ++ toString letter, true⟩
  else none

/-- the end that options ask for; ten lines, if they say nothing. -/
def End.ofHead (o : Choices) : End :=
  match (o.last? "cn").map fun g => (g.1, headAmount g.1 g.2) with
  | some (letter, .ok (apart, n)) => ⟨n, letter == 'c', apart, o.ending 'z'⟩
  | _ => ⟨10, false, false, o.ending 'z'⟩

/-- the options that the digits and letters of an old form stand for, or a letter that is out of place. -/
def oldHead (cs : Chars) : Except Char (List Chars) :=
  let digits := cs.takeWhile Char.isDigit
  let letters := cs.drop digits.length
  match letters.find? fun c => !"bckmlqvz".toList.contains c with
  | some c => .error c
  | none =>
    let (bytes, unit) := letters.foldl (fun (s : Bool × Chars) c =>
      if c = 'c' then (true, []) else if "bkm".toList.contains c then (true, [c])
      else if c = 'l' then (false, s.2) else s) (false, [])
    .ok ([['-', if bytes then 'c' else 'n'] ++ digits ++ unit] ++
      (letters.filter "qvz".toList.contains).map fun c => ['-', c])

/-- how many bytes `head` takes of a text, if that is known from what has come of it. -/
def End.taken? (e : End) (p : Part) : Option Nat :=
  if e.apart then if p.isWhole then some (e.lengthUpTo (e.sizeOf p.text - e.count) p.text) else none
  else
    let complete := if e.bytes then p.text.length else endsIn e.ending p.text
    if p.isWhole ∨ e.count ≤ complete then some (e.lengthUpTo e.count p.text) else none

def headBlock : Nat := 8192

/-- writes what `head` takes of a text, and leaves the rest of it. -/
def writeHead (e : End) (m : Machine) (p : Part) : Machine :=
  match e.taken? p with
  | none => wantPart m p
  | some n =>
    let used := match p.endpoint with
      | .pipe .. => if e.apart then p.text.length else n
      | _ => n
    (usePart m p used (if e.bytes then 1 else headBlock)).write 1 (p.text.take n)

def head : Tool := fun args m =>
  let args := match args with
    | ('-' :: d :: old) :: rest => if d.isDigit then (oldHead (d :: old)).map (· ++ rest) else .ok args
    | _ => .ok args
  match args with
  | .error c => (misused m ("invalid trailing option -- " ++ toString c), 1)
  | .ok args =>
    withChecked headOptions true 1 headMisuse (fun o files m =>
      let files := orInput files
      eachFile (fun m f => blame m "error reading " (called f) "") (fun m _ => writeHead (End.ofHead o) m)
        (hasHeadings o files) files m) args m

/-! ## `tail` -/

/-- the options of `tail`; those of one digit are from an old form, and out of place here. Options
without a letter go by one that cannot be typed: the process whose end is waited for, whether files are
opened again, and a number that does not matter. -/
def tailOptions : List Known :=
  valuedAll [('c', "bytes"), ('n', "lines"), ('s', "sleep-interval"), ('\x01', "pid"), ('\x03', "max-unchanged-stats")] ++
    switches [('q', "quiet"), ('q', "silent"), ('v', "verbose"), ('z', "zero-terminated"), ('f', ""), ('F', ""),
      ('\x02', "retry")] ++ possibles [('\x04', "follow")] ++ switches ("0123456789".toList.map fun d => (d, ""))

def tailAmount (letter : Char) (value : Chars) : Except Misuse (Bool × Nat) :=
  (amountUpTo (endPhrase letter) multipliers (if value.head? = some '-' then value.drop 1 else value)).map
    fun n => (value.head? == some '+', n)

def followsNames (value : Chars) : Except Misuse Bool :=
  if value.isEmpty then .ok false else wordMeaning "--follow" [(["descriptor"], false), (["name"], true)] value

def isSeconds (cs : Chars) : Bool :=
  let whole := cs.takeWhile Char.isDigit
  match cs.drop whole.length with
  | [] => !whole.isEmpty
  | '.' :: ds => ds.all Char.isDigit && !(whole.isEmpty && ds.isEmpty)
  | _ => false

def tailMisuse (letter : Char) (value : Chars) : Option Misuse :=
  match letter with
  | 's' => if isSeconds value then none else some ⟨about "invalid number of seconds:" value, false⟩
  | '\x01' => misuseOf (amountOr "invalid PID" [] 0 2147483647 value)
  | '\x03' => misuseOf (amountUpTo "invalid maximum number of unchanged stats between opens" [] value)
  | '\x04' => misuseOf (followsNames value)
  | _ =>
    if letter = 'c' ∨ letter = 'n' then misuseOf (tailAmount letter value)
    else if letter.isDigit then some ⟨"option used in invalid context -- " ++ toString letter, false⟩
    else none

/-- the end that options ask for; ten lines, if they say nothing. -/
def End.ofTail (o : Choices) : End :=
  let amounts := (o.given.filter fun g => g.1 == 'c' || g.1 == 'n').filterMap fun g =>
    (tailAmount g.1 g.2).toOption.map fun a => (g.1, a)
  match amounts.getLast? with
  | some (letter, _, n) => ⟨n, letter == 'c', amounts.any fun a => a.2.1, o.ending 'z'⟩
  | none => ⟨10, false, false, o.ending 'z'⟩

/-- the options that an old form of `tail` stands for: a number with its sign, a letter that says what it
counts, and one that asks to follow. -/
def oldTail? (args : List Chars) : Option (List Chars) :=
  match args with
  | (sign :: cs) :: files =>
    let digits := cs.takeWhile Char.isDigit
    let letters := cs.drop digits.length
    let unit := (letters.take 1).filter "bcl".toList.contains
    let rest := letters.drop unit.length
    let alone : Bool := match files with
      | [] => true
      | [f] => f.head? ≠ some '-' || f.length < 2 || f == ['-', '-']
      | [f, _] => f == ['-', '-']
      | _ => false
    if (sign = '+' ∨ (sign = '-' ∧ cs ≠ [] ∧ cs ≠ ['c'])) ∧ alone ∧ (rest = [] ∨ rest = ['f']) then
      let digits := if digits.isEmpty then ['1', '0'] else digits
      some ((['-', if unit = ['c'] ∨ unit = ['b'] then 'c' else 'n', sign] ++ digits ++
        (if unit = ['b'] then unit else [])) :: (if rest.isEmpty then files else ['-', 'f'] :: files))
    else none
  | _ => none

/-- the options and operands of `tail`, an old form of them among others, or what is wrong with them. -/
def tailChoices (args : List Chars) : Except Misuse (Choices × List Chars) :=
  (readOptions tailOptions true ((oldTail? args).getD args)).checked tailMisuse

def Choices.follows (o : Choices) : Bool := o.has 'f' || o.has 'F' || o.has '\x04'

def Choices.followsByName (o : Choices) : Bool :=
  match o.last? "fF\x04" with
  | some ('F', _) => true
  | some ('\x04', value) => (followsNames value).toOption.getD false
  | _ => false

def tailWarnings (o : Choices) (m : Machine) : Machine :=
  let m :=
    if ¬ (o.has '\x02' ∨ o.has 'F') then m
    else if ¬ o.follows then accuse m "warning: --retry ignored; --retry is useful only when following".toList
    else if ¬ o.followsByName then accuse m "warning: --retry only effective for the initial open".toList
    else m
  if o.has '\x01' ∧ ¬ o.follows then
    accuse m "warning: PID ignored; --pid=PID is useful only when following".toList
  else m

/-- why the end of a text cannot be told. -/
def unreadTail (m : Machine) (f : Chars) (e : SystemError) : Machine :=
  blame m (if f = ['-'] ∧ m.endpoint 0 = .closed then "cannot fstat " else "error reading ") (called f) "" e

/-- the end of files that `tail` is asked for. Files of which nothing will be shown are not looked at. -/
def tailFiles (o : Choices) (files : List Chars) (m : Machine) : Machine × Nat :=
  let e := End.ofTail o
  let start (cs : Chars) : Nat := if e.apart then e.count - 1 else e.sizeOf cs - e.count
  if e.count = 0 ∧ ¬ e.apart ∧ ¬ o.follows then (m, 0)
  else eachFile unreadTail (fun m _ p =>
      let r := m.drain p.endpoint
      r.2.write 1 (r.1.drop (e.lengthUpTo (start r.1) r.1))) (hasHeadings o files) files m

def tail : Tool := fun args m =>
  match tailChoices args with
  | .error e => (denounce m e, 1)
  | .ok (o, files) => tailFiles o (orInput files) (tailWarnings o m)

end Regen.Shell.Tools
