import Regen.Shell.Tools.Expression

/-!
# Texts turned round

Each line of a text is turned round, or the order of its parts is. What parts end with, or start with, may be any
text, or what an expression matches. Such ends are looked for from the back, so that they overlap with none
that comes later.

* `Tools.rev`        lines turned round;
* `Tools.partsOf`    the parts of a text, the last first;
* `Tools.tac`        parts in the other order.
-/

namespace Regen.Shell.Tools

/-- the complaint about a file whose lines cannot be turned round. -/
def unturned (m : Machine) (f : Chars) : Source → Machine
  | .unopened e => accuse m ("cannot open ".toList ++ f ++ (": " ++ words e).toList)
  | .unread e => blame m "" f "" e
  | .text _ => m

def rev : Tool :=
  withOptions (switches [('0', "zero")]) true 1 fun o files m =>
    let ending := o.ending '0'
    let (sources, m) := openSources (if files.isEmpty then [['-']] else files.map fun f => if f = ['-'] then "./-".toList else f) m
    let m := (files.zip sources).foldl (fun m s => unturned m s.1 s.2.2) m
    let texts := sources.filterMap fun s => s.2.text?
    (m.write 1 ((texts.flatMap (endedBy ending)).flatMap fun l =>
      (bareBy ending l).reverse ++ if l.getLast? = some ending then [ending] else []),
      if texts.length = sources.length then 0 else 1)

/-- the complaint about a file whose order cannot be reversed. -/
def unreversed (m : Machine) (f : Chars) : Source → Machine
  | .unopened e => blame m "failed to open " f " for reading" e
  | .unread e => blame m "" (if m.endpoint 0 = .closed then f else called f) ": read error" e
  | .text _ => m

/-- where the last end of a part is before a place: its start and its length. -/
abbrev FindBack := Nat → Option (Nat × Nat)

/-- the parts of a text before a place, the last first, given how many ends are left at most. Ends belong to what
comes before them, or after them if they lead. The part up to `stop` has not been closed yet. -/
def partsBefore (text : Array Char) (leads : Bool) (find : FindBack) : Nat → Nat → Nat → Bool → List Chars
  | 0, _, stop, _ => [(text.extract 0 stop).toList]
  | n + 1, limit, stop, isFirst =>
    match find limit with
    | none => [(text.extract 0 stop).toList]
    | some (start, length) =>
      if leads then (text.extract start stop).toList :: partsBefore text leads find n start start false
      else
        let place := start + length
        let rest := partsBefore text leads find n start place false
        if isFirst ∧ place = stop then rest else (text.extract place stop).toList :: rest

def partsOf (text : Array Char) (leads : Bool) (find : FindBack) : List Chars :=
  partsBefore text leads find (text.size + 1) text.size text.size true

def findText (text : Array Char) (mark : Chars) : FindBack := fun limit =>
  let length := mark.length
  let fits (start : Nat) : Bool := (mark.zipIdx start).all fun (c, i) => text[i]? == some c
  (lastUp (limit + 1 - length) fits).map fun start => (start, length)
where
  lastUp : Nat → (Nat → Bool) → Option Nat
  | 0, _ => none
  | n + 1, p => if p n then some n else lastUp n p

/-- the last place before a limit at which an expression matches something that ends before that limit. -/
def findMatch (text : Array Char) (r : Regex.Matcher) : FindBack := fun limit => go limit limit
where
  go (limit : Nat) : Nat → Option (Nat × Nat)
  | 0 => none
  | n + 1 =>
    let before : Option Char := if n = 0 then none else text[n - 1]?
    match (r.ends before (text.extract n limit).toList).getLast? with
    | some length => some (n, length)
    | none => go limit n

/-- an expression in which a plus and a question mark repeat without a backslash and not with one, and braces
never do, in the usual form. Brackets stay as they are. -/
def plainSigns : Nat → Chars → Chars
  | 0, cs => cs
  | n + 1, cs =>
    match cs with
    | [] => []
    | '\\' :: c :: cs =>
      if "+?\x7b\x7d".toList.contains c then c :: plainSigns n cs else '\\' :: c :: plainSigns n cs
    | '[' :: cs =>
      let first := cs.take (if cs.head? = some '^' then 2 else 1)
      let inner := (cs.drop first.length).takeWhile (· ≠ ']')
      '[' :: first ++ inner ++ plainSigns n (cs.drop (first.length + inner.length))
    | c :: cs => if c = '+' ∨ c = '?' then '\\' :: c :: plainSigns n cs else c :: plainSigns n cs

/-- how the ends of parts are looked for, as options say; or what is wrong with that. -/
def partFinder (o : Choices) : Except Misuse (Array Char → FindBack) :=
  let mark := (o.value? 's').getD ['\n']
  if ¬ o.has 'r' then .ok fun text => findText text (if mark.isEmpty then ['\x00'] else mark)
  else if mark.isEmpty then .error ⟨"separator cannot be empty", false⟩
  else match matchDialect.read (plainSigns mark.length mark) with
    | .error e => .error ⟨e.message, false⟩
    | .ok w => .ok fun text => findMatch text (w.matcher ⟨false, some '\n'⟩)

def tac : Tool :=
  withOptions (switches [('b', "before"), ('r', "regex")] ++ [valued 's' "separator"]) true 1 fun o files m =>
    match partFinder o with
    | .error e => (denounce m e, 1)
    | .ok find =>
      let (texts, m, status) := gather unreversed (orInput files) m
      (m.write 1 (texts.flatMap fun t => let a := t.toArray; (partsOf a (o.has 'b') (find a)).flatten), status)

end Regen.Shell.Tools
