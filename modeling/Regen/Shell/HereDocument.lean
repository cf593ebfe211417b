import Regen.Shell.Cursor

/-!
# Here-documents

A redirection may ask for text that stands in the script, in the lines after the one that ends its
command, up to a line that is a delimiter. The texts come in the order in which they are asked for.

A text is only known when the line end before it has been passed, so a line that asks for some is read
twice: the second reading knows the texts that the first one passed. A delimiter counts at the start of
a line of the text itself, not inside a command that the text holds.

* `Reader.askText`       asks for the text of a here-document;
* `Reader.startLine`     looks for the delimiter at the start of a line;
* `Reader.twice`         reads, and once more if here-documents were passed;
* `Reader.inside`        reads the text of a here-document;
* `Reader.within`        reads another text;
* `Reader.enclosed`      reads what stands between parentheses.
-/

namespace Regen.Shell.Reader

/-- the delimiter of a here-document at the start of a text, whether some of it is quoted, and its
length; the quote that is open comes first. -/
def delimiter : Option Char → Chars → Chars × Bool × Nat
  | _, [] => ([], false, 0)
  | some q, c :: cs =>
    let r := delimiter (if c = q then none else some q) cs
    (if c = q then r.1 else c :: r.1, true, r.2.2 + 1)
  | none, '\\' :: c :: cs => let r := delimiter none cs; (c :: r.1, true, r.2.2 + 2)
  | none, c :: cs =>
    if isMeta c then ([], false, 0)
    else if c = '\'' ∨ c = '"' then let r := delimiter (some c) cs; (r.1, true, r.2.2 + 1)
    else let r := delimiter none cs; (c :: r.1, r.2.1, r.2.2 + 1)

def cutLine (cs : Chars) : Chars × Chars :=
  (cs.takeWhile (· ≠ '\n'), (cs.dropWhile (· ≠ '\n')).drop 1)

structure HereLines where
  body : Chars
  count : Nat
  rest : Chars

/-- what comes after a delimiter, if it stands alone at the start of a text. -/
def afterDelimiter? (delimiter cs : Chars) : Option Chars :=
  if delimiter.isPrefixOf cs then
    match cs.drop delimiter.length with
    | [] => some []
    | '\n' :: rest => some rest
    | _ => none
  else none

def hereLines (mark : HereMark) : Nat → Chars → HereLines
  | 0, cs => ⟨[], 0, cs⟩
  | n + 1, cs =>
    let cs := if mark.stripsTabs then cs.dropWhile (· == '\t') else cs
    match afterDelimiter? mark.delimiter cs with
    | some rest => ⟨[], 1, rest⟩
    | none =>
      let (line, rest) := cutLine cs
      if cs = [] then ⟨[], 0, []⟩
      else
        let ends := if line.length < cs.length then 1 else 0
        let r := hereLines mark n rest
        ⟨line ++ List.replicate ends '\n' ++ r.body, r.count + ends, r.rest⟩

def askText (stripsTabs quoted : Bool) (delimiter : Chars) : Reader (Option Word) := fun s =>
  .ok (s.known.lookup s.asked,
    { s with asked := s.asked + 1, pending := s.pending ++ [⟨s.asked, stripsTabs, quoted, delimiter⟩] })

/-- the text of a here-document whose lines are kept as they stand. -/
def plainText (mark : HereMark) : Reader Word := fun s =>
  let r := hereLines mark (s.rest.length + 1) s.rest
  .ok ([.text r.body true], { s with rest := r.rest, line := s.line + r.count })

/-- the start of a line. If the here-document that is being read ends here, nothing is left to read of
it, and what comes after it is put aside. -/
def startLine : Reader Unit := fun s =>
  match s.setting with
  | .hereDocument mark =>
    let cs := if mark.stripsTabs then s.rest.dropWhile (· == '\t') else s.rest
    match afterDelimiter? mark.delimiter cs with
    | some after => .ok ((), { s with rest := [], after := after, line := s.line + 1 })
    | none => .ok ((), { s with rest := cs })
  | _ => .ok ((), s)

def knowing {α : Type} (known : List (Nat × Word)) (x : Reader α) : Reader α := fun s =>
  x { s with asked := 0, pending := [], passed := [], known := known }

def twice {α : Type} (x : Reader α) : Reader α := fun s =>
  match knowing [] x s with
  | .error e => .error e
  | .ok (a, t) => if t.passed.isEmpty then .ok (a, t) else knowing t.passed x s

def inside {α : Type} (mark : HereMark) (x : Reader α) : Reader α := fun s =>
  (twice (startLine >>= fun _ => x) { s with setting := .hereDocument mark, after := [] }).map fun r =>
    (r.1, { s with rest := r.2.after, line := r.2.line })

def within {α : Type} (text : Chars) (x : Reader α) : Reader α := fun s =>
  (twice x { Cursor.start text with aliases := s.aliases }).map fun r => (r.1, s)

/-- reads what stands between the parentheses of an expansion. The here-documents of the line around it
do not start there, and the one around it does not end there. -/
def enclosed {α : Type} (x : Reader α) : Reader α := do
  let outer ← get
  set { outer with pending := [], setting := .script }
  let a ← x
  modify fun s => { s with pending := outer.pending, setting := outer.setting }
  return a

end Regen.Shell.Reader
