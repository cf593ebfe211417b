import Regen.Shell.Format
import Regen.Shell.Tools.Basic

/-!
# Texts printed by a format

The program `printf` knows more than the command of the shell: bytes in hexadecimal, characters by their
numbers, and names as a shell could read them back. It gives up at a directive that it does not know.

* `Tools.Sheet`     what has been printed;
* `Tools.printf`    the program.
-/

namespace Regen.Shell.Tools

inductive Ending where
  | enough
  | failure (reason : String)

/-- what has been printed, which arguments are left, and what was wrong with others; warnings do not count. -/
structure Sheet where
  out : Chars
  left : List Chars
  complaints : List String
  isWrong : Bool
  ending : Option Ending

def Sheet.put (s : Sheet) (cs : Chars) : Sheet := { s with out := s.out ++ cs }

def Sheet.complain (s : Sheet) (complaints : List String) : Sheet :=
  { s with complaints := s.complaints ++ complaints, isWrong := s.isWrong || !complaints.isEmpty }

def Sheet.fail (s : Sheet) (reason : String) : Sheet := { s with ending := some (.failure reason) }

def Sheet.next (s : Sheet) : Chars × Sheet := (s.left.headD [], { s with left := s.left.drop 1 })

/-! ## escapes -/

def hexDigits (most : Nat) (cs : Chars) : Chars := (cs.take most).takeWhile fun c => (Numeral.digit? 16 c).isSome

/-- a number in hexadecimal digits, with zeros in front. -/
def hexText (width n : Nat) : Chars :=
  let ds := Nat.toDigits 16 n
  List.replicate (width - ds.length) '0' ++ ds

/-- a character by its number, as it is printed where only the first 128 have a form of their own. -/
def numberedText (n : Nat) : Chars :=
  if n < 128 then [Char.ofNat n]
  else if n < 65536 then '\\' :: 'u' :: (hexText 4 n).map Char.toUpper
  else '\\' :: 'U' :: (hexText 8 n).map Char.toUpper

/-- one escape after its backslash, and how many characters it takes. Octal numbers may start with a zero that
does not count. -/
def Sheet.escape (s : Sheet) (leadingZero : Bool) (cs : Chars) : Sheet × Nat :=
  match cs with
  | [] => (s.put ['\\'], 0)
  | 'c' :: _ => ({ s with ending := some .enough }, 1)
  | '"' :: _ => (s.put ['"'], 1)
  | 'x' :: rest =>
    let ds := hexDigits 2 rest
    if ds.isEmpty then (s.fail "missing hexadecimal number in escape", 1)
    else (s.put [Char.ofNat (Numeral.digits 16 ds 0).1], ds.length + 1)
  | c :: rest =>
    if c = 'u' ∨ c = 'U' then
      let width := if c = 'u' then 4 else 8
      let ds := hexDigits width rest
      let n := (Numeral.digits 16 ds 0).1
      if ds.length < width then (s.fail "missing hexadecimal number in escape", 1)
      else if 0xd800 ≤ n ∧ n ≤ 0xdfff then
        (s.fail ("invalid universal character name \\" ++ toString c ++ String.ofList (hexText width n)), 1)
      else (s.put (numberedText n), width + 1)
    else if Escape.isOctal c then
      let skipped := if leadingZero ∧ c = '0' then 1 else 0
      let ds := (((c :: rest).drop skipped).take 3).takeWhile Escape.isOctal
      (s.put [Escape.octal ds], ds.length + skipped)
    else match Escape.letter? c with
      | some d => (s.put [d], 1)
      | none => (s.put ['\\', c], 1)

def Sheet.escaped (s : Sheet) : Nat → Chars → Sheet
  | 0, _ => s
  | _, [] => s
  | n + 1, '\\' :: cs =>
    let (s, length) := s.escape true cs
    if s.ending.isSome then s else s.escaped n (cs.drop length)
  | n + 1, c :: cs => (s.put [c]).escaped n cs

/-! ## arguments -/

def numberMistakes (text rest : Chars) (isOutside : Bool) : List String :=
  let cited := String.ofList (cited text)
  if isOutside then [cited ++ ": Numerical result out of range"]
  else if rest.isEmpty then []
  else if rest.length = text.length then [cited ++ ": expected a numeric value"]
  else [cited ++ ": value not completely converted"]

/-- the number of the character after a quote, if an argument is one; and a warning, if more comes after it. -/
def characterOf? : Chars → Option (Nat × List String)
  | q :: c :: rest =>
    if q = '\'' ∨ q = '"' then
      some (c.toNat, if rest.isEmpty then [] else ["warning: " ++ String.ofList rest ++
        ": character(s) following character constant have been ignored"])
    else none
  | _ => none

def Sheet.integer (s : Sheet) (least most below : Int) (text : Chars) : Int × Sheet :=
  match characterOf? text with
  | some (n, warnings) => (n, { s with complaints := s.complaints ++ warnings })
  | none =>
    let (n, rest) := Numeral.start true text
    let n := n.getD 0
    (if n < least then below else min n most, s.complain (numberMistakes text rest (n < least || most < n)))

def Sheet.real (s : Sheet) (text : Chars) : Bool × Double × Sheet :=
  match characterOf? text with
  | some (n, warnings) =>
    (false, Precision.extended.nearest false n 0, { s with complaints := s.complaints ++ warnings })
  | none =>
    match Double.start? .extended text with
    | some r => (r.negative, r.value, s.complain (numberMistakes text r.rest r.outside))
    | none => (false, Precision.extended.nearest false 0 0, s.complain (numberMistakes text text false))

/-! ## directives -/

def conversionsOf (flags : Chars) (hasPlaces : Bool) : Chars :=
  let without (c : Char) (none : String) (cs : Chars) : Chars :=
    if flags.contains c then cs.filter fun d => !none.toList.contains d else cs
  let cs := without '\'' "aAceEosxX" "aAcdeEfFgGiosuxX".toList
  let cs := without 'I' "aAceEosxX" cs
  let cs := without '#' "cdisu" cs
  let cs := without '0' "cs" cs
  if hasPlaces then cs.filter (· != 'c') else cs

/-- a width or a precision, which may be the next argument, and how many characters it takes. Without an argument
it is zero. -/
def Sheet.measure (s : Sheet) (name : String) (cs : Chars) : Option Int × Nat × Sheet :=
  match cs with
  | '*' :: _ =>
    let (text, s) := s.next
    let (n, s) := s.integer (-Numeral.half64) (Numeral.half64 - 1) (-Numeral.half64) text
    if (n < -2147483648 ∧ name = "field width") ∨ 2147483647 < n then
      (none, 1, s.fail ("invalid " ++ name ++ ": " ++ String.ofList (cited text)))
    else (some n, 1, s)
  | _ =>
    let ds := cs.takeWhile Char.isDigit
    (if ds.isEmpty then none else some (Text.decimal ds), ds.length, s)

def Sheet.print (s : Sheet) (spec : Format.Spec) : Sheet :=
  let (text, s) := s.next
  let cut (cs : Chars) : Chars := (spec.precision.map cs.take).getD cs
  match spec.conversion with
  | 's' => s.put (Format.pad spec (cut text))
  | 'c' => s.put (Format.pad spec [text.headD '\x00'])
  | c =>
    if c = 'd' ∨ c = 'i' then
      let (n, s) := s.integer (-Numeral.half64) (Numeral.half64 - 1) (-Numeral.half64) text
      s.put (Format.padNumber spec (Format.signOf spec (n < 0)) (Format.digitsOf spec 10 n.natAbs))
    else if "ouxX".toList.contains c then
      let (n, s) := s.integer (1 - UInt64.size) (UInt64.size - 1) (UInt64.size - 1) text
      s.put (Format.unsignedText spec (Int.emod n UInt64.size).toNat)
    else
      let (negative, x, s) := s.real text
      s.put (Format.realText .extended spec negative x)

def Sheet.direct (s : Sheet) (cs : Chars) : Sheet × Chars :=
  match cs with
  | '%' :: rest => (s.put ['%'], rest)
  | 'b' :: rest =>
    let (text, s) := s.next
    (s.escaped (text.length + 1) text, rest)
  | 'q' :: rest =>
    match s.left with
    | [] => (s, rest)
    | text :: left => ({ s with left := left }.put (shown false text), rest)
  | _ =>
    let flags := cs.takeWhile fun c => "I'-+ #0".toList.contains c
    let (width, length, s) := s.measure "field width" (cs.drop flags.length)
    let rest := cs.drop (flags.length + length)
    let hasPlaces := rest.head? == some '.'
    let (places, length, s) := if hasPlaces ∧ s.ending.isNone then s.measure "precision" (rest.drop 1) else (none, 0, s)
    let rest := if hasPlaces then rest.drop (length + 1) else rest
    let rest := rest.dropWhile fun c => "lLhjtz".toList.contains c
    let after := rest.drop 1
    if s.ending.isSome then (s, after)
    else match rest.head?.filter (conversionsOf flags hasPlaces).contains with
      | none =>
        (s.fail ("%" ++ String.ofList (cs.take (cs.length - after.length)) ++ ": invalid conversion specification"), after)
      | some c =>
        let columns := width.getD 0
        let precision : Option Nat :=
          if hasPlaces then (let p := places.getD 0; if p < 0 then none else some p.toNat) else none
        (s.print ⟨flags.contains '-' || columns < 0, flags.contains '0', flags.contains '+', flags.contains ' ',
          flags.contains '#', columns.natAbs, precision, c⟩, after)

def Sheet.fill (s : Sheet) : Nat → Chars → Sheet
  | 0, _ => s
  | _, [] => s
  | n + 1, '%' :: cs =>
    let (s, rest) := s.direct cs
    if s.ending.isSome then s else s.fill n rest
  | n + 1, '\\' :: cs =>
    let (s, length) := s.escape false cs
    if s.ending.isSome then s else s.fill n (cs.drop length)
  | n + 1, c :: cs => (s.put [c]).fill n cs

def Sheet.fillAll (format : Chars) : Nat → Sheet → Sheet
  | 0, s => s
  | n + 1, s =>
    let t := s.fill (format.length + 1) format
    if t.ending.isSome ∨ t.left = [] ∨ t.left.length = s.left.length then t else t.fillAll format n

/-! ## the program -/

def printf : Tool := fun args m =>
  match if args.head? = some "--".toList then args.drop 1 else args with
  | [] => (misused m "missing operand", 1)
  | format :: args =>
    let s := Sheet.fillAll format (args.length + 1) ⟨[], args, [], false, none⟩
    let m := s.complaints.foldl (fun m c => accuse m c.toList) m
    let m := m.write 1 s.out
    match s.ending with
    | some .enough => (m, 0)
    | some (.failure reason) => (accuse m reason.toList, 1)
    | none =>
      let m := match s.left with
        | [] => m
        | extra :: _ => accuse m (about "warning: ignoring excess arguments, starting with" extra).toList
      (m, if s.isWrong then 1 else 0)

end Regen.Shell.Tools
