import Regen.Calendar
import Regen.Shell.Syntax
import Regen.Text.Numeral
import Regen.Watermark

/-!
# Dates in words

A date is said by items in any order: days by number or name, times of the day, zones, and spans that are
counted from there. What is not said is taken from the time at which the date is read; the clock shows
universal time.

* `Tools.Dates.tokens`    the words and numbers of a text;
* `Tools.Dates.Sketch`    what items have said so far;
* `Tools.Dates.read?`     the time that a text stands for;
* `Tools.Dates.stamp?`    the time that digits stand for.
-/

namespace Regen.Shell.Tools.Dates

/-! ## words -/

inductive Measure where
  | years
  | months
  | days
  | hours
  | minutes
  | seconds
  deriving DecidableEq

inductive Token where
  | number (value digits : Nat)
  | signed (value : Int) (digits : Nat)
  | fraction (value : Int) (isSigned : Bool)
  | month (number : Nat)
  | weekday (number : Nat)
  | ordinal (value : Int)
  | measure (unit : Measure) (count : Int)
  | shift (days : Int)
  | ago (factor : Int)
  | half (afternoon : Bool)
  | zone (minutes : Int)
  | saving
  | divider
  | mark (c : Char)
  | unknown
  deriving DecidableEq

def measures : List (String × Measure × Int) :=
  [("YEAR", .years, 1), ("MONTH", .months, 1), ("FORTNIGHT", .days, 14), ("WEEK", .days, 7), ("DAY", .days, 1),
   ("HOUR", .hours, 1), ("MINUTE", .minutes, 1), ("MIN", .minutes, 1), ("SECOND", .seconds, 1), ("SEC", .seconds, 1)]

/-- numbers that say which, and days that are counted from today. -/
def ordinals : List (String × Int) :=
  [("LAST", -1), ("THIS", 0), ("NEXT", 1), ("FIRST", 1), ("THIRD", 3), ("FOURTH", 4), ("FIFTH", 5), ("SIXTH", 6),
   ("SEVENTH", 7), ("EIGHTH", 8), ("NINTH", 9), ("TENTH", 10), ("ELEVENTH", 11), ("TWELFTH", 12)]

/-- zones by name, in minutes; those of summer have an hour more in them. -/
def zones : List (String × Int) :=
  [("GMT", 0), ("UT", 0), ("UTC", 0), ("WET", 0), ("WEST", 60), ("BST", 60), ("ART", -180), ("BRT", -180),
   ("BRST", -120), ("NST", -210), ("NDT", -150), ("AST", -240), ("ADT", -180), ("CLT", -240), ("CLST", -180),
   ("EST", -300), ("EDT", -240), ("CST", -360), ("CDT", -300), ("MST", -420), ("MDT", -360), ("PST", -480),
   ("PDT", -420), ("AKST", -540), ("AKDT", -480), ("HST", -600), ("HAST", -600), ("HADT", -540), ("SST", -720),
   ("WAT", 60), ("CET", 60), ("CEST", 120), ("MET", 60), ("MEZ", 60), ("MEST", 120), ("MESZ", 120), ("EET", 120),
   ("EEST", 180), ("CAT", 120), ("SAST", 120), ("EAT", 180), ("MSK", 180), ("MSD", 240), ("IST", 330),
   ("SGT", 480), ("KST", 540), ("JST", 540), ("GST", 600), ("NZST", 720), ("NZDT", 780)]

def letterZone? (c : Char) : Option Int :=
  let n : Int := c.toNat
  if c = 'Z' ∨ c = 'J' then some 0
  else if 'A' ≤ c ∧ c ≤ 'I' then some (60 * (n - 64))
  else if 'K' ≤ c ∧ c ≤ 'M' then some (60 * (n - 65))
  else if 'N' ≤ c ∧ c ≤ 'Y' then some (-60 * (n - 77))
  else none

/-- the place of a name among names: it may be cut to three letters, with a point after them. -/
def placeOf? (names : List String) (word : String) : Option Nat :=
  let cs := word.toList
  let isShort := cs.length = 3 ∨ (cs.length = 4 ∧ cs[3]? = some '.')
  names.findIdx? fun n =>
    let name := n.toList.map Char.toUpper
    if isShort then name.take 3 == cs.take 3 else name == cs

def wordToken (cs : Chars) : Token :=
  let upper := cs.map Char.toUpper
  let word := String.ofList upper
  let bare := String.ofList (upper.filter (· ≠ '.'))
  let single := if upper.getLast? = some 'S' then String.ofList upper.dropLast else word
  let extra := [("SEPT", 8)].lookup word
  if word = "AM" ∨ word = "A.M." then .half false
  else if word = "PM" ∨ word = "P.M." then .half true
  else match (placeOf? Calendar.months word).orElse fun _ => extra,
      (placeOf? Calendar.weekdays word).orElse fun _ =>
        [("TUES", 2), ("WEDNES", 3), ("THUR", 4), ("THURS", 4)].lookup word with
    | some n, _ => .month (n + 1)
    | none, some n => .weekday n
    | none, none =>
      match zones.lookup word, (measures.lookup word).orElse fun _ => measures.lookup single, ordinals.lookup word with
      | some z, _, _ => .zone z
      | none, some (u, n), _ => .measure u n
      | none, none, some n => .ordinal n
      | none, none, none =>
        match word with
        | "DST" => .saving
        | "TOMORROW" => .shift 1
        | "YESTERDAY" => .shift (-1)
        | "TODAY" => .shift 0
        | "NOW" => .shift 0
        | "AGO" => .ago (-1)
        | "HENCE" => .ago 1
        | "T" => .divider
        | _ =>
          match upper with
          | [c] => ((letterZone? c).map Token.zone).getD .unknown
          | _ => ((zones.lookup bare).map Token.zone).getD .unknown

/-- a text behind a comment in parentheses, which it starts with; nothing if that is not closed. -/
def afterComment : Nat → Chars → Option Chars
  | _, [] => none
  | depth, '(' :: cs => afterComment (depth + 1) cs
  | depth, ')' :: cs => if depth ≤ 1 then some cs else afterComment (depth - 1) cs
  | depth, _ :: cs => afterComment depth cs

def numberToken (sign : Option Int) (cs : Chars) : Token × Chars :=
  let whole := cs.takeWhile Char.isDigit
  let value : Int := sign.getD 1 * (Text.decimal whole : Nat)
  let rest := cs.drop whole.length
  let plain : Token :=
    if sign.isSome then .signed value whole.length else .number (Text.decimal whole) whole.length
  match rest with
  | c :: d :: _ =>
    if (c = '.' ∨ c = ',') ∧ d.isDigit then
      let digits := (rest.drop 1).takeWhile Char.isDigit
      let billionths := Text.decimal (digits.take 9 ++ List.replicate (9 - digits.length) '0')
      let nanos : Int := 1000000000 * (Text.decimal whole : Nat) + billionths
      (.fraction (sign.getD 1 * nanos) sign.isSome, rest.drop (1 + digits.length))
    else (plain, rest)
  | _ => (plain, rest)

def isBlank (c : Char) : Bool := c == ' ' || ('\t' ≤ c && c ≤ '\r')

/-- the words and numbers of a text, so many at most; none if a comment is not closed. -/
def tokens : Nat → Chars → List Token
  | 0, _ => []
  | n + 1, cs =>
    match cs.dropWhile isBlank with
    | [] => []
    | c :: rest =>
      if c.isDigit then let r := numberToken none (c :: rest); r.1 :: tokens n r.2
      else if c = '-' ∨ c = '+' then
        let behind := rest.dropWhile isBlank
        if behind.head?.any Char.isDigit then
          let r := numberToken (some (if c = '-' then -1 else 1)) behind
          r.1 :: tokens n r.2
        else tokens n behind
      else if c.isAlpha then
        let word := c :: rest.takeWhile fun c => c.isAlpha || c == '.'
        wordToken (word.take 19) :: tokens n (rest.drop (word.length - 1))
      else if c = '(' then
        match afterComment 0 (c :: rest) with
        | some rest => tokens n rest
        | none => []
      else .mark c :: tokens n rest

/-! ## items -/

structure Span where
  years : Int
  months : Int
  days : Int
  nanos : Int

structure Sketch where
  year : Int
  yearDigits : Nat
  month : Int
  day : Int
  hour : Int
  minute : Int
  nanos : Int
  afternoon : Option Bool
  zone : Int
  weekday : Nat
  week : Int
  span : Span
  times : Nat
  dates : Nat
  weekdays : Nat
  zones : Nat
  savings : Nat
  spans : Nat

def Sketch.atTime (s : Sketch) (hour minute nanos : Int) (afternoon : Option Bool) : Sketch :=
  { s with hour, minute, nanos, afternoon, times := s.times + 1 }

def Sketch.onDate (s : Sketch) (year : Option (Int × Nat)) (month day : Int) : Sketch :=
  { s with
    year := (year.map Prod.fst).getD s.year
    yearDigits := (year.map Prod.snd).getD s.yearDigits
    month, day, dates := s.dates + 1 }

def Sketch.onWeekday (s : Sketch) (week : Int) (weekday : Nat) : Sketch :=
  { s with week, weekday, weekdays := s.weekdays + 1 }

def Sketch.inZone (s : Sketch) (minutes : Int) : Sketch := { s with zone := minutes, zones := s.zones + 1 }

def Sketch.moved (s : Sketch) (u : Measure) (count : Int) : Sketch :=
  let p := s.span
  let span : Span := match u with
    | .years => { p with years := p.years + count }
    | .months => { p with months := p.months + count }
    | .days => { p with days := p.days + count }
    | .hours => { p with nanos := p.nanos + 3600000000000 * count }
    | .minutes => { p with nanos := p.nanos + 60000000000 * count }
    | .seconds => { p with nanos := p.nanos + 1000000000 * count }
  { s with span, spans := s.spans + 1 }

def Sketch.movedBy (s : Sketch) (nanos : Int) : Sketch :=
  { s with span := { s.span with nanos := s.span.nanos + nanos }, spans := s.spans + 1 }

def behind (rest : List Token) (f : Int → Sketch) : Option (Sketch × List Token) :=
  match rest with
  | .ago factor :: rest => some (f factor, rest)
  | _ => some (f 1, rest)

/-- the minutes of a zone that is said by a number, and by minutes behind a colon. -/
def offset? (value : Int) (digits : Nat) (minutes : Option Nat) : Option Int :=
  let total : Int := match minutes with
    | some n => 60 * value + (if value < 0 then -(n : Int) else n)
    | none => if digits ≤ 2 then 60 * value else 60 * value.tdiv 100 + value.tmod 100
  if -1440 ≤ total ∧ total ≤ 1440 then some total else none

def zoneBehind (s : Sketch) (rest : List Token) : Option (Sketch × List Token) :=
  match rest with
  | .signed v d :: .mark ':' :: .number n _ :: rest => (offset? v d (some n)).map fun z => (s.inZone z, rest)
  | .signed v d :: rest => (offset? v d none).map fun z => (s.inZone z, rest)
  | _ => some (s, rest)

def timeOfDay (s : Sketch) (hour : Int) (rest : List Token) : Option (Sketch × List Token) :=
  let ended (minute nanos : Int) (rest : List Token) : Option (Sketch × List Token) :=
    match rest with
    | .half h :: rest => some (s.atTime hour minute nanos (some h), rest)
    | _ => zoneBehind (s.atTime hour minute nanos none) rest
  match rest with
  | .mark ':' :: .number m _ :: .mark ':' :: .number n _ :: rest => ended m (1000000000 * (n : Int)) rest
  | .mark ':' :: .number m _ :: .mark ':' :: .fraction n false :: rest => ended m n rest
  | .mark ':' :: .number _ _ :: .mark ':' :: _ => none
  | .mark ':' :: .number m _ :: rest => ended m 0 rest
  | .signed _ _ :: _ => ended 0 0 rest
  | _ => none

/-- a number by itself: a year that was left open, a date or a time. -/
def Sketch.withDigits (s : Sketch) (value digits : Nat) : Sketch :=
  if s.dates ≠ 0 ∧ s.yearDigits = 0 ∧ s.spans = 0 ∧ (s.times ≠ 0 ∨ 2 < digits) then
    { s with year := value, yearDigits := digits }
  else if 4 < digits then
    s.onDate (some ((value / 10000 : Nat), digits - 4)) (value / 100 % 100 : Nat) (value % 100 : Nat)
  else if digits ≤ 2 then s.atTime value 0 0 none
  else s.atTime (value / 100 : Nat) (value % 100 : Nat) 0 none

def numberItem (s : Sketch) (v d : Nat) (rest : List Token) : Option (Sketch × List Token) :=
  match rest with
  | .half h :: rest => some (s.atTime v 0 0 (some h), rest)
  | .mark ':' :: _ => timeOfDay s v rest
  | .mark '/' :: .number b _ :: .mark '/' :: .number c e :: rest =>
    some (if 4 ≤ d then s.onDate (some ((v : Int), d)) b c else s.onDate (some ((c : Int), e)) v b, rest)
  | .mark '/' :: .number b _ :: rest => some (s.onDate none v b, rest)
  | .month m :: .signed y e :: rest => some (s.onDate (some (-y, e)) m v, rest)
  | .month m :: .number y e :: rest => some (s.onDate (some ((y : Int), e)) m v, rest)
  | .month m :: rest => some (s.onDate none m v, rest)
  | .weekday n :: rest => some (s.onWeekday v n, rest)
  | .measure u n :: rest => behind rest fun f => s.moved u (f * v * n)
  | .signed a _ :: .signed b _ :: rest =>
    let s := s.onDate (some ((v : Int), d)) (-a) (-b)
    match rest with
    | .divider :: .number h _ :: rest => timeOfDay s h rest
    | .divider :: _ => none
    | _ => some (s, rest)
  | .signed a _ :: .measure u n :: rest => some ((s.withDigits v d).moved u (a * n), rest)
  | .signed _ _ :: _ => timeOfDay s v rest
  | _ => some (s.withDigits v d, rest)

def zoneItem (s : Sketch) (z : Int) (rest : List Token) : Option (Sketch × List Token) :=
  match rest with
  | .signed a _ :: .measure u n :: rest => some ((s.inZone z).moved u (a * n), rest)
  | .signed v d :: .mark ':' :: .number n _ :: rest => (offset? v d (some n)).map fun o => (s.inZone (z + o), rest)
  | .signed v d :: rest => (offset? v d none).map fun o => (s.inZone (z + o), rest)
  | .saving :: rest => some (s.inZone (z + 60), rest)
  | _ => some (s.inZone z, rest)

def item (s : Sketch) : List Token → Option (Sketch × List Token)
  | .number v d :: rest => numberItem s v d rest
  | .month m :: .signed a _ :: .signed y e :: rest => some (s.onDate (some (-y, e)) m (-a), rest)
  | .month m :: .number v _ :: .mark ',' :: .number y e :: rest => some (s.onDate (some ((y : Int), e)) m v, rest)
  | .month m :: .number v _ :: rest => some (s.onDate none m v, rest)
  | .weekday n :: .mark ',' :: rest => some (s.onWeekday 0 n, rest)
  | .weekday n :: rest => some (s.onWeekday 0 n, rest)
  | .ordinal k :: .weekday n :: rest => some (s.onWeekday k n, rest)
  | .ordinal k :: .measure u n :: rest => behind rest fun f => s.moved u (f * k * n)
  | .signed v _ :: .measure u n :: rest => behind rest fun f => s.moved u (f * v * n)
  | .fraction v _ :: .measure .seconds _ :: rest => behind rest fun f => s.movedBy (f * v)
  | .measure u n :: rest => behind rest fun f => s.moved u (f * n)
  | .shift n :: rest => some (s.moved .days n, rest)
  | .zone z :: rest => zoneItem s z rest
  | .divider :: .signed a _ :: .measure u n :: rest => some ((s.inZone (-420)).moved u (a * n), rest)
  | .divider :: rest => some (s.inZone (-420), rest)
  | _ => none

def items : Nat → Sketch → List Token → Option Sketch
  | 0, _, _ => none
  | _ + 1, s, [] => some s
  | n + 1, s, ts => (item s ts).bind fun r => items n r.1 r.2

/-! ## the time -/

/-- the second of the era at which times start to be counted. -/
def origin : Int := 1700000000

def timeOf (nanos : Int) : Time := nanos / 1000 - 1000000 * origin

def nanosOf (t : Time) : Int := 1000 * (t + 1000000 * origin)

def dayNanos : Int := 1000000000 * Calendar.daySeconds

def isDate (year month day : Int) : Bool :=
  decide (1 ≤ month ∧ 1 ≤ day) &&
    (Calendar.dateOf (Calendar.dayOf ⟨year, month.toNat, day.toNat⟩) == ⟨year, month.toNat, day.toNat⟩)

def hourOf? (hour : Int) (afternoon : Option Bool) : Option Int :=
  match afternoon with
  | none => if 0 ≤ hour ∧ hour < 24 then some hour else none
  | some b =>
    if 0 < hour ∧ hour ≤ 12 then some ((if hour = 12 then 0 else hour) + if b then 12 else 0) else none

/-- a day after a span of years, months and days; months and days beyond the end count on. -/
def dayAfter (day : Int) (p : Span) : Int :=
  let d := Calendar.dateOf day
  let months := 12 * (d.year + p.years) + (d.month - 1 : Int) + p.months
  Calendar.dayOf ⟨months / 12, (months % 12).toNat + 1, 1⟩ + d.day - 1 + p.days

def weekdayAfter (day : Int) (weekday : Nat) (week : Int) : Int :=
  let today := Calendar.weekday day
  let weeks := if 0 < week ∧ today ≠ weekday then week - 1 else week
  day + ((weekday : Int) - today + 7) % 7 + 7 * weeks

def Sketch.start (now : Time) : Sketch :=
  let n := nanosOf now
  let d := Calendar.dateOf (n / dayNanos)
  let inDay := n % dayNanos
  ⟨d.year, 0, d.month, d.day, inDay / 3600000000000, inDay / 60000000000 % 60, inDay % 60000000000, none, 0, 0, 0,
    ⟨0, 0, 0, 0⟩, 0, 0, 0, 0, 0, 0⟩

def Sketch.time? (s : Sketch) : Option Time := do
  if 1 < s.times ∨ 1 < s.dates ∨ 1 < s.weekdays ∨ 1 < s.zones + s.savings then none
  let year := if s.yearDigits = 2 then s.year + (if s.year < 69 then 2000 else 1900) else s.year
  let keepsTime := s.times ≠ 0 ∨ (s.spans ≠ 0 ∧ s.dates = 0 ∧ s.weekdays = 0)
  let hour ← if keepsTime then hourOf? s.hour s.afternoon else some 0
  if ¬ isDate year s.month s.day then none
  if keepsTime ∧ (60 ≤ s.minute ∨ 60000000000 ≤ s.nanos) then none
  let day := Calendar.dayOf ⟨year, s.month.toNat, s.day.toNat⟩
  let day := if s.weekdays ≠ 0 ∧ s.dates = 0 then weekdayAfter day s.weekday s.week else day
  let inDay := if keepsTime then 3600000000000 * hour + 60000000000 * s.minute + s.nanos else 0
  return timeOf (dayNanos * dayAfter day s.span + inDay - 60000000000 * s.zone + s.span.nanos)

def read? (text : Chars) (now : Time) : Option Time :=
  match text.dropWhile isBlank with
  | '@' :: rest =>
    match tokens (rest.length + 1) rest with
    | [.number v _] => some (timeOf (1000000000 * (v : Int)))
    | [.signed v _] => some (timeOf (1000000000 * v))
    | [.fraction v _] => some (timeOf v)
    | _ => none
  | cs =>
    let ts := tokens (cs.length + 1) cs
    (items (ts.length + 1) (.start now) ts).bind Sketch.time?

/-- the time that digits stand for: a month, a day, an hour and a minute in two digits each, with the year in
front of them and seconds behind a point if they are said. -/
def stamp? (text : Chars) (now : Time) : Option Time := do
  let digits := text.takeWhile Char.isDigit
  let pair (i : Nat) : Int := (Text.decimal ((digits.drop i).take 2) : Nat)
  let seconds ← match text.drop digits.length with
    | [] => some 0
    | '.' :: ds => if ds.length = 2 ∧ ds.all Char.isDigit then some (Text.decimal ds : Int) else none
    | _ => none
  let (year, at') ← match digits.length with
    | 8 => some ((Sketch.start now).year, 0)
    | 10 => some (if pair 0 < 69 then 2000 + pair 0 else 1900 + pair 0, 2)
    | 12 => some (100 * pair 0 + pair 2, 4)
    | _ => none
  let (month, day, hour, minute) := (pair at', pair (at' + 2), pair (at' + 4), pair (at' + 6))
  if ¬ isDate year month day ∨ 24 ≤ hour ∨ 60 ≤ minute ∨ 60 < seconds then none
  let number := Calendar.dayOf ⟨year, month.toNat, day.toNat⟩
  return timeOf (1000000000 * (Calendar.daySeconds * number + 3600 * hour + 60 * minute + seconds))

end Regen.Shell.Tools.Dates
