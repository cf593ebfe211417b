/-!
# Days and dates

Days are counted from the first of January 1970, which was a Thursday. Every fourth year is longer by a day,
but not every hundredth, unless it is a four hundredth.

* `Calendar.dayOf`      the number of a day from its year, month and day;
* `Calendar.dateOf`     the year, month and day of a day;
* `Calendar.weekday`    the day of the week, counted from Sunday.
-/

namespace Regen.Calendar

/-- a year, a month from 1 on and a day from 1 on. -/
structure Date where
  year : Int
  month : Nat
  day : Nat
  deriving DecidableEq, Repr

def daysBefore (monthFromMarch : Nat) : Nat := (153 * monthFromMarch + 2) / 5

def daysToYear (year : Int) : Int := 365 * year + year / 4 - year / 100 + year / 400

/-- how many days the first of January 1970 comes after the start of the count from March on. -/
def eraStart : Int := 719468

def dayOf (d : Date) : Int :=
  let fromMarch := (d.month + 9) % 12
  let year := if d.month ≤ 2 then d.year - 1 else d.year
  daysToYear year + (daysBefore fromMarch + d.day : Nat) - 1 - eraStart

def dateOf (day : Int) : Date :=
  let z := day + eraStart
  let era := z / 146097
  let inEra := z - 146097 * era
  let yearInEra := (inEra - inEra / 1460 + inEra / 36524 - inEra / 146096) / 365
  let inYear := (inEra - daysToYear yearInEra).toNat
  let fromMarch := (5 * inYear + 2) / 153
  let month := if fromMarch < 10 then fromMarch + 3 else fromMarch - 9
  let year := yearInEra + 400 * era
  ⟨if month ≤ 2 then year + 1 else year, month, inYear - daysBefore fromMarch + 1⟩

def weekday (day : Int) : Nat := ((day + 4) % 7).toNat

def months : List String :=
  ["January", "February", "March", "April", "May", "June", "July", "August", "September", "October",
   "November", "December"]

def weekdays : List String :=
  ["Sunday", "Monday", "Tuesday", "Wednesday", "Thursday", "Friday", "Saturday"]

def daySeconds : Int := 86400

end Regen.Calendar
