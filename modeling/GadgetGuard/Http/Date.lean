/-!
# Dates in header fields

A point in time is a number of seconds since the beginning of 1970. It is written in the
Gregorian calendar, with the name of its day.
-/

namespace GadgetGuard

structure CivilDate where
  year : Int
  month : Nat
  day : Nat
  deriving DecidableEq, Repr

namespace CivilDate

/-- The date of a day, counted from zero, in the year from March on, so that the odd day of a leap
year comes last. -/
def ofMarchYear (year : Int) (dayOfYear : Nat) : CivilDate :=
  let monthFromMarch := (5 * dayOfYear + 2) / 153
  let month := if monthFromMarch < 10 then monthFromMarch + 3 else monthFromMarch - 9
  { year := year + (if month ≤ 2 then 1 else 0)
    month
    day := dayOfYear - (153 * monthFromMarch + 2) / 5 + 1 }

/-- The year from March on of a day in a cycle of 400 years. -/
def yearOfEra (dayOfEra : Nat) : Nat :=
  (dayOfEra - dayOfEra / 1460 + dayOfEra / 36524 - dayOfEra / 146096) / 365

/-- The date that is so many days after the first of January 1970. -/
def ofDays (days : Int) : CivilDate :=
  let shifted := days + 719468
  let era := shifted / 146097
  let dayOfEra := (shifted % 146097).toNat
  let year := yearOfEra dayOfEra
  ofMarchYear (era * 400 + year) (dayOfEra - (365 * year + year / 4 - year / 100))

end CivilDate

namespace HttpDate

def dayNames : List String :=
  ["Thu", "Fri", "Sat", "Sun", "Mon", "Tue", "Wed"]

def monthNames : List String :=
  ["Jan", "Feb", "Mar", "Apr", "May", "Jun", "Jul", "Aug", "Sep", "Oct", "Nov", "Dec"]

/-- Decimal digits, with zeros in front up to a width. -/
def padded (width value : Nat) : String :=
  let digits := Nat.repr value
  String.ofList (List.replicate (width - digits.length) '0') ++ digits

/-- Years of up to four digits stand alone; all others have a sign. -/
def yearText (year : Int) : String :=
  if 0 ≤ year ∧ year ≤ 9999 then padded 4 year.toNat
  else if 0 ≤ year then "+" ++ padded 4 year.toNat
  else "-" ++ padded 4 year.natAbs

def secondsPerDay : Int := 86400

/-- The first second that dates reach, at the beginning of the year -262143. -/
def earliest : Int := -8334601228800

/-- The last second that dates reach, at the end of the year 262142. -/
def latest : Int := 8210266876799

def toString (seconds : Int) : String :=
  let days := seconds / secondsPerDay
  let second := (seconds % secondsPerDay).toNat
  let date := CivilDate.ofDays days
  let dayName := dayNames.getD (days % 7).toNat ""
  let monthName := monthNames.getD (date.month - 1) ""
  dayName ++ ", " ++ padded 2 date.day ++ " " ++ monthName ++ " " ++ yearText date.year ++ " " ++
    padded 2 (second / 3600) ++ ":" ++ padded 2 (second % 3600 / 60) ++ ":" ++
    padded 2 (second % 60) ++ " GMT"

end HttpDate

/-- A second and the nanoseconds of it that have passed. A leap second is a second whose
nanoseconds go on, up to twice as many. -/
structure Moment where
  seconds : Int
  nanoseconds : Nat
  deriving DecidableEq, Repr

namespace Moment

def nanosecondsPerSecond : Nat := 1000000000

/-- The last moment that dates reach. -/
def latest : Moment := ⟨HttpDate.latest, nanosecondsPerSecond - 1⟩

/-- The moment that many seconds later, if dates reach it. It is in no leap second unless it is
the same moment. -/
def after? (moment : Moment) (seconds : Nat) : Option Moment :=
  let later := moment.seconds + seconds
  if HttpDate.earliest ≤ later ∧ later ≤ HttpDate.latest then
    some ⟨later,
      if seconds = 0 then moment.nanoseconds else moment.nanoseconds % nanosecondsPerSecond⟩
  else none

end Moment

end GadgetGuard
