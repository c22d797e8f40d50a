/-!
# The Calendar

Days, dates and times of day in the proleptic Gregorian calendar.

Days are numbered from the first day of the year 1, which is a Monday, and
points of time by microseconds from its midnight. The calendar ends with the
year 9999. A number is turned back into a date by the four nested cycles of the
calendar: 400 years, 100 years, 4 years and one year.

## Main definitions

* `dayNumber`: The number of a date.
* `DateTime`: A date with a time of day.
* `DateTime.toMicros`, `DateTime.ofMicros`: Its number, and back.
-/

namespace TextLog

namespace Time

/-- A year with a 29th of February. -/
def isLeap (year : Nat) : Bool :=
  year % 4 == 0 && (year % 100 != 0 || year % 400 == 0)

/-- The days before the first of January of a year. -/
def daysBeforeYear (year : Nat) : Nat :=
  let p := year - 1
  365 * p + p / 4 - p / 100 + p / 400

/-- The lengths of the months. -/
def monthLengths (leap : Bool) : List Nat :=
  [31, if leap then 29 else 28, 31, 30, 31, 30, 31, 31, 30, 31, 30, 31]

/-- The days of a year before the first of a month. -/
def daysBeforeMonth (leap : Bool) (month : Nat) : Nat :=
  ((monthLengths leap).take (month - 1)).foldl (· + ·) 0

/-- The number of a date, the first of January of the year 1 being zero. -/
def dayNumber (year month day : Nat) : Nat :=
  daysBeforeYear year + daysBeforeMonth (isLeap year) month + (day - 1)

/-- The year that a day lies in, and the days of it that have passed. -/
def yearOfDay (n : Nat) : Nat × Nat :=
  let inQuad := n % 146097
  let century := min (inQuad / 36524) 3
  let inCentury := inQuad - century * 36524
  let inFour := inCentury % 1461
  let year := min (inFour / 365) 3
  (400 * (n / 146097) + 100 * century + 4 * (inCentury / 1461) + year + 1, inFour - 365 * year)

/-- The months passed and the days of the current one passed, from the days of
    the year passed and the lengths of the months to come. -/
def monthOfDay : List Nat → Nat → Nat × Nat
  | [], d => (0, d)
  | len :: rest, d =>
    if d < len then (0, d)
    else
      let later := monthOfDay rest (d - len)
      (later.1 + 1, later.2)

/-- The day of the week of a day, Monday being zero. -/
def weekday (n : Nat) : Nat :=
  n % 7

/-- The days of the calendar, which ends with the year 9999. -/
def calendarDays : Nat := 3652059

/-- The microseconds of a day. -/
def microsPerDay : Nat := 86400000000

/-- The microseconds of the calendar. -/
def calendarMicros : Nat := calendarDays * microsPerDay

/-- A date with a time of day. -/
structure DateTime where
  year : Nat
  month : Nat
  day : Nat
  hour : Nat
  minute : Nat
  second : Nat
  micro : Nat
  deriving DecidableEq, Repr

namespace DateTime

/-- The number of the day. -/
def dayOrdinal (d : DateTime) : Nat :=
  dayNumber d.year d.month d.day

/-- The microseconds from the beginning of the calendar. -/
def toMicros (d : DateTime) : Nat :=
  d.dayOrdinal * microsPerDay + (d.hour * 3600 + d.minute * 60 + d.second) * 1000000 + d.micro

/-- The date and time of day at a number of microseconds. -/
def ofMicros (n : Nat) : DateTime :=
  let (year, inYear) := yearOfDay (n / microsPerDay)
  let (month, inMonth) := monthOfDay (monthLengths (isLeap year)) inYear
  let inDay := n % microsPerDay
  let seconds := inDay / 1000000
  { year := year
    month := month + 1
    day := inMonth + 1
    hour := seconds / 3600
    minute := seconds / 60 % 60
    second := seconds % 60
    micro := inDay % 1000000 }

/-- The days of the year that have passed. -/
def daysPassed (d : DateTime) : Nat :=
  d.dayOrdinal - daysBeforeYear d.year

end DateTime

/-- The seconds from the beginning of the calendar to the epoch, the first of
    January 1970. -/
def epochSeconds : Nat := 62135596800

end Time

end TextLog
