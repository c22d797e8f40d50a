import TextLog.Time.Calendar
import TextLog.Text.Quoted
import TextLog.Decimal.Rounding

/-!
# Time Zones

How far the clocks of a place are from universal time, and when.

A zone is the one of the system, a fixed offset, or a named zone. A named zone
may save daylight: its clocks go forward and back each year on a given weekday
of a given week of a month, at a given time of day as the clocks then show it.
South of the equator the summer contains the turn of the year, so the rule that
starts it comes later in the year than the one that ends it.

Offsets are seconds east of universal time.

## Main definitions

* `Zone`: A time zone.
* `Zone.offsetAt`: Its offset at a point of time.
* `Zone.nameAt`: The short name it goes by at a point of time.
* `Zone.savesAt?`: Whether it saves daylight at a point of time.
* `Zone.shown`: The zone as it is shown to a reader of the configuration.
-/

namespace TextLog

namespace Time

/-- A time of the year at which clocks change. The week counts from one and the
    fifth is the last one; Sunday is day zero; `seconds` is the time of day. -/
structure ChangeRule where
  month : Nat
  week : Nat
  weekday : Nat
  seconds : Nat
  deriving DecidableEq, Repr

/-- The seconds from the beginning of the calendar to a change, by the clocks
    of the place. -/
def ChangeRule.wallSeconds (r : ChangeRule) (year : Nat) : Nat :=
  let first := dayNumber year r.month 1
  -- From the first of the month to the first such day of the week.
  let delta := (r.weekday + 7 - (first + 1) % 7) % 7
  let length := ((monthLengths (isLeap year))[r.month - 1]?).getD 31
  let passed := delta + 7 * (r.week - 1)
  -- A month without a fifth such day ends with the fourth.
  let passed := if length ≤ passed then passed - 7 else passed
  (first + passed) * 86400 + r.seconds

/-- Daylight saving: the clocks while it lasts, and its start and end. -/
structure Saving where
  name : String
  offset : Int
  start : ChangeRule
  finish : ChangeRule
  deriving DecidableEq, Repr

/-- A named zone. -/
structure NamedZone where
  key : String
  name : String
  offset : Int
  saving : Option Saving
  deriving DecidableEq, Repr

namespace NamedZone

/-- The daylight saving that is in force at a point of time, if any. -/
def savingAt (z : NamedZone) (seconds : Nat) : Option Saving :=
  z.saving.filter fun s =>
    let year := (yearOfDay (seconds / 86400)).1
    -- Each change is told by the clocks that it sets.
    let start := (s.start.wallSeconds year : Int) - z.offset
    let finish := (s.finish.wallSeconds year : Int) - s.offset
    if start < finish then start ≤ seconds && seconds < finish
    -- In the south the year begins and ends with daylight saving.
    else !(finish ≤ seconds && seconds < start)

/-- The offset at a point of time. -/
def offsetAt (z : NamedZone) (seconds : Nat) : Int :=
  match z.savingAt seconds with
  | some s => s.offset
  | none => z.offset

/-- The short name at a point of time. -/
def nameAt (z : NamedZone) (seconds : Nat) : String :=
  match z.savingAt seconds with
  | some s => s.name
  | none => z.name

end NamedZone

/-- The offset of the system's own zone. -/
def homeOffset : Int := 20700

/-- The short name of the system's own zone. -/
def homeName : String := "HLM"

/-- A time zone. -/
inductive Zone where
  /-- The zone of the system. -/
  | home
  /-- A fixed offset, perhaps with a name. -/
  | fixed (offset : Int) (name : Option String)
  /-- A named zone. -/
  | named (zone : NamedZone)
  deriving DecidableEq, Repr

/-- A number with at least two digits. -/
def twoDigits (n : Nat) : String :=
  String.ofList [Char.ofNat (48 + n / 10 % 10), Char.ofNat (48 + n % 10)]

/-- An offset as hours and minutes, and seconds if there are any, with a mark
    between them. -/
def offsetText (mark : String) (offset : Int) : String :=
  let n := offset.natAbs
  (if offset < 0 then "-" else "+") ++ twoDigits (n / 3600) ++ mark ++ twoDigits (n / 60 % 60) ++
    (if n % 60 = 0 then "" else mark ++ twoDigits (n % 60))

/-- An offset as a span of time: whole days, also negative ones, and the seconds
    that remain. -/
def spanText (offset : Int) : String :=
  let days := offset.fdiv 86400
  let seconds := offset.fmod 86400
  let parts :=
    (if days = 0 then [] else ["days=" ++ Decimal.intText days]) ++
      (if seconds = 0 then [] else ["seconds=" ++ Decimal.intText seconds])
  "datetime.timedelta(" ++ (if parts.isEmpty then "0" else ", ".intercalate parts) ++ ")"

namespace Zone

/-- The offset of a zone at a point of time. -/
def offsetAt (z : Zone) (seconds : Nat) : Int :=
  match z with
  | .home => homeOffset
  | .fixed offset _ => offset
  | .named zone => zone.offsetAt seconds

/-- The short name of a zone at a point of time. A fixed offset without a name
    is named by the offset. -/
def nameAt (z : Zone) (seconds : Nat) : String :=
  match z with
  | .home => homeName
  | .fixed _ (some name) => name
  | .fixed offset none => if offset = 0 then "UTC" else "UTC" ++ offsetText ":" offset
  | .named zone => zone.nameAt seconds

/-- Whether daylight is saved at a point of time. Only a named zone knows. -/
def savesAt? (z : Zone) (seconds : Nat) : Option Bool :=
  match z with
  | .named zone => some (zone.savingAt seconds).isSome
  | _ => none

/-- A fixed offset as it is shown. -/
def fixedText (offset : Int) (name : Option String) : String :=
  match name with
  | some n => "datetime.timezone(" ++ spanText offset ++ ", " ++ Text.quote n ++ ")"
  | none =>
    if offset = 0 then "datetime.timezone.utc"
    else "datetime.timezone(" ++ spanText offset ++ ")"

/-- The zone as it is shown. -/
def shown : Zone → String
  | .home => "None"
  | .fixed offset name => fixedText offset name
  | .named zone => "zoneinfo.ZoneInfo(key=" ++ Text.quote zone.key ++ ")"

end Zone

end Time

end TextLog
