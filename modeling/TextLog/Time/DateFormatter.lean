import TextLog.Time.Pattern
import TextLog.Time.Zone.Named

/-!
# Date Formatters

A date formatter binds a pattern and a zone and renders moments with them.

A moment is a date as some clock shows it: one with a known offset, or the
clock of the system. It denotes an instant of universal time, and only the
instant matters for what is rendered. Both the instant and the date in the zone
of the formatter have to lie in the calendar. The clock of the system cannot
tell instants close to the ends of the calendar. What happens does so at a
moment that is given with it, or now. The present moment is read off the clocks
of the formatter's own zone, whatever clock else tells what it is.

Without a pattern the date is written in the international form with
milliseconds, which are cut and not rounded.

## Main definitions

* `Moment`: A date with the offset of the clock that shows it.
* `Moment.instant`: The instant it denotes.
* `Moment.locate`: The same, as far as the clock can tell.
* `Occasion`: When something happens.
* `DateFormatter`: A pattern and a zone.
* `DateFormatter.format`: A moment rendered.
* `DateFormatter.formatNow`: The present moment rendered.
* `DateFormatter.formatAt`: The date of an occasion.
-/

namespace TextLog

namespace Time

/-- A date as a clock shows it. Without an offset the clock is that of the
    system. -/
structure Moment where
  wall : DateTime
  offset : Option Int
  deriving DecidableEq, Repr

/-- The instant that a moment denotes, in microseconds of universal time from
    the beginning of the calendar. -/
def Moment.instant (m : Moment) : Int :=
  (m.wall.toMicros : Int) - m.offset.getD homeOffset * 1000000

/-- The instant of a moment, if its clock can tell. The clock of the system
    looks ahead by its offset and back by a day, and both have to lie in the
    calendar. -/
def Moment.locate (m : Moment) : Except Failure Int :=
  let wall : Int := m.wall.toMicros
  match m.offset with
  | some _ => .ok m.instant
  | none =>
    if (calendarMicros : Int) ≤ wall + homeOffset * 1000000 then .error (.yearRange 10000)
    else if wall < (microsPerDay : Int) then .error (.yearRange 0)
    else .ok m.instant

/-- When something happens: at a moment that is given with it, or now. -/
inductive Occasion where
  | given (m : Moment)
  | present (now : Moment)

/-- The moment of an occasion. -/
def Occasion.moment : Occasion → Moment
  | .given m => m
  | .present now => now

/-- What is given no moment of its own happens now. -/
def Occasion.ofMoment? (m : Option Moment) (now : Moment) : Occasion :=
  match m with
  | some m => .given m
  | none => .present now

@[simp] theorem Occasion.ofMoment?_some (m now : Moment) : ofMoment? (some m) now = .given m :=
  rfl

@[simp] theorem Occasion.ofMoment?_none (now : Moment) : ofMoment? none now = .present now :=
  rfl

/-- The instant lies in the calendar. -/
def inCalendar (instant : Int) : Bool :=
  0 ≤ instant && instant < (calendarMicros : Int)

/-- The date that the clocks of a zone show at an instant. -/
def Zone.wallAt (z : Zone) (instant : Int) : Except Failure Shown :=
  if inCalendar instant then
    let seconds := instant.toNat / 1000000
    let offset := z.offsetAt seconds
    let wall := instant + offset * 1000000
    if inCalendar wall then
      .ok ⟨DateTime.ofMicros wall.toNat, offset, z.nameAt seconds, z.savesAt? seconds⟩
    else .error .dateRange
  else .error .dateRange

/-- The moment that the clocks of a zone show at an instant. Only the clock of the
    system leaves its offset out, and it always looks a day back. -/
def Zone.momentAt (z : Zone) (instant : Int) : Except Failure Moment :=
  match z with
  | .home =>
    let wall := instant + homeOffset * 1000000
    if (calendarMicros : Int) ≤ wall then .error (.yearRange 10000)
    else if wall < (microsPerDay : Int) then .error (.yearRange 0)
    else .ok ⟨DateTime.ofMicros wall.toNat, none⟩
  | z => (z.wallAt instant).map fun s => ⟨s.wall, some s.offset⟩

/-- A number filled up with zeros to a width. -/
def padZero (width n : Nat) : String :=
  String.ofList (Pattern.number .zeros width n)

/-- The international form with milliseconds. -/
def isoText (s : Shown) : String :=
  let d := s.wall
  padZero 4 d.year ++ "-" ++ padZero 2 d.month ++ "-" ++ padZero 2 d.day ++ "T" ++
    padZero 2 d.hour ++ ":" ++ padZero 2 d.minute ++ ":" ++ padZero 2 d.second ++ "." ++
    padZero 3 (d.micro / 1000) ++ offsetText ":" s.offset

end Time

open Time

/-- A pattern and a zone to render dates with. The pattern is a text, or null for
    the international form; with anything else no date can be rendered. -/
structure DateFormatter where
  pattern : Value
  zone : Zone

namespace DateFormatter

/-- The formatter of a pattern and a zone setting, which has to resolve. -/
def make (pattern : Value) (setting : ZoneSetting) : Except Failure DateFormatter :=
  setting.resolve.map fun zone => ⟨pattern, zone⟩

/-- A date in the form of a formatter. -/
def layOut (f : DateFormatter) (s : Shown) : Except Failure String :=
  match f.pattern with
  | .null => .ok (isoText s)
  | .text p => .ok (Pattern.format p s)
  | v => .error (.patternKind v.kind)

/-- The text of an instant. -/
def formatInstant (f : DateFormatter) (instant : Int) : Except Failure String :=
  (f.zone.wallAt instant).bind f.layOut

/-- The text of a moment. -/
def format (f : DateFormatter) (m : Moment) : Except Failure String :=
  m.locate.bind f.formatInstant

/-- The text of the present moment, whoever tells what it is, as the clocks of the
    zone show it. -/
def formatNow (f : DateFormatter) (now : Moment) : Except Failure String :=
  (now.locate.bind f.zone.momentAt).bind f.format

/-- The date of an occasion. -/
def formatAt (f : DateFormatter) : Occasion → Except Failure String
  | .given m => f.format m
  | .present now => f.formatNow now

@[simp] theorem formatAt_given (f : DateFormatter) (m : Moment) :
    f.formatAt (.given m) = f.format m := rfl

@[simp] theorem formatAt_present (f : DateFormatter) (now : Moment) :
    f.formatAt (.present now) = f.formatNow now := rfl

/-- The formatter as it is shown. -/
def shown (f : DateFormatter) : String :=
  "DateFormatter(pattern=" ++ f.pattern.literal ++ ", time_zone=" ++ f.zone.shown ++ ")"

end DateFormatter

end TextLog
