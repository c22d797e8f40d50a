import TextLog.Time.DateFormatter
import TextLog.Decimal.Binary64

/-!
# Timestamps

Points of time given as seconds since the epoch.

A timestamp is shown on the clock of the system, rounded to microseconds. Of a
number with a fraction the fraction is scaled to microseconds in the number
format first and rounded then, a half going to the even one. The clock of the
system cannot show the very first day of the calendar, because it always looks
one day back.

## Main definitions

* `timestampMicros`: A timestamp in microseconds since the epoch.
* `Moment.ofTimestamp`: A timestamp on the clock of the system.
* `Moment.timestamp`: The timestamp of a moment.
-/

namespace TextLog

namespace Time

open Decimal

/-- Whole seconds, as far as the system can count them. -/
def countable (seconds : Int) : Except Failure Int :=
  if seconds < -(powTwo 63 : Int) || (powTwo 63 : Int) ≤ seconds then .error .timestampRange
  else .ok seconds

/-- The fraction of a number with a fraction, in microseconds. -/
def fractionMicros (mantissa : Nat) (exponent : Int) : Nat :=
  let r := Binary64.ratioOf mantissa exponent
  match Binary64.ofRatio false (r.1 % r.2 * 1000000) r.2 with
  | .finite _ m e =>
    let scaled := Binary64.ratioOf m e
    Decimal.roundHalfEven scaled.1 scaled.2
  | _ => 0

/-- A timestamp in microseconds since the epoch. -/
def timestampMicros : Value → Except Failure Int
  | .int n => (countable n).map (· * 1000000)
  | .bool b => .ok (if b then 1000000 else 0)
  | .float .nan => .error .timestampNan
  | .float (.infinite _) => .error .timestampRange
  | .float (.finite negative mantissa exponent) =>
    let fraction : Int := fractionMicros mantissa exponent
    (countable (Binary64.truncate negative mantissa exponent)).map fun n =>
      n * 1000000 + (if negative then -fraction else fraction)
  | v => .error (.timestampKind v.kind)

/-- The year of a point of time, in or out of the calendar. -/
def yearOfMicros (micros : Int) : Int :=
  let day := micros.fdiv microsPerDay
  let cycles := day.fdiv 146097
  (yearOfDay (day - cycles * 146097).toNat).1 + 400 * cycles

/-- The year of a point of time as the system counts it, in signed numbers of
    32 bits from 1900 on; nothing beyond these. The count from the year 1
    starts over where it has no such number. -/
def systemYear? (micros : Int) : Option Int :=
  let year := yearOfMicros micros
  if year - 1900 < -(powTwo 31 : Int) || (powTwo 31 : Int) ≤ year - 1900 then none
  else some (year.bmod (powTwo 32))

/-- A timestamp on the clock of the system. -/
def Moment.ofTimestamp (v : Value) : Except Failure Moment :=
  (timestampMicros v).bind fun micros =>
    let universal := micros + (epochSeconds : Int) * 1000000
    let shown := universal + homeOffset * 1000000
    match systemYear? universal, systemYear? shown with
    | some _, some year =>
      if !inCalendar shown then .error (.yearRange year)
      -- The first day has no day before it to look back to.
      else if shown < microsPerDay then .error (.yearRange 0)
      else .ok ⟨DateTime.ofMicros shown.toNat, none⟩
    | _, _ => .error .timestampSize

/-- The timestamp of a moment, as a number with a fraction. -/
def Moment.timestamp (m : Moment) : Except Failure Value :=
  m.locate.map fun instant =>
    let micros := instant - (epochSeconds : Int) * 1000000
    .float (Binary64.ofRatio (micros < 0) micros.natAbs 1000000)

end Time

end TextLog
