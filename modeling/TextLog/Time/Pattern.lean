import TextLog.Time.Zone
import TextLog.Text.Letter
import TextLog.Value

/-!
# Date Patterns

A date and time of day laid out by a pattern of percent directives.

A pattern is filled in twice. The first pass puts in what the calendar does not
know: the microseconds, the offset and the name of the zone; percent signs in
the name are doubled, so that the second pass leaves them alone. The result
ends at its first null character. The second pass fills in the calendar
directives.

A directive may have marks, a width and a variant before its letter. The marks
are `-` for no padding, `_` for blanks, `0` for zeros, of which the last one
counts, `^` for capitals and `#` for the other case. A width is the least
number of characters. The variants `E` and `O` ask for the era or the digits of
another culture; here they change nothing, but not every letter takes them.
Whatever is no directive is copied.

Years are written without padding. Weeks are counted from the first Sunday,
from the first Monday, or by the rule that a week belongs to the year of its
Thursday.

A text that is far too long for its pattern is given up, and nothing is shown.

## Main definitions

* `Shown`: A date with the zone it is shown in.
* `isoWeek`: The year and number of a week.
* `Pattern.Meaning`: What a letter stands for.
* `Pattern.format`: A date laid out by a pattern.
-/

namespace TextLog

namespace Time

/-- A date as the clocks of a zone show it, with the offset and the name of the
    zone. `saving` tells whether daylight is saved, if the zone knows. -/
structure Shown where
  wall : DateTime
  offset : Int
  zoneName : String
  saving : Option Bool

/-- The names of the days of the week, Monday first. -/
def weekdayNames : List String :=
  ["Monday", "Tuesday", "Wednesday", "Thursday", "Friday", "Saturday", "Sunday"]

/-- The names of the months. -/
def monthNames : List String :=
  ["January", "February", "March", "April", "May", "June", "July", "August", "September",
   "October", "November", "December"]

/-- The year and the number of the week that a day belongs to: those of the
    Thursday of its week. -/
def isoWeek (day : Nat) : Nat × Nat :=
  let thursday := day - weekday day + 3
  let year := yearOfDay thursday
  (year.1, year.2 / 7 + 1)

namespace Pattern

/-- How a number is filled up to its width. -/
inductive Padding where
  | bare
  | blanks
  | zeros
  deriving DecidableEq

/-- The padding that a mark asks for. -/
def Padding.ofMark? (c : Char) : Option Padding :=
  if c = '-' then some .bare
  else if c = '_' then some .blanks
  else if c = '0' then some .zeros
  else none

/-- The character is a mark. -/
def isMark (c : Char) : Bool :=
  (Padding.ofMark? c).isSome || c == '^' || c == '#'

/-- What stands between the percent sign and the letter of a directive. -/
structure Shape where
  padding : Option Padding
  capitals : Bool
  toggled : Bool
  width : Nat
  variant : Option Char

/-- The number that ASCII digits write. -/
def readNumber (ds : List Char) : Nat :=
  ds.foldl (fun n c => 10 * n + (c.toNat - 48)) 0

/-- The variant that a text starts with. -/
def variant? : List Char → Option Char
  | c :: _ => if c = 'E' || c = 'O' then some c else none
  | [] => none

/-- The marks, the width and the variant that a text starts with, as they are
    written, and what they ask for. The last padding counts. -/
def readShape (cs : List Char) : List Char × Shape :=
  let marks := cs.takeWhile isMark
  let rest := cs.dropWhile isMark
  let digits := rest.takeWhile Char.isDigit
  let variant := variant? (rest.dropWhile Char.isDigit)
  (marks ++ digits ++ variant.toList,
    { padding := (marks.filterMap Padding.ofMark?).getLast?
      capitals := marks.contains '^'
      toggled := marks.contains '#'
      width := readNumber digits
      variant := variant })

/-- The case in which words are shown. -/
inductive LetterCase where
  | kept
  | capital
  | small
  deriving DecidableEq

/-- Words in a case. -/
def LetterCase.apply : LetterCase → List Char → List Char
  | .kept, cs => cs
  | .capital, cs => cs.map Text.capitalLetter
  | .small, cs => cs.map Text.smallLetter

/-- What a letter stands for. -/
inductive Meaning where
  /-- A number of at least so many digits, with its customary padding. -/
  | number (digits : Nat) (padding : Padding) (n : Nat)
  /-- Words, and the case that the mark for the other case gives them. -/
  | words (cs : List Char) (toggled : LetterCase)
  /-- Characters that have no case or always keep it. -/
  | signs (cs : List Char)
  /-- The offset of a zone that is taken to be universal time. -/
  | noOffset
  /-- Nothing at all, whatever the width. -/
  | nothing

/-- Characters filled up at the left to a width. -/
def filled (blank : Char) (width : Nat) (cs : List Char) : List Char :=
  List.replicate (width - cs.length) blank ++ cs

/-- The character that fills a shape up. -/
def Shape.blank (s : Shape) : Char :=
  if s.padding = some .zeros then '0' else ' '

/-- A number of a given width. -/
def number (p : Padding) (width n : Nat) : List Char :=
  match p with
  | .bare => Decimal.digits n
  | .blanks => filled ' ' width (Decimal.digits n)
  | .zeros => filled '0' width (Decimal.digits n)

/-- A number in a shape. Where its own padding leaves room, blanks fill it. -/
def Shape.number (s : Shape) (digits : Nat) (customary : Padding) (n : Nat) : List Char :=
  filled ' ' s.width (Pattern.number (s.padding.getD customary) (max digits s.width) n)

/-- The case of words in a shape. -/
def Shape.letterCase (s : Shape) (toggled : LetterCase) : LetterCase :=
  if s.toggled && toggled != .kept then toggled
  else if s.capitals then .capital
  else .kept

/-- What a letter stands for, in a shape. -/
def Shape.render (s : Shape) : Meaning → List Char
  | .number digits customary n => s.number digits customary n
  | .words cs toggled => filled s.blank s.width ((s.letterCase toggled).apply cs)
  | .signs cs => filled s.blank s.width cs
  | .noOffset => filled s.blank s.width ['+'] ++ s.number 4 .zeros 0
  | .nothing => []

/-- A time of day or day of the month padded by zeros. -/
def two (n : Nat) : List Char :=
  number .zeros 2 n

/-- The hour on a dial of twelve hours. -/
def dialHour (hour : Nat) : Nat :=
  if hour % 12 = 0 then 12 else hour % 12

/-- The first three letters of the name at an index. -/
def shortName (names : List String) (i : Nat) : List Char :=
  ((names[i]?).getD "").toList.take 3

/-- The whole name at an index. -/
def fullName (names : List String) (i : Nat) : List Char :=
  ((names[i]?).getD "").toList

/-- The time of day with seconds. -/
def clock (d : DateTime) : List Char :=
  two d.hour ++ ':' :: two d.minute ++ ':' :: two d.second

/-- Month, day and year by two digits each. -/
def slashed (d : DateTime) : List Char :=
  two d.month ++ '/' :: two d.day ++ '/' :: two (d.year % 100)

/-- The half of the day. -/
def half (d : DateTime) : List Char :=
  if d.hour < 12 then ['A', 'M'] else ['P', 'M']

/-- Date and time of day in full. -/
def longForm (d : DateTime) : List Char :=
  shortName weekdayNames (weekday d.dayOrdinal) ++ ' ' :: shortName monthNames (d.month - 1) ++
    ' ' :: number .blanks 2 d.day ++ ' ' :: clock d ++ ' ' :: Decimal.digits d.year

/-- The seconds from the epoch at which the clocks of the system's own zone show
    the date. These clocks never save daylight, so a date of clocks that do is
    taken to be an hour ahead. -/
def localSeconds (s : Shown) : Int :=
  (s.wall.toMicros / 1000000 : Nat) - (epochSeconds : Int) - homeOffset -
    (if s.saving = some true then 3600 else 0)

/-- What a letter stands for, if it is that of a directive. -/
def meaning? (s : Shown) (letter : Char) : Option Meaning :=
  let d := s.wall
  let day := d.dayOrdinal
  match letter with
  | 'a' => some (.words (shortName weekdayNames (weekday day)) .capital)
  | 'A' => some (.words (fullName weekdayNames (weekday day)) .capital)
  | 'b' => some (.words (shortName monthNames (d.month - 1)) .capital)
  | 'h' => some (.words (shortName monthNames (d.month - 1)) .capital)
  | 'B' => some (.words (fullName monthNames (d.month - 1)) .capital)
  | 'c' => some (.words (longForm d) .kept)
  | 'C' => some (.number 1 .zeros (d.year / 100))
  | 'd' => some (.number 2 .zeros d.day)
  | 'D' => some (.words (slashed d) .kept)
  | 'x' => some (.words (slashed d) .kept)
  | 'e' => some (.number 2 .blanks d.day)
  | 'F' => some (.words (Decimal.digits d.year ++ '-' :: two d.month ++ '-' :: two d.day) .kept)
  | 'g' => some (.number 2 .zeros ((isoWeek day).1 % 100))
  | 'G' => some (.number 1 .zeros (isoWeek day).1)
  | 'H' => some (.number 2 .zeros d.hour)
  | 'I' => some (.number 2 .zeros (dialHour d.hour))
  | 'j' => some (.number 3 .zeros (d.daysPassed + 1))
  | 'k' => some (.number 2 .blanks d.hour)
  | 'l' => some (.number 2 .blanks (dialHour d.hour))
  | 'm' => some (.number 2 .zeros d.month)
  | 'M' => some (.number 2 .zeros d.minute)
  | 'n' => some (.signs ['\n'])
  | 'p' => some (.words (half d) .small)
  | 'P' => some (.signs ((half d).map Char.toLower))
  | 'r' => some (.words (two (dialHour d.hour) ++ ':' :: two d.minute ++ ':' :: two d.second
      ++ ' ' :: half d) .kept)
  | 'R' => some (.words (two d.hour ++ ':' :: two d.minute) .kept)
  | 's' => some (.signs (Decimal.intText (localSeconds s)).toList)
  | 'S' => some (.number 2 .zeros d.second)
  | 't' => some (.signs ['\t'])
  | 'T' => some (.words (clock d) .kept)
  | 'X' => some (.words (clock d) .kept)
  | 'u' => some (.number 1 .zeros (weekday day + 1))
  | 'U' => some (.number 2 .zeros ((d.daysPassed + 7 - (weekday day + 1) % 7) / 7))
  | 'V' => some (.number 2 .zeros (isoWeek day).2)
  | 'w' => some (.number 1 .zeros ((weekday day + 1) % 7))
  | 'W' => some (.number 2 .zeros ((d.daysPassed + 7 - weekday day) / 7))
  | 'y' => some (.number 2 .zeros (d.year % 100))
  | 'Y' => some (.number 1 .zeros d.year)
  -- Offset and name are only left here behind marks, and then they are those of
  -- the system, given that the zone knows whether it saves daylight.
  | 'z' => some (if s.saving.isSome then .noOffset else .nothing)
  | 'Z' => some (.words (if s.saving.isSome then homeName.toList else []) .small)
  | '%' => some (.signs ['%'])
  | _ => none

/-- The letters that take no variant. -/
def plainLetters : List Char :=
  ['%', 'a', 'A', 'D', 'F']

/-- The letters that do not take the variant for the era. -/
def timelessLetters : List Char :=
  ['b', 'B', 'd', 'e', 'g', 'G', 'h', 'H', 'I', 'j', 'k', 'l', 'm', 'M', 'S', 'U', 'V', 'w', 'W']

/-- The letters that do not take the variant for the digits. -/
def wordyLetters : List Char :=
  ['c', 'x', 'X', 'Y']

/-- A letter takes a variant. -/
def takes (letter : Char) : Option Char → Bool
  | none => true
  | some v =>
    !plainLetters.contains letter &&
      !(if v = 'E' then timelessLetters else wordyLetters).contains letter

/-- A directive that is none, as it is written, in a shape. The abbreviated
    month is told to change its case before its variant is refused. -/
def Shape.copied (s : Shape) (letter : Option Char) (written : List Char) : List Char :=
  let month := letter = some 'b' || letter = some 'h'
  -- What is copied starts at the last percent sign.
  let shown := if letter = some '%' then ['%'] else written
  filled s.blank s.width ((s.letterCase (if month then .capital else .kept)).apply shown)

/-- What a directive shows, or the directive as it is written if it is none.
    Nothing is made that is as wide as the limit. -/
def Shape.shown? (s : Shape) (limit : Nat) (letter : Option Char) (written : List Char) :
    Option Meaning → Option (List Char)
  | some .nothing => some []
  | some m => if limit ≤ s.width then none else some (s.render m)
  | none => if limit ≤ s.width then none else some (s.copied letter written)

/-- Puts in the microseconds, the offset and the name of the zone. Directives
    are read as pairs, so a doubled percent sign hides what follows it. -/
def fillZone (s : Shown) : List Char → List Char
  | '%' :: c :: rest =>
    let filled :=
      if c = 'f' then number .zeros 6 s.wall.micro
      else if c = 'z' then (offsetText "" s.offset).toList
      else if c = 'Z' then s.zoneName.toList.flatMap fun n => if n = '%' then ['%', '%'] else [n]
      else ['%', c]
    filled ++ fillZone s rest
  | c :: rest => c :: fillZone s rest
  | [] => []

/-- Fills in the calendar directives, unless one of them is as wide as the
    limit. Each step leaves fewer characters, so their number is fuel enough. -/
def fillCalendar (s : Shown) (limit : Nat) : Nat → List Char → Option (List Char)
  | 0, _ => some []
  | _, [] => some []
  | fuel + 1, c :: rest =>
    if c = '%' then
      let (marks, shape) := readShape rest
      let (letter, after) := match rest.drop marks.length with
        | [] => (none, [])
        | letter :: after => (some letter, after)
      let meant := (letter.filter (takes · shape.variant)).bind (meaning? s)
      (shape.shown? limit letter ('%' :: marks ++ letter.toList) meant).bind fun shown =>
        (fillCalendar s limit fuel after).map (shown ++ ·)
    else (fillCalendar s limit fuel rest).map (c :: ·)

/-- The first of a number and its doubles, as many as are tried, that reaches a
    bound. -/
def doubledTo (bound : Nat) : Nat → Nat → Nat
  | 0, n => n
  | tries + 1, n => if bound ≤ n then n else doubledTo bound tries (2 * n)

/-- The length that the text of a pattern has to stay below. -/
def lengthLimit (cs : List Char) : Nat :=
  doubledTo (256 * cs.length) cs.length 1024

/-- A date laid out by a pattern. -/
def format (pattern : String) (s : Shown) : String :=
  -- A null character ends the pattern.
  let cs := (fillZone s pattern.toList).takeWhile (· != '\x00')
  let limit := lengthLimit cs
  match fillCalendar s limit cs.length cs with
  | some text => if text.length < limit then String.ofList text else ""
  | none => ""

end Pattern

end Time

end TextLog
