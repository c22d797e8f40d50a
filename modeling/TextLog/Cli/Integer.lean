import TextLog.Text.Blank

/-!
# Integers on the Command Line

Reading an integer that was typed.

There may be white space around it, a sign, zeros in front, single underscores
between digits, and a point with nothing but zeros behind it. Only ASCII digits
count. Zeros in front are taken away together with the underscores among them,
but only if there is no minus sign. There is a limit to the number of digits
that are left then.

## Main definitions

* `readInteger?`: The integer that a text writes.
-/

namespace TextLog

namespace Cli

/-- White space in the strict sense, without the information separators. -/
def isWhite (c : Char) : Bool :=
  Text.isBlank c && !(0x1c ≤ c.toNat && c.toNat ≤ 0x1f)

/-- The characters without white space at both ends. -/
def trimWhite (cs : List Char) : List Char :=
  ((cs.dropWhile isWhite).reverse.dropWhile isWhite).reverse

/-- What is left behind a plus sign, which must not be followed by another
    sign. -/
def dropPlus? : List Char → Option (List Char)
  | '+' :: '-' :: _ => none
  | '+' :: rest => some rest
  | cs => some cs

/-- A digit that is not zero. -/
def isCounting (c : Char) : Bool :=
  '1' ≤ c && c ≤ '9'

/-- What is left behind zeros and underscores, of which `last` was the last one.
    It is kept if no digit follows. -/
def behindZeros? (last : Char) : List Char → Option (List Char)
  | [] => some [last]
  | c :: rest =>
    if c = '0' || c = '_' then behindZeros? c rest
    else if isCounting c then some (c :: rest)
    else if c = '.' then some (last :: c :: rest)
    else none

/-- What is left behind the zeros in front. A number has to start with a digit
    or a minus sign. -/
def dropZeros? : List Char → Option (List Char)
  | '0' :: rest => behindZeros? '0' rest
  | c :: rest => if isCounting c || c = '-' then some (c :: rest) else none
  | [] => none

/-- The characters before a point that only zeros follow, or all of them. -/
def dropPoint (cs : List Char) : List Char :=
  match cs.dropWhile (· != '.') with
  | _ :: c :: rest => if (c :: rest).all (· == '0') then cs.takeWhile (· != '.') else cs
  | _ => cs

/-- Two underscores stand in a row. -/
def hasDoubleUnderscore : List Char → Bool
  | '_' :: '_' :: _ => true
  | _ :: rest => hasDoubleUnderscore rest
  | [] => false

/-- The characters without underscores, if these stand within the number and
    apart from each other. -/
def dropUnderscores (cs : List Char) : List Char :=
  if cs.head? = some '_' || cs.getLast? = some '_' || hasDoubleUnderscore cs then cs
  else cs.filter (· != '_')

/-- The most digits that a number can have. -/
def digitLimit : Nat := 4300

/-- The number that digits write, without further zeros in front. -/
def readPlain? (cs : List Char) : Option Nat :=
  let plain := match cs with
    | [] => false
    | '0' :: _ :: _ => false
    | cs => cs.all Char.isDigit && cs.length ≤ digitLimit
  if plain then some (cs.foldl (fun n c => 10 * n + (c.toNat - 48)) 0) else none

/-- The number that digits and perhaps a minus sign write. -/
def readSigned? : List Char → Option Int
  | '-' :: rest => (readPlain? rest).map fun n => -(n : Int)
  | cs => (readPlain? cs).map fun n => (n : Int)

/-- The integer that a text writes. -/
def readInteger? (s : String) : Option Int :=
  ((dropPlus? (trimWhite s.toList)).bind dropZeros?).bind fun cs =>
    readSigned? (dropUnderscores (dropPoint cs))

end Cli

end TextLog
