import TextLog.Decimal.Binary64

/-!
# Shortest Decimals

The decimal text of a binary number with the fewest digits that reads back as
that number, and among those the one closest to it.

For one, two, up to seventeen digits the two neighbours of the number on the
decimal grid of that many digits are read back. The first grid on which one of
them gives the number decides; if both do, the nearer one is taken, and of two
equally near ones the even one. Seventeen digits always suffice.

The layout is positional for numbers from `1e-4` up to below `1e16` and
scientific outside, the exponent having at least two digits. A positional text
keeps one zero after the point if there is nothing else to show there.

## Main definitions

* `shortest`: Digits and power of ten of the shortest decimal.
* `Binary64.text`: The text of a number.
* `Binary64.ofText?`: The number that a text writes.
-/

namespace TextLog

namespace Decimal

/-- The neighbour of a positive number on the grid of `count` digits that reads
    back as `x`, with the power of ten of its last digit. -/
def onGrid? (x : Binary64) (num den : Nat) (order : Int) (count : Nat) : Option (Nat × Int) :=
  let power := order - (count : Int) + 1
  let scaled := scaleTen num den (-power)
  -- The number lies between two points of the grid; the nearer one goes first.
  let low := scaled.1 / scaled.2
  let near := roundHalfEven scaled.1 scaled.2
  let far := if near = low then low + 1 else low
  let reads := fun n => Binary64.ofDecimal false n power == x
  if reads near then some (near, power)
  else if reads far then some (far, power)
  else none

/-- Tries the grids of `count` digits and more, `left` of them. -/
def searchGrids (x : Binary64) (num den : Nat) (order : Int) : Nat → Nat → Nat × Int
  | 0, count => (onGrid? x num den order count).getD (0, 0)
  | left + 1, count =>
    match onGrid? x num den order count with
    | some found => found
    | none => searchGrids x num den order left (count + 1)

/-- The digits and the power of ten of the last digit of the shortest decimal
    for a positive number. -/
def shortest (mantissa : Nat) (exponent : Int) : Nat × Int :=
  let r := Binary64.ratioOf mantissa exponent
  searchGrids (.finite false mantissa exponent) r.1 r.2 (decimalOrder r.1 r.2) 16 1

/-- Zeros, as many as are asked for. -/
def zeros (n : Nat) : List Char :=
  List.replicate n '0'

/-- An exponent with its sign and at least two digits. -/
def exponentText (e : Int) : List Char :=
  let ds := digits e.natAbs
  (if e < 0 then '-' else '+') :: (zeros (2 - ds.length) ++ ds)

/-- The digits without zeros at their right end. -/
def dropTrailingZeros (ds : List Char) : List Char :=
  (ds.reverse.dropWhile (· = '0')).reverse

/-- Digits with the point after the first one, if there is a second one. -/
def pointAfterFirst : List Char → List Char
  | [] => []
  | [d] => [d]
  | d :: ds => d :: '.' :: ds

/-- Lays out digits whose first one counts `10 ^ order`. -/
def layOut (ds : List Char) (order : Int) : List Char :=
  if order < -4 || 16 ≤ order then
    pointAfterFirst ds ++ 'e' :: exponentText order
  else if order < 0 then
    '0' :: '.' :: (zeros (-order - 1).toNat ++ ds)
  else
    let whole := order.toNat + 1
    if ds.length ≤ whole then ds ++ zeros (whole - ds.length) ++ ['.', '0']
    else ds.take whole ++ '.' :: ds.drop whole

end Decimal

namespace Binary64

/-- The shortest text that reads back as the number. -/
def text : Binary64 → String
  | .nan => "nan"
  | .infinite negative => if negative then "-inf" else "inf"
  | .finite negative mantissa exponent =>
    let sign := if negative then ['-'] else []
    if mantissa = 0 then String.ofList (sign ++ ['0', '.', '0'])
    else
      let found := Decimal.shortest mantissa exponent
      let ds := Decimal.digits found.1
      let order := found.2 + (ds.length : Int) - 1
      String.ofList (sign ++ Decimal.layOut (Decimal.dropTrailingZeros ds) order)

/-- The number that ASCII digits write. -/
def ofDigits (ds : List Char) : Nat :=
  ds.foldl (fun n c => 10 * n + (c.toNat - 48)) 0

/-- Reads a sign. -/
def readSign : List Char → Bool × List Char
  | '-' :: rest => (true, rest)
  | '+' :: rest => (false, rest)
  | rest => (false, rest)

/-- Reads an exponent, or nothing at all, up to the end. -/
def readExponent? : List Char → Option Int
  | [] => some 0
  | c :: rest =>
    if c = 'e' || c = 'E' then
      let signed := readSign rest
      if signed.2.isEmpty || !signed.2.all Char.isDigit then none
      else
        let n : Int := ofDigits signed.2
        some (if signed.1 then -n else n)
    else none

/-- Reads digits with at most one point among them, and an exponent. -/
def readMagnitude? (negative : Bool) (cs : List Char) : Option Binary64 :=
  let whole := cs.takeWhile Char.isDigit
  let rest := cs.dropWhile Char.isDigit
  let split := match rest with
    | '.' :: more => (more.takeWhile Char.isDigit, more.dropWhile Char.isDigit)
    | _ => ([], rest)
  if whole.isEmpty && split.1.isEmpty then none
  else (readExponent? split.2).map fun e =>
    ofDecimal negative (ofDigits (whole ++ split.1)) (e - (split.1.length : Int))

/-- The number that a decimal text writes, with an optional sign, point and
    exponent, or by one of the names `inf` and `nan`. -/
def ofText? (s : String) : Option Binary64 :=
  let signed := readSign s.toList
  if signed.2 = "inf".toList then some (.infinite signed.1)
  else if signed.2 = "nan".toList then some .nan
  else readMagnitude? signed.1 signed.2

end Binary64

end TextLog
