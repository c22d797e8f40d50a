import TextLog.Decimal.Shortest

/-!
# Decimals of Given Length

A positive binary number with a fixed number of places, in scientific form, or
in whichever of the two suits its size.

All three round the exact value, a half going to the even digit. The general
form counts significant digits: it is scientific when the exponent is below
`-4` or not below the number of digits, positional otherwise, and drops the
zeros at the end unless it is told to keep them.

## Main definitions

* `fixed`: A number of places behind the point.
* `scientific`: One digit before the point and a number of places behind it.
* `general`: A number of significant digits.
-/

namespace TextLog

namespace Decimal

/-- Digits with a point before the last `places` of them. The point is left out
    where nothing follows it, unless it is to be kept. -/
def pointBefore (keep : Bool) (places : Nat) (ds : List Char) : List Char :=
  let padded := zeros (places + 1 - ds.length) ++ ds
  let whole := padded.length - places
  if places = 0 then padded ++ (if keep then ['.'] else [])
  else padded.take whole ++ '.' :: padded.drop whole

/-- The number `num / den` with the given places. -/
def fixed (keep : Bool) (num den places : Nat) : List Char :=
  pointBefore keep places (digits (roundHalfEven (num * powTen places) den))

/-- The digits of `num / den` rounded to `count` of them, and the power of ten
    of the first one. Rounding up to the next power of ten moves it. -/
def significant (num den count : Nat) : Nat × Int :=
  if num = 0 then (0, 0)
  else
    let order := decimalOrder num den
    let scaled := scaleTen num den ((count : Int) - 1 - order)
    let n := roundHalfEven scaled.1 scaled.2
    if n = powTen count then (powTen (count - 1), order + 1) else (n, order)

/-- The number `num / den` in scientific form with the given places. -/
def scientific (keep : Bool) (num den places : Nat) : List Char :=
  let found := significant num den (places + 1)
  let ds := digits found.1
  pointBefore keep places (ds ++ zeros (places + 1 - ds.length)) ++ 'e' :: exponentText found.2

/-- Drops the zeros behind the point, and the point if nothing is left. -/
def dropPlaces (cs : List Char) : List Char :=
  if cs.contains '.' then
    match (cs.reverse.dropWhile (· = '0')) with
    | '.' :: rest => rest.reverse
    | rest => rest.reverse
  else cs

/-- The number `num / den` with the given count of significant digits. -/
def general (keep : Bool) (num den count : Nat) : List Char :=
  let count := max count 1
  let order := (significant num den count).2
  let trim := fun cs => if keep then cs else dropPlaces cs
  if order < -4 || (count : Int) ≤ order then
    let whole := scientific keep num den (count - 1)
    let split := whole.takeWhile (· != 'e')
    trim split ++ whole.dropWhile (· != 'e')
  else
    trim (fixed keep num den ((count : Int) - 1 - order).toNat)

end Decimal

end TextLog
