import TextLog.Decimal.Power

/-!
# Rounding Quotients

Exact division with the remainder rounded to the nearest whole number, a half
going to the even neighbour. Every number format of the library rounds through
this one function.

Every integer has a text here. A runtime may refuse to write out, or to read,
more digits than a limit that it sets, which is some thousands as a rule. Reading
an argument of the program keeps to such a limit, since any text can be given
there. Writing does not: the integers that are written are taken to be within it.

## Main definitions

* `roundHalfEven`: The whole number nearest to a quotient.
* `intText`: An integer in decimal digits.
* `digitCount`: The number of decimal digits of a number.
* `decimalOrder`: The power of ten at which a positive quotient starts.
-/

namespace TextLog

namespace Decimal

/-- The whole number nearest to `num / den`; a half goes to the even one. -/
def roundHalfEven (num den : Nat) : Nat :=
  let q := num / den
  let r := num % den
  if 2 * r < den then q
  else if den < 2 * r then q + 1
  else if q % 2 = 0 then q
  else q + 1

/-- The decimal digits of a number, the leading one first. -/
def digits (n : Nat) : List Char :=
  Nat.toDigits 10 n

/-- The text of an integer, however many digits it has. -/
def intText (n : Int) : String :=
  let size := String.ofList (digits n.natAbs)
  if n < 0 then "-" ++ size else size

/-- The number of decimal digits of a number; zero has one. -/
def digitCount (n : Nat) : Nat :=
  (digits n).length

/-- A quotient scaled by a power of ten, as numerator and denominator. -/
def scaleTen (num den : Nat) (power : Int) : Nat × Nat :=
  if 0 ≤ power then (num * powTen power.toNat, den)
  else (num, den * powTen (-power).toNat)

/-- The power of ten at which a positive quotient starts: the `d` with
    `10 ^ d ≤ num / den < 10 ^ (d + 1)`. The digit counts of the two parts give
    it up to one. -/
def decimalOrder (num den : Nat) : Int :=
  let guess : Int := (digitCount num : Int) - (digitCount den : Int)
  let scaled := scaleTen num den (-guess)
  if scaled.2 ≤ scaled.1 then guess else guess - 1

end Decimal

end TextLog
