import TextLog.Decimal.Rounding

/-!
# Binary Numbers of 64 Bits

The numbers with a fraction that a value may hold, in the double precision
binary format, by their exact meaning.

A finite number is a sign, a mantissa below `2 ^ 53` and an exponent of two, so
its value is exact and all text forms can be computed with natural numbers. An
exact quotient is turned into such a number by rounding to the nearest one, a
half going to the even mantissa; quotients beyond the largest number become
infinite and those too close to zero become zero.

## Main definitions

* `Binary64`: A number of the format.
* `Binary64.ofRatio`: The number nearest to a quotient.
* `Binary64.ofInt?`: The number nearest to an integer, if it is in reach.
* `Binary64.ratio`: The value of a finite number as a quotient.
* `Binary64.le`: The order of the values.
-/

namespace TextLog

/-- A number of the binary format with 53 bits of precision. A finite number
    stands for `mantissa * 2 ^ exponent` with the given sign. -/
inductive Binary64 where
  | finite (negative : Bool) (mantissa : Nat) (exponent : Int)
  | infinite (negative : Bool)
  | nan
  deriving DecidableEq, Repr, Inhabited

namespace Binary64

open Decimal

/-- The number zero. -/
def zero (negative : Bool) : Binary64 :=
  .finite negative 0 (-1074)

/-- The smallest exponent of two that a mantissa may carry. -/
def leastExponent : Int := -1074

/-- The largest exponent of two that a mantissa may carry. -/
def greatestExponent : Int := 971

/-- A quotient scaled by a power of two, as numerator and denominator. -/
def scaleTwo (num den : Nat) (power : Int) : Nat × Nat :=
  if 0 ≤ power then (num * powTwo power.toNat, den)
  else (num, den * powTwo (-power).toNat)

/-- The exponent at which a positive quotient has a whole part of 53 bits, or
    the least exponent for quotients too small for that. -/
def quantum (num den : Nat) : Int :=
  let guess : Int := (num.log2 : Int) - (den.log2 : Int) - 53
  let low := max guess leastExponent
  -- The logarithms of the parts give the place of the first bit up to one.
  let scaled := scaleTwo num den (-low)
  if scaled.1 / scaled.2 < powTwo 53 then low else low + 1

/-- A rounded mantissa with its exponent. The carry out of 53 bits moves to the
    exponent, and an exponent beyond the greatest gives an infinite number. -/
def pack (negative : Bool) (mantissa : Nat) (exponent : Int) : Binary64 :=
  let carried := if mantissa = powTwo 53 then (powTwo 52, exponent + 1) else (mantissa, exponent)
  if carried.1 = 0 then zero negative
  else if greatestExponent < carried.2 then .infinite negative
  else .finite negative carried.1 carried.2

/-- The number nearest to `num / den`, with the given sign. -/
def ofRatio (negative : Bool) (num den : Nat) : Binary64 :=
  if num = 0 then zero negative
  else
    let e := quantum num den
    let scaled := scaleTwo num den (-e)
    pack negative (Decimal.roundHalfEven scaled.1 scaled.2) e

/-- The number nearest to `digits * 10 ^ power`. Powers far out of reach are
    settled without being computed. -/
def ofDecimal (negative : Bool) (digits : Nat) (power : Int) : Binary64 :=
  if digits = 0 then zero negative
  else
    let order := (Decimal.digitCount digits : Int) + power
    if 400 < order then .infinite negative
    else if order < -400 then zero negative
    else
      let scaled := Decimal.scaleTen digits 1 power
      ofRatio negative scaled.1 scaled.2

/-- The number nearest to an integer; integers that would become infinite have
    none. -/
def ofInt? (n : Int) : Option Binary64 :=
  match ofRatio (n < 0) n.natAbs 1 with
  | .infinite _ => none
  | x => some x

/-- The size of a finite number as a quotient. -/
def ratioOf (mantissa : Nat) (exponent : Int) : Nat × Nat :=
  scaleTwo mantissa 1 exponent

/-- The whole part of a finite number, cut toward zero. -/
def truncate (negative : Bool) (mantissa : Nat) (exponent : Int) : Int :=
  let r := ratioOf mantissa exponent
  if negative then -((r.1 / r.2 : Nat) : Int) else ((r.1 / r.2 : Nat) : Int)

/-- The number is at least the integer. -/
def atLeast (x : Binary64) (n : Int) : Bool :=
  match x with
  | .nan => false
  | .infinite negative => !negative
  | .finite negative mantissa exponent =>
    let r := ratioOf mantissa exponent
    let signed : Int := if negative then -(r.1 : Int) else (r.1 : Int)
    n * (r.2 : Int) ≤ signed

/-- The number is zero, of either sign. -/
def isZero : Binary64 → Bool
  | .finite _ 0 _ => true
  | _ => false

end Binary64

end TextLog
