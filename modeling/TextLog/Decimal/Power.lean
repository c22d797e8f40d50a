/-!
# Powers of Two and Ten

The two powers that number formats are made of, as natural numbers.

## Main definitions

* `powTwo`, `powTen`: The powers of a natural exponent.
-/

namespace TextLog

namespace Decimal

/-- The power of two with a natural exponent. -/
def powTwo (n : Nat) : Nat :=
  Nat.pow 2 n

/-- The power of ten with a natural exponent. -/
def powTen (n : Nat) : Nat :=
  Nat.pow 10 n

end Decimal

end TextLog
