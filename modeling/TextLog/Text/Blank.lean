/-!
# Blank Characters

The characters that count as space around a name or a number.

The set is the Unicode white space together with the four information
separators, 29 characters in all. It is wider than the ASCII blanks, so a name
padded with a no-break space or an ideographic space is still that name.

## Main definitions

* `isBlank`: A character is blank.
* `strip`: A text without the blanks at its two ends.
-/

namespace TextLog

namespace Text

/-- A character that may stand around a word without belonging to it. -/
def isBlank (c : Char) : Bool :=
  let n := c.toNat
  (9 ≤ n && n ≤ 13) || (28 ≤ n && n ≤ 32) || n == 0x85 || n == 0xa0 || n == 0x1680 ||
    (0x2000 ≤ n && n ≤ 0x200a) || n == 0x2028 || n == 0x2029 || n == 0x202f ||
    n == 0x205f || n == 0x3000

/-- The characters without the blanks at the right end. -/
def stripRight (cs : List Char) : List Char :=
  (cs.reverse.dropWhile isBlank).reverse

/-- The characters without the blanks at both ends. -/
def stripChars (cs : List Char) : List Char :=
  stripRight (cs.dropWhile isBlank)

/-- The text without the blanks at both ends. -/
def strip (s : String) : String :=
  String.ofList (stripChars s.toList)

end Text

end TextLog
