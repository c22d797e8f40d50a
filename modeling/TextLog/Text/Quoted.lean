import TextLog.Text.Printable

/-!
# Quoted Texts

A text as it is shown inside another value or a message: between quotes, with
every character that would not show escaped.

The quote is the single one unless the text holds a single quote and no double
quote. A backslash and the quote in use are escaped by a backslash; newline,
return and tab have letters of their own; any other character that is not
printable is written by its code point in two, four or eight hexadecimal
digits, whichever is the first to fit.

## Main definitions

* `hex`: A number in hexadecimal, padded with zeros.
* `quote`: A text between quotes.
* `quoteAscii`: The same with everything outside ASCII escaped as well.
-/

namespace TextLog

namespace Text

/-- The digit of a value below sixteen. -/
def hexDigit (n : Nat) : Char :=
  if n < 10 then Char.ofNat (48 + n) else Char.ofNat (87 + n)

/-- The last `width` hexadecimal digits of a number. -/
def hex : Nat → Nat → List Char
  | 0, _ => []
  | width + 1, n => hex width (n / 16) ++ [hexDigit (n % 16)]

/-- A character by its code point. -/
def escapeCode (c : Char) : List Char :=
  let n := c.toNat
  if n < 0x100 then '\\' :: 'x' :: hex 2 n
  else if n < 0x10000 then '\\' :: 'u' :: hex 4 n
  else '\\' :: 'U' :: hex 8 n

/-- A character as it stands between the quotes `q`. -/
def escapeChar (shown : Char → Bool) (q c : Char) : List Char :=
  if c = q || c = '\\' then ['\\', c]
  else if c = '\n' then ['\\', 'n']
  else if c = '\r' then ['\\', 'r']
  else if c = '\t' then ['\\', 't']
  else if shown c then [c]
  else escapeCode c

/-- The quote that goes around a text. -/
def quoteFor (cs : List Char) : Char :=
  if cs.contains '\'' && !cs.contains '"' then '"' else '\''

/-- The text between quotes, with the characters that are not `shown` by their
    code point. -/
def quoteShowing (shown : Char → Bool) (s : String) : String :=
  let q := quoteFor s.toList
  String.ofList (q :: s.toList.flatMap (escapeChar shown q) ++ [q])

/-- The text between quotes. -/
def quote (s : String) : String :=
  quoteShowing isPrintable s

/-- The text between quotes in ASCII alone. -/
def quoteAscii (s : String) : String :=
  quoteShowing (fun c => c.toNat < 0x7f && isPrintable c) s

end Text

end TextLog
