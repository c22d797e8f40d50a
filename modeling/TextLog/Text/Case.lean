/-!
# Letter Case

Lower and upper case, as far as names written in ASCII need them.

Texts are folded only to be looked up among ASCII names. What matters is
therefore every character whose other case is made of ASCII letters: the ASCII
letters themselves and a handful outside, such as the Kelvin sign, the dotless
`ı`, the long `ſ` and the Latin ligatures. All other characters stay as they
are; none of them can turn into a name.

## Main definitions

* `lower`, `upper`: The text with every such character folded.
-/

namespace TextLog

namespace Text

/-- The lower case of a character. The dotted capital `İ` becomes two
    characters, of which the second is a combining dot. -/
def lowerChar (c : Char) : List Char :=
  if c = '\u212a' then ['k']
  else if c = '\u0130' then ['i', '\u0307']
  else [c.toLower]

/-- The characters outside ASCII whose upper case is written in ASCII. -/
def foreignCapitals : List (Char × List Char) :=
  [('\u00df', ['S', 'S']), ('\u0131', ['I']), ('\u017f', ['S']),
   ('\ufb00', ['F', 'F']), ('\ufb01', ['F', 'I']), ('\ufb02', ['F', 'L']),
   ('\ufb03', ['F', 'F', 'I']), ('\ufb04', ['F', 'F', 'L']),
   ('\ufb05', ['S', 'T']), ('\ufb06', ['S', 'T'])]

/-- The upper case of a character. -/
def upperChar (c : Char) : List Char :=
  (foreignCapitals.lookup c).getD [c.toUpper]

/-- The text in lower case. -/
def lower (s : String) : String :=
  String.ofList (s.toList.flatMap lowerChar)

/-- The text in upper case. -/
def upper (s : String) : String :=
  String.ofList (s.toList.flatMap upperChar)

end Text

end TextLog
