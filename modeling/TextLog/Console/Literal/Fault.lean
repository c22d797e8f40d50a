import TextLog.Decimal.Layout
import TextLog.Text.Printable
import TextLog.Text.Quoted

/-!
# Faults of Literals

What can be wrong with an expression that is to be read as a literal.

Some faults lie in the characters, some in the order of the tokens, and a few in
what the expression stands for. An expression with an unknown fault in its order
is only said to be invalid.

## Main definitions

* `Fault`: A fault by its cause, with its `Fault.wording`.
* `Fault.isOrder`: The fault is one in how the expression is written.
-/

namespace TextLog

namespace Console

namespace Literal

/-- What is wrong with an expression. -/
inductive Fault where
  /-- Tokens in an order that means nothing. -/
  | invalid
  /-- Two expressions in brackets with nothing between them. -/
  | missingComma
  /-- A condition without an alternative. -/
  | missingElse
  /-- A name in front of an expression, as if it were an instruction. -/
  | missingParentheses (name : String)
  /-- An assignment where a comparison may have been meant. -/
  | assignmentForComparison
  /-- An assignment to something else than a name where a comparison may have
      been meant. -/
  | assignmentTo (what : String)
  /-- A named expression with something else than a name. -/
  | namedAssignment (what : String)
  /-- A target that cannot be assigned to. -/
  | target (what : String)
  /-- An assignment among the arguments of a call. -/
  | assignmentInCall
  /-- A generator among other arguments. -/
  | bareGenerator
  /-- An argument by place behind arguments by name. -/
  | lateArgument
  /-- An argument by place behind a mapping of arguments. -/
  | lateArgumentUnpacked
  /-- A sequence of arguments behind a mapping of arguments. -/
  | lateUnpacking
  /-- A starred expression in parentheses of its own. -/
  | starred
  /-- A star without an expression. -/
  | loneStar
  /-- A double starred expression in parentheses of its own. -/
  | doubleStarred
  /-- A starred expression that is repeated. -/
  | starredComprehension
  /-- A double starred expression that is repeated. -/
  | doubleStarredComprehension
  /-- A repeated expression with commas and without parentheses. -/
  | bareTarget
  /-- A starred value of a mapping. -/
  | starredValue
  /-- A key of a mapping without a value. -/
  | missingValue
  /-- A key of a mapping without a colon. -/
  | missingColon
  /-- A parameter with an equals sign and no default value. -/
  | missingDefault
  /-- A parameter without a default value behind one that has one. -/
  | lateRequired
  /-- Parameters in parentheses. -/
  | bracketedParameters
  /-- A slash before all parameters. -/
  | leadingSlash
  /-- A second slash among parameters. -/
  | secondSlash
  /-- A slash behind a star. -/
  | lateSlash
  /-- A star right behind a slash. -/
  | slashStar
  /-- A star with no parameter behind it. -/
  | bareStar
  /-- A second star among parameters. -/
  | secondStar
  /-- A default value of the parameter that collects arguments. -/
  | defaultedSequence
  /-- A default value of the parameter that collects arguments by name. -/
  | defaultedMapping
  /-- A parameter behind the one that collects arguments by name. -/
  | lateParameter
  /-- A bracket that is never closed. -/
  | unclosed (bracket : Char)
  /-- A closing bracket without an opening one. -/
  | unmatched (bracket : Char)
  /-- A closing bracket of another kind than the opening one, which may stand on
      a line before. -/
  | mismatched (closing opening : Char) (line : Option Nat)
  /-- Brackets within brackets beyond measure. -/
  | tooDeep
  /-- A text that does not end on its line. -/
  | openText (line : Nat)
  /-- A text of several lines that does not end. -/
  | openLongText (line : Nat)
  /-- A number that runs into letters or ends in an underscore, by its kind. -/
  | number (kind : String)
  /-- A digit that is too large for its kind of number. -/
  | digit (c : Char) (kind : String)
  /-- A decimal number with zeros in front. -/
  | leadingZeros
  /-- A number with too many digits. -/
  | longNumber (digits : Nat)
  /-- A backslash between tokens and not at the end of a line. -/
  | afterBackslash
  /-- The end of the source behind a backslash. -/
  | unexpectedEnd
  /-- A character that no token may hold. -/
  | character (c : Char)
  /-- A line that is indented without a reason. -/
  | indented
  /-- A line that goes back to an indentation before, without a reason. -/
  | dedented
  /-- A line that goes back to no indentation before. -/
  | outdented
  /-- A text of bytes beside an ordinary one. -/
  | mixedTexts
  /-- A text of bytes with other characters than those of ASCII. -/
  | wideBytes
  /-- A numeric escape of a text, by its place and what is wrong with it. -/
  | escape (first last : Nat) (reason : String)
  /-- A numeric escape in a text of bytes, by its place. -/
  | byteEscape (position : Nat)
  /-- A source with a null character. -/
  | null
  /-- A member of a set or a key of a mapping that cannot be looked up. -/
  | unhashable (kind : String)
  /-- An expression that stands for no value. -/
  | malformed
  /-- A mapping that is unpacked into another one. -/
  | unpackedMapping

namespace Fault

/-- The code point of a character, in at least four hexadecimal digits. -/
def codePoint (c : Char) : String :=
  let digits := Nat.toDigits 16 c.toNat
  String.ofList ((List.replicate (4 - digits.length) '0' ++ digits).map Char.toUpper)

/-- What is said about a fault. -/
def wording : Fault → String
  | .invalid => "invalid syntax"
  | .missingComma => "invalid syntax. Perhaps you forgot a comma?"
  | .missingElse => "expected 'else' after 'if' expression"
  | .missingParentheses name =>
    "Missing parentheses in call to '" ++ name ++ "'. Did you mean " ++ name ++ "(...)?"
  | .assignmentForComparison => "invalid syntax. Maybe you meant '==' or ':=' instead of '='?"
  | .assignmentTo what =>
    "cannot assign to " ++ what ++ " here. Maybe you meant '==' instead of '='?"
  | .namedAssignment what => "cannot use assignment expressions with " ++ what
  | .target what => "cannot assign to " ++ what
  | .assignmentInCall =>
    "expression cannot contain assignment, perhaps you meant \"==\"?"
  | .bareGenerator => "Generator expression must be parenthesized"
  | .lateArgument => "positional argument follows keyword argument"
  | .lateArgumentUnpacked => "positional argument follows keyword argument unpacking"
  | .lateUnpacking => "iterable argument unpacking follows keyword argument unpacking"
  | .starred => "cannot use starred expression here"
  | .doubleStarred => "cannot use double starred expression here"
  | .loneStar => "Invalid star expression"
  | .starredComprehension => "iterable unpacking cannot be used in comprehension"
  | .doubleStarredComprehension => "dict unpacking cannot be used in dict comprehension"
  | .bareTarget => "did you forget parentheses around the comprehension target?"
  | .starredValue => "cannot use a starred expression in a dictionary value"
  | .missingValue => "expression expected after dictionary key and ':'"
  | .missingColon => "':' expected after dictionary key"
  | .missingDefault => "expected default value expression"
  | .lateRequired => "non-default argument follows default argument"
  | .bracketedParameters => "Lambda expression parameters cannot be parenthesized"
  | .leadingSlash => "at least one argument must precede /"
  | .secondSlash => "/ may appear only once"
  | .lateSlash => "/ must be ahead of *"
  | .slashStar => "expected comma between / and *"
  | .bareStar => "named arguments must follow bare *"
  | .secondStar => "* argument may appear only once"
  | .defaultedSequence => "var-positional argument cannot have default value"
  | .defaultedMapping => "var-keyword argument cannot have default value"
  | .lateParameter => "arguments cannot follow var-keyword argument"
  | .unclosed bracket => "'" ++ bracket.toString ++ "' was never closed"
  | .unmatched bracket => "unmatched '" ++ bracket.toString ++ "'"
  | .mismatched closing opening line =>
    "closing parenthesis '" ++ closing.toString ++ "' does not match opening parenthesis '" ++
      opening.toString ++ "'" ++
      match line with
      | some n => " on line " ++ Decimal.intText n
      | none => ""
  | .tooDeep => "too many nested parentheses"
  | .openText line =>
    "unterminated string literal (detected at line " ++ Decimal.intText line ++ ")"
  | .openLongText line =>
    "unterminated triple-quoted string literal (detected at line " ++ Decimal.intText line ++ ")"
  | .number kind => "invalid " ++ kind ++ " literal"
  | .digit c kind => "invalid digit '" ++ c.toString ++ "' in " ++ kind ++ " literal"
  | .leadingZeros =>
    "leading zeros in decimal integer literals are not permitted; " ++
      "use an 0o prefix for octal integers"
  | .longNumber digits =>
    "Exceeds the limit (4300 digits) for integer string conversion: value has " ++
      Decimal.intText digits ++ " digits; use sys.set_int_max_str_digits() to increase the limit" ++
      " - Consider hexadecimal for huge integer literals to avoid decimal conversion limits."
  | .afterBackslash => "unexpected character after line continuation character"
  | .unexpectedEnd => "unexpected EOF while parsing"
  | .character c =>
    if Text.isPrintable c then
      "invalid character '" ++ c.toString ++ "' (U+" ++ codePoint c ++ ")"
    else "invalid non-printable character U+" ++ codePoint c
  | .indented => "unexpected indent"
  | .dedented => "unexpected unindent"
  | .outdented => "unindent does not match any outer indentation level"
  | .mixedTexts => "cannot mix bytes and nonbytes literals"
  | .wideBytes => "bytes can only contain ASCII literal characters"
  | .escape first last reason =>
    "(unicode error) 'unicodeescape' codec can't decode bytes in position " ++
      Decimal.intText first ++ "-" ++ Decimal.intText last ++ ": " ++ reason
  | .byteEscape position =>
    "(value error) invalid \\x escape at position " ++ Decimal.intText position
  | .null => "source code string cannot contain null bytes"
  | .unhashable kind => "unhashable type: '" ++ kind ++ "'"
  | .malformed => "malformed node or string"
  | .unpackedMapping => "malformed node or string: None"

/-- The fault is one in how the expression is written, and not in what it stands
    for. -/
def isOrder : Fault → Bool
  | .null | .unhashable _ | .malformed | .unpackedMapping => false
  | _ => true

end Fault

end Literal

end Console

end TextLog
