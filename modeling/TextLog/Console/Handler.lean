import TextLog.Console.Literal.Grammar
import TextLog.Failure
import TextLog.Text.Blank

/-!
# Handlers in Markup

The parameters of a tag that names a handler.

They are a name, perhaps with arguments in parentheses, or an expression. The
arguments or the expression are read as a literal when the tag is closed, and
refused if they are none.

## Main definitions

* `literalPart`: What is read as a literal.
* `checkParameters`: Refuses parameters that hold no literal.
-/

namespace TextLog

namespace Console

/-- What parameters hold that is to be read as a literal: the arguments behind a
    name, none if there is only a name, and all of them otherwise. -/
def literalPart (parameters : List Char) : List Char :=
  match parameters.dropWhile fun c => c == '.' || Text.isWordChar c with
  | [] => ['(', ')']
  | '(' :: rest =>
    if rest.getLast? = some ')' && !rest.contains '\n' then '(' :: rest else parameters
  | _ => parameters

/-- Refuses the parameters of a handler that hold no literal. -/
def checkParameters (parameters : List Char) : Except Failure Unit :=
  let part := String.ofList (literalPart (Text.stripChars parameters))
  match (Literal.expressionOf part).bind Literal.Node.check with
  | .ok () => .ok ()
  | .error fault => .error (.parameters (String.ofList parameters) part fault)

end Console

end TextLog
