import TextLog.Console.Literal.Grammar.Basic

/-!
# Functions without a Name

Expressions that stand for a function, with their parameters.

Parameters without a default value come first, then those with one. A slash ends
those that arguments reach by place only, a star starts those that they reach by
name only or collects the other arguments, and two stars collect the arguments by
name and come last. Each part ends with a comma or stands before the colon.

## Main definitions

* `parameters`: The parameters of a function.
* `parametersMistake`: The mistakes in the order of parameters.
* `lambda`: A function without a name.
-/

namespace TextLog

namespace Console

namespace Literal

open Reader

/-- The end of a parameter. -/
def parameterEnd : Reader Unit := do
  let _ ← firstOf [operator ",", ahead (operator ":")]
  return ()

/-- A default value, or the mistake of leaving it out. -/
def default (call : Rules) : Reader Unit :=
  firstOf [
    do
      let _ ← operator "="
      let _ ← call .expression
      return (),
    mistake do
      let _ ← operator "="
      let _ ← ahead (firstOf [operator ")", operator ","])
      refuse .missingDefault]

/-- A parameter without a default value. -/
def required : Reader Unit := do
  let _ ← name
  parameterEnd

/-- A parameter with a default value. -/
def defaulted (call : Rules) : Reader Unit := do
  let _ ← name
  default call
  parameterEnd

/-- A parameter, perhaps with a default value. -/
def anyParameter (call : Rules) : Reader Unit := do
  let _ ← name
  let _ ← optional? (default call)
  parameterEnd

/-- One or more of something. -/
def oneOrMore (r : Reader Unit) : Reader Unit := do
  r
  let _ ← several r
  return ()

/-- The slash behind parameters, with its end. -/
def slash : Reader Unit := do
  let _ ← operator "/"
  parameterEnd

/-- Parameters without default values up to a slash. -/
def placedOnly : Reader Unit := do
  oneOrMore required
  slash

/-- Parameters, some with default values, up to a slash. -/
def placedOnlyDefaulted (call : Rules) : Reader Unit := do
  let _ ← several required
  oneOrMore (defaulted call)
  slash

/-- The mistakes behind two stars. -/
def doubleStarMistake : Reader Unit := do
  let _ ← operator "**"
  let _ ← name
  firstOf [
    do
      let _ ← operator "="
      refuse .defaultedMapping,
    do
      let _ ← operator ","
      firstOf [
        do
          let _ ← name
          return (),
        do
          let _ ← firstOf (["*", "**", "/"].map operator)
          return ()]
      refuse .lateParameter]

/-- The parameter that collects the arguments by name. -/
def doubleStarParameter : Reader Unit :=
  firstOf [
    mistake doubleStarMistake,
    do
      let _ ← operator "**"
      required]

/-- A comma, or a parameter without a default value. -/
def commaOrRequired : Reader Unit :=
  firstOf [
    do
      let _ ← operator ","
      return (),
    required]

/-- The mistakes behind a star. -/
def starMistake (call : Rules) : Reader Unit :=
  firstOf [
    do
      let _ ← operator "*"
      let _ ← firstOf [
        operator ":",
        do
          let _ ← operator ","
          firstOf [operator ":", operator "**"]]
      refuse .bareStar,
    do
      let _ ← operator "*"
      let _ ← name
      let _ ← operator "="
      refuse .defaultedSequence,
    do
      let _ ← operator "*"
      commaOrRequired
      let _ ← several (anyParameter call)
      let _ ← operator "*"
      commaOrRequired
      refuse .secondStar]

/-- The parameters from a star on. -/
def starParameters (call : Rules) : Reader Unit :=
  firstOf [
    mistake (starMistake call),
    do
      let _ ← operator "*"
      required
      let _ ← several (anyParameter call)
      let _ ← optional? doubleStarParameter
      return (),
    do
      let _ ← operator "*"
      let _ ← operator ","
      oneOrMore (anyParameter call)
      let _ ← optional? doubleStarParameter
      return (),
    doubleStarParameter]

/-- The parameters of a function. -/
def parameters (call : Rules) : Reader Unit :=
  let rest := do
    let _ ← several (defaulted call)
    let _ ← optional? (starParameters call)
    return ()
  firstOf [
    do
      placedOnly
      let _ ← several required
      rest,
    do
      placedOnlyDefaulted call
      rest,
    do
      oneOrMore required
      rest,
    do
      defaulted call
      rest,
    starParameters call]

/-- The mistakes in the order of parameters. -/
def parametersMistake (call : Rules) : Reader Unit :=
  let toSlash := firstOf [placedOnly, placedOnlyDefaulted call]
  firstOf [
    do
      let _ ← several required
      firstOf [placedOnlyDefaulted call, oneOrMore (defaulted call)]
      required
      refuse .lateRequired,
    do
      let _ ← several required
      let _ ← operator "("
      let _ ← separated name (operator ",")
      let _ ← optional? (operator ",")
      let _ ← operator ")"
      refuse .bracketedParameters,
    do
      let _ ← operator "/"
      let _ ← operator ","
      refuse .leadingSlash,
    do
      toSlash
      let _ ← several (anyParameter call)
      let _ ← operator "/"
      refuse .secondSlash,
    do
      let _ ← optional? toSlash
      let _ ← several (anyParameter call)
      let _ ← operator "*"
      commaOrRequired
      let _ ← several (anyParameter call)
      let _ ← operator "/"
      refuse .lateSlash,
    do
      oneOrMore (anyParameter call)
      let _ ← operator "/"
      let _ ← operator "*"
      refuse .slashStar]

/-- A function without a name. -/
def lambda (call : Rules) : Reader Node := do
  let _ ← word "lambda"
  let _ ← optional? (firstOf [mistake (parametersMistake call), parameters call])
  let _ ← operator ":"
  let _ ← call .expression
  return .other "lambda"

end Literal

end Console

end TextLog
