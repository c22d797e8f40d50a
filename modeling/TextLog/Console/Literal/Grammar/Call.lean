import TextLog.Console.Literal.Grammar.Repetition

/-!
# Calls

The arguments of calls.

Arguments by place come first, sequences of arguments among them, then arguments
by name with mappings of arguments. A single repeated expression needs no
parentheses of its own if it is the only argument.

## Main definitions

* `Given`: The arguments of a call, as far as mistakes depend on them.
* `given`: The arguments of a call.
* `arguments`: The arguments of a call, up to its closing parenthesis.
-/

namespace TextLog

namespace Console

namespace Literal

open Reader

/-- How many arguments are given by place, and whether a mapping of arguments
    is. -/
structure Given where
  placed : Nat
  unpacked : Bool

/-- The arguments of two parts of a call. -/
def Given.append (a b : Given) : Given :=
  ⟨a.placed + b.placed, a.unpacked || b.unpacked⟩

/-- The arguments of the parts of a call. -/
def Given.join (parts : List Given) : Given :=
  parts.foldl Given.append ⟨0, false⟩

/-- The mistakes of arguments by name. -/
def nameMistake (call : Rules) : Reader Given :=
  firstOf [
    do
      let t ← firstOf [word "True", word "False", word "None"]
      let _ ← operator "="
      refuse (.target (String.ofList t.characters)),
    do
      let _ ← name
      let _ ← operator "="
      let _ ← call .expression
      repetitions call
      refuse .assignmentForComparison,
    do
      notAhead do
        let _ ← name
        operator "="
      let _ ← call .expression
      let _ ← operator "="
      refuse .assignmentInCall]

/-- An argument by name. -/
def namedArgument (call : Rules) : Reader Given := do
  let _ ← name
  let _ ← operator "="
  let _ ← call .expression
  return ⟨0, false⟩

/-- A sequence of arguments. -/
def sequenceArgument (call : Rules) : Reader Given := do
  let _ ← starredExpression call
  return ⟨1, false⟩

/-- A mapping of arguments. -/
def mappingArgument (call : Rules) : Reader Given := do
  let _ ← operator "**"
  let _ ← call .expression
  return ⟨0, true⟩

/-- Arguments by name, with sequences before mappings. -/
def namedArguments (call : Rules) : Reader Given := do
  let early := separated
    (firstOf [mistake (nameMistake call), namedArgument call, sequenceArgument call])
    (operator ",")
  let late := separated
    (firstOf [mistake (nameMistake call), namedArgument call, mappingArgument call])
    (operator ",")
  firstOf [
    do
      let a ← early
      let _ ← operator ","
      let b ← late
      return (Given.join a).append (Given.join b),
    Given.join <$> early,
    Given.join <$> late]

/-- An argument by place. -/
def placedArgument (call : Rules) : Reader Given := do
  let _ ← firstOf [assignment call, unnamed call]
  notAhead (operator "=")
  return ⟨1, false⟩

/-- The arguments by place. -/
def placedArguments (call : Rules) : Reader Given :=
  Given.join <$> separated (firstOf [sequenceArgument call, placedArgument call]) (operator ",")

/-- The arguments of a call. -/
def given (call : Rules) : Reader Given :=
  firstOf [
    do
      let a ← placedArguments call
      let b ← optional? do
        let _ ← operator ","
        namedArguments call
      return a.append (b.getD ⟨0, false⟩),
    namedArguments call]

/-- The mistakes in the order of arguments. -/
def argumentMistake (call : Rules) : Reader Node :=
  firstOf [
    do
      let _ ← firstOf [
        do
          let _ ← placedArguments call
          let _ ← operator ","
          namedArguments call,
        namedArguments call]
      let _ ← operator ","
      let _ ← separated
        (do
          let _ ← sequenceArgument call
          notAhead (operator "="))
        (operator ",")
      refuse .lateUnpacking,
    do
      let _ ← call .expression
      repetitions call
      let _ ← operator ","
      let _ ← optional? (firstOf [
        do
          let _ ← given call
          return (),
        do
          let _ ← call .expression
          repetitions call])
      refuse .bareGenerator,
    do
      let _ ← name
      let _ ← operator "="
      let _ ← call .expression
      repetitions call
      refuse .assignmentForComparison,
    do
      let g ← given call
      repetitions call
      if g.placed ≤ 1 then miss else refuse .bareGenerator,
    do
      let _ ← given call
      let _ ← operator ","
      let _ ← call .expression
      repetitions call
      refuse .bareGenerator,
    do
      let g ← given call
      let _ ← operator ","
      let _ ← given call
      refuse (if g.unpacked then .lateArgumentUnpacked else .lateArgument)]

/-- The arguments of a call, up to its closing parenthesis. -/
def arguments (call : Rules) : Reader Node :=
  firstOf [
    do
      let _ ← given call
      let _ ← optional? (operator ",")
      let _ ← ahead (operator ")")
      return .tuple [],
    mistake (argumentMistake call)]

end Literal

end Console

end TextLog
