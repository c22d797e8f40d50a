import TextLog.Console.Literal.Grammar.Basic

/-!
# Repetitions

Expressions that are repeated for the members of another one.

What the members are given to is a target: a name, a part of an expression, or
several targets in parentheses. The words of a repetition commit to it: behind
them nothing else is tried.

## Main definitions

* `targetPart`, `target`: The rules of targets.
* `repetitions`: One or more repetitions.
* `generator`: A repeated expression in parentheses.
* `repetitionMistake`: The mistakes in front of a repetition.
-/

namespace TextLog

namespace Console

namespace Literal

open Reader

/-- A token that goes on with the expression before it. -/
def goesOn : Reader Unit := do
  let _ ← ahead (firstOf [operator "(", operator "."])
  return ()

/-- A part of an expression that another part follows. -/
def innerPart (part : Reader Node) : Reader Node := do
  let n ← part
  goesOn
  return n

/-- A name, a part of an expression, or targets in parentheses, given the readers
    of the simplest expressions and of what may follow them. -/
def targetPart (call : Rules) (atom : Reader Node) (suffix : Reader Node) : Reader Node :=
  firstOf [
    do
      let _ ← innerPart atom
      let _ ← several (innerPart suffix)
      let _ ← operator "."
      let _ ← name
      notAhead goesOn
      return .attribute,
    name,
    do
      let _ ← operator "("
      let n ← call .target
      let _ ← operator ")"
      return n,
    do
      let _ ← operator "("
      let _ ← optional? do
        let first ← separated (call .starTarget) (operator ",")
        let comma ← optional? (operator ",")
        if first.length ≤ 1 && comma.isNone then miss else found ()
      let _ ← operator ")"
      return .attribute]

/-- A target, perhaps with a star. -/
def target (call : Rules) : Reader Node :=
  firstOf [
    do
      let _ ← operator "*"
      notAhead (operator "*")
      call .starTarget,
    call .target]

/-- The word at the start of a repetition. -/
def repetitionWord : Reader Token := do
  let _ ← optional? (word "async")
  word "for"

/-- The mistake of a target that cannot be assigned to. -/
def targetMistake (call : Rules) : Reader Unit := do
  let _ ← repetitionWord
  let n ← call .starredList
  match n.wrongTarget? with
  | some wrong => refuse (.target wrong.description)
  | none => miss

/-- A repetition. -/
def repetition (call : Rules) : Reader Unit := do
  let start ← optional? do
    let _ ← repetitionWord
    let _ ← separated (call .starTarget) (operator ",")
    let _ ← optional? (operator ",")
    word "in"
  match start with
  | some _ => do
    let _ ← call .disjunction
    let _ ← several do
      let _ ← word "if"
      call .disjunction
    return ()
  | none => mistake (targetMistake call)

/-- One or more repetitions. -/
def repetitions (call : Rules) : Reader Unit := do
  repetition call
  let _ ← several (repetition call)
  return ()

/-- The mistakes of stars and commas in front of a repetition. -/
def repetitionMistake (call : Rules) : Reader Node :=
  firstOf [
    do
      let _ ← firstOf [operator "(", operator "\x7b"]
      let _ ← starredExpression call
      repetitions call
      refuse .starredComprehension,
    do
      let _ ← operator "\x7b"
      let _ ← member call
      let _ ← operator ","
      let _ ← members call
      repetitions call
      refuse .bareTarget,
    do
      let _ ← operator "\x7b"
      let _ ← member call
      let _ ← operator ","
      repetitions call
      refuse .bareTarget]

/-- A repeated expression in parentheses. -/
def generator (call : Rules) : Reader Node :=
  firstOf [
    do
      let _ ← operator "("
      let _ ← firstOf [assignment call, unnamed call]
      repetitions call
      let _ ← operator ")"
      return .other "generator expression",
    mistake (repetitionMistake call)]

end Literal

end Console

end TextLog
