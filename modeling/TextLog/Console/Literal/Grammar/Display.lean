import TextLog.Console.Literal.Grammar.Repetition

/-!
# Displays

Expressions in brackets: tuples, sets, mappings, and the same as repetitions.

## Main definitions

* `tuple`, `group`: Expressions in parentheses.
* `mapping`, `set`: Expressions in braces.
* `repeatedMapping`, `repeatedSet`: Repeated expressions in braces.
-/

namespace TextLog

namespace Console

namespace Literal

open Reader

/-- Expressions in parentheses with a comma, or none at all. -/
def tuple (call : Rules) : Reader Node := do
  let _ ← operator "("
  let items ← optional? do
    let first ← member call
    let _ ← operator ","
    let more ← optional? (members call)
    return first :: more.getD []
  let _ ← operator ")"
  return .tuple (items.getD [])

/-- The mistake of a star before an expression in parentheses. -/
def groupMistake (call : Rules) : Reader Node :=
  firstOf [
    do
      let _ ← operator "("
      let _ ← starredExpression call
      let _ ← operator ")"
      refuse .starred,
    do
      let _ ← operator "("
      let _ ← operator "**"
      let _ ← call .expression
      let _ ← operator ")"
      refuse .doubleStarred]

/-- An expression in parentheses. -/
def group (call : Rules) : Reader Node :=
  firstOf [
    do
      let _ ← operator "("
      let n ← firstOf [yielding call, call .named]
      let _ ← operator ")"
      return n,
    mistake (groupMistake call)]

/-- A key and its value. -/
def pair (call : Rules) : Reader (Node × Node) := do
  let key ← call .expression
  let _ ← operator ":"
  let value ← call .expression
  return (key, value)

/-- A key and its value, or another mapping. -/
def entry (call : Rules) : Reader (Node × Node) :=
  firstOf [
    do
      let _ ← operator "**"
      let n ← call .disjoint
      return (.unpacked, n),
    pair call]

/-- The end of a mapping or of an entry in it. -/
def entryEnd : Reader Token :=
  ahead (firstOf [operator "\x7d", operator ","])

/-- The mistakes of an entry that has a key. -/
def valueMistakes (call : Rules) : List (Reader Node) :=
  [do
    let _ ← call .expression
    let _ ← operator ":"
    let _ ← operator "*"
    let _ ← call .disjoint
    refuse .starredValue,
   do
    let _ ← call .expression
    let _ ← operator ":"
    let _ ← entryEnd
    refuse .missingValue]

/-- The mistakes of an entry behind other ones. -/
def entryMistake (call : Rules) : Reader Node :=
  firstOf (
    (do
      let _ ← call .expression
      notAhead (operator ":")
      refuse .missingColon) ::
    valueMistakes call)

/-- The mistakes of the entries of a mapping. -/
def entriesMistake (call : Rules) : Reader Node :=
  firstOf (
    (do
      let _ ← separated (entry call) (operator ",")
      let _ ← operator ","
      entryMistake call) ::
    valueMistakes call)

/-- A mapping. -/
def mapping (call : Rules) : Reader Node :=
  firstOf [
    do
      let _ ← operator "\x7b"
      let entries ← optional? do
        let es ← separated (entry call) (operator ",")
        let _ ← optional? (operator ",")
        return es
      let _ ← operator "\x7d"
      return .mapping (entries.getD []),
    -- Mistakes in a mapping are reported before all others.
    do
      let _ ← operator "\x7b"
      let n ← entriesMistake call
      let _ ← operator "\x7d"
      return n]

/-- A set. -/
def set (call : Rules) : Reader Node := do
  let _ ← operator "\x7b"
  let items ← members call
  let _ ← operator "\x7d"
  return .set items

/-- A mapping with a repeated entry. -/
def repeatedMapping (call : Rules) : Reader Node :=
  firstOf [
    do
      let _ ← operator "\x7b"
      let _ ← pair call
      repetitions call
      let _ ← operator "\x7d"
      return .other "dict comprehension",
    mistake do
      let _ ← operator "\x7b"
      let _ ← operator "**"
      let _ ← call .disjoint
      repetitions call
      let _ ← operator "\x7d"
      refuse .doubleStarredComprehension]

/-- A set with a repeated member. -/
def repeatedSet (call : Rules) : Reader Node :=
  firstOf [
    do
      let _ ← operator "\x7b"
      let _ ← call .named
      repetitions call
      let _ ← operator "\x7d"
      return .other "set comprehension",
    mistake (repetitionMistake call)]

end Literal

end Console

end TextLog
