import TextLog.Console.Literal.Reader

/-!
# Parts of Rules

Readers that many rules of the grammar are made of.

Every rule is given as a reader, in terms of the readers for the rules that it
refers to. A rule for a common mistake finds nothing; it refuses the source if the
mistake is there.

## Main definitions

* `operator`, `word`, `name`: Readers of single tokens.
* `chain`: Expressions with operators between them.
* `conditional`, `yielding`: Expressions that words belong to.
* `member`, `starredList`: Expressions in lists.
-/

namespace TextLog

namespace Console

namespace Literal

open Reader

/-- The words that are no names. -/
def keywords : List String :=
  ["False", "None", "True", "and", "as", "assert", "async", "await", "break", "class", "continue",
   "def", "del", "elif", "else", "except", "finally", "for", "from", "global", "if", "import",
   "in", "is", "lambda", "nonlocal", "not", "or", "pass", "raise", "return", "try", "while",
   "with", "yield"]

/-- Takes an operator or a bracket. -/
def operator (o : String) : Reader Token :=
  take fun t => t.kind = .operator && t.characters = o.toList

/-- Takes a keyword. -/
def word (w : String) : Reader Token :=
  take fun t => t.kind = .name && t.characters = w.toList

/-- Takes a name. -/
def name : Reader Node := do
  let t ← take fun t => t.kind = .name && !keywords.contains (String.ofList t.characters)
  return .name (String.ofList t.characters)

/-- Takes a token of a kind. -/
def ofKind (kind : TokenKind) : Reader Token :=
  take fun t => t.kind = kind

/-- The readers of all rules. -/
abbrev Rules : Type :=
  Rule → Reader Node

/-- Expressions with operators between them, the left ones going together. -/
def chain (next : Reader Node) (operators : List String) (join : Node → Node → Node) :
    Reader Node := do
  let first ← next
  let more ← several do
    let _ ← firstOf (operators.map operator)
    next
  return more.foldl join first

/-- An expression of which nothing else matters. -/
def joined (_ _ : Node) : Node :=
  .other "expression"

/-- Expressions with a word between them. -/
def wordChain (next : Reader Node) (w : String) : Reader Node := do
  let first ← next
  let more ← several do
    let _ ← word w
    next
  return more.foldl joined first

/-- An expression for each of two cases. -/
def conditional (call : Rules) : Reader Node := do
  let _ ← call .disjunction
  let _ ← word "if"
  let _ ← call .disjunction
  let _ ← word "else"
  let _ ← call .expression
  return .other "conditional expression"

/-- An expression that is given a name. -/
def assignment (call : Rules) : Reader Node := do
  let _ ← name
  let _ ← operator ":="
  let _ ← call .expression
  return .other "named expression"

/-- An expression that is given no name. -/
def unnamed (call : Rules) : Reader Node := do
  let n ← call .expression
  notAhead (operator ":=")
  return n

/-- An expression with a star before it. -/
def starredTerm (operand : Reader Node) : Reader Node := do
  let _ ← operator "*"
  let n ← operand
  return .starred n

/-- An expression with a star before it, where a star can mean nothing else. -/
def starredExpression (call : Rules) : Reader Node :=
  firstOf [
    starredTerm (call .expression),
    do
      let _ ← operator "*"
      refuse .loneStar]

/-- An expression, perhaps with a name or a star. -/
def member (call : Rules) : Reader Node :=
  firstOf [starredTerm (call .disjoint), call .named]

/-- Such expressions with commas between them. -/
def members (call : Rules) : Reader (List Node) := do
  let ns ← separated (member call) (operator ",")
  let _ ← optional? (operator ",")
  return ns

/-- One or more expressions, perhaps with stars. -/
def starredList (call : Rules) : Reader Node := do
  let first ← call .starred
  let more ← several do
    let _ ← operator ","
    call .starred
  let comma ← optional? (operator ",")
  return if more.isEmpty && comma.isNone then first else .tuple (first :: more)

/-- An expression that is handed out. -/
def yielding (call : Rules) : Reader Node := do
  let _ ← word "yield"
  let source ← optional? do
    let _ ← word "from"
    call .expression
  if source.isNone then
    let _ ← optional? (call .starredList)
  return .other "yield expression"

end Literal

end Console

end TextLog
