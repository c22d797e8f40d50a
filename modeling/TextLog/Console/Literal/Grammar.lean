import TextLog.Console.Literal.Grammar.Call
import TextLog.Console.Literal.Grammar.Display
import TextLog.Console.Literal.Grammar.Lambda
import TextLog.Console.Literal.Quoted

/-!
# Grammar of Literals

The rules by which tokens form an expression, and what is said where they form
none.

A mistake is only reported for a source that has been found to hold no
expression, and a fault in characters further on counts more.

## Main definitions

* `rule`: The reader of a rule, given those of all rules.
* `expressionOf`: The expression of a text, or what is wrong with it.
-/

namespace TextLog

namespace Console

namespace Literal

open Reader

/-- Names that used to start an instruction. -/
def isInstruction : Node → Bool
  | .name id => id == "print" || id == "exec"
  | _ => false

/-- The mistake of two expressions in brackets with nothing between them, and
    that of a condition without an alternative. -/
def adjacentMistake (call : Rules) : Reader Node := do
  let isWord := fun (t : Token) =>
    t.kind = .name && ["_", "case", "match"].contains (String.ofList t.characters)
  let first ← optional? do
    notAhead (firstOf [
      do
        let _ ← name
        ofKind .text,
      take isWord])
    let first ← call .disjunction
    let _ ← call .expressionAlone
    return first
  match first with
  | some n => if isInstruction n || (← depth) = 0 then miss else refuse .missingComma
  | none =>
    let _ ← call .disjunction
    let _ ← word "if"
    let _ ← call .disjunction
    notAhead (firstOf [word "else", operator ":"])
    refuse .missingElse

/-- The mistake of an instruction in place of a call. -/
def instructionMistake (call : Rules) : Reader Node := do
  match ← name with
  | .name id => do
    notAhead (operator "(")
    let _ ← call .starredList
    if isInstruction (.name id) then refuse (.missingParentheses id) else miss
  | _ => miss

/-- Takes a constant that is written as a word. -/
def constant : Reader Node := do
  let t ← firstOf [word "True", word "None", word "False"]
  return .constant (String.ofList t.characters)

/-- The mistakes of assignments where a comparison may have been meant. -/
def namedMistake (call : Rules) : Reader Node :=
  let noAssignment := notAhead (firstOf [operator "=", operator ":="])
  firstOf [
    do
      let n ← call .expression
      let _ ← operator ":="
      let _ ← call .expression
      refuse (.namedAssignment n.description),
    do
      let _ ← name
      let _ ← operator "="
      let _ ← call .disjoint
      noAssignment
      refuse .assignmentForComparison,
    do
      notAhead (firstOf [tuple call, generator call, constant])
      let n ← call .disjoint
      let _ ← operator "="
      let _ ← call .disjoint
      noAssignment
      refuse (.assignmentTo n.description)]

/-- The most digits that a whole number can have. -/
def numberLimit : Nat := 4300

/-- Takes a number. -/
def number : Reader Node := do
  let t ← ofKind .number
  let last := t.characters.getLast?
  let digits := t.characters.filter (· != '_')
  if last = some 'j' || last = some 'J' then found (.number true)
  else if digits.all Char.isDigit && numberLimit < digits.length then
    refuse (.longNumber digits.length)
  else found (.number false)

/-- Takes the texts that stand beside each other, which count as one. -/
def texts : Reader Node := do
  let first ← ofKind .text
  let more ← several (ofKind .text)
  let marked := (first :: more).filterMap fun t => text? t.characters
  match checkTexts marked with
  | .error f => refuse f
  | .ok () =>
    if marked.any fun m => m.1.filled then found (.other "f-string expression")
    else found (.constant "literal")

/-- The simplest expressions. -/
def atom (call : Rules) : Reader Node :=
  firstOf [
    name,
    constant,
    call .texts,
    number,
    do
      let _ ← ahead (operator "(")
      firstOf [tuple call, group call, generator call],
    do
      let _ ← ahead (operator "\x7b")
      firstOf [mapping call, set call, repeatedMapping call, repeatedSet call],
    do
      let _ ← operator "..."
      return .constant "ellipsis"]

/-- What may follow an expression as a part of a larger one, as a function of the
    expression. -/
def suffix (call : Rules) : Reader (Node → Node) :=
  firstOf [
    do
      let _ ← operator "."
      let _ ← name
      return fun _ => .attribute,
    do
      let _ ← generator call
      return fun n => .call n false,
    do
      let _ ← operator "("
      let given ← optional? (call .arguments)
      let _ ← operator ")"
      return fun n => .call n given.isNone]

/-- Expressions with parts, calls and calls of parts. -/
def primary (call : Rules) : Reader Node := do
  let first ← atom call
  let more ← several (suffix call)
  return more.foldl (fun n f => f n) first

/-- A word or operator that compares, and whether it tells membership. -/
def comparator : Reader Bool :=
  firstOf [
    do
      let _ ← firstOf (["==", "!=", "<=", "<", ">=", ">"].map operator)
      return false,
    do
      let _ ← word "not"
      let _ ← word "in"
      return false,
    do
      let _ ← word "in"
      return true,
    do
      let _ ← word "is"
      let _ ← optional? (word "not")
      return false]

/-- A comparison. -/
def comparison (call : Rules) : Reader Node := do
  let first ← call .disjoint
  let more ← several do
    let member ← comparator
    let _ ← call .disjoint
    return member
  return match more with
    | [] => first
    | member :: _ => .comparison (if member then some first else none)

/-- An expression with a sign, or a power. -/
def factor (call : Rules) : Reader Node :=
  firstOf [
    do
      let _ ← firstOf [operator "+", operator "-"]
      let n ← call .factor
      return .signed n,
    do
      let _ ← operator "~"
      let _ ← call .factor
      return .other "expression",
    do
      let n ← call .awaited
      let exponent ← optional? do
        let _ ← operator "**"
        call .factor
      return if exponent.isSome then .other "expression" else n]

/-- The reader of a rule, given those of all rules. -/
def rule (call : Rules) : Rule → Reader Node
  | .expression => firstOf [mistake (adjacentMistake call), mistake (instructionMistake call),
      conditional call, call .disjunction, lambda call]
  | .expressionAlone =>
    withoutMistakes (firstOf [conditional call, call .disjunction, lambda call])
  | .named => firstOf [assignment call, mistake (call .namedMistake), unnamed call]
  | .namedMistake => namedMistake call
  | .starred => firstOf [starredTerm (call .disjoint), call .expression]
  | .starredList => starredList call
  | .disjunction => wordChain (call .conjunction) "or"
  | .conjunction => wordChain (call .inversion) "and"
  | .inversion => firstOf [
      do
        let _ ← word "not"
        let _ ← call .inversion
        return .other "expression",
      comparison call]
  | .disjoint => chain (call .exclusive) ["|"] joined
  | .exclusive => chain (call .common) ["^"] joined
  | .common => chain (call .shift) ["&"] joined
  | .shift => chain (call .sum) ["<<", ">>"] joined
  | .sum => chain (call .term) ["+", "-"] .sum
  | .term => chain (call .factor) ["*", "/", "//", "%", "@"] joined
  | .factor => factor call
  | .awaited => firstOf [
      do
        let _ ← word "await"
        let _ ← call .primary
        return .other "await expression",
      call .primary]
  | .primary => primary call
  | .texts => texts
  | .arguments => arguments call
  | .target => targetPart call (atom call) ((fun f => f .attribute) <$> suffix call)
  | .starTarget => target call

/-- The rules whose finds are not kept, because other ones keep them. -/
def Rule.isFleeting : Rule → Bool
  | .expressionAlone | .named | .starredList => true
  | _ => false

/-- The reader of a rule, up to a number of rules within each other. -/
def ruleFrom : Nat → Rule → Source → Progress → Reading Node
  | 0, _, _, p => .missed p
  | n + 1, r, s, p =>
    let reader := rule (ruleFrom n) r
    if r.isFleeting then reader s p else remembered r reader s p

/-- One or more expressions up to the end of the source. -/
def wholeExpression (call : Rules) : Reader Node := do
  let first ← call .expression
  let more ← several do
    let _ ← operator ","
    call .expression
  let comma ← optional? (operator ",")
  let _ ← several (ofKind .lineEnd)
  let _ ← ofKind .finish
  return if more.isEmpty && comma.isNone then first else .tuple (first :: more)

/-- The last token could only be told by the end of the source. -/
def Source.endsOpen (s : Source) : Bool :=
  match s.tokens.back? with
  | some t => t.kind = .name || t.kind = .number || (t.kind = .operator && t.characters.length < 3)
  | none => false

/-- The fault to be reported for a source in which one is found. A fault in
    characters further on counts more. So does a bracket that is open since a line
    before, unless the end of the source has been seen, which `ended` tells. -/
def Source.report (s : Source) (p : Progress) (ended : Bool) (f : Fault) : Fault :=
  let line := (s.tokens[p.reached - 1]?.map Token.line).getD 0
  let orOpen := match s.bracket with
    | some (c, since) => if since < line && !ended then .unclosed c else f
    | none => f
  if p.stopped then f
  else
    match s.fault with
    | none => f
    | some (.unclosed _) | some .unexpectedEnd | some .afterBackslash | some .outdented => orOpen
    | some g => g

/-- The fault to be reported for a source in which a mistake is found. -/
def Source.reportMistake (s : Source) (p : Progress) (f : Fault) : Fault :=
  s.report p (p.reached = s.tokens.size && s.endsOpen) f

/-- What is said about a source that holds no expression for no known reason, by
    the last token looked at the first time. -/
def Source.unknown (s : Source) (first second : Progress) : Fault :=
  match s.tokens[first.reached - 1]?.map Token.kind with
  | some .indent => .indented
  | some .outdent => .dedented
  | _ => s.report second false .invalid

/-- The expression of the tokens of a source. The rules within each other are no
    more than some for each token. -/
def Source.expression (s : Source) : Except Fault Node :=
  let read := wholeExpression (ruleFrom (40 * (s.tokens.size + 2)))
  match read s ⟨0, 0, false, false, ∅⟩ with
  | .found n _ => .ok n
  | .refused f p => .error (s.reportMistake p f)
  | .missed p =>
    match read s ⟨0, p.reached, false, true, ∅⟩ with
    | .refused f q => .error (s.reportMistake q f)
    | .found _ q | .missed q => .error (s.unknown p q)

/-- The expression of a text, or what is wrong with it. -/
def expressionOf (text : String) : Except Fault Node :=
  if text.contains '\x00' then .error .null
  else
    let cs := text.toList.dropWhile fun c => c == ' ' || c == '\t'
    (Source.ofText cs).expression

end Literal

end Console

end TextLog
