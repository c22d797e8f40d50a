import TextLog.Console.Literal.Fault

/-!
# Expressions of Literals

What an expression consists of, as far as its faults and its meaning depend on
it.

Only few expressions stand for a value of their own: texts, numbers with a sign
perhaps, the sum of a real and an imaginary number, the constants, and tuples,
sets and mappings of such expressions. Sets and mappings can be no members of
sets and no keys of mappings, and neither can tuples that hold one.

## Main definitions

* `Node`: An expression.
* `Node.description`: What an expression is called in faults.
* `Node.wrongTarget?`: The part of an expression that cannot be assigned to.
* `Node.check`: The fault of an expression that stands for no value.
-/

namespace TextLog

namespace Console

namespace Literal

/-- An expression. -/
inductive Node where
  /-- A name. -/
  | name (id : String)
  /-- A number, real or imaginary. -/
  | number (imaginary : Bool)
  /-- Another constant, by what it is called. -/
  | constant (description : String)
  /-- An expression with a plus or minus sign. -/
  | signed (operand : Node)
  /-- A sum or difference. -/
  | sum (left right : Node)
  /-- Expressions with commas between them. -/
  | tuple (items : List Node)
  /-- A set of expressions. -/
  | set (items : List Node)
  /-- A mapping. -/
  | mapping (entries : List (Node × Node))
  /-- Another mapping, unpacked within one. -/
  | unpacked
  /-- A call, perhaps with arguments. -/
  | call (function : Node) (bare : Bool)
  /-- A comparison, with its left side if it starts with a membership. -/
  | comparison (member : Option Node)
  /-- A starred expression. -/
  | starred (operand : Node)
  /-- A part of another expression. -/
  | attribute
  /-- Another expression, by what it is called. -/
  | other (description : String)

namespace Node

/-- What an expression is called. -/
def description : Node → String
  | .name _ => "name"
  | .number _ => "literal"
  | .constant d => d
  | .signed _ | .sum _ _ => "expression"
  | .tuple _ => "tuple"
  | .set _ => "set display"
  | .mapping _ | .unpacked => "dict literal"
  | .call _ _ => "function call"
  | .comparison _ => "comparison"
  | .starred _ => "starred"
  | .attribute => "attribute"
  | .other d => d

mutual

/-- The part of the target of a repetition that cannot be assigned to. A
    membership may be the target and the word behind it. -/
def wrongTarget? : Node → Option Node
  | .name _ | .attribute => none
  | .tuple items => wrongTargetIn? items
  | .starred operand => wrongTarget? operand
  | .comparison none => none
  | .comparison (some left) => wrongTarget? left
  | n => some n

/-- The first part of some targets that cannot be assigned to. -/
def wrongTargetIn? : List Node → Option Node
  | [] => none
  | n :: rest => (wrongTarget? n).or (wrongTargetIn? rest)

end

/-- What a value is, as far as it matters: whether it can be looked up. -/
inductive Kind where
  /-- A value that can be looked up. -/
  | key
  /-- A value of a kind that cannot be looked up, or that holds one. -/
  | fluid (kind : String)

/-- Refuses a value that cannot be looked up. -/
def Kind.asKey : Kind → Except Fault Unit
  | .key => .ok ()
  | .fluid kind => .error (.unhashable kind)

/-- The number that an expression stands for is imaginary. -/
def isImaginary : Node → Except Fault Bool
  | .number imaginary => .ok imaginary
  | _ => .error .malformed

/-- The number that an expression with a sign perhaps stands for is imaginary. -/
def isImaginarySigned : Node → Except Fault Bool
  | .signed operand => operand.isImaginary
  | n => n.isImaginary

mutual

/-- The kind of the value that an expression stands for. -/
def kind : Node → Except Fault Kind
  | .constant _ => .ok .key
  | .tuple items => tupleKind items
  | .set items => do
    setKeys items
    return .fluid "set"
  | .call (.name "set") true => .ok (.fluid "set")
  | .mapping entries => do
    mappingKeys entries
    return .fluid "dict"
  | .sum left right => do
    let left ← left.isImaginarySigned
    let right ← right.isImaginary
    if !left && right then return .key else .error .malformed
  | .unpacked => .error .unpackedMapping
  | n => do
    let _ ← n.isImaginarySigned
    return .key

/-- The kind of a tuple: that of its first member that cannot be looked up. -/
def tupleKind : List Node → Except Fault Kind
  | [] => .ok .key
  | n :: rest => do
    let first ← kind n
    let more ← tupleKind rest
    return match first with
      | .key => more
      | .fluid k => .fluid k

/-- Checks the members of a set one after the other. -/
def setKeys : List Node → Except Fault Unit
  | [] => .ok ()
  | n :: rest => do
    (← kind n).asKey
    setKeys rest

/-- Checks the entries of a mapping one after the other. -/
def mappingKeys : List (Node × Node) → Except Fault Unit
  | [] => .ok ()
  | (key, value) :: rest => do
    let k ← kind key
    let _ ← kind value
    k.asKey
    mappingKeys rest

end

/-- Refuses an expression that stands for no value. -/
def check (n : Node) : Except Fault Unit := do
  let _ ← n.kind
  return ()

end Node

end Literal

end Console

end TextLog
