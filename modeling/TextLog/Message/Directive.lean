import TextLog.Metadata
import TextLog.Message.Fault

/-!
# Directives of Message Patterns

A directive is the part of a pattern, from a percent sign to a letter, that is
replaced by an argument: an optional key in brackets, flags, a width, a
precision, and the letter of the conversion.

Arguments come in two forms. A list is consumed from the left, and nothing may
be left over. A mapping is looked up by the keys of the directives; a directive
without a key takes the value that was looked up last, or the whole mapping
before anything was looked up.

## Main definitions

* `Arguments`: The arguments of a pattern, and how far they are used up.
* `Directive`: A directive as it was read.
* `readDirective`: Reads the directive behind a percent sign.
-/

namespace TextLog

namespace Message

open Decimal

/-- The arguments of a pattern that are still to be used. -/
inductive Arguments where
  /-- Arguments in order. -/
  | positions (rest : List Value)
  /-- A mapping, and the value that a directive without a key would take. -/
  | keyed (mapping : Metadata) (current : Option Value)

namespace Arguments

/-- A single mapping that is not empty is used by key, everything else in
    order. -/
def ofList : List Value → Arguments
  | [.map (e :: es)] => .keyed (e :: es) (some (.map (e :: es)))
  | args => .positions args

/-- The next argument. -/
def next : Arguments → Except Fault (Value × Arguments)
  | .positions [] => .error .tooFew
  | .positions (v :: rest) => .ok (v, .positions rest)
  | .keyed _ none => .error .tooFew
  | .keyed m (some v) => .ok (v, .keyed m none)

/-- Looks a key up and makes its value the current one. -/
def select (key : String) : Arguments → Except Fault Arguments
  | .positions _ => .error .noMapping
  | .keyed m _ =>
    match Metadata.get? m key with
    | some v => .ok (.keyed m (some v))
    | none => .error (.missingKey key)

/-- Nothing is left over. -/
def exhausted : Arguments → Bool
  | .positions rest => rest.isEmpty
  | .keyed _ _ => true

end Arguments

/-- The shape that a directive asks for. -/
structure Directive where
  left : Bool
  plus : Bool
  space : Bool
  alternate : Bool
  zero : Bool
  width : Nat
  precision : Option Nat
  letter : Char

/-- The text up to the bracket that closes the one already open, and the text
    behind it. -/
def readKey : Nat → List Char → Option (List Char × List Char)
  | _, [] => none
  | depth, c :: rest =>
    if c = ')' then
      if depth = 0 then some ([], rest)
      else (readKey (depth - 1) rest).map fun r => (c :: r.1, r.2)
    else
      let deeper := if c = '(' then depth + 1 else depth
      (readKey deeper rest).map fun r => (c :: r.1, r.2)

/-- The flags of a directive. -/
def isFlag (c : Char) : Bool :=
  c == '-' || c == '+' || c == ' ' || c == '#' || c == '0'

/-- The number that ASCII digits write, unless it is beyond a limit. -/
def readNumber? (limit : Nat) (ds : List Char) : Option Nat :=
  let n := Binary64.ofDigits ds
  if limit < n then none else some n

/-- The largest width. -/
def widthLimit : Nat := powTwo 63 - 1

/-- The largest precision. -/
def precisionLimit : Nat := powTwo 31 - 1

/-- Reads a width: a number in the pattern, or an argument for a star. A
    negative argument also moves the text to the left. -/
def readWidth (cs : List Char) (args : Arguments) :
    Except Fault (Int × List Char × Arguments) :=
  match cs with
  | '*' :: rest => do
    let (v, args) ← args.next
    match v.integer? with
    | none => .error .widthKind
    | some n =>
      if n < -(powTwo 63 : Int) || (powTwo 63 : Int) ≤ n then .error .widthArgumentLimit
      else .ok (n, rest, args)
  | cs =>
    match readNumber? widthLimit (cs.takeWhile Char.isDigit) with
    | none => .error .widthLimit
    | some n => .ok (n, cs.dropWhile Char.isDigit, args)

/-- Reads a precision behind its point, if there is one. A negative argument
    counts as zero. -/
def readPrecision (cs : List Char) (args : Arguments) :
    Except Fault (Option Nat × List Char × Arguments) :=
  match cs with
  | '.' :: '*' :: rest => do
    let (v, args) ← args.next
    match v.integer? with
    | none => .error .widthKind
    | some n =>
      if n < -(powTwo 31 : Int) || (powTwo 31 : Int) ≤ n then .error .precisionArgumentLimit
      else .ok (some n.toNat, rest, args)
  | '.' :: rest =>
    match readNumber? precisionLimit (rest.takeWhile Char.isDigit) with
    | none => .error .precisionLimit
    | some n => .ok (some n, rest.dropWhile Char.isDigit, args)
  | cs => .ok (none, cs, args)

/-- Skips one length mark, which has no meaning. -/
def skipLength : List Char → List Char
  | c :: rest => if c = 'h' || c = 'l' || c = 'L' then rest else c :: rest
  | [] => []

/-- Selects the value of the key that a directive starts with. -/
def readSelection (cs : List Char) (args : Arguments) :
    Except Fault (List Char × Arguments) :=
  match cs with
  | '(' :: rest =>
    match args with
    | .positions _ => .error .noMapping
    | .keyed _ _ =>
      match readKey 0 rest with
      | none => .error .openKey
      | some (key, rest) => do
        let args ← args.select (String.ofList key)
        .ok (rest, args)
  | cs => .ok (cs, args)

/-- Reads a directive behind its percent sign. What follows it and the arguments
    that are left are given back with it. -/
def readDirective (cs : List Char) (args : Arguments) :
    Except Fault (Directive × List Char × Arguments) := do
  let (cs, args) ← readSelection cs args
  let flags := cs.takeWhile isFlag
  let rest := cs.dropWhile isFlag
  if rest.isEmpty then .error .unfinished
  let (width, rest, args) ← readWidth rest args
  let (precision, rest, args) ← readPrecision rest args
  match skipLength rest with
  | [] => .error .unfinished
  | letter :: rest =>
    .ok ({ left := flags.contains '-' || width < 0
           plus := flags.contains '+'
           space := flags.contains ' '
           alternate := flags.contains '#'
           zero := flags.contains '0'
           width := width.natAbs
           precision := precision
           letter := letter }, rest, args)

end Message

end TextLog
