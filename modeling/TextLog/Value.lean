import TextLog.Decimal.Shortest
import TextLog.Text.Quoted

/-!
# Values

The dynamic values that metadata, message arguments and settings are made of.

A value has two texts. `text` is the one that stands in a line: a text value as
it is. `literal` is the one that stands inside another value: a text value is
quoted, so that a list of one text differs from the text of a list. A map keeps
the order in which its keys were given.

Integers may have any number of digits and values may be nested to any depth, and
all of them have texts. Limits that a runtime sets to the digits that it writes or
to the depth that it follows are no part of this; the values meant here are those
within such limits.

## Main definitions

* `Value`: A dynamic value.
* `Value.text`, `Value.literal`: Its two texts.
* `Value.kind`: The name of its kind, for messages.
* `Value.truthy`: The value is not empty, zero, false or null.
-/

namespace TextLog

/-- A dynamic value. The keys of a map are distinct and in order of
    insertion. -/
inductive Value where
  | null
  | bool (b : Bool)
  | int (n : Int)
  | float (x : Binary64)
  | text (s : String)
  | list (items : List Value)
  | map (entries : List (String × Value))
  deriving Inhabited

namespace Value

/-- The word for a truth value. -/
def boolText (b : Bool) : String :=
  if b then "True" else "False"

mutual

/-- The text of a value inside another one, texts being quoted by `quoted`. -/
def literalWith (quoted : String → String) : Value → String
  | .null => "None"
  | .bool b => boolText b
  | .int n => Decimal.intText n
  | .float x => x.text
  | .text s => quoted s
  | .list items => "[" ++ ", ".intercalate (itemLiterals quoted items) ++ "]"
  | .map entries => "\x7b" ++ ", ".intercalate (entryLiterals quoted entries) ++ "\x7d"

/-- The texts of the members of a list. -/
def itemLiterals (quoted : String → String) : List Value → List String
  | [] => []
  | v :: rest => literalWith quoted v :: itemLiterals quoted rest

/-- The texts of the entries of a map. -/
def entryLiterals (quoted : String → String) : List (String × Value) → List String
  | [] => []
  | (k, v) :: rest => (quoted k ++ ": " ++ literalWith quoted v) :: entryLiterals quoted rest

end

/-- The text of a value inside another one. -/
def literal (v : Value) : String :=
  literalWith Text.quote v

/-- The same in ASCII alone. -/
def asciiLiteral (v : Value) : String :=
  literalWith Text.quoteAscii v

/-- The text of a value on its own. -/
def toText : Value → String
  | .text s => s
  | v => v.literal

/-- The name of the kind of a value. -/
def kind : Value → String
  | .null => "NoneType"
  | .bool _ => "bool"
  | .int _ => "int"
  | .float _ => "float"
  | .text _ => "str"
  | .list _ => "list"
  | .map _ => "dict"

/-- A text, or null if there is none. -/
def ofText? : Option String → Value
  | some s => .text s
  | none => .null

/-- The integer that a value counts as. -/
def integer? : Value → Option Int
  | .int n => some n
  | .bool b => some (if b then 1 else 0)
  | _ => none

/-- The value is not null, false, zero or empty. -/
def truthy : Value → Bool
  | .null => false
  | .bool b => b
  | .int n => n != 0
  | .float x => !x.isZero
  | .text s => s != ""
  | .list items => !items.isEmpty
  | .map entries => !entries.isEmpty

end Value

end TextLog
