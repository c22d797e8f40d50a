import TextLog.Value

/-!
# Raised Exceptions

The text of an exception that accompanies an event.

An exception may have been caused by another one, or have been raised while
another one was handled. The cause is shown before the exception; the other one
is shown in its place if there is no cause and it is not suppressed.

## Main definitions

* `Raised`: An exception.
* `Raised.headline`: Its kind and what it says.
* `Raised.text`: Its text with those it came from.
-/

namespace TextLog

/-- An exception with its arguments, and where it came from. -/
inductive Raised where
  | mk (kind : String) (args : List Value) (cause context : Option Raised) (suppressed : Bool)
  deriving Inhabited

namespace Raised

/-- What an exception says, from its arguments. A missing key is quoted. -/
def saying (kind : String) : List Value → String
  | [] => ""
  | [v] => if kind = "KeyError" then v.literal else v.toText
  | args => "(" ++ ", ".intercalate (args.map Value.literal) ++ ")"

/-- The kind of an exception and what it says, if anything. -/
def headline (kind : String) (args : List Value) : String :=
  let said := saying kind args
  if said = "" then kind else kind ++ ": " ++ said

/-- Stands between a cause and its effect. -/
def causeBridge : String :=
  "\n\nThe above exception was the direct cause of the following exception:\n\n"

/-- Stands between an exception and another one raised while it was handled. -/
def contextBridge : String :=
  "\n\nDuring handling of the above exception, another exception occurred:\n\n"

/-- The text of an exception with those it came from. -/
def text : Raised → String
  | .mk kind args (some cause) _ _ => cause.text ++ causeBridge ++ headline kind args
  | .mk kind args none (some context) false =>
    context.text ++ contextBridge ++ headline kind args
  | .mk kind args none _ _ => headline kind args

end Raised

end TextLog
