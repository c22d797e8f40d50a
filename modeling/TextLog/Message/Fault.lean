import TextLog.Value

/-!
# Faults of Message Patterns

Why a message pattern could not be filled in with its arguments.

## Main definitions

* `Message.Fault`: The cause.
* `Message.Fault.wording`: What is said about it.
-/

namespace TextLog

namespace Message

/-- A cause for which a pattern and its arguments do not fit together. `letter`
    is the letter of the conversion and `kind` the kind of the argument. -/
inductive Fault where
  /-- A conversion found no argument left. -/
  | tooFew
  /-- An argument was left over. -/
  | tooMany
  /-- A key was asked for where the argument is no mapping. -/
  | noMapping
  /-- The mapping lacks a key. -/
  | missingKey (key : String)
  /-- The key of a conversion is not closed. -/
  | openKey
  /-- The pattern ends inside a conversion. -/
  | unfinished
  /-- A width or precision taken from the arguments is no integer. -/
  | widthKind
  /-- A width beyond the limit. -/
  | widthLimit
  /-- A precision beyond the limit. -/
  | precisionLimit
  /-- A width argument beyond the limit. -/
  | widthArgumentLimit
  /-- A precision argument beyond the limit. -/
  | precisionArgumentLimit
  /-- No conversion has this letter. -/
  | unknown (letter : Char) (index : Nat)
  /-- A whole number was asked for and something else given. -/
  | needsNumber (letter : Char) (kind : String)
  /-- An integer was asked for and something else given. -/
  | needsInteger (letter : Char) (kind : String)
  /-- A number with a fraction was asked for and something else given. -/
  | needsReal (kind : String)
  /-- A number without value has no whole part. -/
  | nanWhole
  /-- An infinite number has no whole part. -/
  | infiniteWhole
  /-- An integer too large to have a fraction. -/
  | integerTooLarge
  /-- More digits than an integer can be given. -/
  | digitLimit
  /-- A character was asked for and something else given. -/
  | needsCharacter
  /-- A code point beyond the last one. -/
  | characterRange
  deriving Repr

/-- The letter of an unknown conversion as the wording shows it. -/
def Fault.shownLetter (c : Char) : Char :=
  if 31 ≤ c.toNat && c.toNat < 127 then c else '?'

/-- What is said about a fault. -/
def Fault.wording : Fault → String
  | .tooFew => "not enough arguments for format string"
  | .tooMany => "not all arguments converted during string formatting"
  | .noMapping => "format requires a mapping"
  | .missingKey key => Text.quote key
  | .openKey => "incomplete format key"
  | .unfinished => "incomplete format"
  | .widthKind => "* wants int"
  | .widthLimit => "width too big"
  | .precisionLimit => "precision too big"
  | .widthArgumentLimit => "Python int too large to convert to C ssize_t"
  | .precisionArgumentLimit => "Python int too large to convert to C int"
  | .unknown letter index =>
    "unsupported format character '" ++ String.singleton (shownLetter letter) ++ "' (0x" ++
      String.ofList (Nat.toDigits 16 letter.toNat) ++ ") at index " ++ Decimal.intText index
  | .needsNumber letter kind =>
    "%" ++ String.singleton letter ++ " format: a real number is required, not " ++ kind
  | .needsInteger letter kind =>
    "%" ++ String.singleton letter ++ " format: an integer is required, not " ++ kind
  | .needsReal kind => "must be real number, not " ++ kind
  | .nanWhole => "cannot convert float NaN to integer"
  | .infiniteWhole => "cannot convert float infinity to integer"
  | .integerTooLarge => "int too large to convert to float"
  | .digitLimit => "precision too large"
  | .needsCharacter => "%c requires int or char"
  | .characterRange => "%c arg not in range(0x110000)"

end Message

end TextLog
