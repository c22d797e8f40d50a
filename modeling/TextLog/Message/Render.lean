import TextLog.Message.Directive
import TextLog.Decimal.Layout
import TextLog.Failure

/-!
# Filling In Message Patterns

The text of a message pattern with its arguments.

Each directive is replaced by an argument in the form that its letter names:
`s`, `r` and `a` the text of any value, plain, quoted, or quoted in ASCII; `d`,
`i` and `u` an integer, numbers with a fraction being cut; `o`, `x` and `X` an
integer to base eight or sixteen; `e`, `f`, `g` and their capitals a number in
scientific, fixed or general form; `c` a character. A doubled percent sign
stands for itself. A message without arguments is no pattern and stays as it
is.

## Main definitions

* `convert`: An argument in the form that a directive asks for.
* `format`: A pattern with its arguments filled in.
-/

namespace TextLog

namespace Message

/-- Text in a field of a given width, spaces filling it up. -/
def padded (d : Directive) (cs : List Char) : List Char :=
  let blanks := List.replicate (d.width - cs.length) ' '
  if d.left then cs ++ blanks else blanks ++ cs

/-- A number in its field, from the mark of its base and its digits. Zeros that
    fill the field up stand behind sign and mark. -/
def paddedNumber (d : Directive) (negative : Bool) (mark body : List Char) : List Char :=
  let sign :=
    if negative then ['-'] else if d.plus then ['+'] else if d.space then [' '] else []
  let front := sign ++ mark
  if d.zero && !d.left then
    front ++ List.replicate (d.width - front.length - body.length) '0' ++ body
  else padded d (front ++ body)

/-- The capital form of ASCII text. -/
def capital (cs : List Char) : List Char :=
  cs.map Char.toUpper

/-- An integer to a base. The precision is the least number of digits. -/
def integerText (d : Directive) (n : Int) : List Char :=
  let base := if d.letter = 'o' then 8 else if d.letter = 'x' || d.letter = 'X' then 16 else 10
  let mark :=
    if d.alternate && base != 10 then ['0', if d.letter = 'o' then 'o' else 'x'] else []
  let ds := Nat.toDigits base n.natAbs
  let body := Decimal.zeros (d.precision.getD 0 - ds.length) ++ ds
  let shape := if d.letter = 'X' then capital else id
  paddedNumber d (n < 0) (shape mark) (shape body)

/-- An integer to a base, unless its precision is beyond what integers can be
    given. -/
def checkedInteger (d : Directive) (n : Int) : Except Fault (List Char) :=
  if precisionLimit - 3 < d.precision.getD 0 then .error .digitLimit else .ok (integerText d n)

/-- More significant digits than any number with a fraction has. -/
def manyDigits : Nat := 1100

/-- A number with a fraction in the form of its letter, in small letters. -/
def realBody (d : Directive) : Binary64 → Bool × List Char
  | .nan => (false, ['n', 'a', 'n'])
  | .infinite negative => (negative, ['i', 'n', 'f'])
  | .finite negative mantissa exponent =>
    let r := Binary64.ratioOf mantissa exponent
    let places := d.precision.getD 6
    let body :=
      if d.letter = 'f' || d.letter = 'F' then Decimal.fixed d.alternate r.1 r.2 places
      else if d.letter = 'e' || d.letter = 'E' then
        -- One digit more than the largest precision cannot be counted, and none is shown then.
        Decimal.scientific d.alternate r.1 r.2 (if precisionLimit ≤ places then 0 else places)
      else
        Decimal.general d.alternate r.1 r.2 (if d.alternate then places else min places manyDigits)
    (negative, body)

/-- A number with a fraction in its field. -/
def realText (d : Directive) (x : Binary64) : List Char :=
  let signed := realBody d x
  let capitals := d.letter = 'E' || d.letter = 'F' || d.letter = 'G'
  paddedNumber d signed.1 [] (if capitals then capital signed.2 else signed.2)

/-- The whole number that a value counts as, cut toward zero. -/
def wholeOf (letter : Char) : Value → Except Fault Int
  | .int n => .ok n
  | .bool b => .ok (if b then 1 else 0)
  | .float .nan => .error .nanWhole
  | .float (.infinite _) => .error .infiniteWhole
  | .float (.finite negative mantissa exponent) =>
    .ok (Binary64.truncate negative mantissa exponent)
  | v => .error (.needsNumber letter v.kind)

/-- The number with a fraction that a value counts as. -/
def realOf : Value → Except Fault Binary64
  | .float x => .ok x
  | v =>
    match v.integer? with
    | none => .error (.needsReal v.kind)
    | some n =>
      match Binary64.ofInt? n with
      | some x => .ok x
      | none => .error .integerTooLarge

/-- The character that a value stands for: a text of one character or a code
    point. -/
def characterOf : Value → Except Fault Char
  | .text s =>
    match s.toList with
    | [c] => .ok c
    | _ => .error .needsCharacter
  | v =>
    match v.integer? with
    | none => .error .needsCharacter
    | some n =>
      if n < 0 || 0x110000 ≤ n then .error .characterRange
      else .ok (Char.ofNat n.toNat)

/-- A text in its field, cut to the precision. -/
def textField (d : Directive) (s : String) : List Char :=
  padded d (match d.precision with
    | some n => s.toList.take n
    | none => s.toList)

/-- An argument in the form that a directive asks for. The place of its letter
    in the pattern is only needed to report a letter that is not known. -/
def convert (d : Directive) (index : Nat) (v : Value) : Except Fault (List Char) :=
  match d.letter with
  | 's' => .ok (textField d v.toText)
  | 'r' => .ok (textField d v.literal)
  | 'a' => .ok (textField d v.asciiLiteral)
  | 'd' => (wholeOf 'd' v).bind (checkedInteger d)
  | 'i' => (wholeOf 'i' v).bind (checkedInteger d)
  | 'u' => (wholeOf 'u' v).bind (checkedInteger d)
  | 'e' | 'E' | 'f' | 'F' | 'g' | 'G' => (realOf v).map (realText d)
  | 'c' => (characterOf v).map fun c => padded d [c]
  | letter =>
    if letter = 'o' || letter = 'x' || letter = 'X' then
      match v.integer? with
      | some n => checkedInteger d n
      | none => .error (.needsInteger letter v.kind)
    else .error (.unknown letter index)

/-- Fills in a pattern of `size` characters, of which `cs` are left. Each step
    leaves fewer of them, so their number is fuel enough. -/
def fillIn (size : Nat) : Nat → List Char → Arguments → Except Fault (List Char)
  | _, [], args => if args.exhausted then .ok [] else .error .tooMany
  | 0, _ :: _, _ => .ok []
  -- Only a percent sign right behind another one stands for itself.
  | fuel + 1, '%' :: '%' :: rest, args => do
    let after ← fillIn size fuel rest args
    .ok ('%' :: after)
  | fuel + 1, c :: rest, args =>
    if c = '%' then do
      let (d, rest, args) ← readDirective rest args
      let (v, args) ← args.next
      let shown ← convert d (size - rest.length - 1) v
      let after ← fillIn size fuel rest args
      .ok (shown ++ after)
    else do
      let after ← fillIn size fuel rest args
      .ok (c :: after)

/-- A pattern with its arguments filled in; without arguments it is the message
    itself. -/
def format (pattern : String) (args : List Value) : Except Failure String :=
  if args.isEmpty then .ok pattern
  else
    let cs := pattern.toList
    match fillIn cs.length cs.length cs (Arguments.ofList args) with
    | .ok text => .ok (String.ofList text)
    | .error fault => .error (.message fault)

end Message

end TextLog
