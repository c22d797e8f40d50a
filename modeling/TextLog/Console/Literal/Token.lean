import TextLog.Console.Literal.Fault
import TextLog.Text.Word

/-!
# Tokens of Literals

The tokens of an expression.

Blanks and comments stand between tokens and are no part of them. Outside of
brackets the end of a line is a token of its own, and so is a change of the
indentation of lines; in brackets both mean nothing. A backslash at the end of a
line joins it with the next one.

The source is read up to its end or to the first fault in its characters. Later
stages only come upon that fault if they get that far.

## Main definitions

* `Token`: A token.
* `Source`: The tokens of a source, and the fault that ends them.
* `Source.ofText`: The tokens of a text.
-/

namespace TextLog

namespace Console

namespace Literal

/-- What a token is. -/
inductive TokenKind where
  | name
  | number
  | text
  | operator
  | lineEnd
  | indent
  | outdent
  | finish
  deriving DecidableEq

/-- A token: its characters, its line, and how many brackets are open behind
    it. -/
structure Token where
  kind : TokenKind
  characters : List Char
  line : Nat
  depth : Nat

/-- A character that names consist of, as far as finding their ends goes. -/
def isNameChar (c : Char) : Bool :=
  c.isAlphanum || c == '_' || 0x80 ≤ c.toNat

/-- Words that may follow a number at once, with what tells them from other
    words. -/
def followers : List (String × Bool) :=
  [("and", true), ("else", true), ("for", true), ("if", false), ("in", false), ("is", false),
   ("or", true), ("not", true)]

/-- A word that may follow a number starts here. -/
def startsFollower (cs : List Char) : Bool :=
  followers.any fun (word, whole) =>
    word.toList.isPrefixOf cs &&
      (!whole || !((cs.drop word.length).head?.map isNameChar).getD false)

/-- Refuses letters of ASCII right behind a number. -/
def endNumber (kind : String) (cs : List Char) : Except Fault (List Char) :=
  if startsFollower cs then .ok cs
  else
    match cs with
    | c :: _ => if isNameChar c && c.toNat < 0x80 then .error (.number kind) else .ok cs
    | [] => .ok cs

/-- What is left behind decimal digits, which single underscores may group. -/
def decimalTail : List Char → Except Fault (List Char)
  | '_' :: c :: rest => if c.isDigit then decimalTail rest else .error (.number "decimal")
  | ['_'] => .error (.number "decimal")
  | c :: rest => if c.isDigit then decimalTail rest else .ok (c :: rest)
  | [] => .ok []

/-- A kind of number with another base than ten. -/
structure Radix where
  kind : String
  isDigit : Char → Bool

/-- The fault of a character that is no digit of a kind of number. -/
def Radix.fault (r : Radix) (c : Option Char) : Fault :=
  match c with
  | some d => if d.isDigit && r.kind != "hexadecimal" then .digit d r.kind else .number r.kind
  | none => .number r.kind

/-- What is left behind the digits of a kind of number, which single underscores
    may group. The flag tells whether a digit is due. -/
def Radix.tail (r : Radix) : Bool → List Char → Except Fault (List Char)
  | _, '_' :: c :: rest =>
    if r.isDigit c then r.tail false rest else .error (r.fault (some c))
  | _, ['_'] => .error (r.fault none)
  | due, c :: rest =>
    if r.isDigit c then r.tail false rest
    else if due || (c.isDigit && r.kind != "hexadecimal") then .error (r.fault (some c))
    else .ok (c :: rest)
  | due, [] => if due then .error (r.fault none) else .ok []

/-- The kinds of numbers by the letter behind their zero. -/
def radix? (c : Char) : Option Radix :=
  match c.toLower with
  | 'x' => some ⟨"hexadecimal", fun d => d.isDigit || ('a' ≤ d.toLower && d.toLower ≤ 'f')⟩
  | 'o' => some ⟨"octal", fun d => '0' ≤ d && d < '8'⟩
  | 'b' => some ⟨"binary", fun d => d == '0' || d == '1'⟩
  | _ => none

/-- Reads the mark of an imaginary number, or the end of a real one. -/
def numberEnd : List Char → Except Fault (List Char)
  | c :: rest =>
    if c == 'j' || c == 'J' then endNumber "imaginary" rest else endNumber "decimal" (c :: rest)
  | [] => .ok []

/-- Reads an exponent, if there is one, and what follows. -/
def exponentPart (cs : List Char) : Except Fault (List Char) :=
  match cs with
  | e :: rest =>
    if e == 'e' || e == 'E' then
      match rest with
      | d :: more =>
        if d == '+' || d == '-' then
          match more with
          | x :: tail =>
            if x.isDigit then do numberEnd (← decimalTail tail) else .error (.number "decimal")
          | [] => .error (.number "decimal")
        else if d.isDigit then do numberEnd (← decimalTail more)
        else endNumber "decimal" cs
      | [] => endNumber "decimal" cs
    else numberEnd cs
  | [] => .ok []

/-- Reads the digits behind a decimal point and what follows. -/
def fractionPart (cs : List Char) : Except Fault (List Char) :=
  match cs with
  | c :: rest =>
    if c.isDigit then do exponentPart (← decimalTail rest) else exponentPart cs
  | [] => .ok []

/-- What follows the zeros at the start of a number, which single underscores may
    group. -/
def zerosTail : List Char → Except Fault (List Char)
  | '_' :: c :: rest =>
    if c = '0' then zerosTail rest
    else if c.isDigit then .ok (c :: rest) else .error (.number "decimal")
  | ['_'] => .error (.number "decimal")
  | c :: rest => if c = '0' then zerosTail rest else .ok (c :: rest)
  | [] => .ok []

/-- Reads a number that starts with a zero, given what follows it. -/
def zeroNumber (cs : List Char) : Except Fault (List Char) :=
  match cs.head?.bind radix? with
  | some r => do endNumber r.kind (← r.tail true (cs.drop 1))
  | none => do
    let behind ← zerosTail cs
    let long := (behind.head?.map Char.isDigit).getD false
    let rest ← if long then decimalTail behind else .ok behind
    match rest with
    | c :: more =>
      if c = '.' then fractionPart more
      else if c == 'e' || c == 'E' then exponentPart rest
      else if c == 'j' || c == 'J' then numberEnd rest
      else if long then .error .leadingZeros
      else endNumber "decimal" rest
    | [] => if long then .error .leadingZeros else .ok []

/-- What is left behind the number that a source starts with. -/
def afterNumber : List Char → Except Fault (List Char)
  | '.' :: rest => fractionPart rest
  | '0' :: rest => zeroNumber rest
  | _ :: rest => do
    match ← decimalTail rest with
    | '.' :: more => fractionPart more
    | more => exponentPart more
  | [] => .ok []

/-- What is left behind a text of one line, given what follows its opening
    quote. -/
def afterText (quote : Char) (line : Nat) : List Char → Except Fault (List Char × Nat)
  | '\\' :: c :: rest => afterText quote (if c = '\n' then line + 1 else line) rest
  | c :: rest =>
    if c = quote then .ok (rest, line)
    else if c = '\n' then .error (.openText line)
    else afterText quote line rest
  | [] => .error (.openText line)

/-- What is left behind a text of several lines, given what follows its three
    opening quotes. -/
def afterLongText (quote : Char) (line : Nat) : List Char → Except Fault (List Char × Nat)
  | '\\' :: c :: rest => afterLongText quote (if c = '\n' then line + 1 else line) rest
  | c :: rest =>
    match rest with
    | d :: e :: more =>
      if c = quote ∧ d = quote ∧ e = quote then .ok (more, line)
      else afterLongText quote (if c = '\n' then line + 1 else line) rest
    | _ => afterLongText quote (if c = '\n' then line + 1 else line) rest
  | [] => .error (.openLongText line)

/-- What is left behind the text that a source starts with, and the line there. -/
def afterQuoted (line : Nat) : List Char → Except Fault (List Char × Nat)
  | q :: rest =>
    match rest with
    | r :: s :: more =>
      if r = q then
        if s = q then afterLongText q line more else .ok (s :: more, line)
      else afterText q line rest
    | [r] => if r = q then .ok ([], line) else .error (.openText line)
    | [] => .error (.openText line)
  | [] => .ok ([], line)

/-- The letters that a text has had in front of it. -/
structure Marks where
  bytes : Bool
  raw : Bool
  plain : Bool
  filled : Bool

/-- Adds a letter in front of a text, if it fits the others. -/
def Marks.add? (m : Marks) (c : Char) : Option Marks :=
  let other := m.bytes || m.plain || m.filled
  match c.toLower with
  | 'b' => if other then none else some { m with bytes := true }
  | 'u' => if other || m.raw then none else some { m with plain := true }
  | 'r' => if m.raw || m.plain then none else some { m with raw := true }
  | 'f' => if other then none else some { m with filled := true }
  | _ => none

/-- The letters in front of a text, and the text from its quote on. -/
def marked? (m : Marks) : List Char → Option (Marks × List Char)
  | c :: rest =>
    if c = '"' || c = '\'' then some (m, c :: rest)
    else (m.add? c).bind fun m => marked? m rest
  | [] => none

/-- The letters in front of the text that a source starts with, and the text. -/
def text? (cs : List Char) : Option (Marks × List Char) :=
  marked? ⟨false, false, false, false⟩ cs

/-- The first character of a name that does not belong there. -/
def strayChar? : List Char → Option Char
  | c :: rest =>
    if Text.startsName c then rest.find? fun d => !Text.continuesName d else some c
  | [] => none

/-- The operators of several characters; longer ones come first. -/
def longOperators : List String :=
  ["**=", "...", "//=", "<<=", ">>=", "!=", "%=", "&=", "**", "*=", "+=", "-=", "->", "//", "/=",
   ":=", "<<", "<=", "<>", "==", ">=", ">>", "@=", "^=", "|="]

/-- The operator that a source starts with. -/
def operatorOf (cs : List Char) : List Char :=
  match longOperators.find? fun o => o.toList.isPrefixOf cs with
  | some o => o.toList
  | none => cs.take 1

/-- The closing bracket of an opening one. -/
def closing? : Char → Option Char
  | '(' => some ')'
  | '[' => some ']'
  | '\x7b' => some '\x7d'
  | _ => none

/-- Where the reading of a source stands. -/
structure Place where
  line : Nat
  /-- The open brackets with their lines; the last one comes first. -/
  brackets : List (Char × Nat)
  /-- The indentations of the blocks around; the last one comes first. -/
  indents : List Nat
  /-- A line starts here. -/
  fresh : Bool
  /-- Nothing but a comment stands on the line. -/
  empty : Bool

/-- The most brackets that may be open. -/
def depthLimit : Nat := 200

/-- The tokens of a source and the fault that ends them, with the bracket that is
    open there and its line. -/
structure Source where
  tokens : Array Token
  fault : Option Fault
  bracket : Option (Char × Nat)

/-- A step through a source. -/
inductive Step where
  /-- A token, and what is left behind it. -/
  | token (t : Token) (p : Place) (rest : List Char)
  /-- Characters that are no token. -/
  | skip (p : Place) (rest : List Char)
  /-- The end of the source. -/
  | done
  /-- A fault. -/
  | fault (f : Fault)

/-- The token of a kind whose characters end where the rest starts. -/
def Place.token (p : Place) (kind : TokenKind) (cs rest : List Char) (line : Nat) : Step :=
  .token ⟨kind, cs.take (cs.length - rest.length), p.line, p.brackets.length⟩
    { p with line := line } rest

/-- Reads the blanks at the start of a line, and the changes of indentation that
    they mean. -/
def Place.startLine (p : Place) (cs : List Char) : Step :=
  let rest := cs.dropWhile fun c => c == ' ' || c == '\t' || c == '\x0c'
  let column := (cs.takeWhile fun c => c == ' ' || c == '\t' || c == '\x0c').foldl
    (fun n c => if c = ' ' then n + 1 else if c = '\t' then (n / 8 + 1) * 8 else 0) 0
  let empty := match rest with
    | '#' :: _ => true
    | '\n' :: _ => true
    | _ => false
  let p := { p with fresh := false, empty := empty }
  let broken := match rest with
    | '\\' :: c :: _ => c != '\n'
    | ['\\'] => true
    | _ => false
  if broken then .fault .afterBackslash
  else if empty || !p.brackets.isEmpty then .skip p rest
  else
    match p.indents with
    | top :: more =>
      if column = top then .skip p rest
      else if top < column then
        .token ⟨.indent, [], p.line, 0⟩ { p with indents := column :: top :: more } rest
      else if (0 :: p.indents).contains column then
        .token ⟨.outdent, [], p.line, 0⟩ { p with fresh := true, indents := more } cs
      else .fault .outdented
    | [] =>
      if column = 0 then .skip p rest
      else .token ⟨.indent, [], p.line, 0⟩ { p with indents := [column] } rest

/-- Reads a bracket or another operator. -/
def Place.operator (p : Place) (cs : List Char) : Step :=
  let found := operatorOf cs
  let rest := cs.drop found.length
  match found with
  | [c] =>
    if (closing? c).isSome then
      if depthLimit ≤ p.brackets.length then .fault .tooDeep
      else
        { p with brackets := (c, p.line) :: p.brackets }.token .operator cs rest p.line
    else if c = ')' || c = ']' || c = '\x7d' then
      match p.brackets with
      | [] => .fault (.unmatched c)
      | (opening, line) :: more =>
        if closing? opening = some c then
          { p with brackets := more }.token .operator cs rest p.line
        else .fault (.mismatched c opening (if line = p.line then none else some line))
    else if Text.isPrintable c then p.token .operator cs rest p.line
    else .fault (.character c)
  | _ => p.token .operator cs rest p.line

/-- Reads a token. -/
def Place.step (p : Place) (cs : List Char) : Step :=
  if p.fresh then p.startLine cs
  else
    match cs with
    | [] => .done
    | c :: rest =>
      if c == ' ' || c == '\t' || c == '\x0c' then .skip p rest
      else if c = '#' then .skip p (rest.dropWhile (· != '\n'))
      else if c = '\n' then
        let next := { p with line := p.line + 1, fresh := true }
        if p.empty || !p.brackets.isEmpty then .skip next rest
        else .token ⟨.lineEnd, [], p.line, 0⟩ next rest
      else if c = '\\' then
        match rest with
        | ['\n'] =>
          .fault (match p.brackets with
            | (bracket, _) :: _ => .unclosed bracket
            | [] => .unexpectedEnd)
        | '\n' :: more => .skip { p with line := p.line + 1 } more
        | _ => .fault .afterBackslash
      else
        match text? cs with
        | some (_, quoted) =>
          match afterQuoted p.line quoted with
          | .ok (behind, line) => p.token .text cs behind line
          | .error f => .fault f
        | none =>
          let point := c = '.' && ((rest.head?.map Char.isDigit).getD false)
          if c.isDigit || point then
            match afterNumber cs with
            | .ok behind => p.token .number cs behind p.line
            | .error f => .fault f
          else if isNameChar c then
            let name := cs.takeWhile isNameChar
            match strayChar? name with
            | some d => .fault (.character d)
            | none => p.token .name cs (cs.dropWhile isNameChar) p.line
          else p.operator cs

/-- Reads the tokens of what is left of a source. Each step but those at the start
    of a line leaves fewer characters, so twice their number and a bit more is
    fuel enough. -/
def tokensFrom : Nat → Place → Array Token → List Char → Source
  | 0, p, found, _ => ⟨found, some .tooDeep, p.brackets.head?⟩
  | fuel + 1, p, found, cs =>
    match p.step cs with
    | .token t p rest => tokensFrom fuel p (found.push t) rest
    | .skip p rest => tokensFrom fuel p found rest
    | .fault f => ⟨found, some f, p.brackets.head?⟩
    | .done =>
      match p.brackets with
      | (c, _) :: _ => ⟨found, some (.unclosed c), p.brackets.head?⟩
      | [] => ⟨found.push ⟨.finish, [], p.line, 0⟩, none, none⟩

/-- The text with one line feed at the end of each line. -/
def unifyLineEnds : List Char → List Char
  | '\x0d' :: '\n' :: rest => '\n' :: unifyLineEnds rest
  | '\x0d' :: rest => '\n' :: unifyLineEnds rest
  | c :: rest => c :: unifyLineEnds rest
  | [] => []

/-- The tokens of a text. -/
def Source.ofText (cs : List Char) : Source :=
  let cs := unifyLineEnds cs
  tokensFrom (3 * cs.length + 3) ⟨1, [], [], true, false⟩ #[] cs

end Literal

end Console

end TextLog
