import TextLog.Console.Literal.Token

/-!
# Quoted Texts in Literals

Whether the quoted texts that stand beside each other mean a text.

Either all of them are texts of bytes or none is. A text of bytes holds characters
of ASCII only. Unless a text is raw, its numeric escapes must have all their
digits, and those of an ordinary text must not exceed the last code point. Places
are counted as if every character outside ASCII were written as an escape of ten
characters.

## Main definitions

* `checkTexts`: Refuses texts that mean none.
-/

namespace TextLog

namespace Console

namespace Literal

/-- The content of a text without its quotes. -/
def content (cs : List Char) : List Char :=
  match cs with
  | a :: b :: c :: _ =>
    let quotes := if a = b ∧ b = c ∧ 6 ≤ cs.length then 3 else 1
    (cs.drop quotes).take (cs.length - 2 * quotes)
  | _ => []

/-- A hexadecimal digit. -/
def isHexDigit (c : Char) : Bool :=
  c.isDigit || ('a' ≤ c.toLower && c.toLower ≤ 'f')

/-- The value of hexadecimal digits. -/
def hexValue (cs : List Char) : Nat :=
  cs.foldl (fun n c =>
    16 * n + (if c.isDigit then c.toNat - 48 else c.toLower.toNat - 87)) 0

/-- The digits of a numeric escape, and what is wrong without them. -/
def escapeDigits? : Char → Option (Nat × String)
  | 'x' => some (2, "truncated \\xXX escape")
  | 'u' => some (4, "truncated \\uXXXX escape")
  | 'U' => some (8, "truncated \\UXXXXXXXX escape")
  | _ => none

/-- Checks the numeric escapes of an ordinary text from a place on. Each step
    leaves fewer characters, so their number is fuel enough. -/
def checkEscapes : Nat → Nat → List Char → Except Fault Unit
  | 0, _, _ => .ok ()
  | fuel + 1, place, '\\' :: c :: rest =>
    match escapeDigits? c with
    | some (count, reason) =>
      let digits := (rest.take count).takeWhile isHexDigit
      let last := place + 1 + digits.length
      if digits.length < count then .error (.escape place last reason)
      else if 0x10ffff < hexValue digits then
        .error (.escape place last "illegal Unicode character")
      else checkEscapes fuel (last + 1) (rest.drop count)
    | none =>
      if c = 'N' then
        let reason := "malformed \\N character escape"
        match rest with
        | '\x7b' :: name =>
          let inside := name.takeWhile (· != '\x7d')
          if inside.length = name.length then
            .error (.escape place (place + 2 + inside.length) reason)
          else if inside.isEmpty then .error (.escape place (place + 2) reason)
          else checkEscapes fuel (place + 4 + inside.length) (name.drop (inside.length + 1))
        | _ => .error (.escape place (place + 1) reason)
      else if c.toNat < 0x80 then checkEscapes fuel (place + 2) rest
      else checkEscapes fuel (place + 16) rest
  | fuel + 1, place, c :: rest =>
    checkEscapes fuel (place + if c.toNat < 0x80 then 1 else 10) rest
  | _, _, [] => .ok ()

/-- Checks the numeric escapes of a text of bytes from a place on. -/
def checkByteEscapes (place : Nat) : List Char → Except Fault Unit
  | '\\' :: 'x' :: a :: b :: rest =>
    if isHexDigit a && isHexDigit b then checkByteEscapes (place + 4) rest
    else .error (.byteEscape place)
  | '\\' :: 'x' :: _ => .error (.byteEscape place)
  | '\\' :: _ :: rest => checkByteEscapes (place + 2) rest
  | _ :: rest => checkByteEscapes (place + 1) rest
  | [] => .ok ()

/-- Refuses a text that means none. -/
def checkText (m : Marks) (cs : List Char) : Except Fault Unit :=
  let inside := content cs
  if m.bytes then
    if inside.any fun c => 0x80 ≤ c.toNat then .error .wideBytes
    else if m.raw then .ok () else checkByteEscapes 0 inside
  else if m.raw || m.filled then .ok ()
  else checkEscapes inside.length 0 inside

/-- Refuses texts of which some are texts of bytes and others are not. The first
    text is given apart. -/
def checkTextsAfter (bytes : Bool) : List (Marks × List Char) → Except Fault Unit
  | [] => .ok ()
  | (m, cs) :: rest => do
    checkText m cs
    if m.bytes == bytes then checkTextsAfter bytes rest else throw .mixedTexts

/-- Refuses texts that mean none. -/
def checkTexts : List (Marks × List Char) → Except Fault Unit
  | [] => .ok ()
  | (m, cs) :: rest => do
    checkText m cs
    checkTextsAfter m.bytes rest

end Literal

end Console

end TextLog
