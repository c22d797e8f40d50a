import TextLog.Console.Emoji.Table
import TextLog.Console.Width
import TextLog.Text.Blank
import TextLog.Text.Letter

/-!
# Emoji

Codes of emoji in texts of the console.

A code is the name of an emoji between two colons, such as `:bomb:`, in letters of
any case and without blanks. Behind the name it may ask for the colored form or for
the plain one, as `:heart-text:` does. A code with a name that no emoji has stays
as it is, with both its colons.

## Main definitions

* `named?`: The emoji of a name.
* `code?`: The code that a text starts with.
* `replaceCodes`: A text with emoji in place of their codes.

## Theorems

* `code?_length_lt`: What is left behind a code is shorter.
-/

namespace TextLog

namespace Console

namespace Emoji

/-- The words of a line of a table. -/
def lineWords (line : List Char) : List (List Char) :=
  let step := fun (c : Char) (acc : List Char × List (List Char)) =>
    if c = ' ' then ([], acc.1 :: acc.2) else (c :: acc.1, acc.2)
  let r := line.foldr step ([], [])
  r.1 :: r.2

/-- What stands behind a name in the words of a line, names and characters taking
    turns. -/
def behind? (name : List Char) : List (List Char) → Option (List Char)
  | word :: symbol :: rest => if word = name then some symbol else behind? name rest
  | _ => none

/-- What stands behind a name in a table. -/
def listed? (table : List String) (name : List Char) : Option (List Char) :=
  table.findSome? fun line => behind? name (lineWords line.toList)

/-- The characters of an entry, with the invisible ones in place of their signs. -/
def characters (entry : List Char) : List Char :=
  entry.map fun c => if c = '+' then joiner else if c = '~' then selector else c

/-- What a text holds in front of an ending. -/
def before? (ending : String) (cs : List Char) : Option (List Char) :=
  let e := ending.toList
  if e.isSuffixOf cs then some (cs.take (cs.length - e.length)) else none

/-- The tones of skin with their characters. -/
def tones : List (String × Char) :=
  [("_light", '🏻'), ("_medium-light", '🏼'), ("_medium", '🏽'), ("_medium-dark", '🏾'),
   ("_dark", '🏿')]

/-- Puts a tone of skin behind the first character, in place of the request for
    the colored form. -/
def withTone (tone : Char) : List Char → List Char
  | c :: rest =>
    c :: tone :: match rest with
      | d :: more => if d = selector then more else d :: more
      | [] => []
  | [] => [tone]

/-- The emoji of a name that ends in a tone of skin. -/
def toned? (name : List Char) : Option (List Char) :=
  (before? "_skin_tone" name).bind fun rest =>
    tones.findSome? fun (ending, tone) =>
      (before? ending rest).bind fun base =>
        (listed? people base).map fun entry => withTone tone (characters entry)

/-- The flag of a country: its two letters as letters of flags. -/
def countryFlag (letters : List Char) : List Char :=
  letters.map fun c => Char.ofNat (0x1f1e6 + (c.toNat - 'A'.toNat))

/-- The flag of a part of a country: a black flag with the letters of the part in
    invisible form, and an end. -/
def partFlag (letters : List Char) : List Char :=
  '🏴' :: letters.map (fun c => Char.ofNat (0xe0000 + c.toNat)) ++ [Char.ofNat 0xe007f]

/-- What a name holds behind a start. -/
def after? (start : String) (cs : List Char) : Option (List Char) :=
  if start.toList.isPrefixOf cs then some (cs.drop start.length) else none

/-- The flag of a name, short or long. -/
def flag? (name : List Char) : Option (List Char) :=
  match after? "flag_for_" name with
  | some country => (listed? (countries ++ formalCountries) country).map countryFlag
  | none =>
    ((listed? (countries ++ casualCountries) name).map countryFlag).or
      ((listed? parts name).map partFlag)

/-- The emoji of a name in small letters. -/
def named? (name : List Char) : Option (List Char) :=
  (((listed? (people ++ objects) name).map characters).or (toned? name)).or (flag? name)

/-- The inside of the code that a text starts with, and what is left behind it. -/
def code? : List Char → Option (List Char × List Char)
  | ':' :: rest =>
    let inside := rest.takeWhile fun c => c != ':' && !Text.isBlank c
    match rest.dropWhile fun c => c != ':' && !Text.isBlank c with
    | ':' :: after => some (inside, after)
    | _ => none
  | _ => none

theorem code?_length_lt {cs inside after : List Char} (h : code? cs = some (inside, after)) :
    after.length < cs.length := by
  unfold code? at h
  split at h
  · rename_i rest
    simp only at h
    split at h
    · rename_i tail heq
      have := (List.dropWhile_suffix (l := rest)
        (fun c => c != ':' && !Text.isBlank c)).length_le
      rw [heq] at this
      simp_all only [Option.some.injEq, Prod.mk.injEq, List.length_cons]
      omega
    · simp at h
  · simp at h

/-- The emoji of the inside of a code, in the form that it asks for. -/
def meant? (inside : List Char) : Option (List Char) :=
  let (name, form) :=
    match before? "-emoji" inside with
    | some name => (name, [selector])
    | none =>
      match before? "-text" inside with
      | some name => (name, ['\ufe0e'])
      | none => (inside, [])
  (named? (Text.smallText (String.ofList name)).toList).map (· ++ form)

/-- A text with emoji in place of their codes. -/
def replaceCodes (cs : List Char) : List Char :=
  match h : code? cs with
  | some (inside, after) =>
    have := code?_length_lt h
    (meant? inside).getD (':' :: inside ++ [':']) ++ replaceCodes after
  | none =>
    match cs with
    | c :: rest => c :: replaceCodes rest
    | [] => []
  termination_by cs.length

end Emoji

end Console

end TextLog
