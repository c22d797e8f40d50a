import TextLog.Console.Emoji
import TextLog.Console.Handler
import TextLog.Console.Style

/-!
# Console Markup

Texts with tags in square brackets, as a console shows them that has no styles.

A tag opens with a bracket and one of the characters `a` to `z`, `#`, `/` and
`@`, and reaches up to the next closing bracket; it holds no other opening one.
Of the backslashes before a tag each pair stands for one backslash, and a single
one left over makes the tag plain text. A tag that starts with a slash closes
the last open tag of its name, or the last open tag at all if it gives none; it
is an error if there is no such tag. Tags still open at the end are fine.

Names of styles have several spellings, and a closing tag may use another one
than the tag it closes. Tags may have parameters behind an equals sign; those of
a handler, whose name starts with an at sign, are checked when it is closed. In
the text between tags, codes of emoji are replaced. `escape` protects a text from
being read as markup.

## Main definitions

* `Piece`: A part of a markup text.
* `pieces`: The parts of a markup text.
* `plain`: What a markup text shows.
* `escape`: A text with its tags made plain.
-/

namespace TextLog

namespace Console

/-- A character that a tag may start with. -/
def isTagStart (c : Char) : Bool :=
  ('a' ≤ c && c ≤ 'z') || c == '#' || c == '/' || c == '@'

/-- The inside of the tag that a text starts with, and what is left behind
    it. -/
def tag? : List Char → Option (List Char × List Char)
  | '[' :: c :: rest =>
    if isTagStart c then
      let inside := rest.takeWhile fun d => d != '[' && d != ']'
      match rest.dropWhile fun d => d != '[' && d != ']' with
      | ']' :: after => some (c :: inside, after)
      | _ => none
    else none
  | _ => none

/-- The backslashes that a text starts with, and what is left. -/
def backslashes (cs : List Char) : Nat × List Char :=
  ((cs.takeWhile (· = '\\')).length, cs.dropWhile (· = '\\'))

/-- A part of a markup text. -/
inductive Piece where
  /-- Text to be shown. -/
  | text (cs : List Char)
  /-- A tag and its place in the markup. -/
  | tag (inside : List Char) (position : Nat)

/-- Shows an opening bracket for one behind a backslash. -/
def unescapeBrackets : List Char → List Char
  | '\\' :: '[' :: rest => '[' :: unescapeBrackets rest
  | c :: rest => c :: unescapeBrackets rest
  | [] => []

/-- The pieces of the text since the last tag. -/
def pending (cs : List Char) : List Piece :=
  if cs.isEmpty then [] else [.text cs.reverse]

/-- The parts of what is left of a markup text at a position, given the text
    since the last tag, in reverse. Each step leaves fewer characters, so their
    number is fuel enough. -/
def piecesFrom : Nat → Nat → List Char → List Char → List Piece
  | 0, _, held, _ => pending held
  | _, _, held, [] => pending held
  | fuel + 1, position, held, c :: rest =>
    let (count, behind) := backslashes (c :: rest)
    match tag? behind with
    | some (inside, after) =>
      let halved := List.replicate (count / 2) '\\'
      let next := position + count + inside.length + 2
      let front := pending held ++ pending halved
      if count % 2 = 1 then
        -- The backslash left over makes the tag plain text.
        front ++ .text ('[' :: inside ++ [']']) :: piecesFrom fuel next [] after
      else front ++ .tag inside (position + count) :: piecesFrom fuel next [] after
    | none =>
      if count = 0 then piecesFrom fuel (position + 1) (c :: held) rest
      else
        piecesFrom fuel (position + count) (List.replicate count '\\' ++ held) behind

/-- The parts of a markup text. -/
def pieces (cs : List Char) : List Piece :=
  piecesFrom cs.length 0 [] cs

/-- A tag: its name up to an equals sign, and its parameters behind it. -/
structure Tag where
  name : List Char
  parameters : Option (List Char)

/-- The tag with an inside. -/
def Tag.ofInside (inside : List Char) : Tag where
  name := inside.takeWhile (· != '=')
  parameters :=
    match inside.dropWhile (· != '=') with
    | _ :: rest => some rest
    | [] => none

/-- An open tag: the common spelling of its name, and its parameters. -/
structure OpenTag where
  style : String
  parameters : Option (List Char)

/-- Closes an open tag. One that names a handler must have fitting parameters. -/
def OpenTag.close (t : OpenTag) : Except Failure Unit :=
  match t.style.startsWith "@", t.parameters with
  | true, some (c :: rest) => checkParameters (c :: rest)
  | _, _ => .ok ()

/-- The open tags after a tag; the last one comes first. -/
def applyTag (openTags : List OpenTag) (inside : List Char) (position : Nat) :
    Except Failure (List OpenTag) := do
  let tag := Tag.ofInside inside
  match tag.name with
  | '/' :: name =>
    let closing := Text.strip (String.ofList name)
    if closing = "" then
      match openTags with
      | [] => throw (.markup "/" position false)
      | t :: rest =>
        t.close
        return rest
    else
      let style ← styleName closing.toList
      match openTags.find? fun t => t.style == style with
      | some t =>
        t.close
        return openTags.eraseP fun t => t.style == style
      | none => throw (.markup (String.ofList inside) position true)
  | name =>
    let style ← styleName name
    return ⟨style, tag.parameters⟩ :: openTags

/-- What the parts of a markup text show, given the open tags. -/
def plainFrom (openTags : List OpenTag) : List Piece → Except Failure (List Char)
  | [] => .ok []
  | .text cs :: rest =>
    (plainFrom openTags rest).map (Emoji.replaceCodes (unescapeBrackets cs) ++ ·)
  | .tag inside position :: rest =>
    (applyTag openTags inside position).bind fun tags => plainFrom tags rest

/-- Reads the style of a tag with parameters, which are part of its name then.
    It need not be one, but its colors must be readable. -/
def wear : Piece → Except Failure Unit
  | .text _ => .ok ()
  | .tag inside _ => do
    let tag := Tag.ofInside inside
    match tag.name, tag.parameters with
    | c :: name, some parameters =>
      if c != '/' && c != '@' then
        let style ← styleName (c :: name)
        let _ ← styleName (style.toList ++ ' ' :: parameters)
      return ()
    | _, _ => return ()

/-- What a markup text shows. -/
def plain (markup : String) : Except Failure String := do
  let parts := pieces markup.toList
  let shown ← plainFrom [] parts
  parts.forM wear
  return String.ofList shown

/-- What is left of a text with its tags made plain. Each step leaves fewer
    characters, so their number is fuel enough. -/
def escapeFrom : Nat → List Char → List Char
  | 0, _ => []
  | _, [] => []
  | fuel + 1, c :: rest =>
    let (count, behind) := backslashes (c :: rest)
    match tag? behind with
    | some (inside, after) =>
      List.replicate (2 * count + 1) '\\' ++ '[' :: inside ++ ']' :: escapeFrom fuel after
    | none =>
      if count = 0 then c :: escapeFrom fuel rest
      else List.replicate count '\\' ++ escapeFrom fuel behind

/-- Doubles a single backslash at the end, which would act on what follows. -/
def guardEnd (cs : List Char) : List Char :=
  match cs.reverse with
  | '\\' :: '\\' :: _ => cs
  | '\\' :: _ => cs ++ ['\\']
  | _ => cs

/-- A text with its tags made plain. -/
def escape (s : String) : String :=
  String.ofList (guardEnd (escapeFrom s.toList.length s.toList))

end Console

end TextLog
