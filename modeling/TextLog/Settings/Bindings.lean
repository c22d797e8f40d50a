import TextLog.Text.Blank

/-!
# Files of Settings

Reading a text of bindings, one to a line.

A binding is a name and, behind an equals sign, a value. A value in single or
double quotes may span lines and may have escapes; any other value ends with
its line, or at a `#` that has a blank before it, and loses the blanks at both
ends. A name without an equals sign has no value. What is no binding is skipped
up to the end of its line. If a name is bound twice, the last binding counts.

A value may refer to another name by `$` and the name in braces, and say behind
`:-` what stands for the reference if that name has no value. The name means
what an earlier binding gives it, or else what it means in the environment.

Lines may end in a line feed, a carriage return or both.

## Main definitions

* `Binding`: A name and perhaps a value.
* `Bindings.ofText`: The bindings of a text.
* `Bindings.resolve`: The bindings with their references replaced.
* `Bindings.value?`: The value of a name.
-/

namespace TextLog

namespace Bindings

/-- A name and the value that it is bound to, if there is one. -/
abbrev Binding := String × Option String

/-- Every line ends in one line feed. -/
def unifyLines : List Char → List Char
  | '\r' :: '\n' :: rest => '\n' :: unifyLines rest
  | '\r' :: rest => '\n' :: unifyLines rest
  | c :: rest => c :: unifyLines rest
  | [] => []

/-- A blank that does not end the line. -/
def isInlineBlank (c : Char) : Bool :=
  Text.isBlank c && c != '\n'

/-- What is left behind the blanks of a line. -/
def skipBlanks (cs : List Char) : List Char :=
  cs.dropWhile isInlineBlank

/-- What is left behind the word `export` and blanks, if they are there. -/
def skipExport (cs : List Char) : List Char :=
  match cs with
  | 'e' :: 'x' :: 'p' :: 'o' :: 'r' :: 't' :: c :: rest =>
    if isInlineBlank c then skipBlanks rest else cs
  | _ => cs

/-- A character of a name without quotes. -/
def isNameChar (c : Char) : Bool :=
  c != '=' && c != '#' && !Text.isBlank c

/-- The name at the start of a binding. The line of a comment has none; a line
    that starts otherwise is no binding. -/
def readName? (cs : List Char) : Option (Option (List Char) × List Char) :=
  match cs with
  | '#' :: _ => some (none, cs)
  | '\'' :: rest =>
    let name := rest.takeWhile (· != '\'')
    match name, rest.dropWhile (· != '\'') with
    | _ :: _, _ :: after => some (some name, after)
    | _, _ => none
  | _ =>
    let name := cs.takeWhile isNameChar
    if name.isEmpty then none else some (some name, cs.dropWhile isNameChar)

/-- The text up to the closing quote, its escapes still in it, and the text
    behind the quote. A backslash takes the character behind it along, so a
    quote there does not close. -/
def readQuoted? (q : Char) : List Char → Option (List Char × List Char)
  | [] => none
  | '\\' :: c :: rest => (readQuoted? q rest).map fun r => ('\\' :: c :: r.1, r.2)
  | c :: rest =>
    if c = q then some ([], rest) else (readQuoted? q rest).map fun r => (c :: r.1, r.2)

/-- The character that an escape between double quotes stands for. -/
def escaped? (c : Char) : Option Char :=
  match c with
  | '\\' => some '\\'
  | '\'' => some '\''
  | '"' => some '"'
  | 'a' => some '\x07'
  | 'b' => some '\x08'
  | 'f' => some '\x0c'
  | 'n' => some '\n'
  | 'r' => some '\r'
  | 't' => some '\t'
  | 'v' => some '\x0b'
  | _ => none

/-- The character that an escape between single quotes stands for. -/
def escapedPlain? (c : Char) : Option Char :=
  if c = '\\' || c = '\'' then some c else none

/-- Replaces the escapes; a backslash before anything else stays. -/
def unescape (meaning : Char → Option Char) : List Char → List Char
  | '\\' :: c :: rest =>
    match meaning c with
    | some m => m :: unescape meaning rest
    | none => '\\' :: unescape meaning (c :: rest)
  | c :: rest => c :: unescape meaning rest
  | [] => []

/-- Cuts a comment off: from the blanks before the first `#` that has some. -/
def dropComment : List Char → List Char
  | [] => []
  | c :: rest =>
    if isInlineBlank c && (skipBlanks rest).head? = some '#' then [] else c :: dropComment rest

/-- The value behind an equals sign, and what is left. Blanks in front of a value
    are not part of it, but they let a comment begin. -/
def readValue? (cs : List Char) : Option (List Char × List Char) :=
  match skipBlanks cs with
  | '\'' :: rest => (readQuoted? '\'' rest).map fun r => (unescape escapedPlain? r.1, r.2)
  | '"' :: rest => (readQuoted? '"' rest).map fun r => (unescape escaped? r.1, r.2)
  | _ =>
    let line := dropComment (cs.takeWhile (· != '\n'))
    some (Text.stripRight (skipBlanks line), cs.dropWhile (· != '\n'))

/-- What is left behind a comment and the end of the line; nothing if there is
    anything else on the line. -/
def endLine? (cs : List Char) : Option (List Char) :=
  let rest := match skipBlanks cs with
    | '#' :: more => more.dropWhile (· != '\n')
    | more => more
  match rest with
  | [] => some []
  | '\n' :: more => some more
  | _ => none

/-- A reading that succeeds, or that gets stuck at a place. -/
def orStuckAt {α : Type} (place : List Char) : Option α → Except (List Char) α
  | some a => .ok a
  | none => .error place

/-- A binding with its line, and what is left; or what is left at the place
    where the text turns out to be no binding. -/
def readBinding (cs : List Char) : Except (List Char) (Option Binding × List Char) := do
  let start := skipExport cs
  let (name, rest) ← orStuckAt start (readName? start)
  let (value, rest) ← match skipBlanks rest with
    | '=' :: more =>
      (orStuckAt (skipBlanks more) (readValue? more)).map fun r => (some r.1, r.2)
    | more => .ok (none, more)
  let rest ← orStuckAt rest (endLine? rest)
  return (name.map fun n => (String.ofList n, value.map String.ofList), rest)

/-- What is left behind the end of the line. -/
def skipLine (cs : List Char) : List Char :=
  (cs.dropWhile (· != '\n')).drop 1

/-- The bindings of a text. Each step leaves fewer characters, so their number
    is fuel enough. -/
def bindingsFrom : Nat → List Char → List Binding
  | 0, _ => []
  | fuel + 1, cs =>
    match cs.dropWhile Text.isBlank with
    | [] => []
    | c :: rest =>
      match readBinding (c :: rest) with
      | .ok (some b, after) => b :: bindingsFrom fuel after
      | .ok (none, after) => bindingsFrom fuel after
      | .error stuck => bindingsFrom fuel (skipLine stuck)

/-- A text without the mark of its encoding that it may start with. -/
def dropMark : List Char → List Char
  | '\ufeff' :: rest => rest
  | cs => cs

/-- The bindings of a text in order. -/
def ofText (s : String) : List Binding :=
  let cs := unifyLines (dropMark s.toList)
  bindingsFrom cs.length cs

/-- The reference that a text starts with: its name, what it stands for if the
    name has no meaning, and what is left behind it. -/
def reference? : List Char → Option (List Char × List Char × List Char)
  | '$' :: '{' :: rest =>
    let name := rest.takeWhile fun c => c != '}' && c != ':'
    match rest.dropWhile fun c => c != '}' && c != ':' with
    | '}' :: after => some (name, [], after)
    | ':' :: '-' :: more =>
      match more.dropWhile (· != '}') with
      | _ :: after => some (name, more.takeWhile (· != '}'), after)
      | [] => none
    | _ => none
  | _ => none

/-- Replaces the references in a text by their meanings. Each step leaves fewer
    characters, so their number is fuel enough. -/
def expandFrom (meaning : String → Option String) : Nat → List Char → List Char
  | 0, _ => []
  | _, [] => []
  | fuel + 1, c :: rest =>
    match reference? (c :: rest) with
    | some (name, standIn, after) =>
      ((meaning (String.ofList name)).map String.toList).getD standIn ++
        expandFrom meaning fuel after
    | none => c :: expandFrom meaning fuel rest

/-- Replaces the references in a text by their meanings. -/
def expand (meaning : String → Option String) (s : String) : String :=
  String.ofList (expandFrom meaning s.toList.length s.toList)

/-- What a name means behind some bindings, the last of which comes first: its
    value there, which is empty if it has none, or its value around. -/
def meaning? (around : List (String × String)) (seen : List Binding) (name : String) :
    Option String :=
  match seen.lookup name with
  | some value => some (value.getD "")
  | none => around.lookup name

/-- Replaces the references in bindings that follow others, which come in
    reverse. -/
def resolveFrom (around : List (String × String)) : List Binding → List Binding → List Binding
  | _, [] => []
  | seen, (name, value) :: rest =>
    let b := (name, value.map (expand (meaning? around seen)))
    b :: resolveFrom around (b :: seen) rest

/-- Replaces the references in bindings, given the values around them. -/
def resolve (around : List (String × String)) (bs : List Binding) : List Binding :=
  resolveFrom around [] bs

/-- The value that bindings give to a name, by the last one of it. -/
def value? (bs : List Binding) (name : String) : Option String :=
  (bs.reverse.lookup name).getD none

end Bindings

end TextLog
