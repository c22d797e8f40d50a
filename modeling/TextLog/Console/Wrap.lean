import TextLog.Console.Width
import TextLog.Text.Blank

/-!
# Wrapping Lines

A text laid out in lines of limited width.

The text is first cut at its line feeds; control characters that a console does
not show are left out, and tabs reach up to the next multiple of eight cells.
Each line is then broken between words. A word keeps the blanks behind it, and
they may stick out of the line, where they are cut off: first as many as there
are characters too many, and then, when the line is printed, whatever is beyond
its last cell. Only wide characters leave anything for the second cut. A word
that is wider than a whole line is cut into pieces where folding is allowed, and
otherwise shortened, with an ellipsis at its end.

## Main definitions

* `consoleWidth`: The cells of a line.
* `wrapLine`: A line broken into lines of the console.
* `cropLine`: A line without the blanks beyond its last cell.
* `layOutText`: The lines of a text.
-/

namespace TextLog

namespace Console

/-- The cells of a line of the console. -/
def consoleWidth : Nat := 80

/-- A control character that is not shown. -/
def isHidden (c : Char) : Bool :=
  c == '\x07' || c == '\x08' || c == '\x0b' || c == '\x0c' || c == '\r'

/-- The lines of a text. -/
def splitLines : List Char → List (List Char)
  | [] => [[]]
  | '\n' :: rest => [] :: splitLines rest
  | c :: rest =>
    match splitLines rest with
    | [] => [[c]]
    | line :: more => (c :: line) :: more

/-- Replaces tabs by blanks, given the cells to the left and the characters
    since the last tab, in reverse. A tab is measured as one blank together with
    these, and filled up from there. -/
def expandTabsFrom (cell : Nat) (part : List Char) : List Char → List Char
  | [] => part.reverse
  | '\t' :: rest =>
    let shown := (' ' :: part).reverse
    let reached := cell + width shown
    let stop := (reached + 7) / 8 * 8
    shown ++ List.replicate (stop - reached) ' ' ++ expandTabsFrom stop [] rest
  | c :: rest => expandTabsFrom cell (c :: part) rest

/-- Replaces the tabs of a line by blanks. -/
def expandTabs (cs : List Char) : List Char :=
  expandTabsFrom 0 [] cs

/-- The next word with the blanks around it, and what is left; nothing if there
    are only blanks. -/
def nextWord? (cs : List Char) : Option (List Char × List Char) :=
  let lead := cs.takeWhile Text.isBlank
  let rest := cs.dropWhile Text.isBlank
  let word := rest.takeWhile fun c => !Text.isBlank c
  let behind := rest.dropWhile fun c => !Text.isBlank c
  if word.isEmpty then none
  else some (lead ++ word ++ behind.takeWhile Text.isBlank, behind.dropWhile Text.isBlank)

/-- The words of a line with the blanks around them. Each word leaves fewer
    characters, so their number is fuel enough. -/
def wordsFrom : Nat → List Char → List (List Char)
  | 0, _ => []
  | fuel + 1, cs =>
    match nextWord? cs with
    | some (word, rest) => word :: wordsFrom fuel rest
    | none => []

/-- Puts clusters into pieces of at most `limit` cells, given the current piece
    and its cells. -/
def chopClusters (limit : Nat) : List Char → Nat → List Cluster → List (List Char)
  | piece, _, [] => [piece]
  | piece, cells, k :: rest =>
    if limit < cells + k.cells then piece :: chopClusters limit k.chars k.cells rest
    else chopClusters limit (piece ++ k.chars) (cells + k.cells) rest

/-- Cuts a word into pieces of at most `limit` cells. -/
def chop (limit : Nat) (word : List Char) : List (List Char) :=
  chopClusters limit [] 0 (clusters word)

/-- Puts the pieces of a word that is too wide on lines of their own. The last
    piece becomes the current line. -/
def placePieces : List (List Char) → List (List Char) → List Char → List (List Char) × List Char
  | [], done, current => (done, current)
  | piece :: rest, done, current =>
    placePieces rest (if current.isEmpty then done else done ++ [current]) piece

/-- Places words on lines, given the finished lines, the current one and its
    cells. -/
def placeWords (fold : Bool) (limit : Nat) :
    List (List Char) → List (List Char) → List Char → Nat → List (List Char)
  | [], done, current, _ => done ++ [current]
  | word :: rest, done, current, cells =>
    let size := width (Text.stripRight word)
    if cells + size ≤ limit then
      placeWords fold limit rest done (current ++ word) (cells + width word)
    else
      -- Only a word that no line can hold is cut.
      let parts := if fold && limit < size then chop limit word else [word]
      let (done, last) := placePieces parts done current
      placeWords fold limit rest done last (width last)

/-- Cuts blanks off that stick out of a line. -/
def trimOverhang (limit : Nat) (line : List Char) : List Char :=
  let excess := line.length - limit
  let blanks := line.length - (Text.stripRight line).length
  line.take (line.length - min excess blanks)

/-- The start of a line in a number of cells. Half of a wide character is shown
    as a blank. -/
def takeCells : Nat → List Cluster → List Char
  | _, [] => []
  | cells, k :: rest =>
    if k.cells ≤ cells then k.chars ++ takeCells (cells - k.cells) rest
    else List.replicate cells ' '

/-- A line in at most `limit` cells, with an ellipsis if anything is left out. -/
def shorten (limit : Nat) (line : List Char) : List Char :=
  if width line ≤ limit then line else takeCells (limit - 1) (clusters line) ++ ['…']

/-- A line broken into lines of at most `limit` cells. -/
def wrapLine (fold : Bool) (limit : Nat) (line : List Char) : List (List Char) :=
  let ws := wordsFrom line.length line
  let lines := if ws.isEmpty then [line] else placeWords fold limit ws [] [] 0
  lines.map (trimOverhang limit)

/-- Takes blanks off a line, given in reverse, until it has at most `limit` cells.
    Half of a wide blank is shown as a narrow one. -/
def dropBlanks (limit : Nat) : List Char → List Char
  | [] => []
  | c :: rest =>
    if Text.isBlank c && limit < width (c :: rest).reverse then
      List.replicate (limit - width rest.reverse) ' ' ++ dropBlanks limit rest
    else c :: rest

/-- Cuts off what is beyond the last cell of a line. The words of the line fit in
    it, so these are blanks. -/
def cropLine (limit : Nat) (line : List Char) : List Char :=
  (dropBlanks limit line.reverse).reverse

/-- The text as the console lays it out, each line ended by a line feed. -/
def layOutText (s : String) : String :=
  let shown := s.toList.filter fun c => !isHidden c
  let lines := (splitLines shown).flatMap fun l => wrapLine true consoleWidth (expandTabs l)
  String.join (lines.map fun l => String.ofList (cropLine consoleWidth l ++ ['\n']))

end Console

end TextLog
