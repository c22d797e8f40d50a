import TextLog.Failure
import TextLog.Text.Blank
import TextLog.Text.Letter
import TextLog.Text.Word

/-!
# Styles

What names of styles mean, and their common spelling.

A style is named by words: attributes, which may be taken back by a `not` before
them, a color, a background behind an `on`, and the target of a link behind a
`link`. Colors have names, or are given by six hexadecimal digits, by a number or
by three components. The words may come in any order and, except for the target
of a link and the attribute behind a `not`, in any case. The common spelling puts
them in order; two names of one style have the same.

## Main definitions

* `Style`: A style as far as its spelling goes.
* `isColor`: A word is a color.
* `Style.ofWords?`: The style that words name.
* `Style.spelling`: The common spelling of a style.
* `styleName`: The common spelling of the name of a style.
-/

namespace TextLog

namespace Console

/-- The attributes of styles, in the order in which they are spelled. -/
def attributeNames : List String :=
  ["bold", "dim", "italic", "underline", "blink", "blink2", "reverse", "conceal", "strike",
   "underline2", "frame", "encircle", "overline"]

/-- The short names of attributes. -/
def attributeAliases : List (String × String) :=
  [("b", "bold"), ("d", "dim"), ("i", "italic"), ("u", "underline"), ("r", "reverse"),
   ("c", "conceal"), ("s", "strike"), ("uu", "underline2"), ("o", "overline")]

/-- The attribute of a word. -/
def attribute? (word : String) : Option String :=
  if attributeNames.contains word then some word else attributeAliases.lookup word

/-- The words of a text. -/
def words (s : String) : List String :=
  let step := fun (c : Char) (acc : List Char × List String) =>
    if Text.isBlank c then
      ([], if acc.1.isEmpty then acc.2 else String.ofList acc.1 :: acc.2)
    else (c :: acc.1, acc.2)
  let r := s.toList.foldr step ([], [])
  if r.1.isEmpty then r.2 else String.ofList r.1 :: r.2

/-- The names of colors. -/
def colorTable : List String :=
  ["black red green yellow blue magenta cyan white bright_black bright_red bright_green",
   "bright_yellow bright_blue bright_magenta bright_cyan bright_white grey0 gray0 navy_blue",
   "dark_blue blue3 blue1 dark_green deep_sky_blue4 dodger_blue3 dodger_blue2 green4",
   "spring_green4 turquoise4 deep_sky_blue3 dodger_blue1 green3 spring_green3 dark_cyan",
   "light_sea_green deep_sky_blue2 deep_sky_blue1 spring_green2 cyan3 dark_turquoise turquoise2",
   "green1 spring_green1 medium_spring_green cyan2 cyan1 dark_red deep_pink4 purple4 purple3",
   "blue_violet orange4 grey37 gray37 medium_purple4 slate_blue3 royal_blue1 chartreuse4",
   "dark_sea_green4 pale_turquoise4 steel_blue steel_blue3 cornflower_blue chartreuse3",
   "cadet_blue sky_blue3 steel_blue1 pale_green3 sea_green3 aquamarine3 medium_turquoise",
   "chartreuse2 sea_green2 sea_green1 aquamarine1 dark_slate_gray2 dark_magenta dark_violet",
   "purple light_pink4 plum4 medium_purple3 slate_blue1 yellow4 wheat4 grey53 gray53",
   "light_slate_grey light_slate_gray medium_purple light_slate_blue dark_olive_green3",
   "dark_sea_green light_sky_blue3 sky_blue2 dark_sea_green3 dark_slate_gray3 sky_blue1",
   "chartreuse1 light_green pale_green1 dark_slate_gray1 red3 medium_violet_red magenta3",
   "dark_orange3 indian_red hot_pink3 medium_orchid3 medium_orchid medium_purple2 dark_goldenrod",
   "light_salmon3 rosy_brown grey63 gray63 medium_purple1 gold3 dark_khaki navajo_white3 grey69",
   "gray69 light_steel_blue3 light_steel_blue yellow3 dark_sea_green2 light_cyan3",
   "light_sky_blue1 green_yellow dark_olive_green2 dark_sea_green1 pale_turquoise1 deep_pink3",
   "magenta2 hot_pink2 orchid medium_orchid1 orange3 light_pink3 pink3 plum3 violet",
   "light_goldenrod3 tan misty_rose3 thistle3 plum2 khaki3 light_goldenrod2 light_yellow3 grey84",
   "gray84 light_steel_blue1 yellow2 dark_olive_green1 honeydew2 light_cyan1 red1 deep_pink2",
   "deep_pink1 magenta1 orange_red1 indian_red1 hot_pink dark_orange salmon1 light_coral",
   "pale_violet_red1 orchid2 orchid1 orange1 sandy_brown light_salmon1 light_pink1 pink1 plum1",
   "gold1 navajo_white1 misty_rose1 thistle1 yellow1 light_goldenrod1 khaki1 wheat1 cornsilk1",
   "grey100 gray100 grey3 gray3 grey7 gray7 grey11 gray11 grey15 gray15 grey19 gray19 grey23",
   "gray23 grey27 gray27 grey30 gray30 grey35 gray35 grey39 gray39 grey42 gray42 grey46 gray46",
   "grey50 gray50 grey54 gray54 grey58 gray58 grey62 gray62 grey66 gray66 grey70 gray70 grey74",
   "gray74 grey78 gray78 grey82 gray82 grey85 gray85 grey89 gray89 grey93 gray93"]

/-- The names of colors, and the one for the color of the terminal. -/
def colorNames : List String :=
  "default" :: colorTable.flatMap words

/-- The parts of a text between commas. -/
def commaParts (cs : List Char) : List (List Char) :=
  let step := fun (c : Char) (acc : List Char × List (List Char)) =>
    if c = ',' then ([], acc.1 :: acc.2) else (c :: acc.1, acc.2)
  let r := cs.foldr step ([], [])
  r.1 :: r.2

/-- What stands in the brackets behind a word. -/
def bracketed? (word : String) (cs : List Char) : Option (List Char) :=
  let start := word.toList ++ ['(']
  if start.isPrefixOf cs && cs.getLast? = some ')' && start.length < cs.length then
    some ((cs.drop start.length).dropLast)
  else none

/-- The most digits that a number can have. -/
def componentLimit : Nat := 4300

/-- The number of a component of a color, which consists of digits. -/
def component (cs : List Char) : Except Failure Nat :=
  if cs.isEmpty then .error (.numeral "")
  else if componentLimit < cs.length then .error (.longNumeral cs.length)
  else .ok (cs.foldl (fun n c => 10 * n + (Text.digit? c).getD 0) 0)

/-- The components of a color are three numbers below 256. -/
def areComponents (cs : List Char) : Except Failure Bool :=
  match commaParts cs with
  | [red, green, blue] => do
    let r ← component red
    let g ← component green
    let b ← component blue
    return r ≤ 255 && g ≤ 255 && b ≤ 255
  | _ => .ok false

/-- A word in small letters is a color. An empty component is no number and ends
    the reading. -/
def isColor (word : String) : Except Failure Bool :=
  if colorNames.contains word then .ok true
  else
    let cs := word.toList
    match cs with
    | '#' :: digits =>
      .ok (digits.length == 6 && digits.all fun c => c.isDigit || ('a' ≤ c && c ≤ 'f'))
    | _ =>
      match bracketed? "color" cs, bracketed? "rgb" cs with
      | some inside, _ =>
        .ok (1 ≤ inside.length && inside.length ≤ 3 && inside.all Char.isDigit &&
          inside.foldl (fun n c => 10 * n + (c.toNat - 48)) 0 ≤ 255)
      | none, some inside =>
        if !inside.isEmpty && inside.all fun c => c == ',' || (Text.digit? c).isSome then
          areComponents inside
        else .ok false
      | none, none => .ok false

/-- A style as far as its spelling goes. -/
structure Style where
  attributes : List (String × Bool)
  color : Option String
  background : Option String
  link : Option String

namespace Style

/-- The style that says nothing. -/
def empty : Style :=
  ⟨[], none, none, none⟩

/-- What the next word of a style is to be. -/
inductive Awaited where
  /-- Anything that says something about the style. -/
  | anything
  /-- The color of the background. -/
  | background
  /-- The attribute that is taken back. -/
  | attribute
  /-- The target of the link. -/
  | target
  deriving DecidableEq

/-- Adds what a word says to a style, and tells what is to follow. -/
def addWord? (s : Style) (word : String) : Awaited → Except Failure (Option (Style × Awaited))
  | .background => do
    let color := Text.smallText word
    if ← isColor color then return some ({ s with background := some color }, .anything)
    else return none
  | .attribute =>
    .ok ((attribute? word).map fun a =>
      ({ s with attributes := (a, false) :: s.attributes }, .anything))
  | .target => .ok (some ({ s with link := some word }, .anything))
  | .anything =>
    match Text.smallText word with
    | "on" => .ok (some (s, .background))
    | "not" => .ok (some (s, .attribute))
    | "link" => .ok (some (s, .target))
    | small =>
      match attribute? small with
      | some a => .ok (some ({ s with attributes := (a, true) :: s.attributes }, .anything))
      | none => do
        if ← isColor small then return some ({ s with color := some small }, .anything)
        else return none

/-- Adds what words say to a style, given what the first of them is to be. The
    last one must not leave anything to follow. -/
def addWords? (s : Style) (awaited : Awaited) : List String → Except Failure (Option Style)
  | [] => .ok (if awaited = .anything then some s else none)
  | word :: rest => do
    match ← s.addWord? word awaited with
    | some (s, awaited) => addWords? s awaited rest
    | none => return none

/-- The style that words name. -/
def ofWords? (ws : List String) : Except Failure (Option Style) :=
  if ws = ["none"] then .ok (some empty) else empty.addWords? .anything ws

/-- The common spelling of a style: its attributes in order, its color, its
    background and the target of its link. -/
def spelling (s : Style) : String :=
  let shown := attributeNames.filterMap fun a =>
    (s.attributes.lookup a).map fun on => if on then a else "not " ++ a
  let ws := shown ++ s.color.toList ++ s.background.toList.map ("on " ++ ·) ++
    s.link.toList.map ("link " ++ ·)
  if ws.isEmpty then "none" else " ".intercalate ws

end Style

/-- The common spelling of the name of a style; a name that is no style only
    loses its case and the blanks around it. -/
def styleName (cs : List Char) : Except Failure String := do
  let name := String.ofList cs
  match ← Style.ofWords? (words name) with
  | some s => return s.spelling
  | none => return Text.smallText (Text.strip name)

end Console

end TextLog
