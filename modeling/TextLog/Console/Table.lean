import TextLog.Console.Markup
import TextLog.Console.Wrap

/-!
# Tables

Tables in boxes, with a heavy frame around the head.

The cells are markup and may have several lines. A column is as wide as the
widest line of its cells, with a blank on either side; a row is as high as its
highest cell. The title stands centered above the box, with the smaller half of
the blanks before it.

## Main definitions

* `Column`: The head and the alignment of a column.
* `Table`: A title, columns and rows.
* `Table.render`: The lines of a table.
-/

namespace TextLog

namespace Console

/-- The head of a column, and whether its cells stand at the right. -/
structure Column where
  head : String
  right : Bool

/-- A table of markup texts. -/
structure Table where
  title : String
  columns : List Column
  rows : List (List String)

/-- What stands left of, within, between and right of the cells of a line of
    the frame. -/
structure Frame where
  left : String
  fill : String
  middle : String
  right : String

/-- A text repeated. -/
def repeated (n : Nat) (s : String) : String :=
  String.join (List.replicate n s)

/-- A line of the frame over columns of given widths. -/
def Frame.line (f : Frame) (widths : List Nat) : String :=
  f.left ++ f.middle.intercalate (widths.map fun w => repeated (w + 2) f.fill) ++ f.right ++ "\n"

/-- A cell filled up to a width, with a blank on either side. -/
def cellText (right : Bool) (w : Nat) (cell : String) : String :=
  let blanks := repeated (w - width cell.toList) " "
  " " ++ (if right then blanks ++ cell else cell ++ blanks) ++ " "

/-- A line of cells between bars. -/
def barLine (bar : String) (columns : List Column) (widths : List Nat) (cells : List String) :
    String :=
  let shown := (columns.zip (widths.zip cells)).map fun p => cellText p.1.right p.2.1 p.2.2
  bar ++ bar.intercalate shown ++ bar ++ "\n"

/-- A row of cells between bars, as high as its highest cell. -/
def rowText (bar : String) (columns : List Column) (widths : List Nat)
    (cells : List (List String)) : String :=
  let height := (cells.map List.length).foldl max 1
  String.join ((List.range height).map fun i =>
    barLine bar columns widths (cells.map fun lines => (lines[i]?).getD ""))

/-- A title in the middle of a width. -/
def centered (w : Nat) (title : String) : String :=
  let blanks := w - width title.toList
  repeated (blanks / 2) " " ++ title ++ repeated (blanks - blanks / 2) " " ++ "\n"

/-- What a cell shows, by lines. -/
def shownCell (markup : String) : Except Failure (List (List Char)) :=
  (plain markup).map fun s => splitLines (s.toList.filter fun c => !isHidden c)

/-- A character that separates lines where cells are measured. -/
def isLineEnd (c : Char) : Bool :=
  c == '\n' || c == '\x1c' || c == '\x1d' || c == '\x1e' || c == '\x85' || c == '\u2028' ||
    c == '\u2029'

/-- The cells of the widest line of some lines. Characters that separate lines
    count as such here, although only a line feed breaks a line. -/
def widest (lines : List (List Char)) : Nat :=
  let parts := lines.flatMap fun l => splitLines (l.map fun c => if isLineEnd c then '\n' else c)
  (parts.map width).foldl max 0

/-- The lines of a cell in a column. Only tabs can make a line wider than the
    column. -/
def cellLines (w : Nat) (lines : List (List Char)) : List String :=
  (lines.flatMap fun l => wrapLine false w (expandTabs l)).map fun l =>
    String.ofList (shorten w l)

/-- The lines of a table. -/
def Table.render (t : Table) : Except Failure String := do
  let rows ← t.rows.mapM fun row => row.mapM shownCell
  let heads := t.columns.map fun c => [c.head.toList]
  let widths := heads.zipIdx.map fun p =>
    widest (p.1 ++ rows.flatMap fun row => (row[p.2]?).getD [])
  let laidOut := fun (cells : List (List (List Char))) =>
    (widths.zip cells).map fun p => cellLines p.1 p.2
  let total := (widths.map (· + 3)).foldl (· + ·) 1
  .ok (centered total t.title ++
    Frame.line ⟨"┏", "━", "┳", "┓"⟩ widths ++
    rowText "┃" t.columns widths (laidOut heads) ++
    Frame.line ⟨"┡", "━", "╇", "┩"⟩ widths ++
    String.join (rows.map fun row => rowText "│" t.columns widths (laidOut row)) ++
    Frame.line ⟨"└", "─", "┴", "┘"⟩ widths)

end Console

end TextLog
