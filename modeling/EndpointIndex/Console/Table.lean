import EndpointIndex.Console.Columns
import EndpointIndex.Console.Markup
import EndpointIndex.Console.Wrap

/-!
# Tables

Tables drawn with boxes: a heavy line around the headings, a light one around the rows. A column is as
wide as its widest cell, unless the table would become too wide; then text is broken into lines or
cut off.
-/

namespace EndpointIndex.Console

/-- One column of a table; its texts are marked up. -/
structure TableColumn where
  heading : String
  /-- Whether text that is too wide is broken into lines. -/
  wraps : Bool
  cells : List String
  deriving DecidableEq, Repr

/-- A table, as its columns from left to right. -/
abbrev Table := List TableColumn

/-- The characters of one horizontal line: left end, stroke, crossing, right end. -/
structure Rule where
  left : Char
  stroke : Char
  cross : Char
  right : Char

namespace Table

def topRule : Rule := ⟨'┏', '━', '┳', '┓'⟩

def headRule : Rule := ⟨'┡', '━', '╇', '┩'⟩

def bottomRule : Rule := ⟨'└', '─', '┴', '┘'⟩

/-- Stands between the cells of the headings. -/
def headBar : Char := '┃'

/-- Stands between the cells of a row. -/
def rowBar : Char := '│'

/-- The blanks on both sides of a cell's text. -/
def padding : Nat := 2

/-! ## Columns -/

/-- What the cells of a column show, the heading first. -/
structure ShownColumn where
  wraps : Bool
  heading : List Char
  cells : List (List Char)

def ShownColumn.texts (c : ShownColumn) : List (List Char) := c.heading :: c.cells

/-- Reads the markup of a text, and the styles it asks for. -/
def showColumn (c : TableColumn) : Except MarkupError (ShownColumn × List (List Char)) := do
  let heading ← Markup.render c.heading
  let cells ← c.cells.mapM Markup.render
  return (⟨c.wraps, heading.text, cells.map Shown.text⟩, (heading :: cells).flatMap Shown.styles)

/-- The width that a column would like to have, with the blanks around its texts. -/
def naturalColumn (room : Nat) (c : ShownColumn) : Column :=
  ⟨((c.texts.map fun s => min room (naturalWidth s + padding)).foldl max 0), c.wraps⟩

/-- The lines of a cell in a column of the given width. A column without room for text shows none. -/
def layCell (c : Column) (s : List Char) : List (List Char) :=
  if c.width ≤ padding then []
  else (Layout.mk (c.width - padding) c.wraps .ellipsis true).lay s |>.map fun l => ' ' :: l ++ [' ']

/-! ## Drawing -/

def drawRule (r : Rule) (columns : List Column) : List Char :=
  r.left :: (List.intercalate [r.cross] (columns.map fun c => List.replicate c.width r.stroke))
    ++ [r.right]

/-- The lines of a row; all cells are as high as the highest. -/
def drawRow (bar : Char) (columns : List Column) (row : List (List Char)) : List (List Char) :=
  let cells := List.zipWith (fun c s => (c, layCell c s)) columns row
  (List.range ((cells.map (·.2.length)).foldl max 0)).map fun i =>
    bar :: cells.flatMap fun (c, ls) => (ls[i]?).getD (List.replicate c.width ' ') ++ [bar]

/-- The rows of a table whose columns are given. -/
def rowsOf (shown : List ShownColumn) : List (List (List Char)) :=
  (List.range ((shown.map (·.cells.length)).foldl max 0)).map fun i =>
    shown.map fun c => (c.cells[i]?).getD []

/-- Draws a table in lines of at most `width` cells. -/
def draw (width : Nat) (shown : List ShownColumn) : List (List Char) :=
  let room := width - (shown.length + 1)
  let columns := Column.fit room (shown.map (naturalColumn room))
  [drawRule topRule columns] ++ drawRow headBar columns (shown.map ShownColumn.heading)
    ++ [drawRule headRule columns]
    ++ (rowsOf shown).flatMap (drawRow rowBar columns) ++ [drawRule bottomRule columns]

/-- The lines of a table. All markup is read, column by column, before a style is looked up. -/
def render (width : Nat) (t : Table) : Except MarkupError (List (List Char)) := do
  let shown ← t.mapM showColumn
  Markup.checkStyles (shown.flatMap (·.2))
  return draw width (shown.map (·.1))

end Table

end EndpointIndex.Console
