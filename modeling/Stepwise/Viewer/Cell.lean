import Stepwise.Text.Quoted
import Stepwise.Text.Width

/-!
# Cells and their styles

A screen is a list of rows, and a row a list of cells. Each cell has its look.

## The model

A cell holds one cluster of characters. A cluster of several columns stands in its first cell; the
others are blank (`Row.shown` sees to it that they look so). There are two ways of putting text into
a row. A paragraph (`leftRow`, `rightRow`) drops what has no width and what does not fit. A list
item (`Row.draw`) is painted onto the cells that are there: every span begins where the one before
it ends by its own width, and what has no width joins the cell before it. Either way the row keeps
its width.
-/

namespace Stepwise.Viewer

/-! ### Styles -/

/-- A color. -/
inductive Color where
  | black
  | white
  | rgb (red green blue : Nat)
  deriving DecidableEq

/-- The name of a color: its parts in hexadecimal digits unless it has a name. -/
def Color.name : Color → String
  | black => "black"
  | white => "white"
  | rgb r g b => String.ofList ('#' :: [r, g, b].flatMap Text.hexByte)

/-- The look of a text; what has no color has that of the screen. -/
structure Style where
  /-- The color of the letters. -/
  fg : Option Color := none
  /-- The color behind them. -/
  bg : Option Color := none
  /-- Whether they are bold. -/
  bold : Bool := false
  deriving DecidableEq

namespace Style

/-- The look of the screen itself. -/
def plain : Style := {}

/-- Letters of a color. -/
def colored (c : Color) : Style := { fg := some c }

/-- A style in bold. -/
def inBold (s : Style) : Style := { s with bold := true }

/-- A style on a color. -/
def on (s : Style) (c : Color) : Style := { s with bg := some c }

/-- What is drawn in a style over something of another style. -/
def above (top under : Style) : Style :=
  ⟨top.fg.or under.fg, top.bg.or under.bg, top.bold || under.bold⟩

end Style

/-! ### The palette -/

namespace Palette

/-- Ordinary text. -/
def text : Color := .rgb 205 214 244
/-- Keywords, brackets and the step counter. -/
def blue : Color := .rgb 137 180 250
/-- Strings, numbers and the number of the line that runs. -/
def orange : Color := .rgb 250 179 135
/-- Comments, and the frames of panes. -/
def gray : Color := .rgb 108 112 134
/-- The mark of the start. -/
def green : Color := .rgb 166 227 161
/-- Errors. -/
def red : Color := .rgb 243 139 168
/-- Functions, and the frame of the pane in use. -/
def yellow : Color := .rgb 249 226 175
/-- Tags. -/
def cyan : Color := .rgb 148 226 213
/-- Linked lists. -/
def pink : Color := .rgb 245 194 231
/-- Behind the line that runs, and behind the status line. -/
def shade : Color := .rgb 50 50 70

end Palette

/-! ### Cells -/

open Text

/-- A place on the screen. -/
structure Cell where
  /-- What it shows. -/
  text : String
  /-- How it looks. -/
  style : Style

namespace Cell

/-- A cell without text. -/
def blank (style : Style) : Cell := ⟨" ", style⟩

/-- The columns of its text. -/
def columns (c : Cell) : Nat := Text.columns c.text.toList

end Cell

/-- A text with its look. -/
structure Span where
  /-- The text. -/
  text : List Char
  /-- Its look. -/
  style : Style

/-- A string with its look. -/
def styled (s : String) (style : Style) : Span := ⟨s.toList, style⟩

/-- A cluster of characters with its look. -/
structure Glyph where
  /-- The characters. -/
  text : List Char
  /-- Its look. -/
  style : Style

namespace Glyph

/-- The columns of a glyph. -/
def columns (g : Glyph) : Nat := Text.columns g.text

/-- A cell that shows a glyph. -/
def cell (g : Glyph) : Cell := ⟨String.ofList g.text, g.style⟩

end Glyph

namespace Span

/-- The columns of a span. -/
def columns (s : Span) : Nat := Text.columns s.text

/-- The glyphs of a span; line feeds are not shown. -/
def glyphs (s : Span) : List Glyph :=
  ((clusters s.text).filter (· ≠ ['\n'])).map fun g => ⟨g, s.style⟩

end Span

/-- A row of cells. -/
abbrev Row := List Cell

/-- A part of the screen. -/
abbrev Rows := List Row

/-- `n` cells without text. -/
def blanks (n : Nat) (style : Style) : Row := List.replicate n (.blank style)

/-! ### Paragraphs -/

/-- The glyphs that are shown in the last `room` columns of a row: it ends before the first one that
does not fit, but one that is wider than the whole row is left out. -/
def fitGlyphs (width room : Nat) : List Glyph → List Glyph
  | [] => []
  | g :: gs =>
    if g.columns > width then fitGlyphs width room gs
    else if g.columns > room then []
    else g :: fitGlyphs width (room - g.columns) gs

/-- The columns of glyphs. -/
def columnsOf : List Glyph → Nat
  | [] => 0
  | g :: gs => g.columns + columnsOf gs

/-- The cells of glyphs over a style; what has no width has no cell. -/
def glyphCells (base : Style) (gs : List Glyph) : Row :=
  gs.flatMap fun g =>
    if g.columns = 0 then []
    else { g with style := g.style.above base }.cell :: blanks (g.columns - 1) base

/-- A row with text at its left end. -/
def leftRow (width : Nat) (base : Style) (spans : List Span) : Row :=
  let gs := fitGlyphs width width (spans.flatMap Span.glyphs)
  glyphCells base gs ++ blanks (width - columnsOf gs) base

/-- A row with text at its right end. -/
def rightRow (width : Nat) (base : Style) (spans : List Span) : Row :=
  let gs := fitGlyphs width width (spans.flatMap Span.glyphs)
  blanks (width - columnsOf gs) base ++ glyphCells base gs

theorem columnsOf_fitGlyphs_le (width room : Nat) (gs : List Glyph) :
    columnsOf (fitGlyphs width room gs) ≤ room := by
  induction gs generalizing room with
  | nil => exact Nat.zero_le room
  | cons g gs ih =>
    rw [fitGlyphs]
    split
    · exact ih room
    · split
      · exact Nat.zero_le room
      · have := ih (room - g.columns)
        rw [columnsOf]
        omega

theorem length_blanks (n : Nat) (style : Style) : (blanks n style).length = n :=
  List.length_replicate

theorem length_glyphCells (base : Style) (gs : List Glyph) :
    (glyphCells base gs).length = columnsOf gs := by
  induction gs with
  | nil => rfl
  | cons g gs ih =>
    rw [columnsOf, ← ih, glyphCells, List.flatMap_cons, List.length_append]
    congr 1
    split
    · simp [*]
    · rw [List.length_cons, length_blanks]
      omega

/-- A row with text at its left end has its width. -/
theorem length_leftRow (width : Nat) (base : Style) (spans : List Span) :
    (leftRow width base spans).length = width := by
  have := columnsOf_fitGlyphs_le width width (spans.flatMap Span.glyphs)
  rw [leftRow, List.length_append, length_glyphCells, length_blanks]
  omega

/-- A row with text at its right end has its width. -/
theorem length_rightRow (width : Nat) (base : Style) (spans : List Span) :
    (rightRow width base spans).length = width := by
  have := columnsOf_fitGlyphs_le width width (spans.flatMap Span.glyphs)
  rw [rightRow, List.length_append, length_glyphCells, length_blanks]
  omega

/-! ### List items -/

namespace Row

/-- Puts a glyph into the cell `x`. -/
def put (row : Row) (x : Nat) (g : Glyph) : Row :=
  row.modify x fun c => ⟨String.ofList g.text, g.style.above c.style⟩

/-- Adds a glyph to what the cell `x` shows. -/
def join (row : Row) (x : Nat) (g : Glyph) : Row :=
  row.modify x fun c => ⟨c.text ++ String.ofList g.text, g.style.above c.style⟩

/-- Empties `n` cells from `x` on. -/
def wipe (row : Row) (x : Nat) : (n : Nat) → Row
  | 0 => row
  | n + 1 => Row.wipe (row.set x (.blank .plain)) (x + 1) n

/-- Draws glyphs from the cell `x` on; the text before them begins in the cell `start`. The text
ends before the first glyph that does not fit. -/
def drawGlyphs (start x : Nat) : List Glyph → Row → Row
  | [], row => row
  | g :: gs, row =>
    if x + g.columns > row.length then row
    else
      let row :=
        if x = start then row.join x g
        else if g.columns = 0 then row.join (x - 1) g
        else row.put x g
      Row.drawGlyphs start (x + g.columns) gs (row.wipe (x + 1) (g.columns - 1))

/-- Draws a span from the cell `x` on. -/
def drawSpan (x : Nat) (s : Span) (row : Row) : Row :=
  match s.glyphs with
  | [] => row
  | g :: gs =>
    if x + g.columns > row.length then row
    else Row.drawGlyphs x (x + g.columns) gs ((row.put x g).wipe (x + 1) (g.columns - 1))

/-- Draws spans from the cell `x` on, each of them behind the one before. -/
def draw (x : Nat) : List Span → Row → Row
  | [], row => row
  | s :: ss, row =>
    if s.columns = 0 then Row.draw x ss row
    else if x < row.length then Row.draw (x + s.columns) ss (Row.drawSpan x s row)
    else row

theorem length_put (row : Row) (x : Nat) (g : Glyph) : (row.put x g).length = row.length :=
  List.length_modify _ row x

theorem length_join (row : Row) (x : Nat) (g : Glyph) : (row.join x g).length = row.length :=
  List.length_modify _ row x

theorem length_wipe (row : Row) (x n : Nat) : (row.wipe x n).length = row.length := by
  induction n generalizing row x with
  | zero => rfl
  | succ n ih => rw [wipe, ih, List.length_set]

theorem length_drawGlyphs (start x : Nat) (gs : List Glyph) (row : Row) :
    (drawGlyphs start x gs row).length = row.length := by
  induction gs generalizing x row with
  | nil => rfl
  | cons g gs ih =>
    rw [drawGlyphs]
    split
    · rfl
    · rw [ih, length_wipe]
      split
      · exact length_join row x g
      · split
        · exact length_join row (x - 1) g
        · exact length_put row x g

theorem length_drawSpan (x : Nat) (s : Span) (row : Row) :
    (drawSpan x s row).length = row.length := by
  rw [drawSpan]
  split
  · rfl
  · split
    · rfl
    · rw [length_drawGlyphs, length_wipe, length_put]

/-- Drawing on a row keeps its width. -/
theorem length_draw (x : Nat) (ss : List Span) (row : Row) :
    (draw x ss row).length = row.length := by
  induction ss generalizing x row with
  | nil => rfl
  | cons s ss ih =>
    rw [draw]
    split
    · exact ih x row
    · split
      · rw [ih, length_drawSpan]
      · rfl

/-- A row as it is seen; `hidden` tells whether its first cell is the second column of the cell
before. -/
def shown (hidden : Bool) : Row → Row
  | [] => []
  | c :: cs => (if hidden then .blank .plain else c) :: Row.shown (c.columns > 1) cs

end Row

/-! ### Parts of the screen -/

/-- Rows filled up with blank ones to a given number. -/
def filled (width height : Nat) (base : Style) (rows : Rows) : Rows :=
  rows ++ List.replicate (height - rows.length) (blanks width base)

/-- Two parts of the screen side by side. -/
def beside (left right : Rows) : Rows := List.zipWith (· ++ ·) left right

/-- The upper edge of a frame with a title. -/
def topEdge (title : Span) (width : Nat) (edge : Cell) : Row :=
  let row := List.replicate width edge
  let room := min title.columns width
  Row.draw 0 [title] (row.take room) ++ row.drop room

/-- Rows inside a frame with a title. -/
def framed (title : String) (border : Style) (width : Nat) (rows : Rows) : Rows :=
  let edge (s : String) : Cell := ⟨s, border⟩
  let top := topEdge (styled title .plain) (width - 2) (edge "─")
  let bottom := List.replicate (width - 2) (edge "─")
  [edge "┌" :: top ++ [edge "┐"]]
    ++ rows.map (fun row => edge "│" :: row ++ [edge "│"])
    ++ [edge "└" :: bottom ++ [edge "┘"]]

/-- Neighbours of one look, joined: the text and the look of each run of cells. -/
def runs : Row → List (String × Style)
  | [] => []
  | c :: cs =>
    match runs cs with
    | (text, style) :: rest =>
      if c.style = style then (c.text ++ text, style) :: rest
      else (c.text, c.style) :: (text, style) :: rest
    | [] => [(c.text, c.style)]

end Stepwise.Viewer
