import Stepwise.Picture.Chain
import Stepwise.Viewer.Highlight
import Stepwise.Viewer.State

/-!
# The screen

What the viewer shows: the source with the line that runs, the output, the variables, and a status
line below.

## The model

Drawing has two parts. `State.settle` moves the scroll positions so that they fit the size of the
screen and the line that runs can be seen; `State.screen` shows a state as it is.
-/

namespace Stepwise.Viewer

open Text

/-! ### The layout -/

/-- The size of a screen. -/
structure Size where
  /-- The number of columns. -/
  width : Nat
  /-- The number of rows. -/
  height : Nat

/-- `percent` hundredths of `n`, rounded. -/
def share (percent n : Nat) : Nat := (n * percent + 50) / 100

namespace Size

/-- The width of the panes on the left. -/
def leftWidth (s : Size) : Nat := share 55 s.width
/-- The width of the pane on the right. -/
def rightWidth (s : Size) : Nat := s.width - s.leftWidth
/-- The rows above the status line. -/
def bodyHeight (s : Size) : Nat := s.height - 1
/-- The height of the source pane. -/
def sourceHeight (s : Size) : Nat := share 70 s.bodyHeight
/-- The height of the output pane. -/
def outputHeight (s : Size) : Nat := s.bodyHeight - s.sourceHeight

end Size

/-- The rows inside the frame of a pane, at least one. -/
def visibleRows (height : Nat) : Nat := max (height - 2) 1

/-- The style of the frame of a pane. -/
def borderStyle (focused : Bool) : Style :=
  if focused then (Style.colored Palette.yellow).inBold else .colored Palette.gray

/-- The largest scroll position that leaves no row empty without need. -/
def lastTop (items rows : Nat) : Nat := items - rows

/-! ### The source -/

/-- The scroll position at which `line` stands in the row `row`, as far as the source allows. -/
def topFor (line row total rows : Nat) : Nat :=
  if total > rows then min (line - 1 - row) (lastTop total rows) else 0

/-- Moves the source so that the line that runs can be seen. -/
def State.settleSource (rows : Nat) (v : State) : State :=
  let row := min (v.anchor.getD (rows / 2)) (rows - 1)
  let total := v.lines.size
  let top := match v.snapshot? with
    | some s => if 0 < s.line ∧ s.line ≤ total then topFor s.line row total rows else v.sourceTop
    | none => v.sourceTop
  { v with anchor := some row, sourceTop := top }

/-- The number of a line in four columns, marked if the line runs. -/
def lineNumber (current : Bool) (n : Nat) : String :=
  let digits := natText 10 n
  (if current then "▶" else " ") ++ "".pushn ' ' (4 - digits.length) ++ digits ++ " "

/-- A source line with its number. -/
def sourceRow (width : Nat) (current isError : Bool) (n : Nat) (line : String) : Row :=
  let spans := highlight line
  let (numberStyle, spans) :=
    if current && isError then
      ((Style.colored Palette.red).inBold,
        spans.map ({ · with style := ((Style.colored .white).on Palette.red).inBold }))
    else if current then
      ((Style.colored Palette.orange).inBold,
        spans.map fun s => { s with style := (Style.plain.on Palette.shade).above s.style })
    else (.colored Palette.gray, spans)
  leftRow width .plain (styled (lineNumber current n) numberStyle :: spans)

/-- The source pane. -/
def State.sourcePane (v : State) (width height : Nat) : Rows :=
  let current := match v.snapshot? with
    | some s => s.line
    | none => 0
  let shown := (v.lines.toList.zipIdx 1).drop v.sourceTop |>.take (visibleRows height)
  let rows := shown.map fun (line, n) =>
    sourceRow (width - 2) (n == current) v.isAtError n line
  framed " Source Code " (borderStyle (v.focus = .source)) width
    (filled (width - 2) (height - 2) .plain rows)

/-! ### The output -/

/-- An entry of a list pane: its lines, and the style of its rows. -/
structure Item where
  /-- The lines. -/
  lines : List (List Span)
  /-- The style of all its columns. -/
  style : Style

/-- The items at the start of a list that fit into `rows` rows as a whole. -/
def fitting (rows : Nat) : List Item → List Item
  | [] => []
  | item :: items =>
    if item.lines.length ≤ rows then item :: fitting (rows - item.lines.length) items else []

/-- The rows of items. -/
def itemRows (width : Nat) (items : List Item) : Rows :=
  items.flatMap fun item => item.lines.map fun spans => Row.draw 0 spans (blanks width item.style)

/-- What was printed and the error that ended the run, as far as they have been reached. -/
def State.outputItems (v : State) : List Item :=
  let printed := match v.printed? with
    | some text => (Text.lines text).map fun line =>
      ⟨[[styled line .plain]], .colored Palette.text⟩
    | none => []
  let failed := match v.error? with
    | some error =>
      [⟨(Text.lines ("error: " ++ error)).map fun line => [styled line .plain],
        (Style.colored Palette.red).inBold⟩]
    | none => []
  printed ++ failed

/-- Moves the output back to its last screenful. -/
def State.settleOutput (rows : Nat) (v : State) : State :=
  let items := v.outputItems.length
  if items = 0 then v else { v with outputTop := min v.outputTop (lastTop items rows) }

/-- The output pane. -/
def State.outputPane (v : State) (width height : Nat) : Rows :=
  let inside := match v.outputItems with
    | [] =>
      let style := Style.colored Palette.gray
      filled (width - 2) (height - 2) style
        [leftRow (width - 2) style [styled "(no output yet)" .plain]]
    | items =>
      let shown := fitting (visibleRows height) ((items.drop v.outputTop).take (visibleRows height))
      filled (width - 2) (height - 2) .plain
        ((itemRows (width - 3) shown).map (blanks 1 .plain ++ ·))
  framed " Program Output " (borderStyle (v.focus = .output)) width inside

/-! ### The variables -/

/-- The value of a variable on one line. -/
def valueText : Shown → String
  | .chain c => c.text
  | .plain (.str s) => s
  | .plain j => j.compact

/-- The style of a value. -/
def valueStyle : Shown → Style
  | .chain _ => .colored Palette.pink
  | .plain (.str _) => .colored Palette.orange
  | .plain (.int _) | .plain (.float _) => .colored Palette.orange
  | .plain _ => .colored Palette.text

/-- The style of a tag. -/
def tagStyle (t : Tag) : Style :=
  if t.isLinked then (Style.colored Palette.pink).inBold else .colored Palette.cyan

/-- A variable with its tag and its value. -/
def variableItem (s : Snapshot) (name : String) (v : Shown) : Item :=
  let tag := match s.tags.get? name with
    | some t => [styled (": " ++ t.name) (tagStyle t)]
    | none => []
  ⟨[[styled name (Style.colored Palette.text).inBold] ++ tag
    ++ [styled " = " (.colored Palette.gray), styled (valueText v) (valueStyle v)]], .plain⟩

/-- The variables of the frame that is shown. -/
def State.localsItems (v : State) : List Item :=
  let items := match v.snapshot? with
    | some s => s.locals.entries.map fun (name, value) => variableItem s name value
    | none => []
  if items.isEmpty then [⟨[[styled "(no locals)" .plain]], .colored Palette.gray⟩] else items

/-- Moves the variables back to their last screenful. -/
def State.settleLocals (rows : Nat) (v : State) : State :=
  { v with localsTop := min v.localsTop (lastTop v.localsItems.length rows) }

/-- The pane of the variables. -/
def State.localsPane (v : State) (width height : Nat) : Rows :=
  let title := match v.snapshot? with
    | some s => " Locals: " ++ s.function ++ "() "
    | none => " Locals "
  let shown := (v.localsItems.drop v.localsTop).take (visibleRows height)
  framed title (borderStyle (v.focus = .locals)) width
    (filled (width - 2) (height - 2) .plain (itemRows (width - 2) shown))

/-! ### The status line -/

/-- What the status line says about a frame behind its event. -/
def remark (s : Snapshot) : String :=
  match s.scope, s.branch with
  | some .conditional, some true => " [branch taken]"
  | some .conditional, some false => " [branch skipped]"
  | some .loop, _ => " [loop]"
  | _, _ => ""

/-- An entry in a few words. -/
def describe : Entry → String
  | .step kind s =>
    kind.name ++ " " ++ s.function ++ "() line " ++ natText 10 s.line ++ " depth "
      ++ natText 10 s.depth ++ remark s
  | .print _ => "program output"
  | .exception error => "exception: " ++ error

/-- Where in the trace the viewer is, and what it shows there. -/
def State.statusSpans (v : State) : List Span :=
  let color := if v.isAtError then Palette.red else Palette.blue
  let step :=
    if v.trace.isEmpty then " Step 0/0 "
    else " Step " ++ natText 10 (v.position + 1) ++ "/" ++ natText 10 v.trace.size ++ " "
  let message := (v.entry?.map describe).getD "empty trace"
  let letters := if v.isAtError then Palette.red else Palette.text
  [styled step ((Style.colored .black).on color).inBold,
    styled " | " ((Style.colored Palette.gray).on Palette.shade),
    styled (" " ++ message ++ " ") ((Style.colored letters).on Palette.shade)]

/-- The keys and what they do. -/
def keyHelp : List (String × String) :=
  [(" ←/→ ", " step "), (" ⎵ ", " play "), (" Home/End ", " start/end "), (" ⇥ ", " focus "),
    ("q", " quit ")]

/-- The mark of the start, the end or the play. -/
def State.badge? (v : State) : Option (String × Color) :=
  if v.playing then some (" ▶ PLAYING ", Palette.orange)
  else if v.trace.size > 0 ∧ v.position + 1 ≥ v.trace.size then some (" END ", Palette.red)
  else if v.position = 0 then some (" START ", Palette.green)
  else none

/-- The right half of the status line. -/
def State.helpSpans (v : State) : List Span :=
  let separator := styled "│" ((Style.colored Palette.gray).on Palette.shade)
  let help := keyHelp.map fun (key, does) =>
    [styled key ((Style.colored .black).on Palette.gray),
      styled does ((Style.colored Palette.text).on Palette.shade)]
  let badge := match v.badge? with
    | some (text, color) => [[styled text ((Style.colored .black).on color).inBold]]
    | none => []
  [separator].intercalate (help ++ badge)

/-- The status line. -/
def State.statusRow (v : State) (width : Nat) : Row :=
  let base := Style.plain.on Palette.shade
  let left := share 50 width
  leftRow left base v.statusSpans ++ rightRow (width - left) base v.helpSpans

/-! ### Drawing -/

/-- The state with scroll positions that fit a screen. -/
def State.settle (size : Size) (v : State) : State :=
  ((v.settleSource (visibleRows size.sourceHeight)).settleOutput
    (visibleRows size.outputHeight)).settleLocals (visibleRows size.bodyHeight)

/-- The screen of a state whose scroll positions fit. -/
def State.screen (size : Size) (v : State) : Rows :=
  let left := v.sourcePane size.leftWidth size.sourceHeight
    ++ v.outputPane size.leftWidth size.outputHeight
  let rows := beside left (v.localsPane size.rightWidth size.bodyHeight)
  (rows ++ [v.statusRow size.width]).map (Row.shown false)

end Stepwise.Viewer
