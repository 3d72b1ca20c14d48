import Mathlib.Data.List.Basic
import Stepwise.Proofs.Legible
import Stepwise.Proofs.Spelling
import Stepwise.Proofs.Splitting
import Stepwise.Viewer.Screen

/-!
# The viewer keeps to the step it shows

Whatever keys are pressed and on whatever screens the viewer is drawn in between, its counters keep
to their bounds (`State.Steady`), and a screen that has been drawn shows the line that runs, with a
mark, and no more empty rows than it must (`State.InView`).

A row of the source is drawn with its number in front of it, and the number of the line that runs
has the mark. In the cells of the screen the mark is what stands right of the frame
(`Row.isMarked`), and which rows of the source have it depends only on their numbers
(`map_isMarked_sourceRows`).

## The model

The counters are natural numbers here and words in a machine. What a machine does is said by a
second reading of the keys and the drawing, in which each sum and each difference must be a word
(`plus?`, `minus?`): it comes to the same states, and never fails (`act?_eq`).
-/

namespace Stepwise.Viewer

open Text

/-! ### The number of a line -/

/-- The sign in front of the number of a line. -/
def sign (current : Bool) : Char := if current then '▶' else ' '

/-- The characters of numbers, and the blank that fills them up. -/
def numberChars : List Char := ['0', '1', '2', '3', '4', '5', '6', '7', '8', '9', ' ']

theorem mem_numberChars {c : Char} (h : c.isDigit = true) : c ∈ numberChars := by
  have digit := Script.toNat_of_isDigit h
  rw [← Char.ofNat_toNat c]
  generalize c.toNat = n at digit
  revert n
  decide

theorem toList_pushn (s : String) (c : Char) (n : Nat) :
    (s.pushn c n).toList = s.toList ++ List.replicate n c := by
  induction n with
  | zero => exact (List.append_nil _).symm
  | succ n ih =>
    show ((s.pushn c n).push c).toList = _
    rw [String.toList_push, ih, List.append_assoc, List.replicate_succ']

/-- Behind the sign there is a digit or a blank. -/
theorem toList_lineNumber (current : Bool) (n : Nat) :
    ∃ d cs, (lineNumber current n).toList = sign current :: d :: cs ∧ d ∈ numberChars := by
  have digits := isDigit_of_mem_natText n
  obtain ⟨e, es, eq⟩ : ∃ e es, (natText 10 n).toList = e :: es := by
    rcases natText_head n with h | ⟨c, cs, h, -⟩ <;> exact ⟨_, _, h⟩
  have sign_eq : (if current then "▶" else " ").toList = [sign current] := by cases current <;> rfl
  rw [eq] at digits
  have digit := mem_numberChars (digits e List.mem_cons_self)
  have text : (lineNumber current n).toList = sign current ::
      (List.replicate (4 - (natText 10 n).length) ' ' ++ e :: (es ++ [' '])) := by
    simp [lineNumber, sign_eq, toList_pushn, eq]
  cases h : 4 - (natText 10 n).length with
  | zero => exact ⟨e, _, by rw [text, h]; rfl, digit⟩
  | succ k => exact ⟨' ', _, by rw [text, h]; rfl, by decide⟩

/-- Nothing joins the sign to a cluster, and it takes one column. -/
theorem sign_alone (current : Bool) :
    (∀ d ∈ numberChars, (Tail.empty.after (sign current)).joins d = false) ∧
      columns [sign current] = 1 := by
  have alone : numberChars.all (fun d => !(Tail.empty.after (sign current)).joins d) = true ∧
      columns [sign current] = 1 := by cases current <;> decide +kernel
  exact ⟨fun d hd => Bool.not_eq_true' _ ▸ List.all_eq_true.1 alone.1 d hd, alone.2⟩

theorem glyphs_lineNumber (current : Bool) (n : Nat) (style : Style) :
    ∃ gs, (styled (lineNumber current n) style).glyphs = ⟨[sign current], style⟩ :: gs := by
  obtain ⟨d, cs, text, digit⟩ := toList_lineNumber current n
  have apart := (sign_alone current).1 d digit
  have shown : [sign current] ≠ ['\n'] := by cases current <;> decide
  obtain ⟨more, cut⟩ : ∃ more, clusters (sign current :: d :: cs) = [sign current] :: more := by
    rw [clusters, clustersFrom, apart]
    exact ⟨_, rfl⟩
  rw [Span.glyphs, styled, text, cut, List.filter_cons_of_pos (by simpa using shown)]
  exact ⟨_, rfl⟩

/-! ### The rows of the source -/

/-- The first cell of a row of the source shows the sign. -/
theorem sourceRow_head {width : Nat} (filled : 0 < width) (current isError : Bool) (n : Nat)
    (line : String) : ∃ style cells,
      sourceRow width current isError n line = ⟨String.ofList [sign current], style⟩ :: cells := by
  obtain ⟨style, spans, eq⟩ : ∃ style spans, sourceRow width current isError n line =
      leftRow width .plain (styled (lineNumber current n) style :: spans) := by
    unfold sourceRow
    cases current <;> cases isError <;> exact ⟨_, _, rfl⟩
  obtain ⟨gs, glyphs⟩ := glyphs_lineNumber current n style
  have one : (⟨[sign current], style⟩ : Glyph).columns = 1 := (sign_alone current).2
  rw [eq, leftRow, List.flatMap_cons, glyphs, List.cons_append, fitGlyphs, if_neg (by omega),
    if_neg (by omega), glyphCells, List.flatMap_cons, if_neg (by omega)]
  exact ⟨_, _, rfl⟩

/-! ### The source on the screen -/

/-- Whether the cell right of the frame shows the mark of the line that runs. -/
def Row.isMarked (row : Row) : Bool := row[1]?.any (·.text = "▶")

/-- The rows of the screen inside the frame of the source. -/
def State.sourceRows (size : Size) (v : State) : Rows :=
  ((v.screen size).drop 1).take (size.sourceHeight - 2)

/-- The lines of the script that are shown, with their numbers. -/
def State.shownLines (rows : Nat) (v : State) : List (String × Nat) :=
  ((v.lines.toList.zipIdx 1).drop v.sourceTop).take rows

/-- The number of the line that runs, 0 if there is none. -/
def State.currentLine (v : State) : Nat :=
  match v.snapshot? with
  | some s => s.line
  | none => 0

/-- What is inside the frame of the source. -/
def State.innerRows (width height : Nat) (v : State) : Rows :=
  filled width height .plain ((v.shownLines height).map fun (line, n) =>
    sourceRow width (n == v.currentLine) v.isAtError n line)

/-- Whether a row begins with the mark. -/
def Row.beginsMarked (row : Row) : Bool := row.head?.any (·.text = "▶")

/-- A row is marked by what it begins with inside the frame, whatever stands right of it. -/
theorem isMarked_shown {edge : Cell} (narrow : edge.columns = 1) {row : Row} (filled : row ≠ [])
    (right : Row) : Row.isMarked (Row.shown false (edge :: row ++ right)) = row.beginsMarked := by
  obtain ⟨c, cells, rfl⟩ := List.exists_cons_of_ne_nil filled
  simp [Row.shown, Row.isMarked, Row.beginsMarked, narrow]

/-- What is said of the left ones only. -/
theorem map_zipWith_left {α β γ δ : Type} {f : α → β → γ} {g : γ → δ} {k : α → δ} {as : List α}
    {bs : List β} (h : ∀ a ∈ as, ∀ b, g (f a b) = k a) (le : as.length ≤ bs.length) :
    (List.zipWith f as bs).map g = as.map k := by
  induction as generalizing bs with
  | nil => simp
  | cons a as ih =>
    cases bs with
    | nil => simp at le
    | cons b bs =>
      obtain ⟨ha, h⟩ := List.forall_mem_cons.1 h
      rw [List.zipWith_cons_cons, List.map_cons, List.map_cons, ha,
        ih h (Nat.le_of_succ_le_succ le)]

theorem share_le {percent : Nat} (le : percent ≤ 99) (n : Nat) : share percent n ≤ n := by
  have := Nat.mul_le_mul_left n le
  unfold share
  omega

theorem length_framed (title : String) (border : Style) (width : Nat) (rows : Rows) :
    (framed title border width rows).length = rows.length + 2 := by
  simp only [framed, List.length_append, List.length_map, List.length_singleton]
  omega

theorem length_filled {width height : Nat} {base : Style} {rows : Rows}
    (le : rows.length ≤ height) : (filled width height base rows).length = height := by
  rw [filled, List.length_append, List.length_replicate]
  omega

theorem le_length_filled (width height : Nat) (base : Style) (rows : Rows) :
    height ≤ (filled width height base rows).length := by
  rw [filled, List.length_append, List.length_replicate]
  omega

/-- Beside each other, the rows behind the first ones. -/
theorem take_zipWith_append {α β γ : Type} (f : α → β → γ) (a : α) (as behind : List α)
    (bs : List β) (last : List γ) (enough : as.length < bs.length) :
    ((List.zipWith f (a :: (as ++ behind)) bs ++ last).drop 1).take as.length =
      List.zipWith f as ((bs.drop 1).take as.length) := by
  cases bs with
  | nil => exact absurd enough (Nat.not_lt_zero _)
  | cons b bs =>
    have fits : as.length ≤ (List.zipWith f (as ++ behind) bs).length := by
      rw [List.length_zipWith, List.length_append]
      rw [List.length_cons] at enough
      omega
    rw [List.zipWith_cons_cons, List.cons_append, List.drop_one, List.tail_cons,
      List.take_append_of_le_length fits, List.take_zipWith, List.take_left]
    rfl

section

variable {v : State} {width height : Nat}

theorem length_innerRows : (v.innerRows width height).length = height := by
  refine length_filled ?_
  simp only [State.shownLines, List.length_map, List.length_take]
  omega

/-- There is a row for each line that is shown, marked if the line runs, and blank ones below. -/
theorem map_beginsMarked_innerRows (v : State) (height : Nat) (wide : 0 < width) : ∃ below,
    (v.innerRows width height).map Row.beginsMarked =
      (v.shownLines height).map (·.2 == v.currentLine) ++ List.replicate below false := by
  have blank : (blanks width .plain).beginsMarked = false := by
    obtain ⟨n, rfl⟩ := Nat.exists_eq_add_one.2 wide
    rfl
  have row (line : String) (n : Nat) :
      (sourceRow width (n == v.currentLine) v.isAtError n line).beginsMarked =
        (n == v.currentLine) := by
    obtain ⟨style, cells, eq⟩ := sourceRow_head wide (n == v.currentLine) v.isAtError n line
    rw [eq]
    cases n == v.currentLine <;> rfl
  have rows : (v.shownLines height).map (Row.beginsMarked ∘ fun (line, n) =>
      sourceRow width (n == v.currentLine) v.isAtError n line) =
      (v.shownLines height).map (·.2 == v.currentLine) := by
    refine List.map_congr_left fun p _ => ?_
    rw [Function.comp_apply, row]
  rw [State.innerRows, filled, List.map_append, List.map_map, List.map_replicate, blank, rows]
  exact ⟨_, rfl⟩

theorem innerRows_filled (wide : 0 < width) : ∀ row ∈ v.innerRows width height, row ≠ [] := by
  intro row hrow
  have width_eq : row.length = width := by
    obtain shown | blank := List.mem_append.1 hrow
    · obtain ⟨p, -, rfl⟩ := List.mem_map.1 shown
      exact length_leftRow ..
    · rw [List.eq_of_mem_replicate blank]
      exact length_blanks ..
  exact List.ne_nil_of_length_pos (by omega)

end

/-- The rows of the source are those inside the frame, between an edge and what stands right of
them. -/
theorem sourceRows_eq (size : Size) (v : State) (tall : 3 ≤ size.sourceHeight) :
    ∃ (border : Style) (locals : Rows), size.sourceHeight - 2 ≤ locals.length ∧
      v.sourceRows size = List.zipWith
        (fun row right => Row.shown false (⟨"│", border⟩ :: row ++ (⟨"│", border⟩ :: right)))
        (v.innerRows (size.leftWidth - 2) (size.sourceHeight - 2)) locals := by
  let inner := v.innerRows (size.leftWidth - 2) (size.sourceHeight - 2)
  let border := borderStyle (v.focus = .source)
  have visible : visibleRows size.sourceHeight = size.sourceHeight - 2 := by
    unfold visibleRows
    omega
  have pane : v.sourcePane size.leftWidth size.sourceHeight =
      framed " Source Code " border size.leftWidth inner := by
    unfold State.sourcePane
    rw [visible]
    rfl
  let edged := inner.map fun row : Row => (⟨"│", border⟩ :: row ++ [⟨"│", border⟩] : Row)
  have edged_length : edged.length = size.sourceHeight - 2 := by
    rw [List.length_map, length_innerRows]
  obtain ⟨top, bottom, framed_eq⟩ : ∃ top bottom : Row,
      framed " Source Code " border size.leftWidth inner = top :: (edged ++ [bottom]) :=
    ⟨_, _, rfl⟩
  -- The variables stand right of all of the source, for the source is not the whole left half.
  let locals := v.localsPane size.rightWidth size.bodyHeight
  have locals_length : edged.length < locals.length := by
    have below : size.sourceHeight ≤ size.bodyHeight := share_le (by decide) _
    have := le_length_filled (size.rightWidth - 2) (size.bodyHeight - 2) .plain
      (itemRows (size.rightWidth - 2)
        ((v.localsItems.drop v.localsTop).take (visibleRows size.bodyHeight)))
    rw [show locals = v.localsPane _ _ from rfl, State.localsPane, length_framed, edged_length]
    omega
  have rows : v.sourceRows size =
      (List.zipWith (· ++ ·) edged ((locals.drop 1).take edged.length)).map (Row.shown false) := by
    rw [← take_zipWith_append (· ++ ·) top edged
      (bottom :: v.outputPane size.leftWidth size.outputHeight) locals
      [v.statusRow size.width] locals_length, edged_length]
    simp only [State.sourceRows, State.screen, beside, pane, framed_eq, List.map_take,
      List.map_drop, List.cons_append, List.append_assoc, List.nil_append]
    rfl
  refine ⟨border, (locals.drop 1).take edged.length, ?_, ?_⟩
  · rw [List.length_take, List.length_drop]
    omega
  · rw [rows, List.zipWith_map_left, List.map_zipWith]
    simp only [List.cons_append, List.append_assoc, List.nil_append]
    rfl

/-- Which rows of the source are marked: those of the line that runs, and not the rows below the
last line. -/
theorem map_isMarked_sourceRows (size : Size) (v : State) (wide : 3 ≤ size.leftWidth)
    (tall : 3 ≤ size.sourceHeight) : ∃ below, (v.sourceRows size).map Row.isMarked =
      (v.shownLines (size.sourceHeight - 2)).map (·.2 == v.currentLine) ++
        List.replicate below false := by
  obtain ⟨border, locals, enough, rows⟩ := sourceRows_eq size v tall
  have narrow : (⟨"│", border⟩ : Cell).columns = 1 := by
    rw [Cell.columns, show "│".toList = ['│'] from rfl]
    decide +kernel
  obtain ⟨below, marks⟩ := map_beginsMarked_innerRows v (size.sourceHeight - 2)
    (show 0 < size.leftWidth - 2 by omega)
  refine ⟨below, ?_⟩
  rw [← marks, rows]
  refine map_zipWith_left (fun row hrow right => ?_) (by rwa [length_innerRows])
  exact isMarked_shown narrow (innerRows_filled (by omega) row hrow) _

/-! ### Lists that are not empty -/

/-- A text with characters has lines. -/
theorem lines_ne_nil {s : String} (filled : s ≠ "") : lines s ≠ [] := by
  obtain ⟨c, cs, eq⟩ := List.exists_cons_of_ne_nil (fun h => filled (String.toList_eq_nil_iff.1 h))
  unfold lines splitOn
  rw [eq, List.length_cons, splitFirst]
  cases cut? ['\n'] (c :: cs) with
  | none => simp
  | some parts =>
    obtain ⟨d, ds, more⟩ := List.exists_cons_of_ne_nil
      (splitFirst_ne_nil ['\n'] cs.length parts.2)
    simp [more]

/-! ### Actions -/

/-- What happens to the viewer. -/
inductive Action where
  /-- A key is pressed. -/
  | press (k : Key)
  /-- The viewer is drawn on a screen. -/
  | draw (size : Size)

namespace Action

/-- A screen has no more rows than a word can count. -/
def Fits : Action → Prop
  | press _ => True
  | draw size => size.height ≤ farthest

end Action

/-- The state after an action. -/
def State.act (v : State) : Action → State
  | .press k => v.press k
  | .draw size => v.settle size

/-- The state after actions. -/
def State.after (v : State) (actions : List Action) : State := actions.foldl State.act v

/-! ### Counters in words -/

/-- The sum of two words, if it is a word. -/
def plus? (a b : Nat) : Option Nat := if a + b ≤ farthest then some (a + b) else none

/-- The difference of two words, if it is a word. -/
def minus? (a b : Nat) : Option Nat := if b ≤ a then some (a - b) else none

theorem plus?_eq {a b : Nat} (le : a + b ≤ farthest) : plus? a b = some (a + b) := if_pos le

theorem minus?_eq {a b : Nat} (le : b ≤ a) : minus? a b = some (a - b) := if_pos le

namespace State

/-- One entry further, in words. -/
def forward? (v : State) : Option State := do
  let next ← plus? v.position 1
  return if next < v.trace.size then { v with position := next, outputTop := farthest } else v

/-- What a key does, in words. All but a step forward stops at the ends of a word by itself. -/
def press? (v : State) : Key → Option State
  | .right => { v with playing := false }.forward?
  | k => some (v.press k)

end State

/-- The scroll position at which `line` stands in the row `row`, in words. -/
def topFor? (line row total rows : Nat) : Option Nat := do
  let above ← minus? line 1
  if total > rows then
    let last ← minus? total rows
    return min (above - row) last
  else return 0

namespace State

/-- Moves the source so that the line that runs can be seen, in words. -/
def settleSource? (rows : Nat) (v : State) : Option State := do
  let last ← minus? rows 1
  let row := min (v.anchor.getD (rows / 2)) last
  let total := v.lines.size
  let top ← match v.snapshot? with
    | some s =>
      if 0 < s.line ∧ s.line ≤ total then topFor? s.line row total rows else some v.sourceTop
    | none => some v.sourceTop
  return { v with anchor := some row, sourceTop := top }

/-- Drawing, in words. The entries up to the one that is shown are counted for it. -/
def settle? (size : Size) (v : State) : Option State := do
  let _reached ← plus? v.position 1
  let w ← v.settleSource? (visibleRows size.sourceHeight)
  return (w.settleOutput (visibleRows size.outputHeight)).settleLocals (visibleRows size.bodyHeight)

/-- The state after an action, in words. -/
def act? (v : State) : Action → Option State
  | .press k => v.press? k
  | .draw size => v.settle? size

/-- The state after actions, in words. -/
def after? (v : State) (actions : List Action) : Option State := actions.foldlM State.act? v

/-! ### What no action breaks -/

/-- The counters are words, and the entry that is shown is one of the trace unless there is none. -/
structure Steady (trace : Array Entry) (lines : Array String) (v : State) : Prop where
  /-- The trace stays. -/
  trace_eq : v.trace = trace
  /-- The script stays. -/
  lines_eq : v.lines = lines
  /-- The entries of the trace can be counted. -/
  trace_fits : v.trace.size ≤ farthest
  /-- The lines of the script can be counted. -/
  lines_fit : v.lines.size ≤ farthest
  /-- There is an entry to be shown, or no entry at all. -/
  position_le : v.position ≤ v.trace.size - 1
  /-- The source is not scrolled beyond its end. -/
  sourceTop_le : v.sourceTop ≤ v.lines.size
  /-- The row of the line that runs is a word. -/
  anchor_le : ∀ row ∈ v.anchor, row ≤ farthest
  /-- The scroll position of the variables is a word. -/
  localsTop_le : v.localsTop ≤ farthest
  /-- The scroll position of the output is a word. -/
  outputTop_le : v.outputTop ≤ farthest

/-- What drawing leaves: the source with the line that runs, and lists without empty rows below
that could be filled. -/
structure InView (size : Size) (v : State) : Prop where
  /-- The line that runs is among the lines that are shown. -/
  line_shown : ∀ s, v.snapshot? = some s → 0 < s.line → s.line ≤ v.lines.size →
    v.sourceTop ≤ s.line - 1 ∧ s.line - 1 < v.sourceTop + visibleRows size.sourceHeight
  /-- The source is not scrolled further than to its end. -/
  source_full : ∀ s, v.snapshot? = some s → 0 < s.line → s.line ≤ v.lines.size →
    v.sourceTop ≤ v.lines.size - visibleRows size.sourceHeight
  /-- One row of the source is marked, and no other. -/
  one_marked : ∀ s, v.snapshot? = some s → 0 < s.line → s.line ≤ v.lines.size →
    3 ≤ size.leftWidth → 3 ≤ size.sourceHeight → (v.sourceRows size).countP Row.isMarked = 1
  /-- The variables are not scrolled further than to their end. -/
  locals_full : v.localsTop ≤ v.localsItems.length - visibleRows size.bodyHeight
  /-- The output is not scrolled further than to its end. -/
  output_full : (∃ text, v.printed? = some text ∧ text ≠ "") ∨ (∃ error, v.error? = some error) →
    v.outputTop ≤ v.outputItems.length - visibleRows size.outputHeight

end State

/-! ### Scroll positions -/

section

variable {line row total rows : Nat}

theorem visibleRows_pos (height : Nat) : 0 < visibleRows height := Nat.le_max_right ..

theorem topFor_le_lastTop : topFor line row total rows ≤ lastTop total rows := by
  unfold topFor
  split
  · exact Nat.min_le_right ..
  · exact Nat.zero_le _

/-- At its scroll position a line is among those that are shown. -/
theorem topFor_shows (first : 0 < line) (last : line ≤ total) (inside : row < rows) :
    topFor line row total rows ≤ line - 1 ∧ line - 1 < topFor line row total rows + rows := by
  unfold topFor lastTop
  split <;> omega

theorem topFor?_eq (first : 0 < line) :
    topFor? line row total rows = some (topFor line row total rows) := by
  rw [topFor?, minus?_eq first, topFor]
  split
  case isTrue long => rw [Option.bind_eq_bind, Option.bind_some, minus?_eq (by omega)]; rfl
  case isFalse => rfl

end

namespace State

section

variable {v : State} {rows : Nat} {size : Size}

/-- The row for the line that runs. -/
def rowFor (rows : Nat) (v : State) : Nat := min (v.anchor.getD (rows / 2)) (rows - 1)

/-- The scroll position of the source once it has been drawn. -/
def topOf (rows : Nat) (v : State) : Nat :=
  match v.snapshot? with
  | some s =>
    if 0 < s.line ∧ s.line ≤ v.lines.size then topFor s.line (v.rowFor rows) v.lines.size rows
    else v.sourceTop
  | none => v.sourceTop

theorem settleSource_eq :
    v.settleSource rows = { v with anchor := some (v.rowFor rows), sourceTop := v.topOf rows } :=
  rfl

/-- The scroll position of the output once it has been drawn. -/
def outputTopOf (rows : Nat) (v : State) : Nat :=
  if v.outputItems.length = 0 then v.outputTop
  else min v.outputTop (lastTop v.outputItems.length rows)

theorem settleOutput_eq : v.settleOutput rows = { v with outputTop := v.outputTopOf rows } := by
  unfold settleOutput outputTopOf
  dsimp only
  split <;> rfl

/-- Drawing changes scroll positions only. -/
theorem settle_eq : v.settle size =
    { v with
      anchor := some (v.rowFor (visibleRows size.sourceHeight))
      sourceTop := v.topOf (visibleRows size.sourceHeight)
      outputTop := v.outputTopOf (visibleRows size.outputHeight)
      localsTop := min v.localsTop (lastTop v.localsItems.length (visibleRows size.bodyHeight)) } := by
  rw [settle, settleSource_eq, settleOutput_eq]
  rfl

theorem topOf_le (inside : v.sourceTop ≤ v.lines.size) : v.topOf rows ≤ v.lines.size := by
  unfold topOf
  split
  · split
    · exact topFor_le_lastTop.trans (Nat.sub_le ..)
    · exact inside
  · exact inside

theorem topOf_eq {s : Snapshot} (shown : v.snapshot? = some s) (first : 0 < s.line)
    (last : s.line ≤ v.lines.size) :
    v.topOf rows = topFor s.line (v.rowFor rows) v.lines.size rows := by
  rw [topOf, shown]
  exact if_pos ⟨first, last⟩

theorem settleSource?_eq (some_rows : 0 < rows) :
    v.settleSource? rows = some (v.settleSource rows) := by
  rw [settleSource?, minus?_eq some_rows, settleSource_eq, topOf]
  dsimp only [Option.bind_eq_bind, Option.bind_some]
  split
  · split
    case isTrue within =>
      rw [topFor?_eq within.1]
      rfl
    case isFalse => rfl
  · rfl

theorem rowFor_lt (some_rows : 0 < rows) : v.rowFor rows < rows := by
  unfold rowFor
  omega

end

/-! ### One action -/

namespace Steady

variable {trace : Array Entry} {lines : Array String} {v : State}

theorem next_le (H : v.Steady trace lines) : v.position + 1 ≤ farthest := by
  have := H.position_le
  have := H.trace_fits
  have : 1 ≤ farthest := by decide
  omega

/-- A step forward keeps the counters, and is the same in words. -/
theorem forward (H : v.Steady trace lines) : v.forward.Steady trace lines ∧ v.forward? = some v.forward := by
  constructor
  · unfold State.forward
    split
    case isTrue more =>
      exact { H with position_le := Nat.le_sub_one_of_lt more, outputTop_le := Nat.le_refl _ }
    case isFalse => exact H
  · rw [forward?, plus?_eq H.next_le]
    rfl

theorem backward (H : v.Steady trace lines) : v.backward.Steady trace lines :=
  { H with position_le := (Nat.sub_le ..).trans H.position_le }

theorem scrollUp (H : v.Steady trace lines) : v.scrollUp.Steady trace lines := by
  unfold State.scrollUp
  split
  case h_1 =>
    refine { H with anchor_le := fun row hrow => ?_ }
    obtain ⟨_, -, rfl⟩ := Option.map_eq_some_iff.1 hrow
    exact Nat.min_le_right ..
  case h_2 => exact { H with localsTop_le := (Nat.sub_le ..).trans H.localsTop_le }
  case h_3 => exact { H with outputTop_le := (Nat.sub_le ..).trans H.outputTop_le }

theorem scrollDown (H : v.Steady trace lines) : v.scrollDown.Steady trace lines := by
  unfold State.scrollDown
  split
  case h_1 =>
    refine { H with anchor_le := fun row hrow => ?_ }
    obtain ⟨above, habove, rfl⟩ := Option.map_eq_some_iff.1 hrow
    exact (Nat.sub_le ..).trans (H.anchor_le above habove)
  case h_2 => exact { H with localsTop_le := Nat.min_le_right .. }
  case h_3 => exact { H with outputTop_le := Nat.min_le_right .. }

/-- Keys and drawings do not tell states apart by whether the viewer plays. -/
theorem played (H : v.Steady trace lines) (playing : Bool) : ({ v with playing } : State).Steady trace lines := { H with }

theorem press (H : v.Steady trace lines) (k : Key) : (v.press k).Steady trace lines ∧ v.press? k = some (v.press k) := by
  cases k with
  | right => exact (H.played false).forward
  | left => exact ⟨(H.played false).backward, rfl⟩
  | home => exact ⟨{ H.played false with position_le := Nat.zero_le _ }, rfl⟩
  | end_ => exact ⟨{ H.played false with position_le := Nat.le_refl _ }, rfl⟩
  | up => exact ⟨H.scrollUp, rfl⟩
  | down => exact ⟨H.scrollDown, rfl⟩
  | tab | escape => exact ⟨{ H with }, rfl⟩
  | enter => exact ⟨H, rfl⟩
  | char c =>
    refine ⟨?_, rfl⟩
    unfold State.press
    split <;> first | exact H | exact { H with } | contradiction

theorem settle (H : v.Steady trace lines) {size : Size} (fits : size.height ≤ farthest) :
    (v.settle size).Steady trace lines ∧ v.settle? size = some (v.settle size) := by
  constructor
  · rw [settle_eq]
    refine { H with
      sourceTop_le := topOf_le H.sourceTop_le, anchor_le := ?_, localsTop_le := ?_,
      outputTop_le := ?_ }
    · rintro _ ⟨⟩
      have := rowFor_lt (v := v) (visibleRows_pos size.sourceHeight)
      have : size.sourceHeight ≤ size.bodyHeight := share_le (by decide) _
      have : size.bodyHeight = size.height - 1 := rfl
      unfold visibleRows at *
      omega
    · exact (Nat.min_le_left ..).trans H.localsTop_le
    · show v.outputTopOf _ ≤ _
      unfold outputTopOf
      split
      · exact H.outputTop_le
      · exact (Nat.min_le_left ..).trans H.outputTop_le
  · rw [State.settle?, plus?_eq H.next_le, settleSource?_eq (visibleRows_pos _)]
    rfl

/-- An action keeps the counters, and is the same in words. -/
theorem act (H : v.Steady trace lines) {a : Action} (fits : a.Fits) :
    (v.act a).Steady trace lines ∧ v.act? a = some (v.act a) := by
  cases a with
  | press k => exact H.press k
  | draw size => exact H.settle fits

/-- So does a sequence of actions. -/
theorem after (H : v.Steady trace lines) {actions : List Action} (fit : ∀ a ∈ actions, a.Fits) :
    (v.after actions).Steady trace lines ∧ v.after? actions = some (v.after actions) := by
  induction actions generalizing v with
  | nil => exact ⟨H, rfl⟩
  | cons a actions ih =>
    obtain ⟨fits, fit⟩ := List.forall_mem_cons.1 fit
    obtain ⟨next, words⟩ := H.act fits
    rw [State.after?, List.foldlM_cons, words]
    exact ih next fit

end Steady

/-- The viewer starts with its counters in their bounds. -/
theorem steady_start {trace : Trace} {source : String} (trace_fits : trace.length ≤ farthest)
    (lines_fit : (Text.lines source).length ≤ farthest) :
    (start trace source).Steady trace.toArray (Text.lines source).toArray where
  trace_eq := rfl
  lines_eq := rfl
  trace_fits := trace_fits
  lines_fit := lines_fit
  position_le := Nat.zero_le _
  sourceTop_le := Nat.zero_le _
  anchor_le := nofun
  localsTop_le := Nat.zero_le _
  outputTop_le := Nat.zero_le _

/-! ### A screen that has been drawn -/

section

variable {v : State} {size : Size}

/-- The numbers of the lines that are shown. -/
theorem map_snd_shownLines (rows : Nat) : (v.shownLines rows).map Prod.snd =
    ((List.range' 1 v.lines.size).drop v.sourceTop).take rows := by
  rw [shownLines, List.map_take, List.map_drop, List.zipIdx_map_snd, Array.length_toList]

/-- A line has one number, so it is shown once at most. -/
theorem countP_shownLines {rows line : Nat} (first : 0 < line) (last : line ≤ v.lines.size)
    (above : v.sourceTop ≤ line - 1) (below : line - 1 < v.sourceTop + rows) :
    (v.shownLines rows).countP (·.2 == line) = 1 := by
  have numbers := map_snd_shownLines (v := v) rows
  have distinct : ((v.shownLines rows).map Prod.snd).Nodup := by
    rw [numbers]
    exact (List.nodup_range').sublist ((List.take_sublist ..).trans (List.drop_sublist ..))
  have shown : line ∈ (v.shownLines rows).map Prod.snd := by
    rw [numbers, List.mem_take_iff_getElem]
    refine ⟨line - 1 - v.sourceTop, ?_, ?_⟩
    · rw [List.length_drop, List.length_range']
      omega
    · rw [List.getElem_drop, List.getElem_range']
      omega
  have once := List.count_eq_one_of_mem distinct shown
  rwa [List.count, List.countP_map] at once

/-- The number of marked rows is that of the shown lines that run. -/
theorem countP_isMarked (wide : 3 ≤ size.leftWidth) (tall : 3 ≤ size.sourceHeight) :
    (v.sourceRows size).countP Row.isMarked =
      (v.shownLines (size.sourceHeight - 2)).countP (·.2 == v.currentLine) := by
  obtain ⟨below, marks⟩ := map_isMarked_sourceRows size v wide tall
  have count := congrArg (List.countP id) marks
  rwa [List.countP_map, List.countP_append, List.countP_map, List.countP_replicate,
    if_neg (by decide)] at count

theorem outputItems_ne_nil (some_output :
    (∃ text, v.printed? = some text ∧ text ≠ "") ∨ (∃ error, v.error? = some error)) :
    v.outputItems.length ≠ 0 := by
  unfold outputItems
  obtain ⟨text, printed, filled⟩ | ⟨error, failed⟩ := some_output
  · have := lines_ne_nil filled
    rw [printed]
    simp [this]
  · rw [failed]
    simp

/-- A screen that has been drawn shows the line that runs. -/
theorem settle_inView : (v.settle size).InView size := by
  have shows (s : Snapshot) (shown : v.snapshot? = some s) (first : 0 < s.line)
      (last : s.line ≤ v.lines.size) :
      v.topOf (visibleRows size.sourceHeight) ≤ s.line - 1 ∧
        s.line - 1 < v.topOf (visibleRows size.sourceHeight) + visibleRows size.sourceHeight := by
    rw [topOf_eq shown first last]
    exact topFor_shows first last (rowFor_lt (visibleRows_pos size.sourceHeight))
  rw [settle_eq]
  refine ⟨shows, fun s shown first last => ?_, fun s shown first last wide tall => ?_,
    Nat.min_le_right .., fun some_output => ?_⟩
  · show v.topOf _ ≤ _
    rw [topOf_eq (v := v) shown first last]
    exact topFor_le_lastTop
  · have visible : visibleRows size.sourceHeight = size.sourceHeight - 2 := by
      unfold visibleRows
      omega
    have current := shows s shown first last
    rw [visible] at current
    rw [countP_isMarked wide tall, show State.currentLine _ = s.line by rw [State.currentLine, shown],
      visible]
    exact countP_shownLines first last current.1 current.2
  · show v.outputTopOf _ ≤ _
    rw [outputTopOf, if_neg (outputItems_ne_nil (v := v) some_output)]
    exact Nat.min_le_right ..

end

end State

/-- Whatever keys are pressed and whatever screens are drawn, no counter leaves the words, the
viewer stays in its trace, and when it is drawn next it shows the line that runs. -/
theorem viewer_shows_step {trace : Trace} {source : String} {actions : List Action}
    (trace_fits : trace.length ≤ farthest) (lines_fit : (Text.lines source).length ≤ farthest)
    (screens_fit : ∀ a ∈ actions, a.Fits) :
    ∃ v, v = (State.start trace source).after actions ∧
      (State.start trace source).after? actions = some v ∧
      v.Steady trace.toArray (Text.lines source).toArray ∧
      (v.position < trace.length ∨ trace = [] ∧ v.position = 0) ∧
      ∀ size, (v.act (.draw size)).InView size := by
  obtain ⟨steady, words⟩ := (State.steady_start trace_fits lines_fit).after screens_fit
  refine ⟨_, rfl, words, steady, ?_, fun _ => State.settle_inView⟩
  have inside := steady.position_le
  rw [steady.trace_eq] at inside
  cases trace with
  | nil => exact .inr ⟨rfl, Nat.le_zero.1 inside⟩
  | cons entry entries => exact .inl (Nat.lt_succ_of_le inside)

/-- The second step of a short run, after keys that scroll the source away from it. -/
theorem viewer_shows_step_two :
    let first : Snapshot := ⟨1, "<module>", ⟨[], by decide⟩, ⟨[], by decide⟩, none, 0, none⟩
    let trace : Trace := [.step .line first, .step .line { first with line := 2 }, .print "1"]
    let actions := [.draw ⟨100, 21⟩, .press .right, .press .down, .press .right, .press .right]
    let v := (State.start trace "x = 1\nprint(x)\n").after actions
    trace.length ≤ farthest ∧ (Text.lines "x = 1\nprint(x)\n").length ≤ farthest ∧
      (∀ a ∈ actions, a.Fits) ∧ v.position < trace.length ∧
      ((v.act (.draw ⟨100, 21⟩)).sourceRows ⟨100, 21⟩).countP Row.isMarked = 1 := by
  intro first trace actions v
  have lines : (Text.lines "x = 1\nprint(x)\n") = ["x = 1", "print(x)"] := by decide +kernel
  have trace_fits : trace.length ≤ farthest := by decide
  have lines_fit : (Text.lines "x = 1\nprint(x)\n").length ≤ farthest := by
    rw [lines]
    decide
  have fits : ∀ a ∈ actions, a.Fits := by simp [actions, Action.Fits, farthest]
  obtain ⟨w, hw, -, steady, inside, shown⟩ := viewer_shows_step trace_fits lines_fit fits
  change w = v at hw
  subst hw
  refine ⟨trace_fits, lines_fit, fits, inside.resolve_right (by simp [trace]), ?_⟩
  have drawn : v.act (.draw ⟨100, 21⟩) = v.settle ⟨100, 21⟩ := rfl
  have snapshot : v.snapshot? = some { first with line := 2 } := by
    simp only [v, actions, State.after, List.foldl_cons, List.foldl_nil, State.act,
      State.settle_eq]
    rfl
  have two_lines : v.lines.size = 2 := by
    rw [steady.lines_eq, List.size_toArray, lines]
    rfl
  clear_value v
  have shown := (shown ⟨100, 21⟩).one_marked { first with line := 2 }
  rw [drawn, State.settle_eq] at shown ⊢
  exact shown snapshot (by decide) two_lines.ge (by decide) (by decide)

end Stepwise.Viewer
