import Stepwise.Text.Cut
import Stepwise.Trace.Entry

/-!
# The viewer

Going through a trace step by step: which entry is shown, which pane takes the keys, and how far
each pane is scrolled.
-/

namespace Stepwise.Viewer

/-- A pane that takes keys. -/
inductive Pane where
  | source | locals | output
  deriving DecidableEq, Repr

namespace Pane

/-- The name of a pane. -/
def name : Pane → String
  | source => "source"
  | locals => "locals"
  | output => "output"

/-- The pane behind another one, in a circle. -/
def next : Pane → Pane
  | source => locals
  | locals => output
  | output => source

end Pane

/-- A key. -/
inductive Key where
  | left | right | up | down | home | end_ | tab | escape | enter
  | char (c : Char)
  deriving DecidableEq

/-- The key with a name; a text that names no key stands for its first character. -/
def Key.named? (name : String) : Option Key :=
  match name with
  | "left" => some .left
  | "right" => some .right
  | "up" => some .up
  | "down" => some .down
  | "home" => some .home
  | "end" => some .end_
  | "tab" => some .tab
  | "esc" => some .escape
  | "enter" => some .enter
  | name => name.toList.head?.map .char

/-- The largest scroll position: the end of whatever is shown. -/
def farthest : Nat := 0xffffffffffffffff

/-- What the viewer remembers. -/
structure State where
  /-- The trace. -/
  trace : Array Entry
  /-- The lines of the script. -/
  lines : Array String
  /-- The number of the entry that is shown. -/
  position : Nat
  /-- The pane that takes the keys. -/
  focus : Pane
  /-- The number of source lines above the first one shown. -/
  sourceTop : Nat
  /-- The row of the line that runs, once the source has been drawn. -/
  anchor : Option Nat
  /-- The number of variables above the first one shown. -/
  localsTop : Nat
  /-- The number of lines of output above the first one shown. -/
  outputTop : Nat
  /-- Whether the viewer is to be closed. -/
  quit : Bool
  /-- Whether the steps go on by themselves. -/
  playing : Bool

namespace State

/-- The viewer at the start of a trace. -/
def start (trace : Trace) (source : String) : State :=
  ⟨trace.toArray, (Text.lines source).toArray, 0, .source, 0, none, 0, 0, false, false⟩

/-- The entry that is shown. -/
def entry? (v : State) : Option Entry := v.trace[v.position]?

/-- The last frame up to the entry that is shown. -/
def snapshot? (v : State) : Option Snapshot :=
  ((v.trace.toList.take (v.position + 1)).reverse).findSome? Entry.snapshot?

/-- What was printed, as far as it has been reached. -/
def printed? (v : State) : Option String :=
  ((v.trace.toList.take (v.position + 1)).reverse).findSome? fun e =>
    match e with
    | .print output => some output
    | _ => none

/-- The error that ended the run, if it has been reached. -/
def error? (v : State) : Option String :=
  ((v.trace.toList.take (v.position + 1)).reverse).findSome? fun e =>
    match e with
    | .exception error => some error
    | _ => none

/-- Whether the entry that is shown is an error. -/
def isAtError (v : State) : Bool :=
  match v.entry? with
  | some (.exception _) => true
  | _ => false

/-! ### Keys -/

/-- One entry further; the output is scrolled to its end. -/
def forward (v : State) : State :=
  if v.position + 1 < v.trace.size then
    { v with position := v.position + 1, outputTop := farthest }
  else v

/-- One entry back. -/
def backward (v : State) : State := { v with position := v.position - 1 }

/-- Scrolls the pane that takes the keys by one line towards its start. The source is not scrolled
itself: the line that runs is moved to another row. -/
def scrollUp (v : State) : State :=
  match v.focus with
  | .source => { v with anchor := v.anchor.map fun row => min (row + 1) farthest }
  | .locals => { v with localsTop := v.localsTop - 1 }
  | .output => { v with outputTop := v.outputTop - 1 }

/-- Scrolls the pane that takes the keys by one line towards its end. -/
def scrollDown (v : State) : State :=
  match v.focus with
  | .source => { v with anchor := v.anchor.map (· - 1) }
  | .locals => { v with localsTop := min (v.localsTop + 1) farthest }
  | .output => { v with outputTop := min (v.outputTop + 1) farthest }

/-- What a key does. A step by hand ends the play. -/
def press (v : State) (k : Key) : State :=
  match k with
  | .escape | .char 'q' | .char 'Q' => { v with quit := true }
  | .tab => { v with focus := v.focus.next }
  | .left => { v with playing := false }.backward
  | .right => { v with playing := false }.forward
  | .home => { v with playing := false, position := 0 }
  | .end_ => { v with playing := false, position := v.trace.size - 1 }
  | .up => v.scrollUp
  | .down => v.scrollDown
  | .char ' ' => { v with playing := !v.playing }
  | .enter | .char _ => v

end State

end Stepwise.Viewer
