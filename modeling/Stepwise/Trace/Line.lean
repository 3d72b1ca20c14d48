import Stepwise.Script.Parse.Stmt
import Stepwise.Text.Cut
import Stepwise.Trace.Entry

/-!
# Source lines

What a trace makes of the lines of a program. It starts on a line that does something: one of a
statement outside of functions and classes, except for definitions, imports and strings that stand
alone. Of the text of a line only the first word counts, so `if x: y = 1` is conditional, and
`elsewhere = 1` is not.
-/

namespace Stepwise

open Script Text

/-! ### Where a trace starts -/

/-- Puts a number into an increasing list, unless it is there. -/
def insertLine (n : Nat) : List Nat → List Nat
  | [] => [n]
  | m :: ms => if n < m then n :: m :: ms else if n = m then m :: ms else m :: insertLine n ms

/-- The lines that a statement covers. -/
def linesOf (s : Stmt) : List Nat := List.range' s.line (max s.endLine s.line + 1 - s.line)

/-- The lines of a program on which a trace may start, in increasing order. -/
def mainLines (p : Program) : List Nat :=
  let statements := p.filter fun s => !s.isDefinition && !s.isDocstring
  (statements.flatMap linesOf).foldl (fun lines n => insertLine n lines) []

/-- The first line on which a trace may start. -/
def startLine (lines : List Nat) : Nat := lines.head?.getD 1

/-- The main lines of a source text. -/
def mainLinesOf (source : String) : Except ParseError (List Nat) :=
  (parseProgram source).map mainLines

/-! ### What kind of line it is -/

/-- The first word of a line: letters, digits and underscores. -/
def firstWord (line : List Char) : List Char :=
  line.takeWhile fun c => isAlphanumeric c || c = '_'

/-- The scope of a line at an event. -/
def scopeOf (line : String) (kind : EventKind) : Option LineScope :=
  let word := String.ofList (firstWord (trim line).toList)
  if word = "for" ∨ word = "while" then some .loop
  else if word = "if" ∨ word = "elif" ∨ word = "else" then some .conditional
  else if kind = .call then some .function
  else none

/-- What decides about the body of a conditional line. -/
inductive Condition where
  /-- Nothing: the line is `else`. -/
  | always
  /-- The expression with this text. -/
  | test (text : String)
  deriving DecidableEq

/-- A text without a colon at its end. -/
def dropColon (cs : List Char) : List Char :=
  match cs.getLast? with
  | some ':' => cs.dropLast
  | _ => cs

/-- The condition of a line. -/
def conditionOf? (line : String) : Option Condition :=
  let cs := (trim line).toList
  let word := firstWord cs
  if word = "else".toList then some .always
  else if word = "if".toList ∨ word = "elif".toList then
    let test := (trim (String.ofList (cs.drop word.length))).toList
    let test := stripEnd isSpace (dropColon test)
    if test.isEmpty then none else some (.test (String.ofList test))
  else none

end Stepwise
