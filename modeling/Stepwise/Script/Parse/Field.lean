import Stepwise.Script.Parse.Cursor

/-!
# Fields of f-strings

Splits the text of an f-string into plain text and replacement fields; how the expression of a
field is read is a parameter.

## The model

A doubled brace stands for one. A field runs to the brace that closes it; brackets nest, and
quotes hide what is between them. The first `:` outside brackets ends the expression and starts the
format; a `!` there, unless `=` follows, ends it too and is followed by one conversion letter.
-/

namespace Stepwise.Script

open Stepwise.Text

/-- A field of an f-string whose expression is still text. -/
structure RawField where
  /-- The text of the expression. -/
  value : List Char
  /-- The conversion letter. -/
  conversion : Option Char
  /-- The format. -/
  spec : Option (List Char)
  deriving Repr

/-- What is being read of a field. -/
inductive FieldState where
  /-- The expression. -/
  | value
  /-- What stands between a conversion and the end; it is not used. -/
  | skipped
  /-- The format. -/
  | spec
  deriving DecidableEq, Repr

/-- A field in the making: its pieces are in reverse. -/
structure OpenField where
  /-- What is being read. -/
  state : FieldState
  /-- The expression. -/
  value : List Char
  /-- The conversion letter. -/
  conversion : Option Char
  /-- The format. -/
  spec : List Char
  /-- The number of open brackets. -/
  depth : Nat
  /-- The quote of the string being skipped. -/
  quote : Option Char

namespace OpenField

/-- A field of which nothing has been read. -/
def start : OpenField := ⟨.value, [], none, [], 0, none⟩

/-- Adds a character to the piece being read. -/
def add (f : OpenField) (c : Char) : OpenField :=
  match f.state with
  | .value => { f with value := c :: f.value }
  | .spec => { f with spec := c :: f.spec }
  | .skipped => f

/-- The finished field. -/
def close (f : OpenField) : RawField :=
  ⟨f.value.reverse, f.conversion, if f.state = .spec then some f.spec.reverse else none⟩

/-- Reads up to the closing brace: the field and what follows it. -/
def read : OpenField → List Char → Except ParseProblem (RawField × List Char)
  | _, [] => .error .fieldUnclosed
  | f, c :: cs =>
    match f.quote with
    | some q => read ({ f with quote := if c = q then none else some q }.add c) cs
    | none =>
      if c = '\'' ∨ c = '"' then read ({ f with quote := some c }.add c) cs
      else if c = '(' ∨ c = '[' ∨ c = '\x7b' then read ({ f with depth := f.depth + 1 }.add c) cs
      else if c = ')' ∨ c = ']' then read ({ f with depth := f.depth - 1 }.add c) cs
      else if c = '\x7d' then
        if f.depth = 0 then .ok (f.close, cs)
        else read ({ f with depth := f.depth - 1 }.add c) cs
      else if f.depth = 0 ∧ f.state = .value ∧ c = '!' ∧ cs.head? ≠ some '=' then
        match cs with
        | [] => .error .fieldUnclosed
        | [_] => .error .fieldUnclosed
        | conv :: ':' :: cs => read { f with state := .spec, conversion := some conv } cs
        | conv :: d :: cs => read { f with state := .skipped, conversion := some conv } (d :: cs)
      else if f.depth = 0 ∧ f.state = .value ∧ c = ':' then read { f with state := .spec } cs
      else read (f.add c) cs

end OpenField

/-- Puts a piece of text, in reverse, in front of others, unless it is empty. -/
def withText (text : List Char) (parts : List FieldPart) : List FieldPart :=
  if text.isEmpty then parts else .text (String.ofList text.reverse) :: parts

/-- The piece that a field stands for, its expression read by `readExpr`. -/
def RawField.toPart (readExpr : List Char → Except ParseProblem Expr) (f : RawField) :
    Except ParseProblem FieldPart :=
  if f.value.all isSpace then .error .fieldEmpty
  else match readExpr f.value with
    | .ok e => .ok (.field e f.conversion (f.spec.map String.ofList))
    | .error p => .error (.inField p)

/-- The pieces of an f-string, in order; `text` holds the plain text just read, in reverse. At most
`fuel` steps, one for each character. -/
def splitFields (readExpr : List Char → Except ParseProblem Expr) :
    (fuel : Nat) → (text cs : List Char) → Except ParseProblem (List FieldPart)
  | 0, text, _ => .ok (withText text [])
  | _ + 1, text, [] => .ok (withText text [])
  | fuel + 1, text, c :: cs =>
    if c = '\x7b' then
      match cs with
      | '\x7b' :: cs => splitFields readExpr fuel ('\x7b' :: text) cs
      | cs => do
        let (field, rest) ← OpenField.start.read cs
        let part ← field.toPart readExpr
        let parts ← splitFields readExpr fuel [] rest
        .ok (withText text (part :: parts))
    else if c = '\x7d' then
      match cs with
      | '\x7d' :: cs => splitFields readExpr fuel ('\x7d' :: text) cs
      | _ => .error .fieldLoneBrace
    else splitFields readExpr fuel (c :: text) cs

/-- Adds text behind some pieces; it goes into the last piece if that is text. -/
def addText (parts : List FieldPart) (s : String) : List FieldPart :=
  match parts with
  | [.text t] => [.text (t ++ s)]
  | [] => [.text s]
  | p :: ps => p :: addText ps s

/-- Adds pieces behind others. -/
def addParts (parts more : List FieldPart) : List FieldPart :=
  more.foldl (fun parts p => match p with
    | .text s => addText parts s
    | field => parts ++ [field]) parts

/-- The text of pieces that are all text. -/
def plainText (parts : List FieldPart) : String :=
  String.join (parts.map fun
    | .text s => s
    | .field _ _ _ => "")

end Stepwise.Script
