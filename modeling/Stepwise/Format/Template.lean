import Stepwise.Heap.Value
import Stepwise.Number.Literal
import Stepwise.Text.Cut

/-!
# Templates

Texts with places for values, in both spellings: `%` directives and fields in braces. Reading a
template gives its pieces in order; a piece may be something that is wrong with it, which counts
when filling in comes to it.
-/

namespace Stepwise

open Text

/-! ### Directives -/

/-- A directive `%[flags][width][.precision]kind`. -/
structure Directive where
  /-- The flags, as written. -/
  flags : List Char
  /-- The digits of the width. -/
  width : List Char
  /-- The digits of the precision, if there is a point. -/
  precision : Option (List Char)
  /-- The letter of the notation. -/
  kind : Char

/-- A piece of a `%` template. -/
inductive PercentPiece where
  | char (c : Char)
  | directive (d : Directive)
  /-- A directive without its letter. -/
  | incomplete

/-- The characters that may come before the width. -/
def isPercentFlag (c : Char) : Bool :=
  c = '-' || c = '+' || c = ' ' || c = '0' || c = '#'

/-- Reads what follows a percent sign. -/
def directive (cs : List Char) : PercentPiece × List Char :=
  let flags := cs.takeWhile isPercentFlag
  let cs := cs.dropWhile isPercentFlag
  let width := cs.takeWhile Char.isDigit
  let cs := cs.dropWhile Char.isDigit
  let (precision, cs) := match cs with
    | '.' :: rest => (some (rest.takeWhile Char.isDigit), rest.dropWhile Char.isDigit)
    | _ => (none, cs)
  match cs with
  | [] => (.incomplete, [])
  | '%' :: rest => (.char '%', rest)
  | kind :: rest => (.directive ⟨flags, width, precision, kind⟩, rest)

/-- The pieces of a `%` template, at most `fuel` of them. -/
def percentPiecesFrom : (fuel : Nat) → List Char → List PercentPiece
  | 0, _ | _, [] => []
  | fuel + 1, c :: cs =>
    if c = '%' then
      let (piece, rest) := directive cs
      piece :: percentPiecesFrom fuel rest
    else .char c :: percentPiecesFrom fuel cs

/-- The pieces of a `%` template. -/
def percentPieces (template : String) : List PercentPiece :=
  percentPiecesFrom template.length template.toList

/-- The format specification of a directive for numbers, without its precision and letter. -/
def Directive.spec (d : Directive) : List Char :=
  let left := d.flags.contains '-'
  (if left then ['<'] else [])
    ++ (if d.flags.contains '+' then ['+'] else if d.flags.contains ' ' then [' '] else [])
    ++ (if d.flags.contains '#' then ['#'] else [])
    ++ (if d.flags.contains '0' && !left then ['0'] else [])
    ++ d.width

/-! ### Fields -/

/-- Where the value of a field comes from. -/
inductive FieldSource where
  /-- The next positional argument. -/
  | next
  | position (index : Nat)
  | keyword (name : String)

/-- A step from a value to a part of it. -/
inductive Accessor where
  | attr (name : String)
  | item (index : Value)
  /-- A bracket that is not closed. -/
  | unclosed
  /-- Something behind a closing bracket that starts no step. -/
  | stray

/-- A field `{source accessors !conversion :spec}`. -/
structure Field where
  /-- Where the value comes from. -/
  source : FieldSource
  /-- The way from there to the value that is written. -/
  path : List Accessor
  /-- `r`, `s` or `a`. -/
  conversion : Option Char
  /-- The format specification. -/
  spec : String

/-- A piece of a template with fields. -/
inductive TemplatePiece where
  | char (c : Char)
  | field (f : Field)
  | loneClosing
  | loneOpening

/-- The number that digits stand for, if it is below `2 ^ 64`; a plus sign may come first. -/
def index? (cs : List Char) : Option Nat :=
  let ds := match cs with
    | '+' :: ds => ds
    | ds => ds
  let n := natOfDigits 10 ds
  if ds.isEmpty || !ds.all Char.isDigit || n ≥ 0x10000000000000000 then none else some n

/-- What stands between brackets: an integer, or else a string. -/
def itemKey (cs : List Char) : Value :=
  match signedDigits? 10 cs with
  | some n => if fits n then .int n else .str (String.ofList cs)
  | none => .str (String.ofList cs)

/-- The characters that start a step. -/
def startsAccessor (c : Char) : Bool := c = '.' || c = '['

/-- The steps that a text describes, at most `fuel` of them. -/
def accessorsFrom : (fuel : Nat) → List Char → List Accessor
  | 0, _ | _, [] => []
  | fuel + 1, c :: cs =>
    if c = '.' then
      .attr (String.ofList (cs.takeWhile (!startsAccessor ·)))
        :: accessorsFrom fuel (cs.dropWhile (!startsAccessor ·))
    else if c = '[' then
      match cut? [']'] cs with
      | none => [.unclosed]
      | some (key, rest) => .item (itemKey key) :: accessorsFrom fuel rest
    else [.stray]

/-- The field between two braces. -/
def field (cs : List Char) : Field :=
  let (body, spec) := (cut? [':'] cs).getD (cs, [])
  let (name, conversion) := match cut? ['!'] body with
    | some (name, rest) => (name, rest.head?)
    | none => (body, none)
  let head := name.takeWhile (!startsAccessor ·)
  let source := if head.isEmpty then .next
    else match index? head with
      | some n => .position n
      | none => .keyword (String.ofList head)
  let path := name.dropWhile (!startsAccessor ·)
  ⟨source, accessorsFrom path.length path, conversion, String.ofList spec⟩

/-- The pieces of a template with fields, at most `fuel` of them. -/
def templatePiecesFrom : (fuel : Nat) → List Char → List TemplatePiece
  | 0, _ | _, [] => []
  | fuel + 1, '\x7b' :: '\x7b' :: cs => .char '\x7b' :: templatePiecesFrom fuel cs
  | fuel + 1, '\x7d' :: '\x7d' :: cs => .char '\x7d' :: templatePiecesFrom fuel cs
  | fuel + 1, c :: cs =>
    if c = '\x7d' then [.loneClosing]
    else if c = '\x7b' then
      match cut? ['\x7d'] cs with
      | none => [.loneOpening]
      | some (body, rest) => .field (field body) :: templatePiecesFrom fuel rest
    else .char c :: templatePiecesFrom fuel cs

/-- The pieces of a template with fields. -/
def templatePieces (template : String) : List TemplatePiece :=
  templatePiecesFrom template.length template.toList

end Stepwise
