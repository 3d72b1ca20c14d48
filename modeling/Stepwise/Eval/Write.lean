import Stepwise.Eval.Index
import Stepwise.Format.Spec
import Stepwise.Format.Template
import Stepwise.Number.Real

/-!
# Formatting

Values written under a format specification, `%` templates and templates with fields.
-/

namespace Stepwise

open Script

variable {σ : Type} (r : Runner σ)

/-! ### One value -/

/-- An integer or truth value under a specification. -/
def writeInteger (s : Spec) (v : Value) (n : Int) : M σ String := do
  if Spec.isFloatKind s.kind then lift (s.ofFloat (← typeName v) (Decimal.ofInt n))
  else match v, s.kind with
    | .bool _, none => return s.pad true (← r.str v)
    | _, _ => lift (s.ofInteger (← typeName v) n)

/-- A value under a specification. -/
def writeSpec (s : Spec) (v : Value) : M σ String := do
  match v with
  | .str text => lift (s.ofText text)
  | .int n => writeInteger r s v n
  | .bool b => writeInteger r s v (if b then 1 else 0)
  | .float x => lift (s.ofFloat (← typeName v) x)
  | v =>
    if s.kind = none ∨ s.kind = some 's' then return s.pad false (← r.str v)
    else fail (.value (.formatCode (s.kind.getD ' ') (← typeName v)))

/-- A value under the specification that a text gives. -/
def write (spec : List Char) (v : Value) : M σ String := do
  if spec.isEmpty then r.str v
  else match Spec.parse? spec with
    | some s => writeSpec r s v
    | none => fail (.value .formatSpec)

/-- A value in a replacement field. -/
def writeField (v : Value) (conversion : Option Char) (spec : String) : M σ String := do
  match conversion with
  | none => write r spec.toList v
  | some c =>
    if c = 'r' ∨ c = 'a' then write r spec.toList (.str (← r.repr v))
    else if c = 's' then write r spec.toList (.str (← r.str v))
    else fail (.value (.conversion c))

/-! ### Directives -/

/-- A value under a `%s` or `%r` directive. -/
def writeText (d : Directive) (v : Value) : M σ String := do
  let text ← if d.kind = 's' then r.str v else r.repr v
  let cut := match d.precision.bind index? with
    | some n => String.ofList (text.toList.take n)
    | none => text
  write r ((if d.flags.contains '-' then '<' else '>') :: d.width) (.str cut)

/-- A value under a directive for integers. -/
def writeWhole (d : Directive) (v : Value) : M σ String := do
  let letter := if d.kind = 'i' ∨ d.kind = 'u' then 'd' else d.kind
  let number (n : Value) : M σ String := write r (d.spec ++ [letter]) n
  match v with
  | .float x => number (.int (← lift (floatToInt x)))
  | .int _ | .bool _ => number v
  | .str s => if d.kind = 'c' then return s else failType (.percentNumber d.kind) v
  | v => failType (.percentNumber d.kind) v

/-- A value under a directive for doubles. -/
def writeReal (d : Directive) (v : Value) : M σ String := do
  match v.asFloat? with
  | none => failType .notReal v
  | some x =>
    let digits := d.precision.getD ['6']
    let digits := if digits.isEmpty then ['0'] else digits
    write r (d.spec ++ '.' :: digits ++ [d.kind]) (.float x)

/-- A value under a directive. -/
def writeDirective (d : Directive) (v : Value) : M σ String :=
  if d.kind ∈ ['s', 'r'] then writeText r d v
  else if d.kind ∈ ['d', 'i', 'u', 'x', 'X', 'o', 'c'] then writeWhole r d v
  else if d.kind ∈ ['f', 'F', 'e', 'E', 'g', 'G'] then writeReal r d v
  else fail (.value (.percentCharacter d.kind))

/-- The pieces of a `%` template with values put into their places. -/
def fillPercent : List PercentPiece → List Value → M σ (List String)
  | [], [] => return []
  | [], _ => fail (.type .manyFormatArguments)
  | .char c :: ps, vs => return c.toString :: (← fillPercent ps vs)
  | .incomplete :: _, _ => fail (.value .incompleteFormat)
  | .directive _ :: _, [] => fail (.type .fewFormatArguments)
  | .directive d :: ps, v :: vs => do
    let text ← writeDirective r d v
    return text :: (← fillPercent ps vs)

/-- `template % args`. -/
def percentFormat (template : String) (args : Value) : M σ String := do
  let values := match args with
    | .tuple _ items => items
    | v => [v]
  return String.join (← fillPercent r (percentPieces template) values)

/-! ### Fields -/

/-- Goes from a value to a part of it. -/
def follow (v : Value) : Accessor → M σ Value
  | .attr name => getAttribute v name
  | .item index => getItem r v index
  | .unclosed => fail (.value .unclosedIndex)
  | .stray => fail (.value .accessor)

/-- How fields without and with numbers have been used so far. -/
structure Numbering where
  /-- The number of fields without a number. -/
  next : Nat
  /-- Whether a field had a number. -/
  manual : Bool

/-- The positional argument for a field. -/
def positional (args : List Value) (n : Nat) : M σ Value :=
  match args[n]? with
  | some v => return v
  | none => fail (.index (.field n))

/-- The value that a field starts from. -/
def fieldValue (args : List Value) (keywords : Keywords) (n : Numbering) :
    FieldSource → M σ (Value × Numbering)
  | .next =>
    if n.manual then fail (.value .toAutomatic)
    else return (← positional args n.next, { n with next := n.next + 1 })
  | .position i =>
    if n.next > 0 then fail (.value .toManual)
    else return (← positional args i, { n with manual := true })
  | .keyword name =>
    match keywords.lookup name with
    | some v => return (v, n)
    | none => fail (.key (Text.literal name) (.str name))

/-- The pieces of a template with values put into its fields. -/
def fillTemplate (args : List Value) (keywords : Keywords) :
    Numbering → List TemplatePiece → M σ (List String)
  | _, [] => return []
  | n, .char c :: ps => return c.toString :: (← fillTemplate args keywords n ps)
  | _, .loneClosing :: _ => fail (.value .loneClosing)
  | _, .loneOpening :: _ => fail (.value .loneOpening)
  | n, .field f :: ps => do
    let (v, n) ← fieldValue args keywords n f.source
    let v ← f.path.foldlM (follow r) v
    let text ← writeField r v f.conversion f.spec
    return text :: (← fillTemplate args keywords n ps)

/-- `template.format(*args, **keywords)`. -/
def formatTemplate (template : String) (args : List Value) (keywords : Keywords) : M σ String := do
  return String.join (← fillTemplate r args keywords ⟨0, false⟩ (templatePieces template))

end Stepwise
