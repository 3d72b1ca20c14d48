import Stepwise.Decimal.Layout
import Stepwise.Fault.Basic

/-!
# Format specifications

`[[fill]align][sign][#][0][width][grouping][.precision][kind]`: how a value is written into a
text. This module reads specifications and applies them to texts, integers and doubles.
-/

namespace Stepwise

open Decimal Text

/-- A format specification. -/
structure Spec where
  /-- The character that fills up. -/
  fill : Option Char
  /-- On which side the value stands: `<`, `>`, `^`, or `=` with the filling behind the sign. -/
  align : Option Char
  /-- What is written before a number that is not negative. -/
  sign : Option Char
  /-- Whether base markers and zeros at the end are written. -/
  alternate : Bool
  /-- The least number of characters. -/
  width : Nat
  /-- What separates groups of three digits. -/
  grouping : Option Char
  /-- Digits of a number or characters of a text. -/
  precision : Option Nat
  /-- The letter of the notation. -/
  kind : Option Char

namespace Spec

/-- The letters of alignment. -/
def isAlign (c : Char) : Bool := c = '<' || c = '>' || c = '^' || c = '='

/-- Takes the first character off if it satisfies `p`. -/
def takeIf (p : Char → Bool) : List Char → Option Char × List Char
  | c :: cs => if p c then (some c, cs) else (none, c :: cs)
  | [] => (none, [])

/-- Takes fill and alignment off. -/
def takeAlign : List Char → Option Char × Option Char × List Char
  | f :: a :: cs =>
    if isAlign a then (some f, some a, cs)
    else if isAlign f then (none, some f, a :: cs)
    else (none, none, f :: a :: cs)
  | [a] => if isAlign a then (none, some a, []) else (none, none, [a])
  | [] => (none, none, [])

/-- Takes the precision off: a point and at least one digit. -/
def takePrecision : List Char → Option (Option Nat × List Char)
  | '.' :: cs =>
    let digits := cs.takeWhile Char.isDigit
    if digits.isEmpty then none
    else some (some (natOfDigits 10 digits), cs.dropWhile Char.isDigit)
  | cs => some (none, cs)

/-- The specification that a text stands for. A zero before the width fills up with zeros behind
the sign, unless an alignment is given. -/
def parse? (cs : List Char) : Option Spec := do
  let (fill, align, cs) := takeAlign cs
  let (sign, cs) := takeIf (fun c => c = '+' || c = '-' || c = ' ') cs
  let (hash, cs) := takeIf (· = '#') cs
  let (zero, cs) := takeIf (· = '0') cs
  let zeroFilled := zero.isSome && align.isNone
  let width := natOfDigits 10 (cs.takeWhile Char.isDigit)
  let (grouping, cs) := takeIf (fun c => c = ',' || c = '_') (cs.dropWhile Char.isDigit)
  let (precision, cs) ← takePrecision cs
  let (kind, cs) := takeIf (fun _ => true) cs
  if cs.isEmpty then
    some ⟨if zeroFilled then some '0' else fill, if zeroFilled then some '=' else align, sign,
      hash.isSome, width, grouping, precision, kind⟩
  else none

/-! ### Filling up -/

/-- How many characters the sign and base marker of a number take. -/
def signWidth (cs : List Char) : Nat :=
  let signs := (cs.takeWhile fun c => c = '+' || c = '-' || c = ' ').length
  let signs := if signs = cs.length then 0 else signs
  match cs.drop signs with
  | '0' :: c :: _ => if c = 'x' ∨ c = 'b' ∨ c = 'o' then signs + 2 else signs
  | _ => signs

/-- A written value filled up to the width; numbers stand on the right, texts on the left. -/
def pad (s : Spec) (numeric : Bool) (body : String) : String :=
  let cs := body.toList
  let gap := s.width - cs.length
  let filled (n : Nat) : List Char := List.replicate n (s.fill.getD ' ')
  String.ofList <|
    match s.align.getD (if numeric then '>' else '<') with
    | '<' => cs ++ filled gap
    | '^' => filled (gap / 2) ++ cs ++ filled (gap - gap / 2)
    | '=' => cs.take (signWidth cs) ++ filled gap ++ cs.drop (signWidth cs)
    | _ => filled gap ++ cs

/-- What stands before a number. -/
def signText (s : Spec) (negative : Bool) : String :=
  if negative then "-"
  else match s.sign with
    | some '+' => "+"
    | some ' ' => " "
    | _ => ""

/-- Digits with a separator between groups of three, counted from the right. -/
def groupDigits (sep : Char) : List Char → List Char
  | [] => []
  | [d] => [d]
  | d :: ds =>
    if ds.length % 3 = 0 then d :: sep :: groupDigits sep ds else d :: groupDigits sep ds

/-- A number with its leading digits in groups. -/
def grouped (s : Spec) (text : String) : String :=
  match s.grouping with
  | none => text
  | some sep =>
    let cs := text.toList
    String.ofList (groupDigits sep (cs.takeWhile Char.isDigit) ++ cs.dropWhile Char.isDigit)

/-! ### Texts -/

/-- A string under a specification. -/
def ofText (s : Spec) (text : String) : Except Fault String :=
  if ¬(s.kind = none ∨ s.kind = some 's') then
    .error (.value (.formatCode (s.kind.getD ' ') "str"))
  else if s.align = some '=' then .error (.value .stringAlignment)
  else
    let cut := match s.precision with
      | some n => String.ofList (text.toList.take n)
      | none => text
    .ok (s.pad false cut)

/-! ### Integers -/

/-- The digits of a magnitude in the notation of a letter, with the marker of the base. -/
def integerDigits? (s : Spec) (n : Nat) : Option String :=
  let marked (marker digits : String) : String := if s.alternate then marker ++ digits else digits
  match s.kind with
  | none | some 'd' | some 'n' => some (natText 10 n)
  | some 'b' => some (marked "0b" (natText 2 n))
  | some 'o' => some (marked "0o" (natText 8 n))
  | some 'x' => some (marked "0x" (natText 16 n))
  | some 'X' => some (marked "0X" ((natText 16 n).map Char.toUpper))
  | _ => none

/-- The character with a given code point. -/
def character? (n : Int) : Option Char :=
  if h : 0 ≤ n ∧ n.toNat.isValidChar then some (Char.ofNatAux n.toNat h.2) else none

/-- An integer under a specification; `type` names the type of the value. -/
def ofInteger (s : Spec) (type : String) (n : Int) : Except Fault String :=
  if s.precision.isSome then .error (.value .integerPrecision)
  else if s.kind = some 'c' then
    match character? n with
    | some c => .ok (s.pad false c.toString)
    | none => .error (.overflow .integer)
  else match s.integerDigits? n.natAbs with
    | some digits => .ok (s.pad true (s.signText (n < 0) ++ s.grouped digits))
    | none => .error (.value (.formatCode (s.kind.getD ' ') type))

/-! ### Doubles -/

/-- A magnitude with an exponent. -/
def scientific (precision : Nat) (upper : Bool) (x : Float) : String :=
  let (mantissa, e) := scientificParts precision x
  mantissa ++ (if upper then "E" else "e") ++ exponentText 2 e

/-- A decimal without the zeros at its end. -/
def stripZeros (text : String) : String :=
  if text.toList.contains '.' then
    let cs := (text.toList.reverse.dropWhile (· = '0')).dropWhile (· = '.')
    String.ofList cs.reverse
  else text

/-- Infinity and NaN. -/
def nonFinite (upper : Bool) (x : Float) : String :=
  let text := if x.isNaN then "nan" else "inf"
  if upper then text.map Char.toUpper else text

/-- A magnitude with `precision` significant digits, with an exponent if that is below -4 or not
below the precision. -/
def general (s : Spec) (precision : Nat) (upper : Bool) (x : Float) : String :=
  let digits := max precision 1 - 1
  let (mantissa, e) := scientificParts digits x
  if -4 ≤ e ∧ e ≤ digits then
    let text := fixedText (digits - e).toNat x
    if s.alternate then text else stripZeros text
  else
    (if s.alternate then mantissa else stripZeros mantissa) ++ (if upper then "E" else "e")
      ++ exponentText 2 e

/-- A magnitude in the notation of a letter. -/
def floatBody? (s : Spec) (x : Float) : Option String :=
  let upper := s.kind.any Char.isUpper
  let digits := s.precision.getD 6
  if !x.isFinite then
    if s.kind = some '%' then some (if x.isNaN then "NaN%" else "inf%")
    else some (nonFinite upper x)
  else match s.kind with
    | some 'f' | some 'F' => some (fixedText digits x)
    | some 'e' | some 'E' => some (scientific digits upper x)
    | some 'g' | some 'G' => some (s.general digits upper x)
    | some '%' =>
      let y := x * 100
      some ((if y.isFinite then fixedText digits y else "inf") ++ "%")
    | some 'n' | none => some <|
      match s.precision with
      | some p =>
        let text := s.general p false x
        if text.toList.any fun c => c = '.' ∨ c = 'e' ∨ c = 'n' then text else text ++ ".0"
      | none => scriptLayout.text x
    | _ => none

/-- A double under a specification; `type` names the type of the value. -/
def ofFloat (s : Spec) (type : String) (x : Float) : Except Fault String :=
  match s.floatBody? x.abs with
  | none => .error (.value (.formatCode (s.kind.getD ' ') type))
  | some body =>
    let body := if x.isFinite then s.grouped body else body
    .ok (s.pad true (s.signText (isNegative x && !x.isNaN) ++ body))

/-- The letters that turn an integer into a double. -/
def isFloatKind (kind : Option Char) : Bool :=
  match kind with
  | some c => c = 'e' || c = 'E' || c = 'f' || c = 'F' || c = 'g' || c = 'G' || c = '%'
  | none => false

end Spec

end Stepwise
