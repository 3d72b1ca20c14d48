import Stepwise.Decimal.Read
import Stepwise.Json.Basic

/-!
# Reading JSON texts

From the characters of a text to a value, in two steps.

## The model

`Raw.ofText?` knows the grammar alone: it says where values begin and end. `Raw.value?` then finds
the values, and can fail although the grammar is kept: a string may contain half of a surrogate
pair, a number may be too large, and arrays and objects may nest deeper than `maxDepth`. Whoever
has no use for a part of a text looks at the rest of the `Raw` only, and never fails for that part.

A number is an integer if it is written as one and has 64 bits, and a double otherwise. The digits
of a double are taken up from the left as long as they form a number of 64 bits (`absorb`); what is
left of them only moves the decimal point. The result is scaled by one power of ten, with one
rounding (`scaled?`), so it may differ from the nearest double in its last bit.
-/

namespace Stepwise.Json

open Text

/-! ### Numbers -/

/-- A number as it is written. -/
structure Numeral where
  /-- Whether there is a minus sign. -/
  negative : Bool
  /-- The digits before the point. -/
  whole : List Char
  /-- The digits behind the point. -/
  fraction : List Char
  /-- The exponent. -/
  exponent : Int
  /-- Whether there is neither a point nor an exponent. -/
  integral : Bool

/-- Appends digits to a number while it stays below `2 ^ 64`; the digits that are left come with
it. -/
def absorb (n : Nat) : List Char → Nat × List Char
  | [] => (n, [])
  | c :: cs =>
    let n' := n * 10 + (digitValue? c).getD 0
    if n' < 0x10000000000000000 then absorb n' cs else (n, c :: cs)

/-- A power of ten. -/
def tenTo (n : Nat) : Float := Decimal.ofDecimal 1 n

/-- A number times a power of ten; there is none beyond the doubles. -/
def scaled? (x : Float) (e : Int) : Option Float :=
  if x == 0 then some x
  else if e > 308 then none
  else if e ≥ 0 then
    let y := x * tenTo e.toNat
    if y.isInf then none else some y
  else if e ≥ -308 then some (x / tenTo (-e).toNat)
  else if e ≥ -616 then some (x / tenTo 308 / tenTo (-e - 308).toNat)
  else some 0

namespace Numeral

/-- The double that a numeral stands for. -/
def float? (n : Numeral) : Option Float :=
  let (m, skipped) := absorb 0 n.whole
  let (m, dropped) := absorb m n.fraction
  let e : Int := skipped.length - (n.fraction.length - dropped.length) + n.exponent
  (scaled? (Decimal.ofInt m) e).map fun x => if n.negative then -x else x

/-- The value of a numeral. Zero with a minus sign is a double. -/
def value? (n : Numeral) : Option Json :=
  let m := natOfDigits 10 n.whole
  if n.integral ∧ ¬n.negative ∧ m < 0x10000000000000000 then some (int m)
  else if n.integral ∧ n.negative ∧ 0 < m ∧ m ≤ 0x8000000000000000 then some (int (-m))
  else n.float?.map float

end Numeral

/-! ### Strings -/

/-- A part of a string: a character, or a code unit of 16 bits that was escaped. -/
inductive Piece where
  | char (c : Char)
  | unit (n : Nat)

/-- The first half of a surrogate pair. -/
def isHigh (n : Nat) : Bool := 0xD800 ≤ n && n ≤ 0xDBFF

/-- The second half of a surrogate pair. -/
def isLow (n : Nat) : Bool := 0xDC00 ≤ n && n ≤ 0xDFFF

/-- The characters that some pieces stand for; half a surrogate pair stands for nothing. -/
def charsOf? : List Piece → Option (List Char)
  | [] => some []
  | .char c :: ps => (charsOf? ps).map (c :: ·)
  | .unit high :: .unit low :: ps =>
    if isHigh high && isLow low then
      let n := 0x10000 + (high - 0xD800) * 0x400 + (low - 0xDC00)
      (charsOf? ps).map (Char.ofNat n :: ·)
    else if isHigh high || isLow high then none
    else (charsOf? (.unit low :: ps)).map (Char.ofNat high :: ·)
  | .unit n :: ps =>
    if isHigh n || isLow n then none else (charsOf? ps).map (Char.ofNat n :: ·)

/-- The text that some pieces stand for. -/
def textOf? (ps : List Piece) : Option String := (charsOf? ps).map String.ofList

/-- What a letter behind a backslash stands for. -/
def escape? : Char → Option Char
  | '"' => some '"'
  | '\\' => some '\\'
  | '/' => some '/'
  | 'b' => some '\x08'
  | 'f' => some '\x0c'
  | 'n' => some '\n'
  | 'r' => some '\r'
  | 't' => some '\t'
  | _ => none

/-- The pieces of a string behind its opening quote, and what follows the closing one. -/
def stringPieces? : List Char → Option (List Piece × List Char)
  | '"' :: cs => some ([], cs)
  | '\\' :: 'u' :: a :: b :: c :: d :: cs => do
    guard ([a, b, c, d].all (isDigitOf 16))
    let (ps, rest) ← stringPieces? cs
    return (.unit (natOfDigits 16 [a, b, c, d]) :: ps, rest)
  | '\\' :: e :: cs => do
    let c ← escape? e
    let (ps, rest) ← stringPieces? cs
    return (.char c :: ps, rest)
  | c :: cs => do
    guard (0x20 ≤ c.toNat ∧ c ≠ '\\')
    let (ps, rest) ← stringPieces? cs
    return (.char c :: ps, rest)
  | [] => none

/-! ### Numbers -/

/-- At least one digit, and what follows the digits. -/
def digits? (cs : List Char) : Option (List Char × List Char) :=
  let (ds, rest) := cs.span Char.isDigit
  if ds.isEmpty then none else some (ds, rest)

/-- The fraction, if there is a point. -/
def fraction? : List Char → Option (List Char × List Char)
  | '.' :: cs => digits? cs
  | cs => some ([], cs)

/-- The exponent, if there is an `e`. -/
def exponent? : List Char → Option (Option Int × List Char)
  | c :: cs =>
    if c = 'e' ∨ c = 'E' then do
      let (negative, cs) := match cs with
        | '-' :: cs => (true, cs)
        | '+' :: cs => (false, cs)
        | cs => (false, cs)
      let (ds, rest) ← digits? cs
      let n : Int := natOfDigits 10 ds
      return (some (if negative then -n else n), rest)
    else some (none, c :: cs)
  | [] => some (none, [])

/-- A number and what follows it. No digit stands behind a zero at the start. -/
def numeral? (cs : List Char) : Option (Numeral × List Char) := do
  let (negative, cs) := match cs with
    | '-' :: cs => (true, cs)
    | cs => (false, cs)
  let (whole, cs) ← digits? cs
  guard (whole.head? ≠ some '0' ∨ whole.length = 1)
  let (fraction, cs) ← fraction? cs
  let (exponent, cs) ← exponent? cs
  return (⟨negative, whole, fraction, exponent.getD 0, fraction.isEmpty && exponent.isNone⟩, cs)

/-! ### The grammar -/

/-- A JSON text, taken apart. -/
inductive Raw where
  | null
  | bool (b : Bool)
  | number (n : Numeral)
  | str (s : List Piece)
  | arr (items : List Raw)
  | obj (members : List (List Piece × Raw))

namespace Raw

/-- What follows the blanks at the start of a text. -/
def skip (cs : List Char) : List Char :=
  cs.dropWhile fun c => c = ' ' ∨ c = '\n' ∨ c = '\t' ∨ c = '\r'

mutual

/-- A value and what follows it. -/
def value (fuel : Nat) (cs : List Char) : Option (Raw × List Char) :=
  match fuel with
  | 0 => none
  | fuel + 1 =>
    match skip cs with
    | 'n' :: 'u' :: 'l' :: 'l' :: cs => some (.null, cs)
    | 't' :: 'r' :: 'u' :: 'e' :: cs => some (.bool true, cs)
    | 'f' :: 'a' :: 'l' :: 's' :: 'e' :: cs => some (.bool false, cs)
    | '"' :: cs => do
      let (s, rest) ← stringPieces? cs
      return (.str s, rest)
    | '[' :: cs =>
      match skip cs with
      | ']' :: rest => some (.arr [], rest)
      | _ => do
        let (items, rest) ← items fuel cs
        return (.arr items, rest)
    | '\x7b' :: cs =>
      match skip cs with
      | '\x7d' :: rest => some (.obj [], rest)
      | _ => do
        let (members, rest) ← members fuel cs
        return (.obj members, rest)
    | cs => do
      let (n, rest) ← numeral? cs
      return (.number n, rest)

/-- At least one item, up to the closing bracket. -/
def items (fuel : Nat) (cs : List Char) : Option (List Raw × List Char) :=
  match fuel with
  | 0 => none
  | fuel + 1 => do
    let (v, cs) ← value fuel cs
    match skip cs with
    | ',' :: cs => do
      let (vs, rest) ← items fuel cs
      return (v :: vs, rest)
    | ']' :: rest => some ([v], rest)
    | _ => none

/-- At least one member, up to the closing brace. -/
def members (fuel : Nat) (cs : List Char) : Option (List (List Piece × Raw) × List Char) :=
  match fuel with
  | 0 => none
  | fuel + 1 =>
    match skip cs with
    | '"' :: cs => do
      let (name, cs) ← stringPieces? cs
      match skip cs with
      | ':' :: cs => do
        let (v, cs) ← value fuel cs
        match skip cs with
        | ',' :: cs => do
          let (ms, rest) ← members fuel cs
          return ((name, v) :: ms, rest)
        | '\x7d' :: rest => some ([(name, v)], rest)
        | _ => none
      | _ => none
    | _ => none

end

/-- The parts of a text; there may be nothing but blanks around the value. No character takes more
than two steps. -/
def ofText? (s : String) : Option Raw := do
  let cs := s.toList
  let (v, rest) ← value (2 * cs.length + 1) cs
  guard (skip rest).isEmpty
  return v

/-! ### Values -/

/-- How deep arrays and objects may nest. -/
def maxDepth : Nat := 127

/-- The value of a text whose arrays and objects nest at most `depth` deep. -/
def value? : (depth : Nat) → Raw → Option Json
  | _, null => some .null
  | _, bool b => some (.bool b)
  | _, number n => n.value?
  | _, str s => (textOf? s).map .str
  | 0, arr _ | 0, obj _ => none
  | depth + 1, arr items => (items.mapM (value? depth)).map .arr
  | depth + 1, obj members => do
    let members ← members.mapM fun (name, v) => return (← textOf? name, ← value? depth v)
    return .obj members

end Raw

/-- The value of a text. -/
def ofText? (s : String) : Option Json := (Raw.ofText? s).bind (·.value? Raw.maxDepth)

end Stepwise.Json
