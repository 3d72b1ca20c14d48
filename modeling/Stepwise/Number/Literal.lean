import Stepwise.Decimal.Read
import Stepwise.Fault.Basic

/-!
# Numbers in texts

Which number a text stands for when a script converts it. Blanks around the number are ignored;
underscores may stand between digits.
-/

namespace Stepwise

open Text

/-- A text without the blanks around it. -/
def trimmed (s : String) : List Char :=
  ((s.toList.dropWhile isSpace).reverse.dropWhile isSpace).reverse

/-- Takes a sign off: whether it was a minus, and the rest. -/
def takeSign : List Char → Bool × List Char
  | '-' :: cs => (true, cs)
  | '+' :: cs => (false, cs)
  | cs => (false, cs)

/-! ### Integers -/

/-- Whether a zero and a given letter, in either case, come first. -/
def isMarked (letter : Char) : List Char → Bool
  | '0' :: c :: _ => c.toLower = letter
  | _ => false

/-- Takes off the marker of a number base that goes with `base`, and tells the base of the digits
that follow. -/
def takeRadix (base : Nat) (cs : List Char) : Nat × List Char :=
  if isMarked 'x' cs ∧ (base = 0 ∨ base = 16) then (16, cs.drop 2)
  else if isMarked 'o' cs ∧ (base = 0 ∨ base = 8) then (8, cs.drop 2)
  else if isMarked 'b' cs ∧ (base = 0 ∨ base = 2) then (2, cs.drop 2)
  else (if base = 0 then 10 else base, cs)

/-- Whether two underscores follow one another. -/
def doubleUnderscore : List Char → Bool
  | '_' :: '_' :: _ => true
  | _ :: cs => doubleUnderscore cs
  | [] => false

/-- Whether underscores stand only one by one and between other characters. -/
def wellSeparated (cs : List Char) : Bool :=
  !cs.isEmpty && cs.head? ≠ some '_' && cs.getLast? ≠ some '_' && !doubleUnderscore cs

/-- The integer that some digits stand for; a sign may come before them. Only integers of 128 bits
are read. -/
def signedDigits? (radix : Nat) (cs : List Char) : Option Int :=
  let (negative, ds) := takeSign cs
  if ds.isEmpty || !ds.all (isDigitOf radix) then none
  else
    let n : Int := natOfDigits radix ds
    let n := if negative then -n else n
    let limit : Int := Nat.pow 2 127
    if -limit ≤ n ∧ n < limit then some n else none

/-- The integer that a text stands for in a number base; base 0 takes the base from the text. -/
def parseInt (text : String) (base : Int) : Except Fault Int :=
  if ¬(base = 0 ∨ (2 ≤ base ∧ base ≤ 36)) then .error (.value .integerBase)
  else
    let invalid := .error (.value (.integerText base text))
    let (negative, cs) := takeSign (trimmed text)
    let (radix, cs) := takeRadix base.toNat cs
    if !wellSeparated cs then invalid
    else match signedDigits? radix (cs.filter (· ≠ '_')) with
      | none => invalid
      | some n =>
        let n := if negative then -n else n
        if fits n then .ok n else .error (.overflow .integer)

/-! ### Doubles -/

/-- The double that a text stands for. -/
def parseFloat (text : String) : Except Fault Float :=
  let cs := (trimmed text).map Char.toLower |>.filter (· ≠ '_')
  let negative := cs.head? = some '-'
  let signed (x : Float) : Float := if negative then -x else x
  let bare := cs.dropWhile fun c => c = '+' ∨ c = '-'
  if bare = "inf".toList ∨ bare = "infinity".toList then .ok (signed (1 / 0))
  else if bare = "nan".toList then .ok (signed (0 / 0))
  else match Decimal.decimalLiteral? (takeSign cs).2 with
    | some x => .ok (signed x)
    | none => .error (.value (.floatText text))

end Stepwise
