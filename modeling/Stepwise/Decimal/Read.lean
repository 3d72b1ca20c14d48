import Stepwise.Decimal.Double
import Stepwise.Text.Class

/-!
# Reading doubles

The double that a number in decimal notation stands for.
-/

namespace Stepwise.Decimal

open Text

/-- The double with the digits `whole`, a point, `fraction`, times ten to `exponent`. -/
def floatOf (whole fraction : List Char) (exponent : Int) : Float :=
  ofDecimal (natOfDigits 10 (whole ++ fraction)) (exponent - fraction.length)

/-- The exponent after an `e`, sign and digits; there must be nothing else. -/
def exponentOf? (cs : List Char) : Option Int :=
  let (negative, ds) := match cs with
    | '-' :: ds => (true, ds)
    | '+' :: ds => (false, ds)
    | ds => (false, ds)
  if ds ≠ [] ∧ ds.all Char.isDigit then
    let n : Int := natOfDigits 10 ds
    some (if negative then -n else n)
  else none

/-- The double that an unsigned decimal literal stands for: digits with at most one point, at
least one digit, and at most one exponent. -/
def decimalLiteral? (cs : List Char) : Option Float :=
  let (mantissa, tail) := cs.span fun c => c ≠ 'e' ∧ c ≠ 'E'
  let (whole, dotted) := mantissa.span (· ≠ '.')
  let fraction := dotted.drop 1
  if whole.all Char.isDigit ∧ fraction.all Char.isDigit ∧ ¬(whole ++ fraction).isEmpty then
    match tail with
    | [] => some (floatOf whole fraction 0)
    | _ :: e => (exponentOf? e).map (floatOf whole fraction)
  else none

end Stepwise.Decimal
