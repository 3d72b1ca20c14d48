import Stepwise.Decimal.Double
import Stepwise.Text.Class

/-!
# Doubles as text

The texts of a double. They share the digits (`Dyadic.shortest`) and differ in where the decimal
point stands and how an exponent is written; each such choice is one `Layout`.

## The model

Of all decimals that read back as a given double, `shortest` picks one with the fewest digits, and
of those the nearest to the double; `significant` rounds to a given number of digits instead.

The reals that round to `mant * 2 ^ expo` form an interval, ends included exactly if `mant` is
even. On the grid of multiples of `10 ^ k` the only candidates are the two neighbours of the
double, so a grid is good if one of them lies in the interval; grids are tried from coarse to
fine. All quantities are scaled to integers: quarters of a unit in the last place of the double
on one side, the grid on the other.
-/

namespace Stepwise.Decimal

/-! ### The shortest decimal of a double -/

/-- The decimal `digits * 10 ^ expo`. -/
structure Digits where
  /-- The digits, as one number. -/
  digits : Nat
  /-- The exponent of ten. -/
  expo : Int
  deriving DecidableEq, Repr

/-- Takes off zeros at the end of the digits, at most `fuel` of them. -/
def Digits.stripZeros : (fuel : Nat) → Digits → Digits
  | 0, d => d
  | fuel + 1, d =>
    if d.digits ≠ 0 ∧ d.digits % 10 = 0 then
      Digits.stripZeros fuel ⟨d.digits / 10, d.expo + 1⟩
    else d

/-- The exponent `e` with `10 ^ e ≤ d < 10 ^ (e + 1)`, for a positive magnitude. -/
def Dyadic.decade (d : Dyadic) : Int :=
  let guess := ((d.mant.log2 + d.expo) * 30103).fdiv 100000
  let atLeast (e : Int) : Bool :=
    Nat.pow 10 e.toNat * d.den ≤ d.num * Nat.pow 10 (-e).toNat
  if atLeast (guess + 1) then guess + 1
  else if atLeast guess then guess
  else guess - 1

/-- How far the interval of a double reaches, in quarters of a unit in the last place: below it
only one if the double is the first of its binade. -/
def Dyadic.reachBelow (d : Dyadic) : Nat :=
  if d.mant = leastNormal ∧ d.expo > -1074 then 1 else 2

/-- The better neighbour of `d` on the grid of multiples of `10 ^ k`, if one of the two reads
back as `d`. -/
def Dyadic.onGrid? (tie : Tie) (d : Dyadic) (k : Int) : Option Digits :=
  let q := d.expo - 2
  let unit := Nat.pow 2 q.toNat * Nat.pow 10 (-k).toNat
  let step := Nat.pow 10 k.toNat * Nat.pow 2 (-q).toNat
  let value := 4 * d.mant * unit
  let low := value / step
  let below := value - low * step
  let above := (low + 1) * step - value
  let fits (dist reach : Nat) : Bool :=
    dist < reach || (dist = reach && d.mant % 2 = 0)
  let lowFits := fits below (d.reachBelow * unit)
  let highFits := fits above (2 * unit)
  if lowFits && highFits then
    let high := below > above || (below = above && (tie = .up || low % 2 = 1))
    some ⟨if high then low + 1 else low, k⟩
  else if lowFits then some ⟨low, k⟩
  else if highFits then some ⟨low + 1, k⟩
  else none

/-- The shortest decimal of a positive magnitude: the first good grid counted from one digit. -/
def Dyadic.shortest (tie : Tie) (d : Dyadic) : Digits :=
  let top := d.decade
  let found := (List.range 17).findSome? fun (n : Nat) => d.onGrid? tie (top - n)
  (found.getD ⟨d.num / d.den, 0⟩).stripZeros 20

/-- A positive magnitude rounded to `n + 1` digits, halves to even. -/
def Dyadic.significant (d : Dyadic) (n : Nat) : Digits :=
  let k := d.decade - n
  let digits := roundDiv .toEven (d.num * Nat.pow 10 (-k).toNat) (d.den * Nat.pow 10 k.toNat)
  if digits = Nat.pow 10 (n + 1) then ⟨Nat.pow 10 n, k + 1⟩ else ⟨digits, k⟩

/-- A magnitude in units of `10 ^ (-places)`, halves to even. -/
def Dyadic.fixed (d : Dyadic) (places : Nat) : Nat :=
  roundDiv .toEven (d.num * Nat.pow 10 places) d.den

/-! ### Layouts -/

open Stepwise.Text

/-- How a number with given digits is written. -/
structure Layout where
  /-- Which exponents are written with a decimal point instead of an exponent. -/
  positional : Int → Bool
  /-- Whether an integer keeps `.0`. -/
  pointZero : Bool
  /-- The least number of digits of an exponent. -/
  exponentDigits : Nat
  /-- Which of two equally near shortest decimals is taken. -/
  tie : Tie

/-- `n` zeros. -/
def zeros (n : Nat) : String := "".pushn '0' n

/-- The exponent of a number in scientific notation: a sign and at least `width` digits. -/
def exponentText (width : Nat) (e : Int) : String :=
  let digits := natText 10 e.natAbs
  (if e < 0 then "-" else "+") ++ zeros (width - digits.length) ++ digits

/-- Digits with a point before the last `places` of them; zeros are added in front as needed. -/
def pointed (digits places : Nat) : String :=
  let text := natText 10 digits
  if places = 0 then text
  else
    let text := zeros (places + 1 - text.length) ++ text
    let whole := text.length - places
    (text.take whole).toString ++ "." ++ (text.drop whole).toString

/-- A decimal in positional notation. -/
def positionalText (pointZero : Bool) (d : Digits) : String :=
  if d.expo < 0 then pointed d.digits (-d.expo).toNat
  else natText 10 (d.digits * Nat.pow 10 d.expo.toNat) ++ (if pointZero then ".0" else "")

/-- The first digit of a decimal, a point and the others. -/
def mantissaText (d : Digits) : String :=
  pointed d.digits ((natText 10 d.digits).length - 1)

/-- The exponent of a decimal in scientific notation. -/
def Digits.scientificExponent (d : Digits) : Int :=
  d.expo + (natText 10 d.digits).length - 1

/-- The text of a finite magnitude. -/
def Layout.magnitude (l : Layout) (x : Float) : String :=
  let d := Dyadic.ofFloat x
  if d.mant = 0 then if l.pointZero then "0.0" else "0"
  else
    let s := d.shortest l.tie
    let e := s.scientificExponent
    if l.positional e then positionalText l.pointZero s
    else mantissaText s ++ "e" ++ exponentText l.exponentDigits e

/-- The text of a double. -/
def Layout.text (l : Layout) (x : Float) : String :=
  if x.isNaN then "nan"
  else
    let body := if x.isInf then "inf" else l.magnitude x
    if isNegative x then "-" ++ body else body

/-- Numbers as scripts print them: exponents below -4 and from 16 are written, with two digits. -/
def scriptLayout : Layout :=
  ⟨fun e => -4 ≤ e && e < 16, true, 2, .up⟩

/-- Numbers inside JSON texts: exponents below -5 and from 16 are written. -/
def jsonLayout : Layout :=
  ⟨fun e => -5 ≤ e && e < 16, true, 1, .toEven⟩

/-- Numbers in the description of a token: never an exponent, integers without a point. -/
def plainLayout : Layout :=
  ⟨fun _ => true, false, 1, .up⟩

/-! ### A given number of digits -/

/-- A finite magnitude with exactly `places` digits after the point. -/
def fixedText (places : Nat) (x : Float) : String :=
  pointed ((Dyadic.ofFloat x).fixed places) places

/-- A finite magnitude rounded to `n + 1` digits: the digits with their point, and the
exponent. -/
def scientificParts (n : Nat) (x : Float) : String × Int :=
  let d := Dyadic.ofFloat x
  if d.mant = 0 then (pointed 0 n, 0)
  else
    let s := d.significant n
    (pointed s.digits n, s.expo + n)

end Stepwise.Decimal
