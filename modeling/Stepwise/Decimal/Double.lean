/-!
# Doubles as exact numbers

A finite double is `± mant * 2 ^ expo`. This module takes a double apart into those parts, and
rounds an exact fraction to the nearest double, halves to the even significand.

## The model

`Dyadic` is the magnitude only; the sign is asked for apart (`isNegative`), so that minus zero
keeps its own. All arithmetic is on `Nat` and `Int` and loses nothing.
-/

namespace Stepwise.Decimal

/-- The magnitude `mant * 2 ^ expo`. -/
structure Dyadic where
  /-- The significand. -/
  mant : Nat
  /-- The exponent of two. -/
  expo : Int
  deriving DecidableEq, Repr

/-- The sign bit; set for minus zero too. -/
def isNegative (x : Float) : Bool :=
  x.toBits >>> 63 = 1

/-- The least significand with all 53 bits: two to the power of 52. -/
def leastNormal : Nat := 0x10000000000000

/-- The magnitude of a finite double. -/
def Dyadic.ofFloat (x : Float) : Dyadic :=
  let frac := (x.toBits &&& 0xFFFFFFFFFFFFF).toNat
  let exp := ((x.toBits >>> 52) &&& 0x7FF).toNat
  if exp = 0 then ⟨frac, -1074⟩ else ⟨frac + leastNormal, exp - 1075⟩

/-- The numerator of the magnitude over a power of two. -/
def Dyadic.num (d : Dyadic) : Nat := d.mant * Nat.pow 2 d.expo.toNat

/-- The power of two under it. -/
def Dyadic.den (d : Dyadic) : Nat := Nat.pow 2 (-d.expo).toNat

/-! ### Rounding a quotient -/

/-- What becomes of a quotient half way between two integers. -/
inductive Tie where
  /-- The even one of the two. -/
  | toEven
  /-- The larger one. -/
  | up
  deriving DecidableEq, Repr

/-- The integer nearest to `num / den`, for `den > 0`. -/
def roundDiv (tie : Tie) (num den : Nat) : Nat :=
  let q := num / den
  let twice := 2 * (num % den)
  if twice < den then q
  else if twice > den then q + 1
  else match tie with
    | .up => q + 1
    | .toEven => q + q % 2

/-! ### The nearest double -/

/-- The bits of the double nearest to `num / den`, halves to even; those of infinity if it is too
large. -/
def nearestBits (num den : Nat) : UInt64 :=
  if num = 0 then 0
  else
    let q : Int := num.log2 - den.log2 - 52
    let small := num * Nat.pow 2 (-q).toNat < den * Nat.pow 2 q.toNat * leastNormal
    let q := max (if small then q - 1 else q) (-1074)
    let r := roundDiv .toEven (num * Nat.pow 2 (-q).toNat) (den * Nat.pow 2 q.toNat)
    let (r, q) := if r = 2 * leastNormal then (leastNormal, q + 1) else (r, q)
    if q > 971 then 0x7FF0000000000000
    else if r < leastNormal then r.toUInt64
    else ((q + 1075).toNat * leastNormal + (r - leastNormal)).toUInt64

/-- The double nearest to `num / den`. -/
def nearest (num den : Nat) : Float := Float.ofBits (nearestBits num den)

/-- The double nearest to an integer. -/
def ofInt (n : Int) : Float :=
  if n < 0 then -nearest n.natAbs 1 else nearest n.natAbs 1

/-- The double nearest to `mant * 10 ^ expo`. Exponents far outside the range of doubles are
answered without computing the power. -/
def ofDecimal (mant : Nat) (expo : Int) : Float :=
  if mant = 0 then 0
  else if expo > 400 then nearest (Nat.pow 10 400) 1
  else if expo + (mant.log2 : Int) < -1200 then 0
  else nearest (mant * Nat.pow 10 expo.toNat) (Nat.pow 10 (-expo).toNat)

/-! ### Integers in a double -/

/-- The integer part of a finite double, toward zero. -/
def truncate (x : Float) : Int :=
  let d := Dyadic.ofFloat x
  let n : Int := (d.num / d.den : Nat)
  if isNegative x then -n else n

/-- Whether a finite double is an integer. -/
def isIntegral (x : Float) : Bool :=
  let d := Dyadic.ofFloat x
  d.num % d.den = 0

end Stepwise.Decimal
