import Stepwise.Fault.Basic
import Stepwise.Number.Word

/-!
# Integers

Arithmetic on integers of 64 bits. A result is exact or there is none: what does not fit is an
overflow. Division and remainder round down, so a remainder has the sign of its divisor.

## The model

Operations are carried out in words, step by step (`Steps`). Some steps are checked, so that a script
is told of an overflow; the others have to stay inside a word by themselves, and the operation breaks
off if one of them does not.
-/

namespace Stepwise

open Script

/-- An integer as a result. -/
def exact (n : Int) : Except Fault Int :=
  if fits n then .ok n else .error (.overflow .integer)

/-! ### Operators -/

/-- Steps of arithmetic: a result, a fault that the script is told of, or nothing at all if a step
overflows that is not checked. -/
abbrev Steps := ExceptT Fault Option

/-- A step that is checked. -/
def checked (step : Option Int) : Steps Int :=
  match step with
  | some n => return n
  | none => throw (.overflow .integer)

/-- `a` divided by `b`, rounded down. -/
def floorQuotient (a b : Int) : Steps Int := do
  if b = 0 then throw (.division .integerFloor)
  else
    let q ← checked (divWord 64 a b)
    let r ← remWord 64 a b
    if r ≠ 0 ∧ ¬(a < 0 ↔ b < 0) then word 64 (q - 1) else return q

/-- The remainder of `a / b` with the sign of `b`. The only quotient that is no word has none left
over. -/
def floorRemainder (a b : Int) : Steps Int := do
  if b = 0 then throw (.division .integerModulo)
  else
    let r := (remWord 64 a b).getD 0
    if r ≠ 0 ∧ ¬(r < 0 ↔ b < 0) then word 64 (r + b) else return r

/-- `a` to the power of `n`, if it is a word. From two on, a power of 64 or more is none, and is not
computed. -/
def powWord (a : Int) (n : Nat) : Option Int :=
  if n ≥ 64 ∧ a.natAbs ≥ 2 then none else word 64 (Int.pow a n)

/-- `a` to the power of `b`, which is not negative. Exponents of more than 32 bits are for 0, 1 and
-1 alone. -/
def wholePower (a b : Int) : Steps Int := do
  if a = 0 ∨ a = 1 then return if b = 0 then 1 else a
  else if a = -1 then return if (← remWord 64 b 2) = 0 then 1 else -1
  else if b < 0x100000000 then checked (powWord a b.toNat)
  else throw (.overflow .integer)

/-- A bitwise operation on two's complement. -/
def bitwise (f : BitVec 64 → BitVec 64 → BitVec 64) (a b : Int) : Int :=
  (f (BitVec.ofInt 64 a) (BitVec.ofInt 64 b)).toInt

/-- `a` shifted to the left by `b` places. If shifting back does not give `a`, something was lost. -/
def shiftLeft (a b : Int) : Steps Int := do
  if b < 0 then throw (.value .negativeShift)
  else if a = 0 then return 0
  else if b ≥ 64 then throw (.overflow .integer)
  else
    let shifted ← shlWord 64 a b
    if (← shrWord 64 shifted b) = a then return shifted else throw (.overflow .integer)

/-- `a` shifted to the right by `b` places. -/
def shiftRight (a b : Int) : Steps Int := do
  if b < 0 then throw (.value .negativeShift)
  else if b ≥ 64 then return if a < 0 then -1 else 0
  else shrWord 64 a b

/-- The double that is `a` to the power of `b`. -/
def realPow (a b : Int) : Float := Float.pow (Decimal.ofInt a) (Decimal.ofInt b)

/-- The steps of a binary operation on integers. -/
def intSteps (op : BinaryOp) (a b : Int) : Steps Value :=
  match op with
  | .add => .int <$> checked (word 64 (a + b))
  | .sub => .int <$> checked (word 64 (a - b))
  | .mul => .int <$> checked (word 64 (a * b))
  | .div =>
    if b = 0 then throw (.division .integer)
    else return .float (Decimal.ofInt a / Decimal.ofInt b)
  | .floorDiv => .int <$> floorQuotient a b
  | .mod => .int <$> floorRemainder a b
  | .pow =>
    if b ≥ 0 then .int <$> wholePower a b
    else if a = 0 then throw (.division .power)
    else return .float (realPow a b)
  | .bitAnd => return .int (bitwise (· &&& ·) a b)
  | .bitOr => return .int (bitwise (· ||| ·) a b)
  | .bitXor => return .int (bitwise (· ^^^ ·) a b)
  | .shl => .int <$> shiftLeft a b
  | .shr => .int <$> shiftRight a b

/-- A binary operation on integers. On integers that fit it never breaks off. -/
def intOp (op : BinaryOp) (a b : Int) : Except Fault Value :=
  (intSteps op a b).run.getD (.error (.overflow .integer))

/-! ### Functions of integers -/

/-- The remainder of a product. -/
def mulRem (a b m : Int) : Option Int := do remWord 128 (← word 128 (a * b)) m

/-- One round of `powLoop`: `b` is multiplied into the result if the last binary digit of `e` is one,
and squared. -/
def powRound (m : Int) (e : Nat) (result b : Int) : Option (Int × Int) := do
  let result ← if e % 2 = 1 then mulRem result b m else pure result
  let b ← mulRem b b m
  return (result, b)

/-- `result * b ^ e` modulo `m` in words of 128 bits; `fuel` bounds the number of binary digits of
`e`. -/
def powLoop (m : Int) : (fuel : Nat) → (e : Nat) → (result b : Int) → Option Int
  | 0, _, result, _ => some result
  | fuel + 1, e, result, b =>
    if e = 0 then some result
    else do
      let (result, b) ← powRound m e result b
      powLoop m fuel (e / 2) result b

/-- A remainder that is not negative, moved to the side of zero where `m` is. -/
def withSignOf (m r : Int) : Option Int := if m < 0 ∧ r ≠ 0 then word 128 (r + m) else some r

/-- The steps of `modularPow`. The result is cut to 64 bits in the end. -/
def modularSteps (b e m : Int) : Option Int := do
  let result ← powLoop m (e.toNat.log2 + 1) e.toNat 1 (← modWord 128 b m)
  let r ← modWord 128 result (← word 128 m.natAbs)
  return (← withSignOf m r).bmod (Nat.pow 2 64)

/-- `b ^ e` modulo `m` for integers; the result has the sign of `m`. On integers that fit it never
breaks off. -/
def modularPow (b e m : Int) : Except Fault Int :=
  if m = 0 then .error (.value .powModulus)
  else if e < 0 then .error (.value .powInverse)
  else match modularSteps b e m with
    | some r => .ok r
    | none => .error (.overflow .integer)

/-- The greatest common divisor by Euclid's algorithm. -/
def euclid (a b : Nat) : Nat := if b = 0 then a else euclid b (a % b)
termination_by b
decreasing_by exact Nat.mod_lt a (Nat.pos_of_ne_zero ‹_›)

/-- The greatest common divisor of `g` and `n`, if it fits. It is computed from the magnitudes. -/
def gcdStep (g n : Int) : Except Fault Int := exact (euclid n.natAbs g.natAbs)

/-- The product of the first `n` positive integers. -/
def factorialOf : Nat → Nat
  | 0 => 1
  | n + 1 => (n + 1) * factorialOf n

/-- The factorial of an integer; that of 21 is the first that does not fit. -/
def factorial (n : Int) : Except Fault Int :=
  if n < 0 then .error (.value .factorial)
  else if n > 20 then .error (.overflow .integer)
  else .ok (factorialOf n.toNat)

/-- The number of binary digits of the magnitude of `n`. -/
def bitLength (n : Int) : Nat :=
  if n = 0 then 0 else n.natAbs.log2 + 1

end Stepwise
