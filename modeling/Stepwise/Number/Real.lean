import Stepwise.Fault.Basic

/-!
# Doubles

Arithmetic on doubles, and the ways from a double to an integer. Division and remainder round
down; what would be no finite number is an error where the operands were finite and the operation
is a division or a power.
-/

namespace Stepwise

open Script Decimal

/-- The remainder of `a / b` with the quotient rounded toward zero. It is exact: both numbers are
integers on the finer of their two scales. -/
def truncMod (a b : Float) : Float :=
  if a.isNaN ∨ b.isNaN ∨ a.isInf ∨ b == 0 then 0 / 0
  else if b.isInf then a
  else
    let x := Dyadic.ofFloat a
    let y := Dyadic.ofFloat b
    let e := min x.expo y.expo
    let r := (x.mant * Nat.pow 2 (x.expo - e).toNat) % (y.mant * Nat.pow 2 (y.expo - e).toNat)
    let m := nearest (r * Nat.pow 2 e.toNat) (Nat.pow 2 (-e).toNat)
    if isNegative a then -m else m

/-- The remainder of `a / b` with the sign of `b`. -/
def floorMod (a b : Float) : Float :=
  let r := truncMod a b
  if r != 0 && (r < 0) != (b < 0) then r + b else r

/-- Whether a double is an integer; infinities and NaN are not. -/
def isInteger (x : Float) : Bool := x.isFinite && isIntegral x

/-- The integer nearest to a double, halves to even, as a double. -/
def roundEven (x : Float) : Float :=
  if x.isFinite then
    let d := Dyadic.ofFloat x
    let n := nearest (roundDiv .toEven d.num d.den) 1
    if isNegative x then -n else n
  else x

/-- `a` to the power of `b`. -/
def floatPow (a b : Float) : Except Fault Float :=
  if a == 0 && b < 0 then .error (.division .power)
  else if a < 0 && !isInteger b then .error (.unsupported .complexNumber)
  else
    let x := a.pow b
    if x.isInf && a.isFinite && b.isFinite then .error (.overflow .power) else .ok x

/-- A binary operation on doubles; `left` and `right` name the types of the operands. -/
def floatOp (op : BinaryOp) (left right : String) (a b : Float) : Except Fault Float :=
  match op with
  | .add => .ok (a + b)
  | .sub => .ok (a - b)
  | .mul => .ok (a * b)
  | .div => if b == 0 then .error (.division .float) else .ok (a / b)
  | .floorDiv => if b == 0 then .error (.division .floatFloor) else .ok (a / b).floor
  | .mod => if b == 0 then .error (.division .floatModulo) else .ok (floorMod a b)
  | .pow => floatPow a b
  | .bitAnd | .bitOr | .bitXor | .shl | .shr => .error (.type (.operands op left right))

/-! ### From doubles to integers -/

/-- The integer part of a double, toward zero. -/
def floatToInt (x : Float) : Except Fault Int :=
  if x.isNaN then .error (.value .nanToInteger)
  else if x.isInf then .error (.overflow .infinityToInteger)
  else
    let n := truncate x
    if fits n then .ok n else .error (.overflow .integer)

/-- `b ^ e` by squaring, with the roundings of that order of multiplications. -/
def floatPowNat (r b : Float) : (fuel : Nat) → (e : Nat) → Float
  | 0, _ => r
  | fuel + 1, e =>
    let r := if e % 2 = 1 then r * b else r
    if e / 2 = 0 then r else floatPowNat r (b * b) fuel (e / 2)

/-- The power of ten by which a number is scaled to round it to `digits` places. -/
def placeScale (digits : Int) : Float :=
  let e := max (-308) (min digits 308)
  let p := floatPowNat 1 10 16 e.natAbs
  if e < 0 then 1 / p else p

/-- A double rounded to some decimal places, halves to even; one that cannot be scaled stays as it
is. -/
def roundPlaces (x : Float) (digits : Int) : Float :=
  let scale := placeScale digits
  let r := roundEven (x * scale) / scale
  if r.isFinite then r else x

end Stepwise
