import Stepwise.Number.Integer
import Mathlib.Data.Int.Bitwise
import Mathlib.Data.Nat.Bitwise
import Mathlib.Tactic.Linarith
import Mathlib.Tactic.Ring

/-!
# Operators on integers are exact

What an operator gives for two integers of 64 bits is its exact result, or a fault that says why
there is none: the result does not fit, the divisor is zero, or a shift is by a negative number of
places (`intOp_exact`). No step on the way overflows unchecked.

## The model

The exact results (`Exactly`) know nothing of words. Quotient and remainder are those of a remainder
with the sign of the divisor (`Division`), and bitwise operations are those on two's complement of
unbounded width.
-/

namespace Stepwise

open Script

/-! ### Exact results -/

/-- Whether `q` and `r` are quotient and remainder of `a` by `b`, the quotient rounded down. -/
structure Division (a b q r : Int) : Prop where
  sum : a = q * b + r
  small : r.natAbs < b.natAbs
  /-- The remainder has the sign of the divisor. -/
  sign : r = 0 ∨ (r < 0 ↔ b < 0)

/-- What an operator gives for two integers, whatever their size. -/
inductive Exactly : BinaryOp → Int → Int → Int → Prop
  | add {a b} : Exactly .add a b (a + b)
  | sub {a b} : Exactly .sub a b (a - b)
  | mul {a b} : Exactly .mul a b (a * b)
  | floorDiv {a b q r} (h : Division a b q r) : Exactly .floorDiv a b q
  | mod {a b q r} (h : Division a b q r) : Exactly .mod a b r
  | pow {a} (n : Nat) : Exactly .pow a n (a ^ n)
  | bitAnd {a b} : Exactly .bitAnd a b (a.land b)
  | bitOr {a b} : Exactly .bitOr a b (a.lor b)
  | bitXor {a b} : Exactly .bitXor a b (a.xor b)
  | shl {a} (n : Nat) : Exactly .shl a n (a * 2 ^ n)
  | shr {a q r} (n : Nat) (h : Division a (2 ^ n) q r) : Exactly .shr a n q

/-- What an operator comes to for two integers. -/
inductive ComesTo (op : BinaryOp) (a b : Int) : Except Fault Int → Prop
  | result {r} (h : Exactly op a b r) (fit : fits r = true) : ComesTo op a b (.ok r)
  | overflow {r} (h : Exactly op a b r) (large : fits r = false) :
      ComesTo op a b (.error (.overflow .integer))
  | zero {f} (h : op = .floorDiv ∨ op = .mod) (divisor : b = 0) :
      ComesTo op a b (.error (.division f))
  | negative (h : op = .shl ∨ op = .shr) (places : b < 0) :
      ComesTo op a b (.error (.value .negativeShift))

/-- Whether a computation comes to a fault of the exception class `kind`. -/
def Raises {α : Type} (x : Except Fault α) (kind : String) : Prop :=
  ∃ f, x = .error f ∧ f.kind = kind

variable {op : BinaryOp} {a b q r q' r' n : Int}

theorem Division.ne_zero (h : Division a b q r) : b ≠ 0 := by
  rintro rfl
  exact absurd h.small (Nat.not_lt_zero _)

/-- There is one quotient and one remainder. -/
theorem Division.unique (h : Division a b q r) (h' : Division a b q' r') : q = q' ∧ r = r' := by
  have apart : (q - q') * b = r' - r := by linarith [h.sum, h'.sum]
  have close : (r' - r).natAbs < b.natAbs := by
    have := h.small
    have := h'.small
    have := h.sign
    have := h'.sign
    omega
  have same : q - q' = 0 := by
    by_contra other
    rw [← apart, Int.natAbs_mul] at close
    have := Nat.le_mul_of_pos_left b.natAbs (Int.natAbs_pos.2 other)
    omega
  rw [same, Int.zero_mul] at apart
  omega

theorem Exactly.unique (h : Exactly op a b r) (h' : Exactly op a b r') : r = r' := by
  cases h with
  | add | sub | mul | bitAnd | bitOr | bitXor => cases h'; rfl
  | floorDiv h => cases h' with | floorDiv h' => exact (h.unique h').1
  | mod h => cases h' with | mod h' => exact (h.unique h').2
  | pow n =>
    generalize hb : (n : Int) = b at h'
    cases h' with | pow n' => rw [Int.ofNat_inj.1 hb]
  | shl n =>
    generalize hb : (n : Int) = b at h'
    cases h' with | shl n' => rw [Int.ofNat_inj.1 hb]
  | shr n h =>
    generalize hb : (n : Int) = b at h'
    cases h' with
    | shr n' h' =>
      rw [← Int.ofNat_inj.1 hb] at h'
      exact (h.unique h').1

/-- Nothing is exact about a division by zero. -/
theorem Exactly.ne_zero (h : Exactly op a b r) (division : op = .floorDiv ∨ op = .mod) : b ≠ 0 := by
  cases h with
  | floorDiv h | mod h => exact h.ne_zero
  | _ => simp at division

/-- Nothing is exact about a shift by a negative number of places. -/
theorem Exactly.nonneg (h : Exactly op a b r) (shift : op = .shl ∨ op = .shr) : 0 ≤ b := by
  cases h with
  | shl n | shr n => exact Int.natCast_nonneg n
  | _ => simp at shift

/-! ### Words -/

theorem fits_iff : fits n = true ↔ -0x8000000000000000 ≤ n ∧ n < 0x8000000000000000 := by
  simp [fits]

theorem isWord_64 (n : Int) : isWord 64 n = fits n := by
  rw [Bool.eq_iff_iff, fits_iff, isWord, decide_eq_true_iff]
  rfl

theorem isWord_128 : isWord 128 n = true ↔
    -0x80000000000000000000000000000000 ≤ n ∧ n < 0x80000000000000000000000000000000 := by
  rw [isWord, decide_eq_true_iff]
  rfl

theorem fits_of_natAbs_le (ha : fits a = true) (le : n.natAbs ≤ a.natAbs) (same : 0 ≤ n → 0 ≤ a) :
    fits n = true := by
  rw [fits_iff] at *
  omega

theorem not_fits_of_natAbs (large : 2 ^ 64 ≤ n.natAbs) : fits n = false := by
  rw [← Bool.not_eq_true, fits_iff]
  omega

/-- A step that is checked gives the exact result, or the fault that says that it does not fit. -/
theorem checked_comesTo (h : Exactly op a b r) :
    ∃ out, (checked (word 64 r)).run = some out ∧ ComesTo op a b out := by
  cases fit : fits r with
  | true =>
    rw [word_of_isWord (by rw [isWord_64, fit])]
    exact ⟨.ok r, rfl, .result h fit⟩
  | false =>
    rw [word_of_not_isWord (by rw [isWord_64, fit])]
    exact ⟨_, rfl, .overflow h fit⟩

/-- A step that is not checked gives the exact result where that fits. -/
theorem word_comesTo (h : Exactly op a b r) (fit : fits r = true) :
    ∃ out, (liftM (word 64 r) : Steps Int).run = some out ∧ ComesTo op a b out := by
  rw [word_of_isWord (by rw [isWord_64, fit])]
  exact ⟨.ok r, rfl, .result h fit⟩

/-! ### Division -/

/-- A remainder with the sign of the dividend has to be corrected if that of the divisor differs. -/
def Corrects (a b : Int) : Prop := a.tmod b ≠ 0 ∧ ¬(a < 0 ↔ b < 0)

instance (a b : Int) : Decidable (Corrects a b) := inferInstanceAs (Decidable (_ ∧ _))

theorem tmod_neg_iff (h : a.tmod b ≠ 0) : a.tmod b < 0 ↔ a < 0 := by
  have sign := Int.sign_tmod a b
  split at sign
  · exact absurd (Int.sign_eq_zero_iff_zero.1 sign) h
  · rw [← Int.sign_eq_neg_one_iff_neg, sign, Int.sign_eq_neg_one_iff_neg]

theorem natAbs_tmod_lt (hb : b ≠ 0) : (a.tmod b).natAbs < b.natAbs := by
  rw [Int.natAbs_tmod]
  exact Nat.mod_lt _ (Int.natAbs_pos.2 hb)

theorem division_tdiv (hb : b ≠ 0) (keeps : ¬Corrects a b) :
    Division a b (a.tdiv b) (a.tmod b) where
  sum := by rw [Int.mul_comm, Int.mul_tdiv_add_tmod]
  small := natAbs_tmod_lt hb
  sign := by
    by_cases h : a.tmod b = 0
    · exact .inl h
    · refine .inr ((tmod_neg_iff h).trans ?_)
      by_contra differ
      exact keeps ⟨h, differ⟩

theorem division_tdiv_sub (hb : b ≠ 0) (corrects : Corrects a b) :
    Division a b (a.tdiv b - 1) (a.tmod b + b) := by
  have small := natAbs_tmod_lt (a := a) hb
  have sign := tmod_neg_iff corrects.1
  obtain ⟨rest, differ⟩ := corrects
  refine ⟨?_, by omega, .inr (by omega)⟩
  linarith [Int.mul_tdiv_add_tmod a b, Int.mul_comm b (a.tdiv b), Int.sub_mul (a.tdiv b) 1 b]

/-- There is one quotient alone of words that is no word. -/
theorem fits_tdiv (ha : fits a = true) (hb : b ≠ 0) :
    fits (a.tdiv b) = true ∨ a = -0x8000000000000000 ∧ b = -1 := by
  have size := Int.natAbs_tdiv a b
  rw [fits_iff] at *
  by_cases unit : b.natAbs = 1
  · rw [unit] at size
    have size : (a.tdiv b).natAbs = a.natAbs := by rw [size]; exact Nat.div_one _
    rcases Int.natAbs_eq b with one | one <;> rw [unit] at one
    · rw [one]
      exact .inl (by rwa [Nat.cast_one, Int.tdiv_one])
    · rw [one, Nat.cast_one, Int.tdiv_neg, Int.tdiv_one]
      omega
  · have half : (a.tdiv b).natAbs ≤ a.natAbs / 2 := by
      rw [size]
      exact Nat.div_le_div_left (by omega) (by decide)
    omega

theorem fits_tdiv_sub (ha : fits a = true) (hb : b ≠ 0) (corrects : Corrects a b) :
    fits (a.tdiv b - 1) = true := by
  have size := Int.natAbs_tdiv a b
  have unit : b.natAbs ≠ 1 := by
    intro one
    have := natAbs_tmod_lt (a := a) hb
    rw [one] at this
    exact corrects.1 (by omega)
  have half : (a.tdiv b).natAbs ≤ a.natAbs / 2 := by
    rw [size]
    exact Nat.div_le_div_left (by omega) (by decide)
  rw [fits_iff] at *
  omega

theorem floorQuotient_comesTo (ha : fits a = true) :
    ∃ out, (floorQuotient a b).run = some out ∧ ComesTo .floorDiv a b out := by
  unfold floorQuotient
  by_cases hb : b = 0
  · rw [if_pos hb]
    exact ⟨_, rfl, .zero (.inl rfl) hb⟩
  rw [if_neg hb]
  rcases fits_tdiv ha hb with fit | ⟨rfl, rfl⟩
  · have inside : isWord 64 (a.tdiv b) = true := by rw [isWord_64, fit]
    rw [divWord_of_isWord hb inside, remWord_of_isWord hb inside]
    show ∃ out, ExceptT.run (if Corrects a b then liftM (word 64 (a.tdiv b - 1))
      else pure (a.tdiv b)) = some out ∧ _
    by_cases corrects : Corrects a b
    · rw [if_pos corrects]
      exact word_comesTo (.floorDiv (division_tdiv_sub hb corrects)) (fits_tdiv_sub ha hb corrects)
    · rw [if_neg corrects]
      exact ⟨_, rfl, .result (.floorDiv (division_tdiv hb corrects)) fit⟩
  · exact ⟨_, rfl, .overflow (.floorDiv (division_tdiv (by decide) (by decide))) rfl⟩

theorem floorRemainder_comesTo (ha : fits a = true) (hb : fits b = true) :
    ∃ out, (floorRemainder a b).run = some out ∧ ComesTo .mod a b out := by
  unfold floorRemainder
  by_cases zero : b = 0
  · rw [if_pos zero]
    exact ⟨_, rfl, .zero (.inr rfl) zero⟩
  rw [if_neg zero]
  rcases fits_tdiv ha zero with fit | ⟨rfl, rfl⟩
  · rw [remWord_of_isWord zero (by rw [isWord_64, fit])]
    have small := natAbs_tmod_lt (a := a) zero
    by_cases corrects : Corrects a b
    · have sign := tmod_neg_iff corrects.1
      rw [Option.getD_some, if_pos ⟨corrects.1, by rw [sign]; exact corrects.2⟩]
      refine word_comesTo (.mod (division_tdiv_sub zero corrects)) ?_
      have differ := corrects.2
      exact fits_of_natAbs_le hb (by omega) (by omega)
    · have keeps : ¬(a.tmod b ≠ 0 ∧ ¬(a.tmod b < 0 ↔ b < 0)) := by
        rintro ⟨rest, differ⟩
        exact corrects ⟨rest, by rwa [← tmod_neg_iff rest]⟩
      rw [Option.getD_some, if_neg keeps]
      refine ⟨_, rfl, .result (.mod (division_tdiv zero corrects)) ?_⟩
      rw [fits_iff] at *
      omega
  · exact ⟨_, rfl, .result (.mod (division_tdiv (by decide) (by decide))) rfl⟩

/-! ### Powers -/

/-- From two on, a power of 64 or more does not fit. -/
theorem not_fits_pow {n : Nat} (ha : 2 ≤ a.natAbs) (hn : 64 ≤ n) : fits (a ^ n) = false := by
  refine not_fits_of_natAbs ?_
  rw [Int.natAbs_pow]
  exact (Nat.pow_le_pow_right (by decide) hn).trans (Nat.pow_le_pow_left ha n)

theorem powWord_comesTo {n : Nat} :
    ∃ out, (checked (powWord a n)).run = some out ∧ ComesTo .pow a n out := by
  unfold powWord
  by_cases large : n ≥ 64 ∧ a.natAbs ≥ 2
  · rw [if_pos large]
    exact ⟨_, rfl, .overflow (.pow n) (not_fits_pow large.2 large.1)⟩
  · rw [if_neg large]
    exact checked_comesTo (.pow n)

theorem wholePower_comesTo (nonneg : 0 ≤ b) (hb : fits b = true) :
    ∃ out, (wholePower a b).run = some out ∧ ComesTo .pow a b out := by
  obtain ⟨n, rfl⟩ := Int.eq_ofNat_of_zero_le nonneg
  unfold wholePower
  by_cases unit : a = 0 ∨ a = 1
  · have power : a ^ n = if (n : Int) = 0 then 1 else a := by
      by_cases zero : n = 0
      · simp [zero]
      · rcases unit with rfl | rfl <;> simp [zero]
    rw [if_pos unit]
    refine ⟨_, rfl, power ▸ .result (.pow n) ?_⟩
    rw [power]
    rcases unit with rfl | rfl <;> split <;> rfl
  rw [if_neg unit]
  by_cases minus : a = -1
  · have quotient : fits ((n : Int).tdiv 2) = true := by
      rcases fits_tdiv hb (b := 2) (by decide) with fit | ⟨-, two⟩
      · exact fit
      · exact absurd two (by decide)
    have rest : (n : Int).tmod 2 = n % 2 := Int.tmod_eq_emod_of_nonneg nonneg
    have power : a ^ n = if (n : Int).tmod 2 = 0 then 1 else -1 := by
      rw [minus]
      split
      case isTrue even => exact Even.neg_one_pow (Nat.even_iff.2 (by rw [rest] at even; omega))
      case isFalse odd => exact Odd.neg_one_pow (Nat.odd_iff.2 (by rw [rest] at odd; omega))
    rw [if_pos minus, remWord_of_isWord (by decide) (by rw [isWord_64, quotient])]
    refine ⟨_, rfl, power ▸ .result (.pow n) ?_⟩
    rw [power]
    split <;> rfl
  rw [if_neg minus]
  split
  · exact powWord_comesTo
  · exact ⟨_, rfl, .overflow (.pow n) (not_fits_pow (by omega) (by omega))⟩

/-! ### Shifts -/

theorem step_bind {α : Type} (n : Int) (f : Int → Steps α) :
    (liftM (some n) >>= f : Steps α) = f n := rfl

theorem wrap_of_fits (fit : fits n = true) : n.bmod (Nat.pow 2 64) = n := by
  rw [fits_iff] at fit
  exact Int.bmod_eq_of_le fit.1 fit.2

/-- Shifting to the left loses nothing exactly if shifting back gives the same integer. -/
theorem fdiv_bmod_eq_iff {p : Nat} (hp : p ≠ 0) (whole : p ∣ 2 ^ 64) :
    ((a * p).bmod (Nat.pow 2 64)).fdiv p = a ↔ fits (a * p) = true := by
  constructor
  · intro back
    -- What is lost is a multiple of `2 ^ 64`, so `p` divides what is left.
    have divides : (p : Int) ∣ (a * p).bmod (Nat.pow 2 64) := by
      rw [Int.bmod_eq_self_sub_mul_bdiv]
      exact Int.dvd_sub (Int.dvd_mul_left a p)
        (Int.dvd_mul_of_dvd_left (Int.natCast_dvd_natCast.2 whole))
    have same := Int.fdiv_mul_cancel divides
    rw [back] at same
    rw [fits_iff, same]
    exact ⟨Int.le_bmod (by decide), Int.bmod_lt (by decide)⟩
  · intro fit
    rw [wrap_of_fits fit, Int.mul_fdiv_cancel a (Int.natCast_ne_zero.2 hp)]

theorem not_fits_shift {n : Nat} (ha : a ≠ 0) (hn : 64 ≤ n) : fits (a * 2 ^ n) = false := by
  refine not_fits_of_natAbs ?_
  rw [Int.natAbs_mul, Int.natAbs_pow]
  exact (Nat.pow_le_pow_right (by decide) hn).trans
    (Nat.le_mul_of_pos_left _ (Int.natAbs_pos.2 ha))

theorem shiftLeft_comesTo : ∃ out, (shiftLeft a b).run = some out ∧ ComesTo .shl a b out := by
  unfold shiftLeft
  by_cases places : b < 0
  · rw [if_pos places]
    exact ⟨_, rfl, .negative (.inl rfl) places⟩
  obtain ⟨n, rfl⟩ := Int.eq_ofNat_of_zero_le (Int.not_lt.1 places)
  rw [if_neg places]
  by_cases zero : a = 0
  · have product : a * 2 ^ n = 0 := by rw [zero, Int.zero_mul]
    rw [if_pos zero]
    exact ⟨_, rfl, product ▸ .result (.shl n) (by rw [product]; rfl)⟩
  rw [if_neg zero]
  by_cases far : (n : Int) ≥ 64
  · rw [if_pos far]
    exact ⟨_, rfl, .overflow (.shl n) (not_fits_shift zero (by omega))⟩
  have near : (n : Int) < (64 : Nat) := Int.not_le.1 far
  have back := fdiv_bmod_eq_iff (a := a) (p := Nat.pow 2 n) (Nat.pow_pos (by decide)).ne'
    (Nat.pow_dvd_pow 2 (by omega))
  have power : a * (Nat.pow 2 n : Nat) = a * 2 ^ n := by rw [Nat.pow_eq, Nat.cast_pow]; rfl
  rw [if_neg far, shlWord_of_lt (by omega) near, step_bind, shrWord_of_lt (by omega) near,
    step_bind, Int.toNat_natCast]
  by_cases fit : fits (a * (Nat.pow 2 n : Nat)) = true
  · rw [if_pos (back.2 fit), wrap_of_fits fit]
    rw [power] at fit ⊢
    exact ⟨_, rfl, .result (.shl n) fit⟩
  · rw [if_neg (fit ∘ back.1)]
    rw [power, Bool.not_eq_true] at fit
    exact ⟨_, rfl, .overflow (.shl n) fit⟩

theorem division_two_pow (a : Int) (n : Nat) :
    Division a (2 ^ n) (a.fdiv (2 ^ n : Nat)) (a % (2 ^ n : Nat)) := by
  have pos : (0 : Int) < (2 ^ n : Nat) := Int.natCast_pos.2 (by positivity)
  have power : ((2 ^ n : Nat) : Int) = 2 ^ n := by rw [Nat.cast_pow]; rfl
  have small := Int.emod_lt_of_pos a pos
  have nonneg := Int.emod_nonneg a pos.ne'
  rw [← power]
  refine ⟨?_, by omega, .inr (by omega)⟩
  rw [Int.fdiv_eq_ediv_of_nonneg a pos.le, Int.mul_comm, Int.mul_ediv_add_emod]

/-- Shifting a word far to the right leaves only its sign. -/
theorem division_far {n : Nat} (ha : fits a = true) (hn : 64 ≤ n) :
    Division a (2 ^ n) (if a < 0 then -1 else 0) (if a < 0 then a + 2 ^ n else a) := by
  have large : (2 ^ 64 : Int) ≤ 2 ^ n := pow_le_pow_right₀ (by decide) hn
  rw [fits_iff] at ha
  split
  · exact ⟨by ring, by omega, .inr (by omega)⟩
  · exact ⟨by ring, by omega, .inr (by omega)⟩

theorem shiftRight_comesTo (ha : fits a = true) :
    ∃ out, (shiftRight a b).run = some out ∧ ComesTo .shr a b out := by
  unfold shiftRight
  by_cases places : b < 0
  · rw [if_pos places]
    exact ⟨_, rfl, .negative (.inr rfl) places⟩
  obtain ⟨n, rfl⟩ := Int.eq_ofNat_of_zero_le (Int.not_lt.1 places)
  rw [if_neg places]
  by_cases far : (n : Int) ≥ 64
  · rw [if_pos far]
    refine ⟨_, rfl, .result (.shr n (division_far ha (by omega))) ?_⟩
    split <;> rfl
  · rw [if_neg far, shrWord_of_lt (by omega) (Int.not_le.1 far)]
    have h := division_two_pow a n
    refine ⟨_, rfl, .result (.shr n h) ?_⟩
    refine fits_of_natAbs_le ha (Int.natAbs_fdiv_le_natAbs a (2 ^ n : Nat)) fun nonneg => ?_
    rw [h.sum]
    exact Int.add_nonneg (Int.mul_nonneg nonneg (by positivity))
      (Int.emod_nonneg _ (Int.natCast_ne_zero.2 (by positivity)))

/-! ### Bits -/

theorem getLsbD_ofInt {i : Nat} (hi : i < 64) : (BitVec.ofInt 64 a).getLsbD i = a.testBit i := by
  cases a with
  | ofNat n =>
    show (BitVec.ofInt 64 (n : Int)).getLsbD i = n.testBit i
    rw [BitVec.ofInt_natCast, BitVec.getLsbD_ofNat, decide_eq_true hi, Bool.true_and]
  | negSucc n =>
    show (BitVec.ofInt 64 (Int.negSucc n)).getLsbD i = !n.testBit i
    rw [BitVec.ofInt_negSucc_eq_not_ofNat, BitVec.getLsbD_not, BitVec.getLsbD_ofNat,
      decide_eq_true hi, Bool.true_and, Bool.true_and]

/-- Whether all bits from the 64th on are those of the sign. -/
def Extended (n : Int) (s : Bool) : Prop := ∀ i ≥ 63, n.testBit i = s

theorem extended_of_fits (fit : fits n = true) : ∃ s, Extended n s := by
  rw [fits_iff] at fit
  cases n with
  | ofNat n =>
    rw [Int.ofNat_eq_natCast] at fit
    refine ⟨false, fun i hi => Nat.testBit_eq_false_of_lt ?_⟩
    have : n < 2 ^ 63 := by omega
    exact this.trans_le (Nat.pow_le_pow_right (by decide) hi)
  | negSucc n =>
    refine ⟨true, fun i hi => ?_⟩
    have : n < 2 ^ 63 := by omega
    show (!n.testBit i) = true
    rw [Nat.testBit_eq_false_of_lt (this.trans_le (Nat.pow_le_pow_right (by decide) hi))]
    rfl

/-- The highest bits of a natural number are zero, so they are all zero if they are all the same. -/
theorem lt_of_testBit {k : Nat} {c : Bool} (same : ∀ i ≥ 63, k.testBit i = c) : k < 2 ^ 63 := by
  have high : k.testBit (k + 63) = false :=
    Nat.testBit_eq_false_of_lt (Nat.lt_two_pow_self.trans_le
      (Nat.pow_le_pow_right (by decide) (Nat.le_add_right k 63)))
  rw [same _ (Nat.le_add_left 63 k)] at high
  exact Nat.lt_pow_two_of_testBit k fun i hi => (same i hi).trans high

theorem fits_of_extended {s : Bool} (h : Extended n s) : fits n = true := by
  rw [fits_iff]
  cases n with
  | ofNat n =>
    have := lt_of_testBit (k := n) (c := s) h
    rw [Int.ofNat_eq_natCast]
    omega
  | negSucc n =>
    have := lt_of_testBit (k := n) (c := !s) fun i hi => by
      rw [← h i hi]
      exact (Bool.not_not _).symm
    omega

/-- A bitwise operation on words is that on two's complement of unbounded width. -/
theorem bitwise_eq {f : BitVec 64 → BitVec 64 → BitVec 64} {g : Bool → Bool → Bool}
    (ha : fits a = true) (hb : fits b = true)
    (hf : ∀ x y i, i < 64 → (f x y).getLsbD i = g (x.getLsbD i) (y.getLsbD i))
    (hr : ∀ i, r.testBit i = g (a.testBit i) (b.testBit i)) :
    bitwise f a b = r ∧ fits r = true := by
  obtain ⟨s, ha⟩ := extended_of_fits ha
  obtain ⟨t, hb⟩ := extended_of_fits hb
  have fit : fits r = true := fits_of_extended (s := g s t) fun i hi => by
    rw [hr, ha i hi, hb i hi]
  have bits : f (BitVec.ofInt 64 a) (BitVec.ofInt 64 b) = BitVec.ofInt 64 r :=
    BitVec.eq_of_getLsbD_eq fun i hi => by
      rw [hf _ _ i hi, getLsbD_ofInt hi, getLsbD_ofInt hi, getLsbD_ofInt hi, hr]
  refine ⟨?_, fit⟩
  rw [bitwise, bits, BitVec.toInt_ofInt]
  exact wrap_of_fits fit

theorem bitAnd_eq (ha : fits a = true) (hb : fits b = true) :
    bitwise (· &&& ·) a b = a.land b ∧ fits (a.land b) = true :=
  bitwise_eq (g := and) ha hb (fun _ _ _ _ => BitVec.getLsbD_and) (Int.testBit_land a b)

theorem bitOr_eq (ha : fits a = true) (hb : fits b = true) :
    bitwise (· ||| ·) a b = a.lor b ∧ fits (a.lor b) = true :=
  bitwise_eq (g := or) ha hb (fun _ _ _ _ => BitVec.getLsbD_or) (Int.testBit_lor a b)

theorem bitXor_eq (ha : fits a = true) (hb : fits b = true) :
    bitwise (· ^^^ ·) a b = a.xor b ∧ fits (a.xor b) = true :=
  bitwise_eq (g := Bool.xor) ha hb (fun _ _ _ _ => BitVec.getLsbD_xor) (Int.testBit_lxor a b)

/-! ### All operators -/

/-- The steps of an operator on words come to what the operator does: none of them overflows
unchecked. -/
theorem intSteps_comesTo (ha : fits a = true) (hb : fits b = true) (whole : op ≠ .div)
    (power : op = .pow → 0 ≤ b) :
    ∃ out, (intSteps op a b).run = some (Value.int <$> out) ∧ ComesTo op a b out := by
  have number {x : Steps Int} (h : ∃ out, x.run = some out ∧ ComesTo op a b out) :
      ∃ out, (Value.int <$> x : Steps Value).run = some (Value.int <$> out) ∧
        ComesTo op a b out := by
    obtain ⟨out, ends, comes⟩ := h
    refine ⟨out, ?_, comes⟩
    rw [ExceptT.run_map, ends]
    rfl
  cases op with
  | add => exact number (checked_comesTo .add)
  | sub => exact number (checked_comesTo .sub)
  | mul => exact number (checked_comesTo .mul)
  | div => exact absurd rfl whole
  | floorDiv => exact number (floorQuotient_comesTo ha)
  | mod => exact number (floorRemainder_comesTo ha hb)
  | pow =>
    rw [intSteps, if_pos (power rfl)]
    exact number (wholePower_comesTo (power rfl) hb)
  | bitAnd =>
    obtain ⟨same, fit⟩ := bitAnd_eq ha hb
    exact ⟨.ok _, rfl, same ▸ .result .bitAnd fit⟩
  | bitOr =>
    obtain ⟨same, fit⟩ := bitOr_eq ha hb
    exact ⟨.ok _, rfl, same ▸ .result .bitOr fit⟩
  | bitXor =>
    obtain ⟨same, fit⟩ := bitXor_eq ha hb
    exact ⟨.ok _, rfl, same ▸ .result .bitXor fit⟩
  | shl => exact number shiftLeft_comesTo
  | shr => exact number (shiftRight_comesTo ha)

/-! ### Results and faults -/

namespace ComesTo

variable {out : Except Fault Int} (h : ComesTo op a b out)

include h

theorem ok_iff : out = .ok r ↔ Exactly op a b r ∧ fits r = true := by
  constructor
  · rintro rfl
    cases h with | result h fit => exact ⟨h, fit⟩
  · rintro ⟨exactly, fit⟩
    cases h with
    | result h _ => rw [h.unique exactly]
    | overflow h large => exact absurd (h.unique exactly ▸ fit) (by simp [large])
    | zero h divisor => exact absurd divisor (exactly.ne_zero h)
    | negative h places => exact absurd (exactly.nonneg h) (by omega)

theorem overflow_iff : Raises out "OverflowError" ↔ ∃ r, Exactly op a b r ∧ fits r = false := by
  constructor
  · rintro ⟨f, rfl, kind⟩
    cases h with
    | overflow h large => exact ⟨_, h, large⟩
    | zero | negative => exact absurd kind (by simp [Fault.kind])
  · rintro ⟨r, exactly, large⟩
    cases h with
    | result h fit => exact absurd (h.unique exactly ▸ fit) (by simp [large])
    | overflow => exact ⟨_, rfl, rfl⟩
    | zero h divisor => exact absurd divisor (exactly.ne_zero h)
    | negative h places => exact absurd (exactly.nonneg h) (by omega)

theorem zero_iff :
    Raises out "ZeroDivisionError" ↔ (op = .floorDiv ∨ op = .mod) ∧ b = 0 := by
  constructor
  · rintro ⟨f, rfl, kind⟩
    cases h with
    | zero h divisor => exact ⟨h, divisor⟩
    | overflow | negative => exact absurd kind (by decide)
  · rintro ⟨division, divisor⟩
    cases h with
    | result h | overflow h => exact absurd divisor (h.ne_zero division)
    | zero => exact ⟨_, rfl, rfl⟩
    | negative h => rcases h with rfl | rfl <;> simp at division

theorem negative_iff : Raises out "ValueError" ↔ (op = .shl ∨ op = .shr) ∧ b < 0 := by
  constructor
  · rintro ⟨f, rfl, kind⟩
    cases h with
    | negative h places => exact ⟨h, places⟩
    | overflow | zero => exact absurd kind (by simp [Fault.kind])
  · rintro ⟨shift, places⟩
    cases h with
    | result h | overflow h => exact absurd (h.nonneg shift) (by omega)
    | zero h => rcases h with rfl | rfl <;> simp at shift
    | negative => exact ⟨_, rfl, rfl⟩

theorem exists_exactly (divides : ¬((op = .floorDiv ∨ op = .mod) ∧ b = 0))
    (shifts : ¬((op = .shl ∨ op = .shr) ∧ b < 0)) : ∃! r, Exactly op a b r := by
  cases h with
  | result h | overflow h => exact ⟨_, h, fun _ h' => h'.unique h⟩
  | zero h divisor => exact absurd ⟨h, divisor⟩ divides
  | negative h places => exact absurd ⟨h, places⟩ shifts

end ComesTo

theorem raises_map {α β : Type} {x : Except Fault α} {f : α → β} {kind : String} :
    Raises (f <$> x) kind ↔ Raises x kind := by
  cases x with
  | ok => exact iff_of_false (fun ⟨_, h, _⟩ => nomatch h) fun ⟨_, h, _⟩ => nomatch h
  | error e =>
    constructor <;> rintro ⟨f, h, kind⟩ <;> cases h <;> exact ⟨_, rfl, kind⟩

theorem intOp_comesTo (ha : fits a = true) (hb : fits b = true) (whole : op ≠ .div)
    (power : op = .pow → 0 ≤ b) :
    ∃ out, intOp op a b = Value.int <$> out ∧ ComesTo op a b out := by
  obtain ⟨out, ends, comes⟩ := intSteps_comesTo ha hb whole power
  refine ⟨out, ?_, comes⟩
  rw [intOp, ends]
  rfl

theorem intOp_ok_iff (ha : fits a = true) (hb : fits b = true) (whole : op ≠ .div)
    (power : op = .pow → 0 ≤ b) {v : Value} :
    intOp op a b = .ok v ↔ ∃ r, v = .int r ∧ Exactly op a b r ∧ fits r = true := by
  obtain ⟨out, ends, comes⟩ := intOp_comesTo ha hb whole power
  rw [ends]
  constructor
  · intro ok
    cases out with
    | error => exact nomatch ok
    | ok r =>
      cases ok
      exact ⟨r, rfl, comes.ok_iff.1 rfl⟩
  · rintro ⟨r, rfl, exactly⟩
    rw [comes.ok_iff.2 exactly]
    rfl

/-- Quotient and remainder as computed belong together. -/
theorem intOp_division (ha : fits a = true) (hb : fits b = true)
    (quotient : intOp .floorDiv a b = .ok (.int q))
    (remainder : intOp .mod a b = .ok (.int r)) : Division a b q r := by
  obtain ⟨_, same, exactly, -⟩ := (@intOp_ok_iff .floorDiv _ _ ha hb nofun nofun _).1 quotient
  cases same
  obtain ⟨_, same, exactly', -⟩ := (@intOp_ok_iff .mod _ _ ha hb nofun nofun _).1 remainder
  cases same
  cases exactly with
  | floorDiv h =>
    cases exactly' with
    | mod h' => exact (h.unique h').2 ▸ h

/-- An operator on two integers of 64 bits, a power being one with an exponent that is not negative,
gives nothing but its exact result, whenever that fits; there is one unless a divisor is zero or a
shift goes by a negative number of places. It fails with `OverflowError` exactly if the exact result
does not fit, with `ZeroDivisionError` exactly for a division by zero, and with `ValueError` exactly
for a negative shift. No step overflows unchecked. Quotient and remainder belong together. -/
theorem intOp_exact (ha : fits a = true) (hb : fits b = true) (whole : op ≠ .div)
    (power : op = .pow → 0 ≤ b) :
    (intSteps op a b).run.isSome = true ∧
      (∀ v, intOp op a b = .ok v ↔ ∃ r, v = .int r ∧ Exactly op a b r ∧ fits r = true) ∧
      (Raises (intOp op a b) "OverflowError" ↔ ∃ r, Exactly op a b r ∧ fits r = false) ∧
      (Raises (intOp op a b) "ZeroDivisionError" ↔ (op = .floorDiv ∨ op = .mod) ∧ b = 0) ∧
      (Raises (intOp op a b) "ValueError" ↔ (op = .shl ∨ op = .shr) ∧ b < 0) ∧
      (¬((op = .floorDiv ∨ op = .mod) ∧ b = 0) → ¬((op = .shl ∨ op = .shr) ∧ b < 0) →
        ∃! r, Exactly op a b r) ∧
      ∀ q r, intOp .floorDiv a b = .ok (.int q) → intOp .mod a b = .ok (.int r) →
        Division a b q r := by
  obtain ⟨_, ends, -⟩ := intSteps_comesTo ha hb whole power
  obtain ⟨out, same, comes⟩ := intOp_comesTo ha hb whole power
  refine ⟨by rw [ends]; rfl, fun v => intOp_ok_iff ha hb whole power, ?_⟩
  rw [same, raises_map, raises_map, raises_map]
  exact ⟨comes.overflow_iff, comes.zero_iff, comes.negative_iff, comes.exists_exactly,
    fun q r => intOp_division ha hb⟩

/-- `-2 ** 63 // -1` is `2 ** 63`, the only quotient of two integers that does not fit. -/
theorem intOp_exact_least :
    Raises (intOp .floorDiv (-0x8000000000000000) (-1)) "OverflowError" ∧
      ∃ r, Exactly .floorDiv (-0x8000000000000000) (-1) r ∧ fits r = false := by
  have raises : Raises (intOp .floorDiv (-0x8000000000000000) (-1)) "OverflowError" :=
    ⟨_, rfl, rfl⟩
  obtain ⟨-, -, overflow, -⟩ :=
    @intOp_exact .floorDiv (-0x8000000000000000) (-1) rfl rfl nofun nofun
  exact ⟨raises, overflow.1 raises⟩

end Stepwise
