import Stepwise.Proofs.Exact
import Mathlib.Data.Int.ModEq

/-!
# Powers modulo an integer

`pow` with three arguments gives the residue of a power that lies between zero and the modulus, on
the side of zero where the modulus is (`modularPow_residue`). Squaring and multiplying stay inside
words of 128 bits.

## The model

What is left to compute is the result times a power of the base (`powLoop`). A round halves the
exponent and keeps the residue of this product (`powRound_keeps`), so a run of rounds keeps it as
well (`powLoop_keeps`).
-/

namespace Stepwise

/-! ### Words of 128 bits -/

theorem isWord_128_of_fits {n : Int} (fit : fits n = true) : isWord 128 n = true := by
  rw [fits_iff] at fit
  rw [isWord_128]
  omega

theorem isWord_128_tdiv {a m : Int} (nonneg : 0 ≤ a) (ha : isWord 128 a = true) :
    isWord 128 (a.tdiv m) = true := by
  have size : (a.tdiv m).natAbs ≤ a.natAbs := by
    rw [Int.natAbs_tdiv]
    exact Nat.div_le_self _ _
  rw [isWord_128] at *
  omega

/-- A number that was reduced modulo some `m`, or one. -/
structure Reduced (n : Int) : Prop where
  nonneg : 0 ≤ n
  le : n ≤ 0x8000000000000000

variable {m n a b e result : Int}

theorem Reduced.emod (size : fits m = true) (nonzero : m ≠ 0) : Reduced (n % m) where
  nonneg := Int.emod_nonneg n nonzero
  le := by
    have := Int.emod_lt n nonzero
    rw [fits_iff] at size
    omega

/-- A product of reduced numbers is a word of 128 bits. -/
theorem Reduced.isWord_mul (ha : Reduced a) (hb : Reduced b) : isWord 128 (a * b) = true := by
  have nonneg := Int.mul_nonneg ha.nonneg hb.nonneg
  have le : a * b ≤ 0x8000000000000000 * 0x8000000000000000 :=
    Int.mul_le_mul ha.le hb.le hb.nonneg (by decide)
  rw [isWord_128]
  omega

theorem Reduced.mulRem_eq (nonzero : m ≠ 0) (ha : Reduced a) (hb : Reduced b) :
    mulRem a b m = some (a * b % m) := by
  have nonneg := Int.mul_nonneg ha.nonneg hb.nonneg
  have product := ha.isWord_mul hb
  have remainder := remWord_of_isWord nonzero (isWord_128_tdiv nonneg product)
  rw [mulRem, word_of_isWord product, Int.tmod_eq_emod_of_nonneg nonneg] at *
  exact remainder

/-! ### Rounds -/

/-- A round stays inside the words, and keeps the residue of what is left to compute. -/
theorem powRound_keeps (size : fits m = true) (nonzero : m ≠ 0) (e : Nat) (hr : Reduced result)
    (hb : Reduced b) : ∃ result' b', powRound m e result b = some (result', b') ∧
      Reduced result' ∧ Reduced b' ∧ result' * b' ^ (e / 2) ≡ result * b ^ e [ZMOD m] := by
  have square : b * b % m ≡ b ^ 2 [ZMOD m] := by
    rw [pow_two]
    exact Int.mod_modEq _ _
  have halved := square.pow (e / 2)
  rw [← pow_mul] at halved
  by_cases odd : e % 2 = 1
  · have split : result * b ^ e = result * b * b ^ (2 * (e / 2)) := by
      conv_lhs => rw [← Nat.div_add_mod e 2, odd, pow_succ]
      ring
    refine ⟨result * b % m, b * b % m, ?_, .emod size nonzero, .emod size nonzero, ?_⟩
    · simp only [powRound, if_pos odd, hr.mulRem_eq nonzero hb, hb.mulRem_eq nonzero hb]
      rfl
    · rw [split]
      exact (Int.mod_modEq _ _).mul halved
  · have even : 2 * (e / 2) = e := by omega
    rw [even] at halved
    refine ⟨result, b * b % m, ?_, hr, .emod size nonzero, Int.ModEq.rfl.mul halved⟩
    simp only [powRound, if_neg odd, hb.mulRem_eq nonzero hb]
    rfl

/-- A run of rounds comes to an end, with the residue of what there was to compute at its start. -/
theorem powLoop_keeps (size : fits m = true) (nonzero : m ≠ 0) : ∀ (fuel e : Nat) {result b : Int},
    e < 2 ^ fuel → Reduced result → Reduced b →
    ∃ r, powLoop m fuel e result b = some r ∧ Reduced r ∧ r ≡ result * b ^ e [ZMOD m]
  | 0, e, result, b, lt, hr, _ => by
    obtain rfl : e = 0 := by omega
    exact ⟨result, rfl, hr, by rw [pow_zero, mul_one]⟩
  | fuel + 1, e, result, b, lt, hr, hb => by
    by_cases zero : e = 0
    · rw [powLoop, if_pos zero, zero]
      exact ⟨result, rfl, hr, by rw [pow_zero, mul_one]⟩
    · obtain ⟨result', b', round, hr', hb', keeps⟩ := powRound_keeps size nonzero e hr hb
      have half : e / 2 < 2 ^ fuel := by
        rw [pow_succ] at lt
        omega
      obtain ⟨r, ends, reduced, residue⟩ := powLoop_keeps size nonzero fuel (e / 2) half hr' hb'
      rw [powLoop, if_neg zero, round]
      exact ⟨r, ends, reduced, residue.trans keeps⟩

/-! ### The residue -/

/-- Whether `r` is the residue of `n` modulo `m` that has the sign of `m`. -/
structure Residue (n m r : Int) : Prop where
  congr : r ≡ n [ZMOD m]
  positive : 0 < m → 0 ≤ r ∧ r < m
  negative : m < 0 → m < r ∧ r ≤ 0

theorem Residue.fits {r : Int} (h : Residue n m r) (size : fits m = true) (nonzero : m ≠ 0) :
    fits r = true := by
  have := h.positive
  have := h.negative
  rw [fits_iff] at *
  omega

/-- There is one residue of each sign. -/
theorem Residue.unique {r r' : Int} (h : Residue n m r) (h' : Residue n m r') (nonzero : m ≠ 0) :
    r = r' := by
  have multiple := Int.ModEq.dvd (h'.congr.trans h.congr.symm)
  have close : (r - r').natAbs < m.natAbs := by
    have := h.positive
    have := h.negative
    have := h'.positive
    have := h'.negative
    omega
  have same := Int.eq_zero_of_dvd_of_natAbs_lt_natAbs multiple close
  omega

theorem emod_natAbs (n m : Int) : n % m.natAbs = n % m := by
  rcases Int.natAbs_eq m with same | same
  · rw [← same]
  · conv_rhs => rw [same, Int.emod_neg]

theorem withSignOf_residue (n : Int) (size : fits m = true) (nonzero : m ≠ 0) :
    ∃ r, withSignOf m (n % m) = some r ∧ Residue n m r := by
  have nonneg := Int.emod_nonneg n nonzero
  have lt := Int.emod_lt n nonzero
  unfold withSignOf
  split
  · have congr : n % m + m ≡ n [ZMOD m] := by
      have := (Int.mod_modEq n m).add (Int.modEq_zero_iff_dvd.2 (Int.dvd_refl m))
      rwa [Int.add_zero] at this
    have residue : Residue n m (n % m + m) := ⟨congr, by omega, by omega⟩
    exact ⟨_, word_of_isWord (isWord_128_of_fits (residue.fits size nonzero)), residue⟩
  · exact ⟨_, rfl, Int.mod_modEq n m, by omega, by omega⟩

/-- The steps of `modularPow` stay inside the words, and nothing is lost when the result is cut to
64 bits. -/
theorem modularSteps_eq (hb : fits b = true) (size : fits m = true) (nonzero : m ≠ 0) :
    ∃ r, modularSteps b e m = some r ∧ Residue (b ^ e.toNat) m r := by
  have first : modWord 128 b m = some (b % m) := by
    refine modWord_of_isWord nonzero ?_
    have quotient : (b.tdiv m).natAbs ≤ b.natAbs := by
      rw [Int.natAbs_tdiv]
      exact Nat.div_le_self _ _
    rw [fits_iff] at hb
    rw [isWord_128]
    omega
  have one : Reduced 1 := ⟨by decide, by decide⟩
  obtain ⟨p, power, reduced, congr⟩ := powLoop_keeps size nonzero (e.toNat.log2 + 1) e.toNat
    Nat.lt_log2_self one (.emod (n := b) size nonzero)
  obtain ⟨r, moved, residue⟩ := withSignOf_residue p size nonzero
  have magnitude : word 128 m.natAbs = some (m.natAbs : Int) := by
    refine word_of_isWord ?_
    rw [fits_iff] at size
    rw [isWord_128]
    omega
  have last : modWord 128 p m.natAbs = some (p % m) := by
    rw [modWord_of_isWord (by omega) (isWord_128_tdiv reduced.nonneg ?_), emod_natAbs]
    · have := reduced.nonneg
      have := reduced.le
      rw [isWord_128]
      omega
  refine ⟨r, ?_, residue.congr.trans (congr.trans ?_), residue.positive, residue.negative⟩
  · simp only [modularSteps, first, power, magnitude, last, moved, Option.bind_eq_bind,
      Option.bind_some]
    exact congrArg some (wrap_of_fits (residue.fits size nonzero))
  · rw [one_mul]
    exact (Int.mod_modEq b m).pow e.toNat

/-- `pow(b, e, m)` of integers of 64 bits, the exponent not being negative and the modulus not zero,
is the one residue of `b ** e` modulo `m` with the sign of `m`; it fits, and no step overflows. -/
theorem modularPow_residue (hb : fits b = true) (nonneg : 0 ≤ e) (size : fits m = true)
    (nonzero : m ≠ 0) :
    (modularSteps b e m).isSome = true ∧
      ∃ r, modularPow b e m = .ok r ∧ fits r = true ∧ r ≡ b ^ e.toNat [ZMOD m] ∧
        (0 < m → 0 ≤ r ∧ r < m) ∧ (m < 0 → m < r ∧ r ≤ 0) ∧
        ∀ r', Residue (b ^ e.toNat) m r' → r' = r := by
  obtain ⟨r, steps, residue⟩ := modularSteps_eq (e := e) hb size nonzero
  refine ⟨by rw [steps]; rfl, r, ?_, residue.fits size nonzero, residue.congr, residue.positive,
    residue.negative, fun _ other => other.unique residue nonzero⟩
  rw [modularPow, if_neg nonzero, if_neg (Int.not_lt.2 nonneg), steps]

/-- `pow(3, 5, -2 ** 63)` is not positive. -/
theorem modularPow_residue_least :
    ∃ r, modularPow 3 5 (-0x8000000000000000) = .ok r ∧ r ≡ 3 ^ 5 [ZMOD -0x8000000000000000] ∧
      -0x8000000000000000 < r ∧ r ≤ 0 := by
  obtain ⟨-, r, result, -, congr, -, negative, -⟩ := @modularPow_residue (-0x8000000000000000) 3 5
    rfl (by decide) rfl (by decide)
  exact ⟨r, result, congr, negative (by decide)⟩

end Stepwise
