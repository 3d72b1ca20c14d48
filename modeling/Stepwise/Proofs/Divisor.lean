import Stepwise.Eval.Run
import Stepwise.Proofs.Exact
import Mathlib.Data.Int.GCD

/-!
# Greatest common divisors

`math.gcd` gives the greatest common divisor of its arguments, unless the first of them that is not
zero is the least integer, whose magnitude is no integer of 64 bits (`gcd_greatest`). What has been
computed from the arguments so far has to fit after each of them. It is a divisor of the argument
that has come last, so it fits from the first argument on that does not leave it at zero. That the
greatest common divisor of all arguments would fit is not enough, and the order matters in this case
alone.

## The model

Euclid's algorithm runs on magnitudes, and what it gives for one argument goes into the next round.
A round keeps the common divisors of what has been computed and the arguments that are left
(`Greatest.of_step`).
-/

namespace Stepwise

variable {σ : Type}

/-- Whether `g` is the greatest common divisor of some integers. It is zero if all of them are. -/
structure Greatest (ns : List Int) (g : Int) : Prop where
  nonneg : 0 ≤ g
  divides : ∀ n ∈ ns, g ∣ n
  greatest : ∀ d, (∀ n ∈ ns, d ∣ n) → d ∣ g

/-- The first of some integers that is not zero. -/
def firstNonzero? (ns : List Int) : Option Int := ns.find? (· != 0)

/-- The least integer of 64 bits. -/
def leastInt : Int := -0x8000000000000000

variable {ns ns' : List Int} {g g' n : Int}

/-- There is one greatest common divisor, whatever the order. -/
theorem Greatest.unique (h : Greatest ns g) (h' : Greatest ns' g') (same : ns.Perm ns') :
    g = g' := by
  refine Int.dvd_antisymm h.nonneg h'.nonneg ?_ ?_
  · exact h'.greatest g fun n mem => h.divides n (same.mem_iff.2 mem)
  · exact h.greatest g' fun n mem => h'.divides n (same.mem_iff.1 mem)

theorem Greatest.single (pos : 0 ≤ g) : Greatest [g] g where
  nonneg := pos
  divides n mem := by rw [List.mem_singleton.1 mem]
  greatest d h := h g (List.mem_singleton.2 rfl)

/-- Zero has every divisor. -/
theorem Greatest.zero_cons (h : Greatest ns g) : Greatest (0 :: ns) g where
  nonneg := h.nonneg
  divides n mem := by
    obtain rfl | mem := List.mem_cons.1 mem
    · exact Int.dvd_zero g
    · exact h.divides n mem
  greatest d common := h.greatest d fun n mem => common n (List.mem_cons_of_mem 0 mem)

/-- What divides `g` and `n` is what divides their greatest common divisor. -/
theorem Greatest.of_step (h : Greatest (Int.gcd n g :: ns) g') : Greatest (g :: n :: ns) g' where
  nonneg := h.nonneg
  divides k mem := by
    obtain ⟨left, right⟩ := Int.dvd_coe_gcd_iff.1 (h.divides _ List.mem_cons_self)
    obtain rfl | mem := List.mem_cons.1 mem
    · exact right
    obtain rfl | mem := List.mem_cons.1 mem
    · exact left
    · exact h.divides k (List.mem_cons_of_mem _ mem)
  greatest d common := h.greatest d fun k mem => by
    obtain rfl | mem := List.mem_cons.1 mem
    · exact Int.dvd_coe_gcd (common n (by simp)) (common g (by simp))
    · exact common k (List.mem_cons_of_mem _ (List.mem_cons_of_mem _ mem))

/-- Magnitudes have the same divisors. -/
theorem Greatest.of_natAbs (h : Greatest (n.natAbs :: ns) g) : Greatest (n :: ns) g where
  nonneg := h.nonneg
  divides k mem := by
    obtain rfl | mem := List.mem_cons.1 mem
    · exact Int.dvd_natAbs.1 (h.divides _ List.mem_cons_self)
    · exact h.divides k (List.mem_cons_of_mem _ mem)
  greatest d common := h.greatest d fun k mem => by
    obtain rfl | mem := List.mem_cons.1 mem
    · exact Int.dvd_natAbs.2 (common n List.mem_cons_self)
    · exact common k (List.mem_cons_of_mem n mem)

/-! ### Rounds -/

theorem euclid_eq (a b : Nat) : euclid a b = Nat.gcd a b := by
  fun_induction euclid a b with
  | case1 a => exact (Nat.gcd_zero_right a).symm
  | case2 a b _ ih => rw [ih, Nat.gcd_comm, ← Nat.gcd_rec, Nat.gcd_comm]

theorem gcdStep_eq (g n : Int) : gcdStep g n = exact (Int.gcd n g) := by
  rw [gcdStep, euclid_eq]
  rfl

/-- Once there is something, it does not become larger. -/
theorem gcdStep_of_pos (pos : 0 < g) (fit : fits g = true) :
    gcdStep g n = .ok (Int.gcd n g) ∧ 0 < (Int.gcd n g : Int) ∧ fits (Int.gcd n g) = true := by
  have le : (Int.gcd n g : Int) ≤ g := Int.le_of_dvd pos (Int.gcd_dvd_right n g)
  have some : 0 < Int.gcd n g := Int.gcd_pos_of_ne_zero_right n (by omega)
  have inside : fits (Int.gcd n g) = true := by
    rw [fits_iff] at fit ⊢
    omega
  rw [gcdStep_eq, exact, if_pos inside]
  exact ⟨rfl, by omega, inside⟩

/-- From a number on that fits, the arguments that are left lead to the greatest common divisor of
all of them. -/
theorem gcdSteps_of_pos : ∀ (ns : List Int) {g : Int}, 0 < g → fits g = true →
    ∃ d, ns.foldlM gcdStep g = .ok d ∧ fits d = true ∧ Greatest (g :: ns) d
  | [], g, pos, fit => ⟨g, rfl, fit, .single (Int.le_of_lt pos)⟩
  | n :: ns, g, pos, fit => by
    obtain ⟨step, pos', fit'⟩ := gcdStep_of_pos (n := n) pos fit
    obtain ⟨d, rest, inside, greatest⟩ := gcdSteps_of_pos ns pos' fit'
    rw [List.foldlM_cons, step]
    exact ⟨d, rest, inside, greatest.of_step⟩

/-- What the arguments lead to from zero on depends on the first of them that is not zero. -/
theorem gcdSteps : ∀ ns : List Int, (∀ n ∈ ns, fits n = true) →
    (firstNonzero? ns = some leastInt → ns.foldlM gcdStep 0 = .error (.overflow .integer)) ∧
      (firstNonzero? ns ≠ some leastInt →
        ∃ d, ns.foldlM gcdStep 0 = .ok d ∧ fits d = true ∧ Greatest ns d)
  | [], _ => by
    refine ⟨nofun, fun _ => ⟨0, rfl, rfl, Int.le_refl 0, nofun, fun d _ => Int.dvd_zero d⟩⟩
  | n :: ns, fit => by
    have first := gcdStep_eq 0 n
    rw [Int.gcd_zero_right] at first
    by_cases zero : n = 0
    · subst zero
      obtain ⟨overflow, result⟩ := gcdSteps ns fun k mem => fit k (List.mem_cons_of_mem 0 mem)
      have skip : firstNonzero? (0 :: ns) = firstNonzero? ns := rfl
      rw [skip, List.foldlM_cons, first]
      refine ⟨overflow, fun other => ?_⟩
      obtain ⟨d, rest, inside, greatest⟩ := result other
      exact ⟨d, rest, inside, greatest.zero_cons⟩
    · have here : firstNonzero? (n :: ns) = some n := by simp [firstNonzero?, zero]
      have inside := fits_iff.1 (fit n List.mem_cons_self)
      rw [here, List.foldlM_cons, first, exact]
      by_cases least : n = leastInt
      · rw [least]
        exact ⟨fun _ => rfl, fun other => absurd rfl other⟩
      · have fits : fits n.natAbs = true := by
          rw [leastInt] at least
          rw [fits_iff]
          omega
        rw [if_pos fits]
        refine ⟨fun same => absurd (Option.some.inj same) least, fun _ => ?_⟩
        obtain ⟨d, rest, inside, greatest⟩ := gcdSteps_of_pos ns (g := n.natAbs) (by omega) fits
        exact ⟨d, rest, inside, greatest.of_natAbs⟩

/-! ### The built-in -/

/-- The rounds of the built-in are those of its arguments. -/
theorem mathGcd_ints : ∀ (ns : List Int) (g : Int),
    (mathGcd (ns.map .int) g : M σ Value) = do return .int (← lift (ns.foldlM gcdStep g))
  | [], g => rfl
  | n :: ns, g => by
    have index : (indexValue (.int n) : M σ Int) = pure n := rfl
    rw [List.map_cons, mathGcd, index, pure_bind, List.foldlM_cons]
    cases gcdStep g n with
    | ok g' => exact mathGcd_ints ns g'
    | error f => rfl

theorem callBuiltin_gcd (r : Runner σ) (ns : List Int) (m : Machine σ) :
    callBuiltin r .gcd (ns.map .int) [] m = match ns.foldlM gcdStep 0 with
      | .ok g => .ok (.int g) m
      | .error f => .error (.error ⟨f, m.pos⟩) m := by
  show mathGcd (ns.map .int) 0 m = _
  rw [mathGcd_ints]
  cases ns.foldlM gcdStep 0 <;> rfl

/-- `math.gcd` of integers of 64 bits is an overflow exactly if the first of them that is not zero
is the least integer. Otherwise it is the greatest common divisor of all of them, which fits; so two
orders of the same integers that both give a result give the same one. -/
theorem gcd_greatest (r : Runner σ) (m : Machine σ) (ns : List Int)
    (fit : ∀ n ∈ ns, fits n = true) :
    (callBuiltin r .gcd (ns.map .int) [] m = .error (.error ⟨.overflow .integer, m.pos⟩) m ↔
        firstNonzero? ns = some leastInt) ∧
      (firstNonzero? ns ≠ some leastInt →
        ∃ g, callBuiltin r .gcd (ns.map .int) [] m = .ok (.int g) m ∧ fits g = true ∧
          Greatest ns g ∧
          ∀ ns', ns.Perm ns' → firstNonzero? ns' ≠ some leastInt →
            callBuiltin r .gcd (ns'.map .int) [] m = .ok (.int g) m) := by
  obtain ⟨overflow, result⟩ := gcdSteps ns fit
  refine ⟨⟨fun fails => ?_, fun least => ?_⟩, fun other => ?_⟩
  · by_contra other
    obtain ⟨g, steps, -⟩ := result other
    rw [callBuiltin_gcd, steps] at fails
    cases fails
  · rw [callBuiltin_gcd, overflow least]
  · obtain ⟨g, steps, inside, greatest⟩ := result other
    refine ⟨g, by rw [callBuiltin_gcd, steps], inside, greatest, fun ns' same other' => ?_⟩
    obtain ⟨g', steps', -, greatest'⟩ :=
      (gcdSteps ns' fun n mem => fit n (same.mem_iff.2 mem)).2 other'
    rw [callBuiltin_gcd, steps', greatest.unique greatest' same]

/-- `gcd(3, -2 ** 63)` has a result, and `gcd(-2 ** 63, 3)` overflows. -/
theorem gcd_greatest_least :
    let m := Machine.start ()
    (∃ g, callBuiltin (quiet 1) .gcd [.int 3, .int leastInt] [] m = .ok (.int g) m ∧
        Greatest [3, leastInt] g) ∧
      callBuiltin (quiet 1) .gcd [.int leastInt, .int 3] [] m =
        .error (.error ⟨.overflow .integer, m.pos⟩) m := by
  intro m
  obtain ⟨g, result, -, greatest, -⟩ :=
    (gcd_greatest (quiet 1) m [3, leastInt] (by decide)).2 (by decide)
  exact ⟨⟨g, result, greatest⟩, (gcd_greatest (quiet 1) m [leastInt, 3] (by decide)).1.2 rfl⟩

end Stepwise
