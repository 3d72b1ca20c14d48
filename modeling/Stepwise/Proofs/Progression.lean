import Stepwise.Number.Range
import Stepwise.Proofs.Exact
import Mathlib.Data.List.Nodup

/-!
# Progressions

The integers of a range (`rangeItems`) are those from the start on, one step apart, as long as they
are before the end (`lt_rangeLen_iff`, `mem_rangeItems_iff`), and they are where one comes by who
goes step by step (`walkFrom_eq`).

## The model

A step may be made in any way that leads to where the rest of the range is; so it does not matter
that the last step ends at the end of the words.
-/

namespace Stepwise

variable {start stop step n : Int}

/-! ### How many there are -/

theorem isBefore_up (up : 0 < step) : isBefore stop step n = true ↔ n < stop := by
  simp [isBefore, up]

theorem isBefore_down (down : step < 0) : isBefore stop step n = true ↔ stop < n := by
  simp [isBefore, show ¬0 < step by omega]

theorem count_next {gap step : Int} (hs : 0 < step) (hg : 0 < gap) :
    ((gap + step - 1) / step).toNat =
      (if step < gap then ((gap - 1) / step).toNat else 0) + 1 := by
  have one : (gap + step - 1) / step = (gap - 1) / step + 1 := by
    rw [show gap + step - 1 = gap - 1 + 1 * step by omega, Int.add_mul_ediv_right _ _ (by omega)]
  have nonneg : 0 ≤ (gap - 1) / step := Int.ediv_nonneg (by omega) (by omega)
  rw [one, Int.toNat_add nonneg (by omega)]
  split
  · rfl
  · rw [Int.ediv_eq_zero_of_lt (by omega) (by omega)]
    rfl

theorem rangeLen_next (hs : step ≠ 0) (h : isBefore stop step n = true) :
    rangeLen n stop step = rangeLen (n + step) stop step + 1 := by
  unfold rangeLen
  by_cases up : 0 < step
  · rw [isBefore_up up] at h
    have far : n + step < stop ↔ step < stop - n := by omega
    rw [if_pos ⟨up, h⟩, count_next up (by omega), if_neg (c := step < 0 ∧ _) (by omega)]
    simp only [gt_iff_lt, up, true_and, far]
    rw [show stop - (n + step) + step - 1 = stop - n - 1 by omega]
  · have down : step < 0 := by omega
    rw [isBefore_down down] at h
    have far : stop < n + step ↔ -step < n - stop := by omega
    have count := count_next (show 0 < -step by omega) (show 0 < n - stop by omega)
    rw [if_neg (by omega), if_pos ⟨down, h⟩, if_neg (c := step > 0 ∧ _) (by omega)]
    rw [show n - stop - step - 1 = n - stop + -step - 1 by omega, count]
    simp only [down, true_and, gt_iff_lt, far]
    rw [show n + step - stop - step - 1 = n - stop - 1 by omega]

theorem rangeLen_done (h : isBefore stop step n = false) : rangeLen n stop step = 0 := by
  unfold rangeLen
  unfold isBefore at h
  split at h <;> rw [decide_eq_false_iff_not] at h <;> rw [if_neg (by omega), if_neg (by omega)]

/-- A position is one of a range exactly if its integer is before the end. -/
theorem lt_rangeLen_iff (hs : step ≠ 0) : ∀ {start : Int} {i : Nat},
    i < rangeLen start stop step ↔ isBefore stop step (start + i * step) = true
  | start, i => by
    cases before : isBefore stop step start with
    | false =>
      have none := rangeLen_done before
      have beyond : isBefore stop step (start + i * step) = false := by
        rw [← Bool.not_eq_true] at before ⊢
        obtain up | down := Int.lt_or_gt_of_ne hs.symm
        · have := Int.mul_nonneg (Int.natCast_nonneg i) (Int.le_of_lt up)
          rw [isBefore_up up] at before ⊢
          omega
        · have := Int.mul_nonpos_of_nonneg_of_nonpos (Int.natCast_nonneg i) (Int.le_of_lt down)
          rw [isBefore_down down] at before ⊢
          omega
      simp [none, beyond]
    | true =>
      rw [rangeLen_next hs before]
      cases i with
      | zero => simp [before]
      | succ i =>
        rw [Nat.add_lt_add_iff_right, lt_rangeLen_iff hs, Int.natCast_succ, Int.add_mul]
        rw [show start + (i * step + 1 * step) = start + step + i * step by omega]

/-- There are no more integers than there is way to go. -/
theorem rangeLen_le (hs : step ≠ 0) : rangeLen start stop step ≤ (stop - start).natAbs := by
  by_contra more
  have last := (lt_rangeLen_iff hs).1 (Nat.lt_of_not_le more)
  obtain up | down := Int.lt_or_gt_of_ne hs.symm
  · have := le_mul_of_one_le_right (Int.natCast_nonneg (stop - start).natAbs) up
    rw [isBefore_up up] at last
    omega
  · have := le_mul_of_one_le_right (Int.natCast_nonneg (stop - start).natAbs)
      (show 1 ≤ -step by omega)
    rw [isBefore_down down] at last
    rw [Int.mul_neg] at this
    omega

/-! ### Which they are -/

theorem length_rangeItems : (rangeItems start stop step).length = rangeLen start stop step := by
  simp [rangeItems]

theorem rangeItems_get {i : Nat} (h : i < rangeLen start stop step) :
    (rangeItems start stop step)[i]? = some (start + i * step) := by
  simp [rangeItems, h]

theorem rangeItems_done (h : isBefore stop step n = false) : rangeItems n stop step = [] := by
  simp [rangeItems, rangeLen_done h]

theorem rangeItems_next (hs : step ≠ 0) (h : isBefore stop step n = true) :
    rangeItems n stop step = n :: rangeItems (n + step) stop step := by
  rw [rangeItems, rangeLen_next hs h, List.range_succ_eq_map, List.map_cons, List.map_map,
    rangeItems]
  congr 1
  · simp
  · refine List.map_congr_left fun i _ => ?_
    show n + ((i + 1 : Nat) : Int) * step = n + step + i * step
    rw [Int.natCast_add, Int.add_mul]
    omega

theorem mem_rangeItems_iff (hs : step ≠ 0) : n ∈ rangeItems start stop step ↔
    isBefore stop step n = true ∧ ∃ i : Nat, n = start + i * step := by
  simp only [rangeItems, List.mem_map, List.mem_range]
  constructor
  · rintro ⟨i, lt, rfl⟩
    exact ⟨(lt_rangeLen_iff hs).1 lt, i, rfl⟩
  · rintro ⟨before, i, rfl⟩
    exact ⟨i, (lt_rangeLen_iff hs).2 before, rfl⟩

/-- The integers of a range that goes up are between its start and its end. -/
theorem bounds_up (up : 0 < step) (h : n ∈ rangeItems start stop step) : start ≤ n ∧ n < stop := by
  obtain ⟨before, i, rfl⟩ := (mem_rangeItems_iff (by omega)).1 h
  have := Int.mul_nonneg (Int.natCast_nonneg i) (Int.le_of_lt up)
  exact ⟨by omega, (isBefore_up up).1 before⟩

/-- The integers of a range that goes down are between its end and its start. -/
theorem bounds_down (down : step < 0) (h : n ∈ rangeItems start stop step) :
    stop < n ∧ n ≤ start := by
  obtain ⟨before, i, rfl⟩ := (mem_rangeItems_iff (by omega)).1 h
  have := Int.mul_nonpos_of_nonneg_of_nonpos (Int.natCast_nonneg i) (Int.le_of_lt down)
  exact ⟨(isBefore_down down).1 before, by omega⟩

theorem nodup_rangeItems (hs : step ≠ 0) : (rangeItems start stop step).Nodup := by
  refine List.Nodup.map (fun i j same => ?_) List.nodup_range
  exact Int.ofNat_inj.1 (Int.eq_of_mul_eq_mul_right hs (Int.add_left_cancel same))

/-! ### Step by step -/

variable {next : Int → Option Int}

theorem walk_append (fuel : Nat) : ∀ (n : Int) (passed : List Int),
    walk next stop step fuel n passed =
      (walk next stop step fuel n []).map (passed.reverse ++ ·) := by
  induction fuel with
  | zero => exact fun _ _ => rfl
  | succ fuel ih =>
    intro n passed
    simp only [walk]
    split
    · cases next n with
      | none => rfl
      | some n' =>
        show walk next stop step fuel n' (n :: passed) =
          (walk next stop step fuel n' [n]).map (passed.reverse ++ ·)
        rw [ih n' (n :: passed), ih n' [n], Option.map_map]
        congr 1
        funext ns
        simp
    · simp

theorem walk_done (fuel : Nat) (h : isBefore stop step n = false) :
    walk next stop step (fuel + 1) n [] = some [] := by
  rw [walk, h]
  rfl

theorem walk_next {n' : Int} (fuel : Nat) (h : isBefore stop step n = true)
    (leads : next n = some n') :
    walk next stop step (fuel + 1) n [] = (walk next stop step fuel n' []).map (n :: ·) := by
  rw [walk, if_pos h, leads]
  exact walk_append fuel n' [n]

/-- What is known of a walk that has come to an end. -/
theorem walk_eq_some {fuel : Nat} {ns : List Int} (h : walk next stop step fuel n [] = some ns) :
    (isBefore stop step n = false ∧ ns = []) ∨
      ∃ fuel' n' ns', isBefore stop step n = true ∧ next n = some n' ∧
        walk next stop step fuel' n' [] = some ns' ∧ ns = n :: ns' := by
  cases fuel with
  | zero => cases h
  | succ fuel =>
    cases before : isBefore stop step n with
    | false =>
      rw [walk_done fuel before] at h
      exact .inl ⟨rfl, (Option.some.inj h).symm⟩
    | true =>
      cases leads : next n with
      | none =>
        rw [walk, if_pos before, leads] at h
        cases h
      | some n' =>
        rw [walk_next fuel before leads] at h
        obtain ⟨ns', rest, rfl⟩ := Option.map_eq_some_iff.1 h
        exact .inr ⟨fuel, n', ns', rfl, rfl, rest, rfl⟩

/-- Steps that lead to where the rest is come by all integers of a range. -/
theorem walk_eq (hs : step ≠ 0) (fuel : Nat) : ∀ n, rangeLen n stop step < fuel →
    (∀ k ∈ rangeItems n stop step, ∃ k', next k = some k' ∧
      rangeItems k' stop step = rangeItems (k + step) stop step) →
    walk next stop step fuel n [] = some (rangeItems n stop step) := by
  induction fuel with
  | zero => exact fun n lt _ => absurd lt (Nat.not_lt_zero _)
  | succ fuel ih =>
    intro n lt leads
    cases before : isBefore stop step n with
    | false => rw [walk_done fuel before, rangeItems_done before]
    | true =>
      have items := rangeItems_next hs before
      obtain ⟨n', there, rest⟩ := leads n (items ▸ List.mem_cons_self)
      have shorter : rangeLen n' stop step < fuel := by
        have := rangeLen_next hs before
        rw [← length_rangeItems, rest, length_rangeItems]
        omega
      rw [walk_next fuel before there, ih n' shorter fun k mem => ?_, Option.map_some, rest, items]
      exact leads k (items ▸ List.mem_cons_of_mem n (rest ▸ mem))

theorem walkFrom_eq (hs : step ≠ 0) (leads : ∀ k ∈ rangeItems start stop step,
      ∃ k', next k = some k' ∧ rangeItems k' stop step = rangeItems (k + step) stop step) :
    walkFrom next start stop step = some (rangeItems start stop step) :=
  walk_eq hs _ start (Nat.lt_succ_of_le (rangeLen_le hs)) leads

/-- A step that ends at the end of the words has left the range, as the step that it was to be. -/
theorem rangeItems_rangeNext (hstop : fits stop = true) (hn : fits n = true) (hs : step ≠ 0) :
    rangeItems (rangeNext step n) stop step = rangeItems (n + step) stop step := by
  rw [fits_iff] at hstop hn
  have next : rangeNext step n =
      max (-0x8000000000000000) (min (n + step) 0x7FFFFFFFFFFFFFFF) := rfl
  by_cases inside : rangeNext step n = n + step
  · rw [inside]
  · have beyond (k : Int) (out : k = rangeNext step n ∨ k = n + step) :
        isBefore stop step k = false := by
      rw [← Bool.not_eq_true]
      obtain up | down := Int.lt_or_gt_of_ne hs.symm
      · rw [isBefore_up up]
        omega
      · rw [isBefore_down down]
        omega
    rw [rangeItems_done (beyond _ (.inl rfl)), rangeItems_done (beyond _ (.inr rfl))]

end Stepwise
