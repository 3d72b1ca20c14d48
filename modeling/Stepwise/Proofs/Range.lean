import Stepwise.Proofs.Equality
import Stepwise.Proofs.Progression

/-!
# Ranges are their items

Whatever looks at a range sees the same integers (`range_views`): iterating and `for` statements
come by them one after the other, the length and the truth value count them, an index picks one,
`in` finds them, and two ranges are equal exactly if they have the same ones.

## The model

Each of these is arithmetic of its own. The ends of the range are supposed to be less than `2 ** 62`
away from zero (`Moderate`), so that the way from one to the other is an integer of 64 bits; the
step may be as large as it likes. A `for` statement is described by what its supply gives whenever
it is asked (`Supply.Yields`).
-/

namespace Stepwise

open Script

variable {σ : Type} {r : Runner σ} {m : Machine σ} {start stop step i n : Int}

/-- A range with a step, and with ends less than `2 ** 62` away from zero. -/
structure Moderate (start stop step : Int) : Prop where
  step_ne_zero : step ≠ 0
  start_lt : start.natAbs < 0x4000000000000000
  stop_lt : stop.natAbs < 0x4000000000000000

theorem countOf_eq {len : Nat} (small : len < 0x8000000000000000) : countOf len = len := by
  unfold countOf
  rw [Int.bmod_def]
  omega

namespace Moderate

variable (h : Moderate start stop step)

include h

theorem fits_stop : fits stop = true := by
  have := h.stop_lt
  rw [fits_iff]
  omega

theorem fits_start : fits start = true := by
  have := h.start_lt
  rw [fits_iff]
  omega

/-- All items lie between the ends. -/
theorem natAbs_item (mem : n ∈ rangeItems start stop step) : n.natAbs < 0x4000000000000000 := by
  have := h.start_lt
  have := h.stop_lt
  obtain up | down := Int.lt_or_gt_of_ne h.step_ne_zero.symm
  · have := bounds_up up mem
    omega
  · have := bounds_down down mem
    omega

theorem rangeLen_lt : rangeLen start stop step < 0x8000000000000000 := by
  have := h.start_lt
  have := h.stop_lt
  have : rangeLen start stop step ≤ (stop - start).natAbs := rangeLen_le h.step_ne_zero
  omega

/-! ### Iterating -/

theorem walkFrom_eq : walkFrom (fun n => some (rangeNext step n)) start stop step =
    some (rangeItems start stop step) := by
  refine Stepwise.walkFrom_eq h.step_ne_zero fun n mem => ⟨_, rfl, ?_⟩
  have := h.natAbs_item mem
  have fit : fits n = true := by
    rw [fits_iff]
    omega
  exact rangeItems_rangeNext h.fits_stop fit h.step_ne_zero

theorem itemsOf_eq : itemsOf r (.range start stop step) m =
    .ok ((rangeItems start stop step).map .int) m :=
  itemsOfRange_some h.walkFrom_eq m

end Moderate

/-- A supply that gives some values one after the other and has no others, whatever becomes of the
heap. -/
inductive Supply.Yields : Supply → List Value → Prop
  | done {s} (h : ∀ heap, nextItem? heap s = none) : Yields s []
  | next {s s' v vs} (h : ∀ heap, nextItem? heap s = some (v, s')) (rest : Yields s' vs) :
    Yields s (v :: vs)

theorem fits_rangeNext (step n : Int) : fits (rangeNext step n) = true := by
  have next : rangeNext step n =
      max (-0x8000000000000000) (min (n + step) 0x7FFFFFFFFFFFFFFF) := rfl
  rw [fits_iff]
  omega

theorem range_yields (hs : step ≠ 0) (hstop : fits stop = true) : ∀ (ns : List Int) {n : Int},
    fits n = true → rangeItems n stop step = ns →
    (Supply.range n stop step).Yields (ns.map .int) := by
  intro ns
  induction ns with
  | nil =>
    intro n _ items
    cases before : isBefore stop step n with
    | false => exact .done fun _ => if_neg (Bool.eq_false_iff.1 before)
    | true =>
      rw [rangeItems_next hs before] at items
      cases items
  | cons k ns ih =>
    intro n fit items
    cases before : isBefore stop step n with
    | false =>
      rw [rangeItems_done before] at items
      cases items
    | true =>
      rw [rangeItems_next hs before] at items
      obtain ⟨rfl, rest⟩ := List.cons_eq_cons.1 items
      rw [← rangeItems_rangeNext hstop fit hs] at rest
      exact .next (fun _ => if_pos before) (ih (fits_rangeNext step n) rest)

/-- A `for` statement goes through what its supply yields as if that had been listed before. -/
theorem Supply.Yields.forLoop {s : Supply} {vs : List Value} (h : s.Yields vs) (target : Expr)
    (body orelse : List Stmt) (pos : Pos) (fuel : Nat) :
    Stepwise.forLoop r target body orelse pos fuel s =
      Stepwise.forLoop r target body orelse pos fuel (.items vs) := by
  have none (heap : Heap) : nextItem? heap (.items []) = Option.none := rfl
  have one (heap : Heap) (v : Value) (vs : List Value) :
      nextItem? heap (.items (v :: vs)) = some (v, .items vs) := rfl
  induction h generalizing fuel with
  | done h =>
    cases fuel with
    | zero => rfl
    | succ fuel => simp only [Stepwise.forLoop, h, none]
  | next h _ ih =>
    cases fuel with
    | zero => rfl
    | succ fuel => simp only [Stepwise.forLoop, h, one, ih]

/-! ### Picking by index -/

section

variable {kind : String} {index : Value} {len : Nat}

theorem position_inside (number : index.asInt? = some i) (small : len < 0x8000000000000000)
    {k : Nat} (lt : k < len) (means : i = k ∨ i = k - len) :
    position kind index len m = .ok k m := by
  have count := countOf_eq small
  have resolved : (if i < 0 then i + countOf len else i) = k := by
    split <;> omega
  unfold position
  simp only [number, resolved]
  rw [if_neg (by omega)]
  rfl

theorem position_outside (number : index.asInt? = some i) (small : len < 0x8000000000000000)
    (outside : ¬(-(len : Int) ≤ i ∧ i < len)) :
    position kind index len m = .error (.error ⟨.index (.outOfRange kind), m.pos⟩) m := by
  have count := countOf_eq small
  unfold position
  simp only [number]
  rw [if_pos (by split <;> omega)]
  rfl

end

theorem Moderate.rangeItem?_eq (h : Moderate start stop step) {k : Nat}
    (lt : k < rangeLen start stop step) : rangeItem? start step k = some (start + k * step) := by
  have mem : start + k * step ∈ rangeItems start stop step :=
    (mem_rangeItems_iff h.step_ne_zero).2 ⟨(lt_rangeLen_iff h.step_ne_zero).1 lt, k, rfl⟩
  have item := h.natAbs_item mem
  have := h.start_lt
  have product : isWord 64 (k * step) = true := by
    rw [isWord_64, fits_iff]
    omega
  have sum : isWord 64 (start + k * step) = true := by
    rw [isWord_64, fits_iff]
    omega
  have count := countOf_eq (Nat.lt_trans lt h.rangeLen_lt)
  rw [rangeItem?, count, word_of_isWord product]
  exact word_of_isWord sum

/-! ### Finding -/

/-- Whether anything is left over of the way to `n`, computed in words or not. -/
theorem leftOver?_eq_zero_iff :
    (leftOver? start step n).getD ((n - start) % step) = 0 ↔ step ∣ n - start := by
  unfold leftOver? word remWord divWord word
  by_cases far : isWord 64 (n - start) = true
  · by_cases zero : step = 0
    · simp [far, zero]
    · by_cases quotient : isWord 64 ((n - start).tdiv step) = true
      · simpa [far, zero, quotient] using (Int.dvd_iff_tmod_eq_zero ..).symm
      · simpa [far, zero, quotient] using (Int.dvd_iff_emod_eq_zero ..).symm
  · simpa [far] using (Int.dvd_iff_emod_eq_zero ..).symm

theorem inRange_eq (hs : step ≠ 0) :
    inRange start stop step n = decide (n ∈ rangeItems start stop step) := by
  rw [Bool.eq_iff_iff, decide_eq_true_iff, inRange, Bool.and_eq_true, decide_eq_true_iff,
    leftOver?_eq_zero_iff]
  constructor
  · rintro ⟨between, k, far⟩
    rw [mem_rangeItems_iff hs]
    obtain up | down := Int.lt_or_gt_of_ne hs.symm
    · have between : start ≤ n ∧ n < stop := by simpa [spans, up] using between
      have ahead : 0 ≤ k := by
        by_contra behind
        have := Int.mul_neg_of_pos_of_neg up (show k < 0 by omega)
        omega
      refine ⟨(isBefore_up up).2 between.2, k.toNat, ?_⟩
      rw [Int.toNat_of_nonneg ahead, Int.mul_comm]
      omega
    · have between : n ≤ start ∧ stop < n := by
        simpa [spans, show ¬0 < step by omega] using between
      have ahead : 0 ≤ k := by
        by_contra behind
        have := Int.mul_pos_of_neg_of_neg down (show k < 0 by omega)
        omega
      refine ⟨(isBefore_down down).2 between.2, k.toNat, ?_⟩
      rw [Int.toNat_of_nonneg ahead, Int.mul_comm]
      omega
  · intro mem
    obtain ⟨_, i, far⟩ := (mem_rangeItems_iff hs).1 mem
    refine ⟨?_, i, by rw [Int.mul_comm]; omega⟩
    obtain up | down := Int.lt_or_gt_of_ne hs.symm
    · simpa [spans, up] using bounds_up up mem
    · simpa [spans, show ¬0 < step by omega] using (bounds_down down mem).symm

/-! ### All views -/

/-- Whatever looks at a value sees these integers, in this order. -/
structure Views (r : Runner σ) (m : Machine σ) (v : Value) (items : List Int) : Prop where
  /-- They are its items. -/
  iterate : itemsOf r v m = .ok (items.map .int) m
  /-- A `for` statement asks for them one after the other. -/
  supply : ∃ s, supplyOf r v m = .ok s m ∧ s.Yields (items.map .int)
  /-- A `for` statement goes round as if they had been listed. -/
  forLoop : ∀ target body orelse pos fuel,
    (supplyOf r v >>= Stepwise.forLoop r target body orelse pos fuel) m =
      Stepwise.forLoop r target body orelse pos fuel (.items (items.map .int)) m
  /-- The length counts them. -/
  length : lengthOf r v m = .ok items.length m
  /-- The value counts as true if there is one. -/
  truth : truthy r v m = .ok (decide (0 < items.length)) m
  /-- An index, counted from the start or from the end, picks one. -/
  pick : ∀ {index : Value} {i k : Int} {j : Nat}, index.asInt? = some i → items[j]? = some k →
    (i = j ∨ i = j - items.length) → getItem r v index m = .ok (.int k) m
  /-- An index before the first or behind the last one is an error. -/
  miss : ∀ {index : Value} {i : Int}, index.asInt? = some i →
    ¬(-(items.length : Int) ≤ i ∧ i < items.length) →
    getItem r v index m = .error (.error ⟨.index (.outOfRange "range object"), m.pos⟩) m
  /-- A number is in the value if it is one of them. -/
  contains : ∀ {x : Value} {k : Int}, x.asInt? = some k →
    Stepwise.contains r v x m = .ok (decide (k ∈ items)) m

theorem Moderate.views (h : Moderate start stop step) :
    Views r m (.range start stop step) (rangeItems start stop step) where
  iterate := h.itemsOf_eq
  supply := ⟨_, rfl, range_yields h.step_ne_zero h.fits_stop _ h.fits_start rfl⟩
  forLoop target body orelse pos fuel := by
    have yields := range_yields h.step_ne_zero h.fits_stop _ h.fits_start rfl
    exact congrFun (yields.forLoop target body orelse pos fuel) m
  length := by
    rw [length_rangeItems, ← countOf_eq h.rangeLen_lt]
    rfl
  truth := by
    rw [length_rangeItems]
    rfl
  pick := by
    intro index i k j number found means
    rw [length_rangeItems] at means
    obtain ⟨lt, -⟩ := List.getElem?_eq_some_iff.1 found
    rw [length_rangeItems] at lt
    rw [rangeItems_get lt] at found
    obtain rfl := Option.some.inj found
    have there : position "range object" index (rangeLen start stop step) m = .ok j m :=
      position_inside number h.rangeLen_lt lt means
    rw [getItem, M.bind_ok there, h.rangeItem?_eq lt]
    rfl
  miss := by
    intro index i number outside
    rw [length_rangeItems] at outside
    have nowhere : position "range object" index (rangeLen start stop step) m =
        .error (.error ⟨.index (.outOfRange "range object"), m.pos⟩) m :=
      position_outside number h.rangeLen_lt outside
    rw [getItem, M.bind_error nowhere]
  contains := by
    intro x k number
    rw [← inRange_eq h.step_ne_zero]
    show EStateM.Result.ok (x.asInt?.any (inRange start stop step)) m = _
    rw [number]
    rfl

/-- All views of a range agree: the integers from the start on, one step apart, as long as they are
before the end, are what a `for` statement and iterating come by, what the length and the truth
value count, what an index picks and what `in` finds; and it is equal to another range exactly if
that has the same ones. -/
theorem range_views (h : Moderate start stop step) :
    (∀ i : Nat, i < rangeLen start stop step ↔ isBefore stop step (start + i * step) = true) ∧
      Views r m (.range start stop step)
        ((List.range (rangeLen start stop step)).map fun i : Nat => start + i * step) ∧
      ∀ {start' stop' step' : Int},
        equalValues r (.range start stop step) (.range start' stop' step') m =
          .ok (decide (rangeItems start stop step = rangeItems start' stop' step')) m := by
  refine ⟨fun _ => lt_rangeLen_iff h.step_ne_zero, h.views, fun {start' stop' step'} => ?_⟩
  have equal :=
    equalValues_scalar r (m := m) (.range start stop step) (.range start' stop' step') rfl
  rw [Key.alike] at equal
  exact equal

/-- A range that goes down, with its last step beyond the end. -/
theorem range_views_down :
    let m := Machine.start ()
    Moderate 5 (-4) (-4) ∧
      itemsOf (quiet 1) (.range 5 (-4) (-4)) m = .ok [.int 5, .int 1, .int (-3)] m ∧
      contains (quiet 1) (.range 5 (-4) (-4)) (.bool true) m = .ok true m := by
  intro m
  have moderate : Moderate 5 (-4) (-4) := ⟨by decide, by decide, by decide⟩
  obtain ⟨-, views, -⟩ := range_views (r := quiet 1) (m := m) moderate
  have found : contains (quiet 1) (.range 5 (-4) (-4)) (.bool true) m = _ := views.contains rfl
  exact ⟨moderate, views.iterate, found⟩

end Stepwise
