import Mathlib.Data.String.Basic
import Mathlib.Order.Compare

/-!
# Data and their order

What values made of numbers, texts, tuples and lists stand for, and the order of it: numbers by
size, texts by their characters, and sequences of one kind by the first items that differ. Data of
different kinds have no order. Only equal data are level (`Datum.compare?_eq_iff`), the two sides
answer each other (`Datum.compare?_swap`), and less is transitive (`Datum.compare?_trans`).
-/

namespace Stepwise

/-- What a value made of numbers, texts, tuples and lists stands for. -/
inductive Datum where
  /-- An integer or a truth value. -/
  | number (n : Int)
  | text (s : String)
  /-- A tuple or a list. -/
  | sequence (tuple : Bool) (items : List Datum)

namespace Datum

mutual

/-- The order of two data, if they have one. -/
def compare? : Datum → Datum → Option Ordering
  | .number m, .number n => some (compare m n)
  | .text s, .text t => some (compare s t)
  | .sequence tuple xs, .sequence tuple' ys => if tuple = tuple' then compareAll? xs ys else none
  | _, _ => none

/-- The order of two lists of data: the first two that differ decide, or else the lengths. -/
def compareAll? : List Datum → List Datum → Option Ordering
  | x :: xs, y :: ys =>
    match x.compare? y with
    | some .eq => compareAll? xs ys
    | first => first
  | [], [] => some .eq
  | [], _ :: _ => some .lt
  | _ :: _, [] => some .gt

end

/-- Whether a datum is a number or a text. -/
def isFlat : Datum → Bool
  | .number _ | .text _ => true
  | .sequence _ _ => false

mutual

/-- How deep sequences stand in each other. -/
def depth : Datum → Nat
  | .number _ | .text _ => 0
  | .sequence _ items => depths items + 1

/-- How deep the deepest of some data is. -/
def depths : List Datum → Nat
  | [] => 0
  | d :: ds => max d.depth (depths ds)

end

variable {x y z : Datum} {xs ys zs : List Datum}

theorem depth_le_of_mem : ∀ {xs : List Datum}, x ∈ xs → x.depth ≤ depths xs
  | u :: us, mem => by
    rw [depths]
    obtain rfl | mem := List.mem_cons.1 mem
    · exact Nat.le_max_left _ _
    · exact (depth_le_of_mem mem).trans (Nat.le_max_right _ _)

theorem depth_lt_of_mem {tuple : Bool} (mem : x ∈ xs) : x.depth < (sequence tuple xs).depth :=
  Nat.lt_succ_of_le (depth_le_of_mem mem)

theorem compareAll?_cons_eq (same : x.compare? y = some .eq) :
    compareAll? (x :: xs) (y :: ys) = compareAll? xs ys := by
  rw [compareAll?, same]

theorem compareAll?_cons_ne (differ : x.compare? y ≠ some .eq) :
    compareAll? (x :: xs) (y :: ys) = x.compare? y := by
  rw [compareAll?]
  split
  · contradiction
  · rfl

mutual

/-- Data are level exactly if they are equal. -/
theorem compare?_eq_iff : ∀ {x y : Datum}, x.compare? y = some .eq ↔ x = y
  | .number m, .number n => by rw [compare?, Option.some_inj, compare_eq_iff_eq, number.injEq]
  | .text s, .text t => by rw [compare?, Option.some_inj, compare_eq_iff_eq, text.injEq]
  | .sequence tuple xs, .sequence tuple' ys => by
    rw [compare?, sequence.injEq]
    by_cases kind : tuple = tuple'
    · rw [if_pos kind, compareAll?_eq_iff, and_iff_right kind]
    · rw [if_neg kind]
      exact iff_of_false nofun fun same => kind same.1
  | .number _, .text _ | .number _, .sequence _ _ | .text _, .number _ | .text _, .sequence _ _
  | .sequence _ _, .number _ | .sequence _ _, .text _ => iff_of_false nofun nofun

theorem compareAll?_eq_iff : ∀ {xs ys : List Datum}, compareAll? xs ys = some .eq ↔ xs = ys
  | [], [] => iff_of_true rfl rfl
  | [], _ :: _ | _ :: _, [] => iff_of_false nofun nofun
  | x :: xs, y :: ys => by
    rw [List.cons.injEq]
    by_cases same : x = y
    · rw [compareAll?_cons_eq (compare?_eq_iff.2 same), compareAll?_eq_iff, and_iff_right same]
    · have differ : x.compare? y ≠ some .eq := fun level => same (compare?_eq_iff.1 level)
      rw [compareAll?_cons_ne differ]
      exact iff_of_false differ fun both => same both.1

end

theorem compare?_self (x : Datum) : x.compare? x = some .eq := compare?_eq_iff.2 rfl

mutual

/-- Exchanging the sides exchanges the answers. -/
theorem compare?_swap : ∀ x y : Datum, y.compare? x = (x.compare? y).map Ordering.swap
  | .number m, .number n => congrArg some Std.OrientedCmp.eq_swap
  | .text s, .text t => congrArg some Std.OrientedCmp.eq_swap
  | .sequence tuple xs, .sequence tuple' ys => by
    rw [compare?, compare?]
    by_cases kind : tuple = tuple'
    · rw [if_pos kind, if_pos kind.symm, compareAll?_swap xs ys]
    · rw [if_neg kind, if_neg (Ne.symm kind)]
      rfl
  | .number _, .text _ | .number _, .sequence _ _ | .text _, .number _ | .text _, .sequence _ _
  | .sequence _ _, .number _ | .sequence _ _, .text _ => rfl

theorem compareAll?_swap : ∀ xs ys : List Datum,
    compareAll? ys xs = (compareAll? xs ys).map Ordering.swap
  | [], [] | [], _ :: _ | _ :: _, [] => rfl
  | x :: xs, y :: ys => by
    by_cases same : x = y
    · rw [compareAll?_cons_eq (compare?_eq_iff.2 same),
        compareAll?_cons_eq (compare?_eq_iff.2 same.symm), compareAll?_swap xs ys]
    · rw [compareAll?_cons_ne fun level => same (compare?_eq_iff.1 level),
        compareAll?_cons_ne fun level => same (compare?_eq_iff.1 level).symm, compare?_swap x y]

end

mutual

theorem compare?_trans : ∀ {x y z : Datum}, x.compare? y = some .lt → y.compare? z = some .lt →
    x.compare? z = some .lt
  | .number _, .number _, .number _, less, less' => by
    rw [compare?, Option.some_inj, compare_lt_iff_lt] at less less' ⊢
    exact less.trans less'
  | .text _, .text _, .text _, less, less' => by
    rw [compare?, Option.some_inj, compare_lt_iff_lt] at less less' ⊢
    exact less.trans less'
  | .sequence tuple xs, .sequence tuple' ys, .sequence tuple'' zs, less, less' => by
    rw [compare?] at less less' ⊢
    by_cases kind : tuple = tuple'
    · by_cases kind' : tuple' = tuple''
      · rw [if_pos kind] at less
        rw [if_pos kind'] at less'
        rw [if_pos (kind.trans kind')]
        exact compareAll?_trans less less'
      · rw [if_neg kind'] at less'
        cases less'
    · rw [if_neg kind] at less
      cases less

theorem compareAll?_trans : ∀ {xs ys zs : List Datum}, compareAll? xs ys = some .lt →
    compareAll? ys zs = some .lt → compareAll? xs zs = some .lt
  | [], _, _ :: _, _, _ => rfl
  | [], _ :: _, [], _, less' => nomatch less'
  | x :: xs, y :: ys, z :: zs, less, less' => by
    by_cases same : x = y
    · by_cases same' : y = z
      · rw [compareAll?_cons_eq (compare?_eq_iff.2 same)] at less
        rw [compareAll?_cons_eq (compare?_eq_iff.2 same')] at less'
        rw [compareAll?_cons_eq (compare?_eq_iff.2 (same.trans same'))]
        exact compareAll?_trans less less'
      · rw [compareAll?_cons_ne fun level => same' (compare?_eq_iff.1 level)] at less'
        subst same
        rw [compareAll?_cons_ne fun level => same' (compare?_eq_iff.1 level), less']
    · rw [compareAll?_cons_ne fun level => same (compare?_eq_iff.1 level)] at less
      by_cases same' : y = z
      · subst same'
        rw [compareAll?_cons_ne fun level => same (compare?_eq_iff.1 level), less]
      · rw [compareAll?_cons_ne fun level => same' (compare?_eq_iff.1 level)] at less'
        have first := compare?_trans less less'
        rw [compareAll?_cons_ne (by rw [first]; nofun), first]

end

end Datum

end Stepwise
