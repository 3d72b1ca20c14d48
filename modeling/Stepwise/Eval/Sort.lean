import Stepwise.Eval.Show

/-!
# Sorting

Sorting by keys with comparisons that may run functions of the script, and so may fail.

## The model

Merge sort: it asks only whether one key comes before another, and takes an item from the right
half only if its key comes strictly before that of the left, so equal items keep their order.
-/

namespace Stepwise

variable {σ α : Type} (r : Runner σ)

/-- Merges two lists; `rightFirst x y` tells whether `y` of the right list comes before `x` of the
left one. At most `fuel` comparisons are made. -/
def mergeWith (rightFirst : α → α → M σ Bool) :
    (fuel : Nat) → (merged left right : List α) → M σ (List α)
  | fuel + 1, merged, x :: xs, y :: ys => do
    if ← rightFirst x y then mergeWith rightFirst fuel (y :: merged) (x :: xs) ys
    else mergeWith rightFirst fuel (x :: merged) xs (y :: ys)
  | _, merged, left, right => return merged.reverse ++ left ++ right

/-- Sorts a list by halves; `fuel` bounds how often it is halved. -/
def mergeSort (rightFirst : α → α → M σ Bool) : (fuel : Nat) → List α → M σ (List α)
  | 0, items => return items
  | fuel + 1, items => do
    let n := items.length
    if n ≤ 1 then return items
    else
      let left ← mergeSort rightFirst fuel (items.take (n / 2))
      let right ← mergeSort rightFirst fuel (items.drop (n / 2))
      mergeWith rightFirst n [] left right

/-- The key by which a value is compared. -/
def keyFor (key : Option Value) (v : Value) : M σ Value :=
  match key with
  | some f => r.call f [v] []
  | none => return v

/-- Whether the right one of two keyed items comes first. -/
def rightFirst (reverse : Bool) (x y : Value × Value) : M σ Bool :=
  if reverse then r.lessThan x.1 y.1 else r.lessThan y.1 x.1

/-- Values in the order of their keys. -/
def sortValues (items : List Value) (key : Option Value) (reverse : Bool) :
    M σ (List Value) := do
  let keyed ← items.mapM fun v => return (← keyFor r key v, v)
  let sorted ← mergeSort (rightFirst r reverse) items.length keyed
  return sorted.map (·.2)

/-- The options of a sort: its key and whether it is reversed. -/
def sortOptions (callee : String) : Keywords → Option Value → Bool → M σ (Option Value × Bool)
  | [], key, reverse => return (key, reverse)
  | (name, v) :: rest, key, reverse =>
    match name with
    | "key" => sortOptions callee rest (if v.isNone then none else some v) reverse
    | "reverse" => do sortOptions callee rest key (← truthy r v)
    | _ => fail (.type (.badKeyword name callee))

end Stepwise
