import Stepwise.Heap.Value
import Stepwise.Number.Word

/-!
# Ranges and slices

The integers from `start` on, `step` apart, before `stop`: what a formula says they are, and where
steps lead. A slice selects the positions of a sequence by such steps: bounds below zero count from
its end, and bounds outside the sequence are moved to its ends.
-/

namespace Stepwise

/-- The integers of a range, one after the other. -/
def rangeItems (start stop step : Int) : List Int :=
  (List.range (rangeLen start stop step)).map fun (i : Nat) => start + i * step

/-- The integer of a range at position `i`, if words of 64 bits are enough to compute it. -/
def rangeItem? (start step : Int) (i : Nat) : Option Int := do
  word 64 (start + (← word 64 (countOf i * step)))

/-- Whether `n` lies between the ends of a range. -/
def spans (start stop step n : Int) : Bool :=
  if step > 0 then start ≤ n && n < stop else n ≤ start && stop < n

/-- What is left over of the way from the start of a range to `n` when it is made by steps, if words
of 64 bits are enough to compute it. -/
def leftOver? (start step n : Int) : Option Int := do remWord 64 (← word 64 (n - start)) step

/-! ### Steps -/

/-- Whether `n` lies before `stop` for one who goes by `step`. -/
def isBefore (stop step n : Int) : Bool := if step > 0 then n < stop else stop < n

/-- The next integer of a range behind `n`. A step out of the words of 64 bits ends at their end. -/
def rangeNext (step n : Int) : Int := addSaturating 64 n step

/-- Goes on from `n` as long as it is before `stop`, and lists where it comes by. There is no list if
`next` leads nowhere. -/
def walk (next : Int → Option Int) (stop step : Int) :
    (fuel : Nat) → (n : Int) → (passed : List Int) → Option (List Int)
  | 0, _, _ => none
  | fuel + 1, n, passed =>
    if isBefore stop step n then
      match next n with
      | some n' => walk next stop step fuel n' (n :: passed)
      | none => none
    else some passed.reverse

/-- Where one comes by who goes from `start` to `stop`: every step leads a bit nearer. -/
def walkFrom (next : Int → Option Int) (start stop step : Int) : Option (List Int) :=
  walk next stop step ((stop - start).natAbs + 1) start []

/-! ### Slices -/

/-- A slice; a part may be left out. -/
structure Slice where
  /-- Where it begins. -/
  lower : Option Int
  /-- Where it ends; this position is not part of it. -/
  upper : Option Int
  /-- The distance from one position to the next; not zero. -/
  step : Option Int

namespace Slice

/-- A bound among the positions `low … high` of a sequence of length `len`. -/
def clamp (len low high x : Int) : Int :=
  if x < 0 then max (x + len) low else min x high

/-- The step; one by one if none is given. -/
def stride (s : Slice) : Int := s.step.getD 1

/-- The first position of a slice of a sequence of length `len`. -/
def first (s : Slice) (len : Int) : Int :=
  if s.stride > 0 then (s.lower.map (clamp len 0 len)).getD 0
  else (s.lower.map (clamp len (-1) (len - 1))).getD (len - 1)

/-- The position that a slice of a sequence of length `len` stops before. -/
def stop (s : Slice) (len : Int) : Int :=
  if s.stride > 0 then (s.upper.map (clamp len 0 len)).getD len
  else (s.upper.map (clamp len (-1) (len - 1))).getD (-1)

/-- The positions that a slice selects in a sequence of length `len`, in its order. There are none to
tell if a step leads out of the words of 64 bits. -/
def positions (s : Slice) (len : Nat) : Option (List Nat) :=
  (walkFrom (fun n => word 64 (n + s.stride)) (s.first (countOf len)) (s.stop (countOf len))
    s.stride).map (·.map Int.toNat)

/-- The items at some positions, if all of them are there. -/
def itemsAt {α : Type} (items : Array α) (ps : List Nat) : Option (List α) := ps.mapM (items[·]?)

/-- The items that a slice selects. -/
def pick {α : Type} (s : Slice) (items : Array α) : Option (List α) := do
  itemsAt items (← s.positions items.size)

/-- The list with the items at the selected positions replaced by others, for a slice without
gaps. -/
def replaceSpan {α : Type} (s : Slice) (items : List α) (picked : List Nat) (new : List α) : List α :=
  let len := countOf items.length
  let start := ((s.lower.map (clamp len 0 len)).getD 0).toNat
  let stop := match picked.getLast? with
    | some last => last + 1
    | none => start
  items.take start ++ new ++ items.drop (max stop start)

/-- The list with the items at some positions replaced by others, one by one. -/
def replaceAt {α : Type} (items : List α) : List Nat → List α → List α
  | p :: ps, x :: xs => replaceAt (items.set p x) ps xs
  | _, _ => items

/-- The list without the items at some positions. -/
def removeAt {α : Type} (items : List α) (ps : List Nat) : List α :=
  (items.zipIdx.filter fun e => !ps.contains e.2).map (·.1)

end Slice

end Stepwise
