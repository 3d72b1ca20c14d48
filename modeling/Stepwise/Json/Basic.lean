import Stepwise.Heap.Ordered

/-!
# JSON values

Data as JSON knows it. Traces are made of it, and requests come as it.

## The model

The members of an object keep their order. A text may give one name several times, and so may a
value here; `Json.settled` leaves every name once, with its last value in its first place.
-/

namespace Stepwise

/-- A JSON value. -/
inductive Json where
  | null
  | bool (b : Bool)
  | int (n : Int)
  | float (x : Float)
  | str (s : String)
  | arr (items : List Json)
  | obj (members : List (String × Json))
  deriving Inhabited

namespace Json

/-- An integer that is not negative. -/
def nat (n : Nat) : Json := int n

/-- Something that may be missing. -/
def option {α : Type} (f : α → Json) : Option α → Json
  | none => null
  | some a => f a

mutual

/-- The value with every name of an object once: at its first place, with its last value. -/
def settled : Json → Json
  | arr items => arr (settledItems items)
  | obj members => obj (settledMembers members .empty).entries
  | v => v

/-- Items with every name of an object once. -/
def settledItems : List Json → List Json
  | [] => []
  | v :: vs => settled v :: settledItems vs

/-- Adds members to those that `seen` holds, every name once. -/
def settledMembers : List (String × Json) → Ordered String Json → Ordered String Json
  | [], seen => seen
  | (name, v) :: ms, seen => settledMembers ms (seen.set name (settled v))

end

end Json

end Stepwise
