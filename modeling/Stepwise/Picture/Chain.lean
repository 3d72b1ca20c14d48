import Stepwise.Json.Text
import Stepwise.Picture.Plain
import Stepwise.Picture.Profile

/-!
# Chains

A linked list as an array of nodes, each with the number of the next and of the one before; and on
one line, with arrows between the nodes: `5 -> 10 -> 20`. A chain that leads back into itself ends
there with a round arrow and the value of the node it comes back to.

## The model

A walk (`Heap.walk`) starts at the first node and follows one new link of each node; a link to a
node that was visited closes a cycle. A node with at least two places for links may point back: a
link to the node visited just before then leads backward. The walk ends where no link leads on,
or after `Chain.limit` nodes.
-/

namespace Stepwise

/-- A node of a chain. -/
structure Node where
  /-- Its number: nodes are numbered from 0 in the order of the walk. -/
  id : Nat
  /-- The first number or string among its attributes. -/
  value : Json
  /-- The number of the node it leads to. -/
  next : Option Nat
  /-- The number of the node it leads back to. -/
  prev : Option Nat

/-- A linked list, drawn as its nodes. -/
structure Chain where
  /-- Whether there are links in both directions. -/
  doubly : Bool
  /-- The number of the first node. -/
  head : Option Nat
  /-- The nodes. -/
  nodes : List Node
  /-- Why the list could not be drawn. -/
  error : Option String

/-- The largest number of nodes in a chain. -/
def Chain.limit : Nat := 100

/-- Where a link of a node leads. -/
inductive Link where
  /-- Back to the node before. -/
  | back
  /-- To a node that was visited. -/
  | seen (id : Nat)
  /-- To an object that was not visited yet. -/
  | fresh (a : Address)
  deriving DecidableEq

namespace Link

/-- Where a link of the last of the nodes `seen` leads, if it leads to the address `a`; `twoWay`
says whether the node may point back. -/
def toAddress (seen : List Address) (twoWay : Bool) (a : Address) : Link :=
  match seen.idxOf? a with
  | none => fresh a
  | some j => if twoWay && j + 2 == seen.length then back else .seen j

/-- The number of the node that a link leads on to, if it leads on; `next` is the number of a node
that is yet to be visited. -/
def target? (next : Nat) : Link → Option Nat
  | back => none
  | seen id => some id
  | fresh _ => some next

/-- Where the walk goes on. -/
def fresh? : Link → Option Address
  | fresh a => some a
  | _ => none

end Link

namespace Heap

/-- Where the links of a node lead, attribute by attribute, `seen` being the nodes visited so far
with the node itself last. -/
def linksFrom (h : Heap) (seen : List Address) (attrs : List (String × Value)) : List Link :=
  let values := attrs.map (·.2)
  let twoWay := (values.filter fun v => v.isNone || h.hasAttributes v).length ≥ 2
  ((values.filter h.hasAttributes).filterMap Value.address?).map (Link.toAddress seen twoWay)

/-- What a node holds. -/
def payload (h : Heap) (attrs : List (String × Value)) : Json :=
  match attrs.find? (·.2.isPrimitive) with
  | some (_, v) => (h.plain? 1 v).getD .null
  | none => .null

/-- The nodes from an address on, at most `limit` of them, after the nodes `visited`. An address
without attributes is an error. -/
def walk (h : Heap) :
    (limit : Nat) → (visited : List Address) → Option Address → Except Address (List Node)
  | 0, _, _ | _, _, none => .ok []
  | limit + 1, visited, some a =>
    match h.attributesAt? a with
    | none => .error a
    | some attrs => do
      let seen := visited ++ [a]
      let links := h.linksFrom seen attrs
      let onward := links.find? (· ≠ .back)
      let successor := onward.bind Link.fresh?
      let next := if limit = 0 && successor.isSome then none
        else onward.bind (·.target? seen.length)
      let prev := if links.contains .back then some (visited.length - 1) else none
      let rest ← h.walk limit seen successor
      return ⟨visited.length, h.payload attrs, next, prev⟩ :: rest

/-- The first node of what `v` is drawn as. -/
def firstNode? (h : Heap) (v : Value) (t : Tag) : Option Value :=
  if t.isContainer then h.headNode? v
  else if t.isLinked || (h.profile v).isNode then some v
  else none

/-- Draws a value as the linked list that its tag says it is. -/
def chainOf (h : Heap) (v : Value) (t : Tag) : Chain :=
  match h.walk Chain.limit [] ((h.firstNode? v t).bind Value.address?) with
  | .error a =>
    ⟨t.isDoubly, none, [], some ("reference to freed object at " ++ addressText a)⟩
  | .ok nodes =>
    ⟨t.isDoubly || nodes.any (·.prev.isSome), if nodes.isEmpty then none else some 0, nodes, none⟩

end Heap

/-- The tag of a value that is drawn as a chain: links in both directions that only show in the
chain count as well. -/
def Chain.settle (c : Chain) (t : Tag) : Tag := if c.doubly then t.doubly else t

/-! ### On one line -/

namespace Chain

/-- The numbers of the nodes met from `current` on, and the number of the node, met before, at which
this stops; `seen` holds the nodes met so far, and at most `fuel` more are met. -/
def follow (nodes : List Node) :
    (fuel : Nat) → (seen : List Nat) → (current : Option Nat) → List Nat × Option Nat
  | 0, _, _ | _, _, none => ([], none)
  | fuel + 1, seen, some id =>
    match nodes[id]? with
    | none => ([], none)
    | some node =>
      if seen.contains id then ([], some id)
      else
        let (ids, closing) := follow nodes fuel (id :: seen) node.next
        (id :: ids, closing)

/-- The text of the value of a node. -/
def valueText (nodes : List Node) (id : Nat) : String :=
  match nodes[id]? with
  | some node => node.value.compact
  | none => ""

/-- A chain on one line. -/
def text (c : Chain) : String :=
  match c.error, c.head with
  | some error, _ => "<" ++ error ++ ">"
  | none, none => "(empty)"
  | none, some head =>
    let (ids, closing) := follow c.nodes (c.nodes.length + 1) [] (some head)
    let arrow := if c.doubly then " <-> " else " -> "
    String.intercalate arrow (ids.map (valueText c.nodes))
      ++ match closing with
        | some id => " ↺ " ++ valueText c.nodes id
        | none => ""

end Chain

end Stepwise
