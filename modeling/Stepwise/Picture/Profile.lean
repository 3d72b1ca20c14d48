import Stepwise.Heap.Class
import Stepwise.Text.Case

/-!
# Tags and profiles

A tag says what kind of thing a variable holds, as far as a picture of it is concerned. Linked lists
are told from other objects by their shape: by what their attributes hold, whatever the attributes
and classes are called.

## The model

The `Profile` of an object counts its attributes of each sort. A node holds data and links; a list
holds a link to a node of another class. `Heap.tagOf` looks for lists first, so that a list with one
fresh node is not taken for a node itself.
-/

namespace Stepwise

/-! ### Tags -/

/-- The kind of a value. -/
inductive Tag where
  | primitive
  | array
  | object
  | function
  /-- An object without attributes so far. -/
  | constructing
  | linkedList
  | linkedListNode
  | doublyLinkedList
  | doublyLinkedNode
  /-- Anything else, by the name of its type. -/
  | other (name : String)
  deriving DecidableEq

namespace Tag

/-- The name of a tag. -/
def name : Tag → String
  | primitive => "primitive"
  | array => "array"
  | object => "object"
  | function => "function"
  | constructing => "constructing"
  | linkedList => "linked_list"
  | linkedListNode => "linked_list_node"
  | doublyLinkedList => "doubly_linked_list"
  | doublyLinkedNode => "doubly_linked_node"
  | other name => name

/-- The tag with a name. -/
def named (name : String) : Tag :=
  match name with
  | "primitive" => primitive
  | "array" => array
  | "object" => object
  | "function" => function
  | "constructing" => constructing
  | "linked_list" => linkedList
  | "linked_list_node" => linkedListNode
  | "doubly_linked_list" => doublyLinkedList
  | "doubly_linked_node" => doublyLinkedNode
  | name => other name

/-- Lists that point at their first node. -/
def isContainer : Tag → Bool
  | linkedList | doublyLinkedList => true
  | _ => false

/-- Linked lists and their nodes. -/
def isLinked : Tag → Bool
  | linkedList | linkedListNode | doublyLinkedList | doublyLinkedNode => true
  | _ => false

/-- Lists and nodes with links in both directions. -/
def isDoubly : Tag → Bool
  | doublyLinkedList | doublyLinkedNode => true
  | _ => false

/-- The tag with links in both directions. -/
def doubly : Tag → Tag
  | linkedList => doublyLinkedList
  | linkedListNode => doublyLinkedNode
  | t => t

end Tag

/-! ### What attributes hold -/

/-- Names that belong to the language: at least five bytes long, between two pairs of
underscores. -/
def isReserved (name : String) : Bool :=
  name.utf8ByteSize > 4 && name.startsWith "__" && name.endsWith "__"

/-- What the attributes of an object hold. -/
structure Profile where
  /-- Those with a number or a string. -/
  primitives : List String
  /-- Those with an object that has attributes of its own. -/
  links : List String
  /-- The links to an object of the same type. -/
  likewise : List String
  /-- The links to the object itself. -/
  loops : List String
  /-- The number of attributes. -/
  total : Nat

namespace Profile

/-- Whether the object can be a node that a list points at: it holds data and has few
attributes. -/
def isNodeShaped (p : Profile) : Bool := !p.primitives.isEmpty && p.total ≤ 4

/-- Whether the object can be a node: it has a link, and data or a link to its own kind. -/
def isNode (p : Profile) : Bool :=
  !p.links.isEmpty && p.total ≤ 6 && (!p.primitives.isEmpty || !p.likewise.isEmpty)

end Profile

namespace Heap

/-- The attributes of the object at an address, reserved names and callable values apart. -/
def attributesAt? (h : Heap) (a : Address) : Option (List (String × Value)) :=
  let visible (attrs : Namespace) :=
    attrs.entries.filter fun (name, v) => !isReserved name && !h.isCallable v
  match h.get? a with
  | some (.inst i) => some (visible i.attrs)
  | some (.module m) => some (visible m.attrs)
  | _ => none

/-- The attributes of a value. -/
def attributes? (h : Heap) (v : Value) : Option (List (String × Value)) :=
  v.address?.bind h.attributesAt?

/-- Whether a value has attributes of its own. -/
def hasAttributes (h : Heap) (v : Value) : Bool := (h.attributes? v).isSome

/-- Whether two values are of one type: instances of one class, or values without a class whose
types are called the same. -/
def likeTyped (h : Heap) (v w : Value) : Bool :=
  match h.classOf? v, h.classOf? w with
  | some c, some d => c == d
  | none, none => h.typeName v == h.typeName w
  | _, _ => false

/-- The attributes of a value that hold an object with attributes. -/
def linksOf (h : Heap) (v : Value) : List (String × Value) :=
  ((h.attributes? v).getD []).filter fun (_, w) => h.hasAttributes w

/-- The profile of a value. -/
def profile (h : Heap) (v : Value) : Profile :=
  let attrs := (h.attributes? v).getD []
  let links := h.linksOf v
  let names (es : List (String × Value)) := es.map (·.1)
  ⟨names (attrs.filter (·.2.isPrimitive)), names links,
    names (links.filter fun (_, w) => h.likeTyped v w),
    names (links.filter fun (_, w) => w.address? == v.address?), attrs.length⟩

/-- The first node of the list `v`: what the first link leads to that goes to something node-shaped
of another class. -/
def headNode? (h : Heap) (v : Value) : Option Value :=
  let own := h.classOf? v
  ((h.linksOf v).find? fun (_, w) =>
    (own.isNone || h.classOf? w != own) && (h.profile w).isNodeShaped).map (·.2)

/-- The first node of `v`, if `v` can be a list: it has few attributes, and little data. -/
def listHead? (h : Heap) (v : Value) : Option Value :=
  let p := h.profile v
  if p.total > 3 || p.primitives.length > 1 then none else h.headNode? v

/-- The tag of an object with attributes. -/
def objectTag? (h : Heap) (v : Value) : Option Tag :=
  match h.attributes? v with
  | none => none
  | some [] => some .constructing
  | some _ =>
    match h.listHead? v with
    | some head =>
      some (if (h.profile head).links.length ≥ 2 then .doublyLinkedList else .linkedList)
    | none =>
      let p := h.profile v
      if p.isNode then
        some (if p.likewise.length ≥ 2 then .doublyLinkedNode else .linkedListNode)
      else none

/-- The tag of a value. -/
def tagOf (h : Heap) (v : Value) : Tag :=
  match v with
  | .none | .bool _ | .int _ | .float _ | .str _ => .primitive
  | .tuple _ _ => .array
  | _ =>
    match h.object? v with
    | some (.list _) => .array
    | some (.dict _) => .object
    | _ =>
      if h.isCallable v then .function
      else (h.objectTag? v).getD (.other (Text.toLower (h.typeName v)))

end Heap

end Stepwise
