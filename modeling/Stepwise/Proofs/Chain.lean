import Stepwise.Proofs.Walk

/-!
# Chains

What is drawn of a value is a canonical chain whatever is on the heap: its nodes are numbered, each
but the last leads to the next one, and the last leads nowhere or back into the chain
(`chain_canonical`). What a chain shows is on the heap, and a chain that ends before its limit ends
where nothing leads on (`chain_faithful`).
-/

namespace Stepwise

namespace Heap

variable {h : Heap}

/-- What is tagged as a list has a first node. -/
theorem headNode?_of_isContainer {v : Value} (ht : (h.tagOf v).isContainer = true) :
    (h.headNode? v).isSome = true := by
  have linked : (h.tagOf v).isLinked = true := by
    revert ht
    cases h.tagOf v <;> simp [Tag.isContainer, Tag.isLinked]
  have tagged := objectTag?_of_linked linked
  have head : (h.listHead? v).isSome = true := by
    revert ht tagged
    generalize h.tagOf v = t
    intro ht tagged
    unfold objectTag? at tagged
    split at tagged
    · cases tagged
    · cases tagged
      cases ht
    · split at tagged
      · next found =>
        rw [found]
        rfl
      · dsimp only at tagged
        split at tagged
        · cases tagged
          split at ht <;> cases ht
        · cases tagged
  unfold listHead? at head
  dsimp only at head
  split at head
  · cases head
  · exact head

/-- A chain of something that is tagged as a linked list or a node of one has nodes. -/
theorem chainOf_nodes {v : Value} (ht : (h.tagOf v).isLinked = true) :
    (h.chainOf v (h.tagOf v)).nodes ≠ [] := by
  obtain ⟨first, hf⟩ : ∃ first, h.firstNode? v (h.tagOf v) = some first := by
    unfold firstNode?
    split
    · next container => exact Option.isSome_iff_exists.1 (headNode?_of_isContainer container)
    · exact ⟨v, by rw [ht]; rfl⟩
  have known := attributes_of_firstNode hf
  obtain ⟨a, rfl⟩ : ∃ a, first = .ref a := by
    cases first with
    | ref a => exact ⟨a, rfl⟩
    | _ => cases known
  have unbroken := h.chainOf_unbroken v
  unfold chainOf at unbroken ⊢
  rw [hf] at unbroken ⊢
  cases walked : h.walk Chain.limit [] (some a) with
  | error =>
    simp only [Option.bind_some, Value.address?, walked] at unbroken
    cases unbroken
  | ok nodes =>
    simp only [Option.bind_some, Value.address?, walked]
    obtain ⟨_, _, _, _, rfl⟩ := walk_cons (show h.walk (99 + 1) [] (some a) = _ from walked)
    exact List.cons_ne_nil _ _

end Heap

/-! ### Main statements -/

/-- Whether the nodes of a chain are numbered from 0 in the order in which they lead to each other,
and the rest of the chain fits them. -/
structure Chain.Canonical (c : Chain) : Prop where
  limit : c.nodes.length ≤ Chain.limit
  ids : c.nodes.map Node.id = List.range c.nodes.length
  head : c.head = if c.nodes = [] then none else some 0
  /-- Every node but the last leads to the next one. -/
  next : ∀ n ∈ c.nodes.dropLast, n.next = some (n.id + 1)
  /-- The last node leads nowhere or to one of the nodes. -/
  last : ∀ n ∈ c.nodes.getLast?, ∀ j ∈ n.next, j < c.nodes.length
  /-- A link back leads to the node before. -/
  prev : ∀ n ∈ c.nodes, ∀ j ∈ n.prev, j + 1 = n.id
  /-- With an error nothing is drawn. -/
  error : c.error.isSome = true → c.nodes = []

/-- Whatever is on the heap, what is drawn of a value is a canonical chain. It has links in both
directions exactly if the tag says so or a node leads back; and if the tag is that of the value and
says that it is a linked list or a node, something is drawn, without an error. -/
theorem chain_canonical (h : Heap) (v : Value) (t : Tag) :
    (h.chainOf v t).Canonical ∧
      ((h.chainOf v t).doubly = true ↔
        t.isDoubly = true ∨ ∃ n ∈ (h.chainOf v t).nodes, n.prev.isSome = true) ∧
      (t = h.tagOf v ∧ t.isLinked = true →
        (h.chainOf v t).nodes ≠ [] ∧ (h.chainOf v t).error = none) := by
  obtain ⟨as, H, -⟩ := h.chainOf_walked v t
  refine ⟨⟨H.length_le, ?_, ?_, H.next, ?_, H.prev, ?_⟩, ?_, ?_⟩
  · rw [H.ids, List.range_eq_range']
    rfl
  · unfold Heap.chainOf
    split
    · rfl
    · simp [List.isEmpty_iff]
  · simpa using H.next_last
  · unfold Heap.chainOf
    split
    · exact fun _ => rfl
    · exact nofun
  · unfold Heap.chainOf
    split <;> simp
  · rintro ⟨rfl, linked⟩
    exact ⟨Heap.chainOf_nodes linked, h.chainOf_unbroken v⟩

/-- Whether nodes are drawn of the objects at some addresses. -/
structure Heap.Depicts (h : Heap) (v : Value) (t : Tag) (as : List Address) (nodes : List Node) :
    Prop where
  /-- The objects are different. -/
  distinct : as.Nodup
  /-- The first one is the value itself, or what the value points at if the tag says that it is a
  list. -/
  first : ∀ a ∈ as.head?, if t.isContainer then
      h.headNode? v = some (.ref a) ∧ ∃ e ∈ h.linksOf v, e.2 = .ref a
    else v = .ref a
  /-- The nodes are numbered in the order of the objects. -/
  ids : nodes.map Node.id = List.range nodes.length
  /-- Each node shows its object, which is there and has attributes. -/
  shows : List.Forall₂ (fun a n => ∃ attrs, h.attributesAt? a = some attrs ∧ h.Shows as attrs n)
    as nodes
  /-- Nothing that can be reached is left out at the end, unless the limit is reached or the chain
  closes. -/
  final : nodes.length < Chain.limit → ∀ a ∈ as.getLast?, ∀ n ∈ nodes.getLast?, n.next = none →
    ∃ attrs, h.attributesAt? a = some attrs ∧ h.Final as attrs n

/-- The nodes of a chain show different objects of the heap, and links between them that are there;
where the chain ends, nothing leads on. -/
theorem chain_faithful (h : Heap) (v : Value) (t : Tag) :
    ∃ as, h.Depicts v t as (h.chainOf v t).nodes := by
  obtain ⟨as, H, start⟩ := h.chainOf_walked v t
  refine ⟨as, ?_, fun a ha => ?_, ?_, H.shows, H.final⟩
  · exact H.nodup .nil fun _ _ => List.not_mem_nil
  · have first := start a ha
    unfold Heap.firstNode? at first
    split at first
    · next container =>
      obtain ⟨e, he, hv⟩ := Option.map_eq_some_iff.1 first
      rw [if_pos container]
      exact ⟨first, e, List.mem_of_find?_eq_some he, hv⟩
    · next container =>
      rw [if_neg container]
      split at first
      · exact Option.some.inj first
      · cases first
  · rw [H.ids, List.range_eq_range']
    rfl

end Stepwise
