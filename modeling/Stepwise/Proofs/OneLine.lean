import Mathlib.Data.List.Perm.Subperm
import Stepwise.Proofs.Walk

/-!
# Chains on one line

The line of a chain that is drawn shows all of its nodes, each once and in their order, and where
the last one leads; the line of any other chain, whatever its numbers and links are, comes to an end
and shows no node twice (`text_complete`).

## The model

What following the links comes to is a relation without a bound (`Chain.Follows`): it has a
derivation only if the way comes to an end. The bound of `Chain.follow` is never reached, since each
node that is met is a new one.
-/

namespace Stepwise

namespace Chain

variable {nodes : List Node} {seen ids : List Nat} {current closing : Option Nat} {n : Node}
  {id fuel : Nat}

/-! ### The way along the links -/

/-- What following the links of some nodes from `current` on comes to, after the nodes `seen`: the
numbers of the nodes that are met, and that of the node at which it comes back. -/
inductive Follows (nodes : List Node) :
    (seen : List Nat) → (current : Option Nat) → (ids : List Nat) → (closing : Option Nat) → Prop
  /-- The last node leads nowhere. -/
  | ends {seen : List Nat} : Follows nodes seen none [] none
  /-- There is no node of that number. -/
  | outside {seen : List Nat} {id : Nat} (absent : nodes[id]? = none) :
    Follows nodes seen (some id) [] none
  /-- The node was met before. -/
  | closes {seen : List Nat} {id : Nat} {n : Node} (present : nodes[id]? = some n)
    (old : id ∈ seen) : Follows nodes seen (some id) [] (some id)
  /-- The node is new, and its link is followed. -/
  | goes {seen ids : List Nat} {id : Nat} {n : Node} {closing : Option Nat}
    (present : nodes[id]? = some n) (new : id ∉ seen)
    (rest : Follows nodes (id :: seen) n.next ids closing) :
    Follows nodes seen (some id) (id :: ids) closing

namespace Follows

/-- The way is determined. -/
theorem unique (H : Follows nodes seen current ids closing) {ids' : List Nat}
    {closing' : Option Nat} (H' : Follows nodes seen current ids' closing') :
    ids = ids' ∧ closing = closing' := by
  induction H generalizing ids' closing' with
  | ends =>
    cases H'
    exact ⟨rfl, rfl⟩
  | outside absent =>
    cases H' with
    | outside => exact ⟨rfl, rfl⟩
    | closes present | goes present => cases absent.symm.trans present
  | closes present old =>
    cases H' with
    | outside absent => cases present.symm.trans absent
    | closes => exact ⟨rfl, rfl⟩
    | goes _ new => exact absurd old new
  | goes present new _ ih =>
    cases H' with
    | outside absent => cases present.symm.trans absent
    | closes _ old => exact absurd old new
    | goes present' _ rest =>
      obtain rfl := Option.some.inj (present.symm.trans present')
      obtain ⟨rfl, rfl⟩ := ih rest
      exact ⟨rfl, rfl⟩

/-- The nodes that are met are there, and were not met before. -/
theorem new (H : Follows nodes seen current ids closing) :
    ∀ id ∈ ids, id < nodes.length ∧ id ∉ seen := by
  induction H with
  | ends | outside | closes => exact nofun
  | goes present new _ ih =>
    refine List.forall_mem_cons.2 ⟨⟨(List.getElem?_eq_some_iff.1 present).1, new⟩, fun id hid => ?_⟩
    exact ⟨(ih id hid).1, fun old => (ih id hid).2 (List.mem_cons_of_mem _ old)⟩

/-- What the way comes back to is there. -/
theorem closing_present (H : Follows nodes seen current ids closing) :
    ∀ id ∈ closing, ∃ n, nodes[id]? = some n := by
  induction H with
  | ends | outside => exact nofun
  | closes present =>
    rintro _ ⟨⟩
    exact ⟨_, present⟩
  | goes _ _ _ ih => exact ih

/-- No node is met twice. -/
theorem nodup (H : Follows nodes seen current ids closing) : ids.Nodup := by
  induction H with
  | ends | outside | closes => exact .nil
  | goes _ _ rest ih =>
    exact List.nodup_cons.2 ⟨fun mem => (rest.new _ mem).2 List.mem_cons_self, ih⟩

end Follows

/-- Following links comes to an end before the bound is reached. -/
theorem follows_follow (distinct : seen.Nodup) (inside : ∀ id ∈ seen, id < nodes.length)
    (enough : nodes.length < fuel + seen.length) (current : Option Nat) :
    Follows nodes seen current (follow nodes fuel seen current).1
      (follow nodes fuel seen current).2 := by
  induction fuel generalizing seen current with
  | zero =>
    -- So many different nodes cannot have been met.
    have sub : seen ⊆ List.range nodes.length := fun id hid => List.mem_range.2 (inside id hid)
    have le := (distinct.subperm sub).length_le
    rw [List.length_range] at le
    omega
  | succ fuel ih =>
    cases current with
    | none => exact .ends
    | some id =>
      cases present : nodes[id]? with
      | none =>
        simp only [follow, present]
        exact .outside present
      | some n =>
        by_cases old : id ∈ seen
        · have met : seen.contains id = true := List.contains_iff_mem.2 old
          simp only [follow, present, met, if_true]
          exact .closes present old
        · have unmet : seen.contains id = false := by simpa using old
          simp only [follow, present, unmet, Bool.false_eq_true, if_false]
          refine .goes present old (ih (List.nodup_cons.2 ⟨old, distinct⟩) ?_ ?_ n.next)
          · exact List.forall_mem_cons.2 ⟨(List.getElem?_eq_some_iff.1 present).1, inside⟩
          · rw [List.length_cons]
            omega

/-! ### The line -/

/-- What stands between two nodes. -/
def arrow (c : Chain) : String := if c.doubly then " <-> " else " -> "

/-- What stands behind the nodes of a chain that comes back to a node. -/
def backTo (n : Node) : String := " ↺ " ++ n.value.compact

/-- The line that shows the nodes with the given numbers and then comes back to another one. -/
def line (c : Chain) (ids : List Nat) (closing : Option Nat) : String :=
  String.intercalate c.arrow (ids.map (valueText c.nodes)) ++
    ((closing.bind (c.nodes[·]?)).map backTo).getD ""

theorem text_eq_line {c : Chain} (whole : c.error = none) (hc : c.head.isSome = true)
    (H : Follows c.nodes [] c.head ids closing) : c.text = c.line ids closing := by
  obtain ⟨id, head⟩ := Option.isSome_iff_exists.1 hc
  have ample : c.nodes.length < c.nodes.length + 1 + ([] : List Nat).length := Nat.lt_succ_self _
  have found := follows_follow .nil nofun ample c.head
  obtain ⟨rfl, rfl⟩ := H.unique found
  have closes := found.closing_present
  rw [head] at closes ⊢
  simp only [text, whole, head]
  refine congrArg (_ ++ ·) ?_
  cases back : (follow c.nodes (c.nodes.length + 1) [] (some id)).2 with
  | none => rfl
  | some j =>
    obtain ⟨n, hn⟩ := closes j back
    simp [valueText, hn, backTo]

end Chain

/-! ### Chains that are drawn -/

namespace Heap.Walked

variable {h : Heap} {limit : Nat} {visited as : List Address} {nodes : List Node}

/-- The node behind some others. -/
theorem getElem?_behind {before ns : List Node} {n : Node} {k : Nat} (length : before.length = k) :
    (before ++ n :: ns)[k]? = some n := by
  rw [← length, List.getElem?_append_right (Nat.le_refl _), Nat.sub_self]
  rfl

/-- From the first node of a walk on, all of its nodes are met in their order, and then what the
last one leads back to. -/
theorem follows (H : h.Walked limit visited as nodes) (some_node : nodes ≠ []) (before : List Node)
    (length : before.length = visited.length) (seen : List Nat)
    (hs : ∀ i, i ∈ seen ↔ i < visited.length) :
    Chain.Follows (before ++ nodes) seen (some visited.length)
      (List.range' visited.length nodes.length) (nodes.getLast?.bind Node.next) := by
  induction H generalizing before seen with
  | nowhere => exact absurd rfl some_node
  | ends | cut => exact .goes (getElem?_behind length) (mt (hs _).1 (Nat.lt_irrefl _)) .ends
  | @closes _ j visited a attrs _ onward =>
    have old : j < visited.length + 1 := by simpa using onward_lt onward
    have inside : j < (before ++ [h.nodeAt visited a attrs (some j)]).length := by
      rw [List.length_append, length]
      exact old
    refine .goes (getElem?_behind length) (mt (hs _).1 (Nat.lt_irrefl _)) ?_
    refine .closes (List.getElem?_eq_getElem inside) ?_
    rw [List.mem_cons, hs]
    omega
  | @goes _ visited _ a _ attrs n ns _ _ _ ih =>
    refine .goes (getElem?_behind length) (mt (hs _).1 (Nat.lt_irrefl _)) ?_
    have onward := ih (List.cons_ne_nil n ns)
      (before ++ [h.nodeAt visited a attrs (some (visited.length + 1))]) (by simpa using length)
      (visited.length :: seen) fun i => by
        rw [List.mem_cons, hs, List.length_append]
        exact Or.comm.trans Nat.lt_succ_iff_lt_or_eq.symm
    rwa [List.append_assoc, List.length_append] at onward

end Heap.Walked

/-- A chain with nodes starts at the first one. -/
theorem Heap.head_chainOf {h : Heap} {v : Value} {t : Tag}
    (some_node : (h.chainOf v t).nodes ≠ []) : (h.chainOf v t).head = some 0 := by
  unfold chainOf at some_node ⊢
  split at some_node
  · exact absurd rfl some_node
  · exact if_neg fun empty => some_node (List.isEmpty_iff.1 empty)

theorem Chain.map_valueText (nodes : List Node) :
    (List.range' 0 nodes.length).map (valueText nodes) = nodes.map (·.value.compact) := by
  refine List.ext_getElem (by simp) fun i _ inside => ?_
  rw [List.length_map] at inside
  simp [valueText, List.getElem?_eq_getElem inside]

/-! ### Main statement -/

/-- The line of a chain that is drawn shows the values of all its nodes, which are numbered in their
order, each once and one after another; behind them stands the value of the node that the last one
leads back to, if it leads anywhere. The line of any chain shows what following the links from its
head comes to; that has an end, and no node is met twice. -/
theorem text_complete :
    (∀ (h : Heap) (v : Value) (t : Tag) (last : Node),
      let c := h.chainOf v t
      c.error = none → c.nodes.getLast? = some last →
        c.nodes.map Node.id = List.range c.nodes.length ∧
        ∃ back, c.text = String.intercalate c.arrow (c.nodes.map (·.value.compact)) ++ back ∧
          (last.next = none ∧ back = "" ∨
            ∃ j n, last.next = some j ∧ c.nodes[j]? = some n ∧ back = Chain.backTo n)) ∧
    ∀ c : Chain, ∃ ids closing, Chain.Follows c.nodes [] c.head ids closing ∧ ids.Nodup ∧
      (∀ id ∈ ids, id < c.nodes.length) ∧
      (c.error = none → c.head.isSome = true → c.text = c.line ids closing) := by
  constructor
  · intro h v t last c whole hlast
    obtain ⟨as, H, -⟩ := h.chainOf_walked v t
    have some_node : c.nodes ≠ [] := by
      rintro none
      rw [none] at hlast
      cases hlast
    have way := H.follows some_node [] rfl [] (by simp)
    rw [hlast, List.nil_append] at way
    have head : c.head = some 0 := Heap.head_chainOf some_node
    have text : c.text = c.line (List.range' 0 c.nodes.length) last.next :=
      Chain.text_eq_line whole (by rw [head]; rfl) (by rw [head]; exact way)
    refine ⟨H.ids.trans List.range_eq_range'.symm,
      ((last.next.bind (c.nodes[·]?)).map Chain.backTo).getD "", ?_, ?_⟩
    · rw [text, Chain.line, Chain.map_valueText]
    · cases next : last.next with
      | none => exact .inl ⟨rfl, rfl⟩
      | some j =>
        obtain ⟨n, hn⟩ := way.closing_present j next
        have present : c.nodes[j]? = some n := hn
        exact .inr ⟨j, n, rfl, present, by simp [present]⟩
  · intro c
    have ample : c.nodes.length < c.nodes.length + 1 + ([] : List Nat).length := Nat.lt_succ_self _
    have H := Chain.follows_follow .nil nofun ample c.head
    exact ⟨_, _, H, H.nodup, fun id hid => (H.new id hid).1, fun whole hc =>
      Chain.text_eq_line whole hc H⟩

/-- Two nodes that lead to each other. -/
def Heap.twoInRing : Heap :=
  ⟨#[some (.inst ⟨Heap.base + 2, .ofList [("value", .int 1), ("next", .ref (Heap.base + 1))], []⟩),
    some (.inst ⟨Heap.base + 2, .ofList [("next", .ref Heap.base), ("value", .int 2)], []⟩)], 0⟩

/-- A chain as no walk gives it: it starts at its second node, and the numbers are wrong. -/
def Chain.tangled : Chain :=
  ⟨true, some 1, [⟨7, .int 1, some 1, none⟩, ⟨7, .int 2, some 0, some 5⟩], none⟩

theorem text_complete_ring :
    let c := Heap.twoInRing.chainOf (.ref Heap.base) .linkedListNode
    (c.text = "1 -> 2 ↺ 1" ∧ ∃ last, c.nodes.getLast? = some last ∧
      c.nodes.map Node.id = List.range c.nodes.length ∧
      ∃ back, c.text = String.intercalate c.arrow (c.nodes.map (·.value.compact)) ++ back ∧
        (last.next = none ∧ back = "" ∨
          ∃ j n, last.next = some j ∧ c.nodes[j]? = some n ∧ back = Chain.backTo n)) ∧
    Chain.tangled.text = "2 <-> 1 ↺ 2" ∧ ∃ ids closing, ids.Nodup ∧
      Chain.tangled.text = Chain.tangled.line ids closing := by
  have some_last : (Heap.twoInRing.chainOf (.ref Heap.base) .linkedListNode).nodes.getLast?.isSome =
      true := by decide +kernel
  have whole : (Heap.twoInRing.chainOf (.ref Heap.base) .linkedListNode).error = none := by
    decide +kernel
  obtain ⟨last, hlast⟩ := Option.isSome_iff_exists.1 some_last
  obtain ⟨ids, closing, -, distinct, -, text⟩ := text_complete.2 Chain.tangled
  exact ⟨⟨by decide +kernel, last, hlast, text_complete.1 _ _ _ last whole hlast⟩,
    by decide +kernel, ids, closing, distinct, text rfl rfl⟩

end Stepwise
