import Mathlib.Data.List.Nodup
import Stepwise.Picture.Chain

/-!
# Walks along linked lists

A walk goes from object to object, never twice to the same one, and each object it comes to is
drawn as a node (`Walked`). The nodes are numbered in the order of the walk, each but the last leads
to the next one, and what they show is on the heap (`Walked.shows`).

## The model

`Walked` has a constructor for each way in which a walk goes on or comes to an end: the first link
that does not lead back decides between them (`onward?`).
-/

namespace Stepwise

variable {h : Heap} {limit : Nat} {visited seen : List Address} {a b : Address}
  {attrs : List (String × Value)} {as : List Address} {nodes : List Node}

namespace Heap

/-! ### Links -/

/-- The number of attributes that hold a link or have room for one. -/
def slots (h : Heap) (attrs : List (String × Value)) : Nat :=
  ((attrs.map (·.2)).filter fun v => v.isNone || h.hasAttributes v).length

/-- A link of a node is an attribute that holds an object with attributes. -/
theorem mem_linksFrom {link : Link} : link ∈ h.linksFrom seen attrs ↔
    ∃ e ∈ attrs, ∃ b, e.2 = .ref b ∧ h.hasAttributes e.2 = true ∧
      Link.toAddress seen (h.slots attrs ≥ 2) b = link := by
  constructor
  · intro hl
    obtain ⟨b, hb, rfl⟩ := List.mem_map.1 hl
    obtain ⟨v, hv, hvb⟩ := List.mem_filterMap.1 hb
    obtain ⟨hv, known⟩ := List.mem_filter.1 hv
    obtain ⟨e, he, rfl⟩ := List.mem_map.1 hv
    refine ⟨e, he, b, ?_, known, rfl⟩
    cases e' : e.2 with
    | ref c =>
      rw [e'] at hvb
      exact congrArg Value.ref (Option.some.inj hvb)
    | _ =>
      rw [e'] at hvb
      cases hvb
  · rintro ⟨e, he, b, hb, known, rfl⟩
    refine List.mem_map.2 ⟨b, List.mem_filterMap.2 ⟨e.2, ?_, by rw [hb]; rfl⟩, rfl⟩
    exact List.mem_filter.2 ⟨List.mem_map.2 ⟨e, he, rfl⟩, known⟩

/-- A link leads back only to the node before the last, and only where there is room for two. -/
theorem toAddress_eq_back {twoWay : Bool} (hb : Link.toAddress seen twoWay b = .back) :
    twoWay = true ∧ ∃ j, j + 2 = seen.length ∧ seen[j]? = some b := by
  unfold Link.toAddress at hb
  split at hb
  · cases hb
  next j hj =>
  split at hb
  · next back =>
    obtain ⟨two, hj'⟩ := Bool.and_eq_true_iff.1 back
    obtain ⟨hlt, hget, -⟩ := List.idxOf?_eq_some_iff.1 hj
    exact ⟨two, j, eq_of_beq hj', List.getElem?_eq_some_iff.2 ⟨hlt, hget⟩⟩
  · cases hb

theorem toAddress_eq_seen {twoWay : Bool} {j : Nat} (hb : Link.toAddress seen twoWay b = .seen j) :
    seen[j]? = some b := by
  unfold Link.toAddress at hb
  split at hb
  · cases hb
  next i hi =>
  split at hb
  · cases hb
  · cases hb
    obtain ⟨hlt, hget, -⟩ := List.idxOf?_eq_some_iff.1 hi
    exact List.getElem?_eq_some_iff.2 ⟨hlt, hget⟩

theorem toAddress_eq_fresh {twoWay : Bool} {c : Address}
    (hb : Link.toAddress seen twoWay b = .fresh c) : c = b ∧ b ∉ seen := by
  unfold Link.toAddress at hb
  split at hb
  · next hi =>
    cases hb
    exact ⟨rfl, List.idxOf?_eq_none_iff.1 hi⟩
  · split at hb <;> cases hb

/-- The first link of a node that does not lead back. -/
def onward? (h : Heap) (seen : List Address) (attrs : List (String × Value)) : Option Link :=
  (h.linksFrom seen attrs).find? (· ≠ .back)

theorem mem_of_onward {link : Link} (hl : h.onward? seen attrs = some link) :
    link ∈ h.linksFrom seen attrs :=
  List.mem_of_find?_eq_some hl

/-- A link that leads on to a node that was visited leads to one of them. -/
theorem onward_lt {j : Nat} (hl : h.onward? seen attrs = some (.seen j)) : j < seen.length := by
  obtain ⟨e, -, b, -, -, link⟩ := mem_linksFrom.1 (mem_of_onward hl)
  exact (List.getElem?_eq_some_iff.1 (toAddress_eq_seen link)).1

theorem onward_ne_back : h.onward? seen attrs ≠ some .back :=
  fun hl => absurd (List.find?_some hl) (by decide)

/-! ### Walks -/

/-- The number of the node that a link leads on to, if at most `limit` more nodes are drawn, the
next of them having the number `next`. -/
def nextOf (limit next : Nat) (onward : Option Link) : Option Nat :=
  if limit = 0 && (onward.bind Link.fresh?).isSome then none else onward.bind (·.target? next)

/-- What is drawn of an object after some others, with the number of the node it leads to. -/
def nodeAt (h : Heap) (visited : List Address) (a : Address) (attrs : List (String × Value))
    (next : Option Nat) : Node :=
  ⟨visited.length, h.payload attrs, next,
    if (h.linksFrom (visited ++ [a]) attrs).contains .back then some (visited.length - 1) else none⟩

/-- The objects that a walk of at most `limit` nodes comes to, and the nodes drawn of them. -/
inductive Walked (h : Heap) : (limit : Nat) → (visited as : List Address) → List Node → Prop
  /-- There is nowhere to go. -/
  | nowhere {limit : Nat} {visited : List Address} : Walked h limit visited [] []
  /-- No link leads on. -/
  | ends {limit : Nat} {visited : List Address} {a : Address} {attrs : List (String × Value)}
    (found : h.attributesAt? a = some attrs) (onward : h.onward? (visited ++ [a]) attrs = none) :
    Walked h (limit + 1) visited [a] [h.nodeAt visited a attrs none]
  /-- A link leads to an object that was visited. -/
  | closes {limit j : Nat} {visited : List Address} {a : Address} {attrs : List (String × Value)}
    (found : h.attributesAt? a = some attrs)
    (onward : h.onward? (visited ++ [a]) attrs = some (.seen j)) :
    Walked h (limit + 1) visited [a] [h.nodeAt visited a attrs (some j)]
  /-- A link leads on, but the limit is reached. -/
  | cut {visited : List Address} {a b : Address} {attrs : List (String × Value)}
    (found : h.attributesAt? a = some attrs)
    (onward : h.onward? (visited ++ [a]) attrs = some (.fresh b)) :
    Walked h 1 visited [a] [h.nodeAt visited a attrs none]
  /-- A link leads on, and the walk follows it. -/
  | goes {limit : Nat} {visited as : List Address} {a b : Address} {attrs : List (String × Value)}
    {n : Node} {ns : List Node} (found : h.attributesAt? a = some attrs)
    (onward : h.onward? (visited ++ [a]) attrs = some (.fresh b))
    (rest : Walked h limit (visited ++ [a]) (b :: as) (n :: ns)) :
    Walked h (limit + 1) visited (a :: b :: as)
      (h.nodeAt visited a attrs (some (visited.length + 1)) :: n :: ns)

/-- One step of a walk: a node, and the walk from there. -/
theorem walk_some (h : Heap) (limit : Nat) (visited : List Address) (a : Address) :
    h.walk (limit + 1) visited (some a) =
      match h.attributesAt? a with
      | none => .error a
      | some attrs =>
        let onward := h.onward? (visited ++ [a]) attrs
        (h.walk limit (visited ++ [a]) (onward.bind Link.fresh?)).map
          (h.nodeAt visited a attrs (nextOf limit (visited.length + 1) onward) :: ·) := by
  rw [walk]
  cases h.attributesAt? a with
  | none => rfl
  | some attrs =>
    have seen : (visited ++ [a]).length = visited.length + 1 := by simp
    simp only [seen]
    rfl

theorem walk_cons (e : h.walk (limit + 1) visited (some a) = .ok nodes) :
    ∃ attrs rest, h.attributesAt? a = some attrs ∧
      h.walk limit (visited ++ [a]) ((h.onward? (visited ++ [a]) attrs).bind Link.fresh?) =
        .ok rest ∧
      nodes = h.nodeAt visited a attrs
        (nextOf limit (visited.length + 1) (h.onward? (visited ++ [a]) attrs)) :: rest := by
  rw [walk_some] at e
  cases found : h.attributesAt? a with
  | none =>
    rw [found] at e
    cases e
  | some attrs =>
    rw [found] at e
    dsimp only at e
    revert e
    cases walked : h.walk limit (visited ++ [a])
        ((h.onward? (visited ++ [a]) attrs).bind Link.fresh?) with
    | error => exact nofun
    | ok rest =>
      rintro ⟨⟩
      exact ⟨attrs, rest, rfl, walked, rfl⟩

theorem walk_none : h.walk limit visited none = .ok [] := by
  cases limit <;> simp [walk]

/-- What a walk gives is drawn of the objects it comes to, the first of them being the one it
starts at. -/
theorem walk_walked : ∀ {limit visited a nodes},
    h.walk (limit + 1) visited (some a) = .ok nodes →
      ∃ as, h.Walked (limit + 1) visited (a :: as) nodes := by
  intro limit
  induction limit with
  | zero =>
    intro visited a nodes e
    obtain ⟨attrs, rest, found, hrest, rfl⟩ := walk_cons e
    obtain rfl : [] = rest := by simpa [walk] using hrest
    refine ⟨[], ?_⟩
    cases onward : h.onward? (visited ++ [a]) attrs with
    | none => exact .ends found onward
    | some link =>
      cases link with
      | back => exact absurd onward onward_ne_back
      | seen j => exact .closes found onward
      | fresh b => exact .cut found onward
  | succ limit ih =>
    intro visited a nodes e
    obtain ⟨attrs, rest, found, hrest, rfl⟩ := walk_cons e
    cases onward : h.onward? (visited ++ [a]) attrs with
    | none =>
      obtain rfl : [] = rest := by simpa [onward, walk_none] using hrest
      exact ⟨[], .ends found onward⟩
    | some link =>
      rw [onward] at hrest
      cases link with
      | back => exact absurd onward onward_ne_back
      | seen j =>
        obtain rfl : [] = rest := by simpa [Link.fresh?, walk_none] using hrest
        exact ⟨[], .closes found onward⟩
      | fresh b =>
        obtain ⟨as, walked⟩ := ih hrest
        cases walked with
        | ends found' onward' => exact ⟨_, .goes found onward (.ends found' onward')⟩
        | closes found' onward' => exact ⟨_, .goes found onward (.closes found' onward')⟩
        | cut found' onward' => exact ⟨_, .goes found onward (.cut found' onward')⟩
        | goes found' onward' rest => exact ⟨_, .goes found onward (.goes found' onward' rest)⟩

/-! ### Walks without errors -/

/-- A link that leads to a new node leads to an object with attributes. -/
theorem attributes_of_fresh (ha : Link.fresh a ∈ h.linksFrom seen attrs) :
    (h.attributesAt? a).isSome = true := by
  obtain ⟨e, -, b, hb, known, link⟩ := mem_linksFrom.1 ha
  obtain ⟨rfl, -⟩ := toAddress_eq_fresh link
  rw [hb] at known
  exact known

/-- A walk that starts with attributes, or nowhere, comes to an end. -/
theorem walk_ok : ∀ (limit : Nat) (visited : List Address) {start : Option Address},
    (∀ a ∈ start, (h.attributesAt? a).isSome = true) →
      ∃ nodes, h.walk limit visited start = .ok nodes
  | 0, _, _, _ => ⟨[], by rw [walk]⟩
  | limit + 1, _, none, _ => ⟨[], walk_none⟩
  | limit + 1, visited, some a, ha => by
    obtain ⟨attrs, found⟩ := Option.isSome_iff_exists.1 (ha a rfl)
    have onward : ∀ b ∈ (h.onward? (visited ++ [a]) attrs).bind Link.fresh?,
        (h.attributesAt? b).isSome = true := by
      intro b hb
      obtain ⟨link, hlink, hb⟩ := Option.bind_eq_some_iff.1 hb
      cases link with
      | fresh c =>
        cases hb
        exact attributes_of_fresh (mem_of_onward hlink)
      | _ => cases hb
    obtain ⟨rest, hrest⟩ := walk_ok limit (visited ++ [a]) onward
    simp only [walk_some, found, hrest]
    exact ⟨_, rfl⟩

/-- The tag of a linked list or a node of one is that of an object with attributes. -/
theorem objectTag?_of_linked {v : Value} (ht : (h.tagOf v).isLinked = true) :
    h.objectTag? v = some (h.tagOf v) := by
  unfold tagOf at ht ⊢
  split at ht <;> try cases ht
  split at ht <;> try cases ht
  split at ht
  · cases ht
  next callable =>
  cases found : h.objectTag? v with
  | none =>
    rw [found] at ht
    cases ht
  | some t =>
    rw [if_neg callable]
    rfl

theorem attributes_of_linked {v : Value} (ht : (h.tagOf v).isLinked = true) :
    h.hasAttributes v = true := by
  have tagged := objectTag?_of_linked ht
  unfold hasAttributes
  cases hv : h.attributes? v with
  | some => rfl
  | none =>
    rw [objectTag?, hv] at tagged
    cases tagged

theorem attributes_of_isNode {v : Value} (hn : (h.profile v).isNode = true) :
    h.hasAttributes v = true := by
  unfold hasAttributes
  cases hv : h.attributes? v with
  | some => rfl
  | none =>
    have nowhere : (h.profile v).links = [] := by
      rw [profile, linksOf, hv]
      rfl
    rw [Profile.isNode, nowhere] at hn
    cases hn

/-- The first node of a chain has attributes. -/
theorem attributes_of_firstNode {v first : Value} (hf : h.firstNode? v (h.tagOf v) = some first) :
    h.hasAttributes first = true := by
  unfold firstNode? at hf
  split at hf
  · obtain ⟨e, he, rfl⟩ := Option.map_eq_some_iff.1 hf
    exact (List.mem_filter.1 (List.mem_of_find?_eq_some he)).2
  · split at hf
    · next node =>
      cases hf
      exact (Bool.or_eq_true_iff.1 node).elim attributes_of_linked attributes_of_isNode
    · cases hf

/-- What is drawn as a chain is drawn without an error if its tag is its own. -/
theorem chainOf_unbroken (h : Heap) (v : Value) : (h.chainOf v (h.tagOf v)).error = none := by
  have start : ∀ a ∈ (h.firstNode? v (h.tagOf v)).bind Value.address?,
      (h.attributesAt? a).isSome = true := by
    intro a ha
    obtain ⟨first, hf, ha⟩ := Option.bind_eq_some_iff.1 ha
    have known := attributes_of_firstNode hf
    rwa [hasAttributes, attributes?, ha] at known
  obtain ⟨nodes, hnodes⟩ := walk_ok Chain.limit [] start
  rw [chainOf, hnodes]

/-! ### What is drawn -/

theorem nodeAt_prev {next : Option Nat} : ∀ j ∈ (h.nodeAt visited a attrs next).prev,
    j + 1 = visited.length ∧ 2 ≤ h.slots attrs ∧
      ∃ b, (visited ++ [a])[j]? = some b ∧ ∃ e ∈ attrs, e.2 = .ref b := by
  intro j hj
  have back : (h.linksFrom (visited ++ [a]) attrs).contains .back = true ∧
      visited.length - 1 = j := by
    simpa [nodeAt] using hj
  obtain ⟨e, he, b, hb, -, link⟩ := mem_linksFrom.1 (List.contains_iff_mem.1 back.1)
  obtain ⟨two, i, hi, found⟩ := toAddress_eq_back link
  have seen : (visited ++ [a]).length = visited.length + 1 := by simp
  obtain rfl : i = j := by omega
  exact ⟨by omega, of_decide_eq_true two, b, found, e, he, hb⟩

/-- If no link leads on, every link leads back to the node before. -/
theorem back_of_ends {next : Option Nat} (onward : h.onward? (visited ++ [a]) attrs = none)
    {e : String × Value} (he : e ∈ attrs) (known : h.hasAttributes e.2 = true) :
    ∃ j, j + 1 = visited.length ∧ (h.nodeAt visited a attrs next).prev = some j ∧
      ∃ b, (visited ++ [a])[j]? = some b ∧ e.2 = .ref b := by
  obtain ⟨b, hb⟩ : ∃ b, e.2 = .ref b := by
    cases hv : e.2 with
    | ref b => exact ⟨b, rfl⟩
    | _ =>
      rw [hv] at known
      cases known
  have link : Link.toAddress (visited ++ [a]) (h.slots attrs ≥ 2) b ∈
      h.linksFrom (visited ++ [a]) attrs := mem_linksFrom.2 ⟨e, he, b, hb, known, rfl⟩
  have back : Link.toAddress (visited ++ [a]) (h.slots attrs ≥ 2) b = .back := by
    have all := List.find?_eq_none.1 onward _ link
    simpa using all
  rw [back] at link
  obtain ⟨-, j, hj, found⟩ := toAddress_eq_back back
  have seen : (visited ++ [a]).length = visited.length + 1 := by simp
  refine ⟨j, by omega, ?_, b, found, hb⟩
  rw [nodeAt, if_pos (List.contains_iff_mem.2 link)]
  exact congrArg some (by omega)

namespace Walked

theorem length_le (H : h.Walked limit visited as nodes) : nodes.length ≤ limit := by
  induction H with
  | nowhere => exact Nat.zero_le _
  | ends | closes | cut => exact Nat.succ_le_succ (Nat.zero_le _)
  | goes _ _ _ ih => exact Nat.succ_le_succ ih

/-- The nodes are numbered in the order of the walk. -/
theorem ids (H : h.Walked limit visited as nodes) :
    nodes.map Node.id = List.range' visited.length nodes.length := by
  induction H with
  | nowhere | ends | closes | cut => rfl
  | goes _ _ _ ih =>
    rw [List.length_append] at ih
    exact congrArg (_ :: ·) ih

/-- Every node but the last leads to the next one. -/
theorem next (H : h.Walked limit visited as nodes) :
    ∀ n ∈ nodes.dropLast, n.next = some (n.id + 1) := by
  induction H with
  | nowhere | ends | closes | cut => exact nofun
  | goes _ _ _ ih =>
    rw [List.dropLast_cons_cons]
    exact List.forall_mem_cons.2 ⟨rfl, ih⟩

/-- The last node leads nowhere or back into the chain. -/
theorem next_last (H : h.Walked limit visited as nodes) :
    ∀ n ∈ nodes.getLast?, ∀ j ∈ n.next, j < visited.length + nodes.length := by
  induction H with
  | nowhere => exact nofun
  | ends | cut =>
    rintro _ ⟨⟩
    exact nofun
  | closes _ onward =>
    rintro _ ⟨⟩ _ ⟨⟩
    simpa using onward_lt onward
  | goes _ _ _ ih =>
    rw [List.getLast?_cons_cons]
    intro n hn j hj
    have := ih n hn j hj
    simp only [List.length_append, List.length_cons, List.length_nil] at this ⊢
    omega

/-- A link back leads to the node before. -/
theorem prev (H : h.Walked limit visited as nodes) : ∀ n ∈ nodes, ∀ j ∈ n.prev, j + 1 = n.id := by
  induction H with
  | nowhere => exact nofun
  | ends | closes | cut =>
    exact List.forall_mem_singleton.2 fun j hj => (nodeAt_prev j hj).1
  | goes _ _ _ ih => exact List.forall_mem_cons.2 ⟨fun j hj => (nodeAt_prev j hj).1, ih⟩

/-- A walk comes to no object twice. -/
theorem nodup (H : h.Walked limit visited as nodes) (hv : visited.Nodup)
    (start : ∀ a ∈ as.head?, a ∉ visited) : (visited ++ as).Nodup := by
  induction H with
  | nowhere => simpa using hv
  | ends | closes | cut => exact List.nodup_append_comm.1 (List.nodup_cons.2 ⟨start _ rfl, hv⟩)
  | @goes _ visited _ a b _ _ _ _ onward _ ih =>
    have here : (visited ++ [a]).Nodup :=
      List.nodup_append_comm.1 (List.nodup_cons.2 ⟨start _ rfl, hv⟩)
    rw [List.append_cons]
    refine ih here ?_
    rintro _ ⟨⟩
    obtain ⟨e, -, c, -, -, link⟩ := mem_linksFrom.1 (mem_of_onward onward)
    obtain ⟨rfl, fresh⟩ := toAddress_eq_fresh link
    exact fresh

end Walked

/-! ### What nodes show -/

/-- Whether one of some attributes refers to the object with the number `j`, `as` being the
addresses of the objects. -/
def Refers (as : List Address) (attrs : List (String × Value)) (j : Nat) : Prop :=
  ∃ b, as[j]? = some b ∧ ∃ e ∈ attrs, e.2 = .ref b

/-- Whether a node shows what is on the heap, `attrs` being the attributes of its object and `as`
the addresses of all objects that are drawn. -/
structure Shows (h : Heap) (as : List Address) (attrs : List (String × Value)) (n : Node) :
    Prop where
  /-- Its value is that of the first number or string. -/
  value : match attrs.find? (·.2.isPrimitive) with
    | some e => ∀ fuel, h.plain? (fuel + 1) e.2 = some n.value
    | none => n.value = .null
  /-- An attribute refers to the object that it leads to. -/
  next : ∀ j ∈ n.next, Refers as attrs j
  /-- An attribute refers to the object before, if it leads back, and there is room for two
  links. -/
  prev : ∀ j ∈ n.prev, j + 1 = n.id ∧ Refers as attrs j ∧ 2 ≤ h.slots attrs

/-- Whether nothing leads on from a node: every attribute that holds an object refers to the one
before, and the node leads back there. -/
def Final (h : Heap) (as : List Address) (attrs : List (String × Value)) (n : Node) : Prop :=
  ∀ e ∈ attrs, h.hasAttributes e.2 = true →
    ∃ j b, j + 1 = n.id ∧ n.prev = some j ∧ as[j]? = some b ∧ e.2 = .ref b

theorem getElem?_of_append {as rest : List Address} {j : Nat} (hj : as[j]? = some b) :
    (as ++ rest)[j]? = some b := by
  rw [List.getElem?_append_left (List.getElem?_eq_some_iff.1 hj).1, hj]

/-- The picture of a number or string is the same at any depth. -/
theorem plain?_of_isPrimitive {v : Value} (hv : v.isPrimitive = true) (fuel : Nat) :
    h.plain? (fuel + 1) v = some ((h.plain? 1 v).getD .null) := by
  cases v with
  | bool | int | float | str => simp [plain?, plainIn]
  | _ => cases hv

theorem payload_shows (h : Heap) (attrs : List (String × Value)) :
    match attrs.find? (·.2.isPrimitive) with
    | some e => ∀ fuel, h.plain? (fuel + 1) e.2 = some (h.payload attrs)
    | none => h.payload attrs = .null := by
  unfold payload
  cases found : attrs.find? (·.2.isPrimitive) with
  | none => rfl
  | some e =>
    have primitive : e.2.isPrimitive = true :=
      List.find?_some (p := fun e : String × Value => e.2.isPrimitive) found
    exact plain?_of_isPrimitive primitive

/-- A node shows what is on the heap if it leads to an object that is drawn. -/
theorem shows_nodeAt {next : Option Nat} {rest : List Address}
    (hn : ∀ j ∈ next, Refers (visited ++ a :: rest) attrs j) :
    h.Shows (visited ++ a :: rest) attrs (h.nodeAt visited a attrs next) := by
  refine ⟨payload_shows h attrs, hn, fun j hj => ?_⟩
  obtain ⟨before, two, b, hb, he⟩ := nodeAt_prev j hj
  exact ⟨before, ⟨b, List.append_cons .. ▸ getElem?_of_append hb, he⟩, two⟩

namespace Walked

/-- Each node shows an object of its own. -/
theorem shows (H : h.Walked limit visited as nodes) :
    List.Forall₂ (fun a n => ∃ attrs, h.attributesAt? a = some attrs ∧
      h.Shows (visited ++ as) attrs n) as nodes := by
  induction H with
  | nowhere => exact .nil
  | ends found | cut found => exact .cons ⟨_, found, shows_nodeAt nofun⟩ .nil
  | closes found onward =>
    refine .cons ⟨_, found, shows_nodeAt ?_⟩ .nil
    rintro _ ⟨⟩
    obtain ⟨e, he, b, hb, -, link⟩ := mem_linksFrom.1 (mem_of_onward onward)
    exact ⟨b, toAddress_eq_seen link, e, he, hb⟩
  | goes found onward _ ih =>
    refine .cons ⟨_, found, shows_nodeAt ?_⟩ (List.append_cons .. ▸ ih)
    rintro _ ⟨⟩
    obtain ⟨e, he, b, hb, -, link⟩ := mem_linksFrom.1 (mem_of_onward onward)
    obtain ⟨rfl, -⟩ := toAddress_eq_fresh link
    exact ⟨_, by simp, e, he, hb⟩

/-- A walk that ends before its limit at a node that leads nowhere ends where nothing leads on. -/
theorem final (H : h.Walked limit visited as nodes) (short : nodes.length < limit) :
    ∀ a ∈ as.getLast?, ∀ n ∈ nodes.getLast?, n.next = none →
      ∃ attrs, h.attributesAt? a = some attrs ∧ h.Final (visited ++ as) attrs n := by
  induction H with
  | nowhere => exact nofun
  | ends found onward =>
    rintro _ ⟨⟩ _ ⟨⟩ _
    refine ⟨_, found, fun e he known => ?_⟩
    obtain ⟨j, hj, back, b, hb, hv⟩ := back_of_ends onward he known
    exact ⟨j, b, hj, back, hb, hv⟩
  | closes =>
    rintro _ ⟨⟩ _ ⟨⟩
    exact nofun
  | cut => exact absurd short (Nat.lt_irrefl _)
  | goes _ _ _ ih =>
    rw [List.getLast?_cons_cons, List.getLast?_cons_cons, List.append_cons]
    exact ih (Nat.lt_of_succ_lt_succ short)

end Walked

/-! ### Chains -/

/-- What is drawn as a chain is drawn of a walk from its first node, or nothing is drawn. -/
theorem chainOf_walked (h : Heap) (v : Value) (t : Tag) :
    ∃ as, h.Walked Chain.limit [] as (h.chainOf v t).nodes ∧
      ∀ a ∈ as.head?, h.firstNode? v t = some (.ref a) := by
  unfold chainOf
  cases walked : h.walk Chain.limit [] ((h.firstNode? v t).bind Value.address?) with
  | error => exact ⟨[], .nowhere, nofun⟩
  | ok nodes =>
    cases start : (h.firstNode? v t).bind Value.address? with
    | none =>
      rw [start, walk_none] at walked
      cases walked
      exact ⟨[], .nowhere, nofun⟩
    | some a =>
      rw [start] at walked
      obtain ⟨as, H⟩ := walk_walked (show h.walk (99 + 1) [] (some a) = _ from walked)
      refine ⟨a :: as, H, ?_⟩
      rintro _ ⟨⟩
      obtain ⟨first, hfirst, ha⟩ := Option.bind_eq_some_iff.1 start
      cases first with
      | ref =>
        cases ha
        exact hfirst
      | _ => cases ha

end Heap

end Stepwise
