import Stepwise.Proofs.Chain

/-!
# Linked lists as chains

A linked list is drawn as itself (`list_drawn`): node by node, each with its own value and its links
to the nodes next to it, up to the limit. In which order the attributes of a node come makes no
difference, and the links back of a doubly linked list show whatever its tag says.

## The model

The cells of a list are its addresses with what they hold (`Heap.HoldsList`). The walk is followed
cell by cell: at each one the only link that does not lead back is that to the next cell
(`HoldsList.mem_links`).
-/

namespace Stepwise

/-- What a picture shows of a number or string. -/
def Value.scalar : Value → Json
  | .bool b => .bool b
  | .int n => .int n
  | .float x => Heap.numberJson x
  | .str s => .str s
  | _ => .null

/-- A cell of a linked list: where it is, and the number or string that it holds. -/
structure ListCell where
  /-- Where it is. -/
  address : Address
  /-- What it holds. -/
  value : Value

/-- A link to a cell; `None` where there is none. -/
def linkTo : Option ListCell → Value
  | some c => .ref c.address
  | none => .none

/-- The cell before the one with the number `i`. -/
def before? (cells : List ListCell) : (i : Nat) → Option ListCell
  | 0 => none
  | i + 1 => cells[i]?

/-- The links of the cell with the number `i`: to the next one, and to the one before if the list
is doubly linked. -/
def cellLinks (twoWay : Bool) (cells : List ListCell) (i : Nat) : List Value :=
  linkTo cells[i + 1]? :: if twoWay then [linkTo (before? cells i)] else []

/-- The node drawn of a cell with its number, if `count` nodes are drawn: it leads to the node
behind it, and back to the one before it if the list is doubly linked. -/
def cellNode (twoWay : Bool) (count : Nat) : ListCell × Nat → Node
  | (c, i) => ⟨i, c.value.scalar, if i + 1 < count then some (i + 1) else none,
      if twoWay && 0 < i then some (i - 1) else none⟩

/-- The nodes drawn of cells, numbered in their order. -/
def listNodes (twoWay : Bool) (cells : List ListCell) : List Node :=
  cells.zipIdx.map (cellNode twoWay cells.length)

namespace Heap

/-- What is found in a list where nothing else is looked for. -/
theorem find?_of_unique {α : Type} {p : α → Bool} {xs : List α} {x : α} (mem : x ∈ xs)
    (hx : p x = true) (only : ∀ y ∈ xs, p y = true → y = x) : xs.find? p = some x := by
  obtain ⟨y, hy⟩ := Option.isSome_iff_exists.1 (List.find?_isSome.2 ⟨x, mem, hx⟩)
  rw [hy, only y (List.mem_of_find?_eq_some hy) (List.find?_some hy)]

/-- Whether a linked list is on the heap: its cells are different objects, and what the attributes
of each hold, reserved names and callable values apart, is in some order its number or string and
its links, and nothing else. -/
structure HoldsList (h : Heap) (twoWay : Bool) (cells : List ListCell) : Prop where
  distinct : (cells.map ListCell.address).Nodup
  primitive : ∀ c ∈ cells, c.value.isPrimitive = true
  attrs : ∀ i c, cells[i]? = some c → ∃ attrs, h.attributesAt? c.address = some attrs ∧
    (attrs.map (·.2)).Perm (c.value :: cellLinks twoWay cells i)

theorem not_isPrimitive_of_mem_cellLinks {twoWay : Bool} {cells : List ListCell} {i : Nat}
    {v : Value} (hv : v ∈ cellLinks twoWay cells i) : v.isPrimitive = false := by
  have link {o : Option ListCell} : (linkTo o).isPrimitive = false := by cases o <;> rfl
  obtain rfl | hv := List.mem_cons.1 hv
  · exact link
  · cases twoWay with
    | false => cases hv
    | true =>
      obtain rfl := List.mem_singleton.1 hv
      exact link

theorem length_take_address {cells : List ListCell} {i : Nat} (le : i ≤ cells.length) :
    ((cells.take i).map ListCell.address).length = i := by
  rw [List.length_map, List.length_take, Nat.min_eq_left le]

theorem take_succ_address {cells : List ListCell} {i : Nat} {c : ListCell}
    (hc : cells[i]? = some c) : (cells.take (i + 1)).map ListCell.address =
      (cells.take i).map ListCell.address ++ [c.address] := by
  rw [List.take_add_one, hc, List.map_append]
  rfl

/-- A cell leads to the next one, unless that is beyond the limit. -/
theorem nextOf_eq {cells : List ListCell} {i : Nat} {c : ListCell} (hc : cells[i]? = some c)
    (limit : Nat) :
    nextOf limit (((cells.take i).map ListCell.address).length + 1)
        (cells[i + 1]?.map fun d => .fresh d.address) =
      if i + 1 < min cells.length (i + (limit + 1)) then some (i + 1) else none := by
  have inside := (List.getElem?_eq_some_iff.1 hc).1
  rw [length_take_address (Nat.le_of_lt inside)]
  cases next : cells[i + 1]? with
  | none =>
    have last := List.getElem?_eq_none_iff.1 next
    rw [if_neg (by omega)]
    simp [nextOf]
  | some d =>
    have more := (List.getElem?_eq_some_iff.1 next).1
    cases limit with
    | zero =>
      rw [if_neg (by omega)]
      rfl
    | succ limit =>
      rw [if_pos (by omega)]
      rfl

namespace HoldsList

variable {h : Heap} {twoWay : Bool} {cells : List ListCell} {i j : Nat} {c d : ListCell}
  {attrs : List (String × Value)} (H : h.HoldsList twoWay cells)
include H

/-! ### One cell -/

/-- Cells have attributes. -/
theorem hasAttributes (hc : cells[i]? = some c) : h.hasAttributes (.ref c.address) = true := by
  obtain ⟨attrs, found, -⟩ := H.attrs i c hc
  exact Option.isSome_iff_exists.2 ⟨attrs, found⟩

theorem address_inj (hc : cells[i]? = some c) (hd : cells[j]? = some d)
    (same : c.address = d.address) : i = j := by
  have at_i : (cells.map ListCell.address)[i]? = some c.address := by simp [hc]
  have at_j : (cells.map ListCell.address)[j]? = some d.address := by simp [hd]
  refine (List.getElem?_inj ?_ H.distinct).1 (at_i.trans ((congrArg some same).trans at_j.symm))
  exact (List.getElem?_eq_some_iff.1 at_i).1

/-- A cell is found among the first ones by its number. -/
theorem idxOf?_address (hd : cells[j]? = some d) (k : Nat) :
    ((cells.take k).map ListCell.address).idxOf? d.address = if j < k then some j else none := by
  have each {n : Nat} {a : Address} (hn : ((cells.take k).map ListCell.address)[n]? = some a) :
      n < k ∧ ∃ e, cells[n]? = some e ∧ e.address = a := by
    rw [List.getElem?_map, List.getElem?_take] at hn
    split at hn
    · next lt => exact ⟨lt, Option.map_eq_some_iff.1 hn⟩
    · cases hn
  split
  · next lt =>
    have found : ((cells.take k).map ListCell.address)[j]? = some d.address := by
      rw [List.getElem?_map, List.getElem?_take, if_pos lt, hd]
      rfl
    obtain ⟨inside, get⟩ := List.getElem?_eq_some_iff.1 found
    refine List.idxOf?_eq_some_iff.2 ⟨inside, get, fun n less same => ?_⟩
    obtain ⟨-, e, he, address⟩ :=
      each (List.getElem?_eq_some_iff.2 ⟨Nat.lt_trans less inside, same⟩)
    exact Nat.ne_of_lt less (H.address_inj he hd address)
  · next ge =>
    refine List.idxOf?_eq_none_iff.2 fun mem => ge ?_
    obtain ⟨n, hn⟩ := List.mem_iff_getElem?.1 mem
    obtain ⟨lt, e, he, address⟩ := each hn
    rwa [← H.address_inj he hd address]

/-- What the attributes of a cell refer to. -/
theorem mem_attrs (hc : cells[i]? = some c) (found : h.attributesAt? c.address = some attrs)
    {b : Address} : (∃ e ∈ attrs, e.2 = .ref b) ↔
      (∃ d, cells[i + 1]? = some d ∧ d.address = b) ∨
        twoWay = true ∧ ∃ j d, i = j + 1 ∧ cells[j]? = some d ∧ d.address = b := by
  obtain ⟨attrs', found', perm⟩ := H.attrs i c hc
  obtain rfl := Option.some.inj (found.symm.trans found')
  have primitive : c.value ≠ .ref b := by
    have := H.primitive c (List.mem_of_getElem? hc)
    intro ref
    rw [ref] at this
    cases this
  have link {o : Option ListCell} : linkTo o = .ref b ↔ ∃ d, o = some d ∧ d.address = b := by
    cases o <;> simp [linkTo]
  have listed : (∃ e ∈ attrs, e.2 = .ref b) ↔ .ref b ∈ c.value :: cellLinks twoWay cells i := by
    rw [← perm.mem_iff, List.mem_map]
  rw [listed, List.mem_cons, cellLinks, List.mem_cons, or_iff_right (Ne.symm primitive),
    eq_comm, link]
  refine or_congr_right ?_
  cases twoWay with
  | false => simp
  | true =>
    rw [if_pos rfl, List.mem_singleton, eq_comm, link]
    cases i <;> simp [before?]

/-- A cell of a doubly linked list has room for two links. -/
theorem slots (hc : cells[i]? = some c) (found : h.attributesAt? c.address = some attrs)
    (both : twoWay = true) : 2 ≤ h.slots attrs := by
  obtain ⟨attrs', found', perm⟩ := H.attrs i c hc
  obtain rfl := Option.some.inj (found.symm.trans found')
  have room {o : Option ListCell} {j : Nat} (cell : ∀ d, o = some d → cells[j]? = some d) :
      ((linkTo o).isNone || h.hasAttributes (linkTo o)) = true := by
    cases o with
    | none => rfl
    | some d => exact Bool.or_eq_true_iff.2 (.inr (H.hasAttributes (cell d rfl)))
  have onward := room (j := i + 1) fun d hd => hd
  have backward := room (o := before? cells i) (j := i - 1) fun d hd => by
    cases i with
    | zero => cases hd
    | succ i => exact hd
  rw [Heap.slots, (perm.filter _).length_eq, cellLinks, if_pos both, ← List.countP_eq_length_filter]
  simp only [List.countP_cons, onward, backward, if_true, List.countP_nil]
  omega

/-- The links of a cell lead on to the next one, and back to the one before. -/
theorem mem_links (hc : cells[i]? = some c) (found : h.attributesAt? c.address = some attrs)
    {link : Link} : link ∈ h.linksFrom ((cells.take (i + 1)).map ListCell.address) attrs ↔
      (∃ d, cells[i + 1]? = some d ∧ link = .fresh d.address) ∨
        twoWay = true ∧ 0 < i ∧ link = .back := by
  have length := length_take_address (Nat.succ_le_of_lt (List.getElem?_eq_some_iff.1 hc).1)
  have onward {d : ListCell} (hd : cells[i + 1]? = some d) {room : Bool} :
      Link.toAddress ((cells.take (i + 1)).map ListCell.address) room d.address =
        .fresh d.address := by
    rw [Link.toAddress, H.idxOf?_address hd, if_neg (Nat.lt_irrefl _)]
  have backward {j : Nat} {d : ListCell} (hj : i = j + 1) (hd : cells[j]? = some d)
      (both : twoWay = true) :
      Link.toAddress ((cells.take (i + 1)).map ListCell.address) (h.slots attrs ≥ 2) d.address =
        .back := by
    have room : decide (h.slots attrs ≥ 2) = true := decide_eq_true (H.slots hc found both)
    rw [Link.toAddress, H.idxOf?_address hd, if_pos (by omega), length]
    simp [room, hj]
  rw [mem_linksFrom]
  constructor
  · rintro ⟨e, he, b, hb, -, rfl⟩
    obtain ⟨d, hd, rfl⟩ | ⟨both, j, d, hj, hd, rfl⟩ := (H.mem_attrs hc found).1 ⟨e, he, hb⟩
    · exact .inl ⟨d, hd, onward hd⟩
    · exact .inr ⟨both, by omega, backward hj hd both⟩
  · rintro (⟨d, hd, rfl⟩ | ⟨both, pos, rfl⟩)
    · obtain ⟨e, he, hb⟩ := (H.mem_attrs hc found).2 (.inl ⟨d, hd, rfl⟩)
      exact ⟨e, he, d.address, hb, hb ▸ H.hasAttributes hd, onward hd⟩
    · obtain ⟨j, rfl⟩ : ∃ j, i = j + 1 := ⟨i - 1, by omega⟩
      have inside : j < cells.length := by
        have := (List.getElem?_eq_some_iff.1 hc).1
        omega
      have hd := List.getElem?_eq_getElem inside
      obtain ⟨e, he, hb⟩ := (H.mem_attrs hc found).2 (.inr ⟨both, j, _, rfl, hd, rfl⟩)
      exact ⟨e, he, _, hb, hb ▸ H.hasAttributes hd, backward rfl hd both⟩

/-- Only the next cell is new. -/
theorem onward? (hc : cells[i]? = some c) (found : h.attributesAt? c.address = some attrs) :
    h.onward? ((cells.take (i + 1)).map ListCell.address) attrs =
      cells[i + 1]?.map fun d => .fresh d.address := by
  cases next : cells[i + 1]? with
  | none =>
    refine List.find?_eq_none.2 fun link mem => ?_
    obtain ⟨d, hd, -⟩ | ⟨-, -, rfl⟩ := (H.mem_links hc found).1 mem
    · cases next.symm.trans hd
    · decide
  | some d =>
    have mem := (H.mem_links hc found).2 (.inl ⟨d, next, rfl⟩)
    have only : ∀ link ∈ h.linksFrom ((cells.take (i + 1)).map ListCell.address) attrs,
        link ≠ .back → link = .fresh d.address := by
      intro link mem ne
      obtain ⟨d', hd', rfl⟩ | ⟨-, -, rfl⟩ := (H.mem_links hc found).1 mem
      · rw [Option.some.inj (next.symm.trans hd')]
      · exact absurd rfl ne
    exact find?_of_unique mem (by simp) fun link mem ne => only link mem (by simpa using ne)

theorem contains_back (hc : cells[i]? = some c) (found : h.attributesAt? c.address = some attrs) :
    (h.linksFrom ((cells.take (i + 1)).map ListCell.address) attrs).contains .back =
      (twoWay && 0 < i) := by
  rw [Bool.eq_iff_iff, List.contains_iff_mem, H.mem_links hc found]
  simp

/-- A cell holds one number or string. -/
theorem payload (hc : cells[i]? = some c) (found : h.attributesAt? c.address = some attrs) :
    h.payload attrs = c.value.scalar := by
  obtain ⟨attrs', found', perm⟩ := H.attrs i c hc
  obtain rfl := Option.some.inj (found.symm.trans found')
  have primitive := H.primitive c (List.mem_of_getElem? hc)
  have first : (attrs.map (·.2)).find? Value.isPrimitive = some c.value := by
    refine find?_of_unique (perm.mem_iff.2 List.mem_cons_self) primitive fun v hv prim => ?_
    obtain rfl | link := List.mem_cons.1 (perm.mem_iff.1 hv)
    · rfl
    · cases (not_isPrimitive_of_mem_cellLinks link).symm.trans prim
  rw [List.find?_map] at first
  obtain ⟨e, he, value⟩ := Option.map_eq_some_iff.1 first
  have shown : (h.plain? 1 c.value).getD .null = c.value.scalar := by
    cases c with | mk a v =>
    cases v with
    | bool | int | float | str => simp [plain?, plainIn, Value.scalar]
    | _ => cases primitive
  have he' : attrs.find? (·.2.isPrimitive) = some e := he
  rw [Heap.payload, he', ← shown, ← value]

/-- What is drawn of a cell. -/
theorem nodeAt_eq (hc : cells[i]? = some c) (found : h.attributesAt? c.address = some attrs)
    (next : Option Nat) :
    h.nodeAt ((cells.take i).map ListCell.address) c.address attrs next =
      ⟨i, c.value.scalar, next, if twoWay && 0 < i then some (i - 1) else none⟩ := by
  rw [nodeAt, length_take_address (Nat.le_of_lt (List.getElem?_eq_some_iff.1 hc).1),
    H.payload hc found, ← take_succ_address hc, H.contains_back hc found]

/-! ### The walk -/

/-- The walk goes from cell to cell. -/
theorem walk_eq (limit i : Nat) :
    h.walk limit ((cells.take i).map ListCell.address) (cells[i]?.map ListCell.address) =
      .ok ((((cells.drop i).take limit).zipIdx i).map
        (cellNode twoWay (min cells.length (i + limit)))) := by
  -- The number at which the drawing stops is the same at every step.
  induction limit generalizing i with
  | zero => rw [List.take_zero, walk]; rfl
  | succ limit ih =>
    cases hc : cells[i]? with
    | none =>
      rw [List.drop_eq_nil_of_le (List.getElem?_eq_none_iff.1 hc)]
      exact walk_none
    | some c =>
      obtain ⟨attrs, found, -⟩ := H.attrs i c hc
      have onward := H.onward? hc found
      have rest := ih (i + 1)
      rw [take_succ_address hc] at onward rest
      have follow : (cells[i + 1]?.map fun d => Link.fresh d.address).bind Link.fresh? =
          cells[i + 1]?.map ListCell.address := by
        cases cells[i + 1]? <;> rfl
      have cut : (cells.drop i).take (limit + 1) = c :: (cells.drop (i + 1)).take limit := by
        obtain ⟨inside, rfl⟩ := List.getElem?_eq_some_iff.1 hc
        rw [List.drop_eq_getElem_cons inside, List.take_succ_cons]
      rw [Option.map_some, walk_some, found]
      dsimp only
      rw [onward, follow, rest, H.nodeAt_eq hc found, nextOf_eq hc, cut, List.zipIdx_cons,
        List.map_cons, Nat.succ_add_eq_add_succ]
      rfl

end HoldsList

end Heap

/-- There are links back between the nodes of a doubly linked list as soon as there are two. -/
theorem any_prev_listNodes (twoWay : Bool) (cells : List ListCell) :
    (listNodes twoWay cells).any (·.prev.isSome) = (twoWay && 2 ≤ cells.length) := by
  have back {c : ListCell} {i : Nat} {count : Nat} :
      (cellNode twoWay count (c, i)).prev.isSome = (twoWay && 0 < i) := by
    simp only [cellNode]
    split <;> simp_all
  rw [Bool.eq_iff_iff, List.any_eq_true, Bool.and_eq_true, decide_eq_true_iff]
  constructor
  · rintro ⟨n, hn, prev⟩
    obtain ⟨⟨c, i⟩, mem, rfl⟩ := List.mem_map.1 hn
    rw [back, Bool.and_eq_true, decide_eq_true_iff] at prev
    have inside := (List.getElem?_eq_some_iff.1 (List.mem_zipIdx_iff_getElem?.1 mem)).1
    exact ⟨prev.1, by omega⟩
  · rintro ⟨both, two⟩
    have second := List.getElem?_eq_getElem (show 1 < cells.length by omega)
    have mem : (cells[1], 1) ∈ cells.zipIdx := List.mem_zipIdx_iff_getElem?.2 second
    refine ⟨_, List.mem_map_of_mem mem, ?_⟩
    rw [back, both]
    rfl

/-- A linked list is drawn as itself: as many nodes as it has cells, but at most as the limit allows,
numbered in its order; each has the value of its cell and leads to the node behind it, and if the
list is doubly linked also to the one before it. A list with links back is drawn as doubly linked,
whatever tag it has, and one without them as the tag says. -/
theorem list_drawn {h : Heap} {twoWay : Bool} {first : ListCell} {rest : List ListCell} {t : Tag}
    (H : h.HoldsList twoWay (first :: rest)) (node : t.isLinked = true)
    (whole : t.isContainer = false) :
    let cells := first :: rest
    let c := h.chainOf (.ref first.address) t
    c.nodes.length = min cells.length Chain.limit ∧
      c = ⟨t.isDoubly || (twoWay && 2 ≤ cells.length), some 0,
        listNodes twoWay (cells.take Chain.limit), none⟩ := by
  have start : h.firstNode? (.ref first.address) t = some (.ref first.address) := by
    rw [Heap.firstNode?, whole, node]
    rfl
  have count : ((first :: rest).take Chain.limit).length =
      min (first :: rest).length (0 + Chain.limit) := by
    rw [List.length_take, Nat.zero_add, Nat.min_comm]
  have walked : h.walk Chain.limit [] (some first.address) =
      .ok (listNodes twoWay ((first :: rest).take Chain.limit)) := by
    rw [listNodes, count]
    exact H.walk_eq Chain.limit 0
  have drawn : h.chainOf (.ref first.address) t =
      ⟨t.isDoubly || (twoWay && 2 ≤ (first :: rest).length), some 0,
        listNodes twoWay ((first :: rest).take Chain.limit), none⟩ := by
    have two : (2 ≤ ((first :: rest).take Chain.limit).length) = (2 ≤ (first :: rest).length) := by
      rw [count, Chain.limit, eq_iff_iff]
      omega
    simp only [Heap.chainOf, start, Option.bind_some, Value.address?, walked, any_prev_listNodes,
      two]
    rfl
  refine ⟨?_, drawn⟩
  show (h.chainOf (.ref first.address) t).nodes.length = _
  rw [drawn, listNodes, List.length_map, List.length_zipIdx, count, Nat.zero_add]

/-- A doubly linked list of three nodes behind their class, no two of which have their attributes in
the same order. -/
def Heap.threeLinked : Heap :=
  ⟨#[some (.cls ⟨"Node", [], [Heap.base], .empty, false⟩),
    some (.inst ⟨Heap.base,
      .ofList [("value", .int 5), ("next", .ref (Heap.base + 2)), ("prev", .none)], []⟩),
    some (.inst ⟨Heap.base, .ofList
      [("prev", .ref (Heap.base + 1)), ("value", .str "x"), ("next", .ref (Heap.base + 3))], []⟩),
    some (.inst ⟨Heap.base,
      .ofList [("next", .none), ("prev", .ref (Heap.base + 2)), ("value", .bool true)], []⟩)], 0⟩

/-- Its cells. -/
def threeCells : List ListCell :=
  [⟨Heap.base + 1, .int 5⟩, ⟨Heap.base + 2, .str "x"⟩, ⟨Heap.base + 3, .bool true⟩]

/-- What is seen of an instance if none of its attributes is reserved or callable. -/
theorem Heap.attributesAt?_of_visible {h : Heap} {a : Address} {i : Instance}
    (found : h.get? a = some (.inst i))
    (visible : (i.attrs.entries.all fun e => !isReserved e.1 && !h.isCallable e.2) = true) :
    h.attributesAt? a = some i.attrs.entries := by
  rw [attributesAt?, found]
  exact congrArg some (List.filter_eq_self.2 (List.all_eq_true.1 visible))

/-- Tagged as the node of a singly linked list, the list is drawn as doubly linked all the same. -/
theorem list_drawn_three :
    Heap.threeLinked.HoldsList true threeCells ∧
      Heap.threeLinked.chainOf (.ref (Heap.base + 1)) .linkedListNode =
        ⟨true, some 0, [⟨0, .int 5, some 1, none⟩, ⟨1, .str "x", some 2, some 0⟩,
          ⟨2, .bool true, none, some 1⟩], none⟩ := by
  have H : Heap.threeLinked.HoldsList true threeCells := by
    refine ⟨by decide, by simp [threeCells, Value.isPrimitive], fun i c hc => ?_⟩
    match i, hc with
    | 0, rfl => exact ⟨_, Heap.attributesAt?_of_visible rfl (by decide +kernel), .refl _⟩
    | 1, rfl =>
      refine ⟨_, Heap.attributesAt?_of_visible rfl (by decide +kernel), ?_⟩
      exact (List.Perm.swap ..).trans (.cons _ (.swap ..))
    | 2, rfl =>
      refine ⟨_, Heap.attributesAt?_of_visible rfl (by decide +kernel), ?_⟩
      exact (List.Perm.cons _ (.swap ..)).trans (.swap ..)
  exact ⟨H, (list_drawn H rfl rfl).2⟩

end Stepwise
