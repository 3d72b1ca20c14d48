import Stepwise.Eval.Operator
import Stepwise.Proofs.Extent
import Stepwise.Proofs.Tables

/-!
# The algebra of sets

Sets are combined and compared as sets are (`set_algebra`): what a combination holds follows from
what the two sets hold, each member once, those of the left set first, in the order and with the
key objects that they have there. Methods, operators and comparisons agree.

## The model

The four ways to combine two sets are one family (`SetOp`), each with its method, its operator and
its Boolean operation. What they owe is said of tables by their keys (`SetOp.Laws`), and what a
computation does with the result by the heap that it leaves (`Makes`, `Becomes`); the two sets may
be one. An order comparison finds the key of each member once more, so it is right if tables agree
with their keys, as they do wherever a run comes (`Stands.staysFiled`).
-/

namespace Stepwise

open Script

variable {σ : Type}

/-! ### Ways to combine sets -/

/-- A way to combine two sets. -/
inductive SetOp where
  | union | intersection | difference | symmetricDifference

namespace SetOp

/-- The name of the method. -/
def method : SetOp → String
  | union => "union"
  | intersection => "intersection"
  | difference => "difference"
  | symmetricDifference => "symmetric_difference"

/-- The operator that does the same. -/
def operator : SetOp → BinaryOp
  | union => .bitOr
  | intersection => .bitAnd
  | difference => .sub
  | symmetricDifference => .bitXor

/-- The table of the combination. -/
def combine : SetOp → Table → Table → Table
  | union => Table.union
  | intersection => Table.intersection
  | difference => Table.difference
  | symmetricDifference => Table.symmetricDifference

/-- Whether the combination has a key, given whether the left and the right set have it. -/
def holds : SetOp → Bool → Bool → Bool
  | union => or
  | intersection => and
  | difference => fun left right => left && !right
  | symmetricDifference => xor

end SetOp

/-- The members of a set with their keys, oldest first. -/
def Table.keyedMembers (t : Table) : List (Key × Value) := t.entries.map fun e => (e.1, e.2.1)

/-- What the combination `u` of two sets owes. -/
structure SetOp.Laws (op : SetOp) (s t u : Table) : Prop where
  contains : ∀ k, u.contains k = op.holds (s.contains k) (t.contains k)
  distinct : u.keys.Nodup
  /-- First the members of the left set, then those of the right one. -/
  members : u.keyedMembers =
    s.keyedMembers.filter (fun e => op.holds true (t.contains e.1)) ++
      t.keyedMembers.filter fun e => !s.contains e.1 && op.holds false true

/-! ### Tables -/

section

variable {s t : Table} {k : Key} {p q : Key → Bool}

namespace Table

theorem contains_iff : t.contains k = true ↔ ∃ v, (k, v) ∈ t.keyedMembers := by
  rw [Ordered.contains_iff_mem_keys]
  simp [Ordered.keys, keyedMembers]

theorem keyedMembers_filtered (t : Table) (p : Key → Bool) :
    (t.filtered p).keyedMembers = t.keyedMembers.filter fun e => p e.1 := by
  simp [keyedMembers, filtered, Ordered.filter, Ordered.mapValues, List.filter_map,
    Function.comp_def]

theorem contains_filtered : (t.filtered p).contains k = (t.contains k && p k) := by
  rw [Bool.eq_iff_iff, Bool.and_eq_true, contains_iff, contains_iff, keyedMembers_filtered]
  simp

theorem keyedMembers_difference (s t : Table) : (s.difference t).keyedMembers =
    s.keyedMembers.filter fun e => !t.contains e.1 := s.keyedMembers_filtered _

theorem contains_difference : (s.difference t).contains k = (s.contains k && !t.contains k) :=
  contains_filtered

/-- Members are added behind those that are there. -/
theorem keyedMembers_add (t : Table) (k : Key) (v : Value) : (t.add k v).keyedMembers =
    if t.contains k then t.keyedMembers else t.keyedMembers ++ [(k, v)] := by
  unfold add
  by_cases there : t.contains k = true
  · rw [if_pos there, if_pos there]
  · rw [if_neg there, if_neg there]
    have new : k ∉ t.entries.map (·.1) := fun mem => there ((t.contains_iff_mem_keys k).2 mem)
    have entries : (t.set k (v, .none)).entries = t.entries ++ [(k, v, .none)] :=
      Ordered.setIn_of_not_mem new
    rw [keyedMembers, entries, List.map_append]
    rfl

theorem contains_add {l : Key} {v : Value} (other : l ≠ k) :
    (t.add k v).contains l = t.contains l := by
  unfold add
  split
  · rfl
  · rw [Ordered.contains, Ordered.get?_set, if_neg other.symm, Ordered.contains]

/-- Adding members one by one adds those that are missing. -/
theorem keyedMembers_foldl_add : ∀ {es : List (Key × Value × Value)} {s : Table},
    (es.map (·.1)).Nodup → (es.foldl (fun t e => t.add e.1 e.2.1) s).keyedMembers =
      s.keyedMembers ++ (es.map fun e => (e.1, e.2.1)).filter fun e => !s.contains e.1
  | [], s, _ => (List.append_nil _).symm
  | e :: es, s, distinct => by
    rw [List.map_cons, List.nodup_cons] at distinct
    have rest : ∀ f ∈ es.map fun e => (e.1, e.2.1),
        (!(s.add e.1 e.2.1).contains f.1) = !s.contains f.1 := by
      intro f mem
      obtain ⟨g, held, rfl⟩ := List.mem_map.1 mem
      have other : g.1 ≠ e.1 := fun same => distinct.1 (same ▸ List.mem_map_of_mem held)
      rw [contains_add other]
    rw [List.foldl_cons, keyedMembers_foldl_add distinct.2, List.filter_congr rest,
      keyedMembers_add, List.map_cons]
    by_cases there : s.contains e.1 = true
    · rw [if_pos there, List.filter_cons_of_neg (by simp [there])]
    · rw [if_neg there, List.filter_cons_of_pos (by simpa using there), List.append_assoc]
      rfl

theorem keyedMembers_union (s t : Table) : (s.union t).keyedMembers =
    s.keyedMembers ++ t.keyedMembers.filter fun e => !s.contains e.1 := by
  have same (k : Key) : (s.filtered fun _ => true).contains k = s.contains k := by
    rw [contains_filtered, Bool.and_true]
  rw [union, keyedMembers_foldl_add t.distinct, keyedMembers_filtered, List.filter_true]
  simp only [same]
  rfl

theorem contains_union : (s.union t).contains k = (s.contains k || t.contains k) := by
  rw [Bool.eq_iff_iff, Bool.or_eq_true, contains_iff, keyedMembers_union]
  by_cases there : s.contains k = true
  · obtain ⟨v, mem⟩ := contains_iff.1 there
    exact iff_of_true ⟨v, List.mem_append_left _ mem⟩ (.inl there)
  · have absent : ∀ v, (k, v) ∉ s.keyedMembers := fun v mem => there (contains_iff.2 ⟨v, mem⟩)
    simp [contains_iff, absent, there]

end Table

/-- The tables that the model makes of two sets are what they owe to be. -/
theorem SetOp.laws (op : SetOp) (s t : Table) : op.Laws s t (op.combine s t) where
  contains k := by
    cases op with
    | union => exact Table.contains_union
    | intersection => exact Table.contains_filtered
    | difference => exact Table.contains_difference
    | symmetricDifference =>
      show ((s.difference t).union (t.difference s)).contains k = _
      rw [Table.contains_union, Table.contains_difference, Table.contains_difference]
      cases s.contains k <;> cases t.contains k <;> rfl
  distinct := (op.combine s t).distinct
  members := by
    cases op with
    | union => simp [combine, holds, Table.keyedMembers_union]
    | intersection => simp [combine, holds, Table.intersection, Table.keyedMembers_filtered]
    | difference => simp [combine, holds, Table.keyedMembers_difference]
    | symmetricDifference =>
      -- A member of the right set alone is no member of the left part of the result.
      have apart (e : Key × Value) :
          (!(s.difference t).contains e.1 && !s.contains e.1) = !s.contains e.1 := by
        rw [Table.contains_difference]
        cases s.contains e.1 <;> cases t.contains e.1 <;> rfl
      show ((s.difference t).union (t.difference s)).keyedMembers = _
      rw [Table.keyedMembers_union, Table.keyedMembers_difference, Table.keyedMembers_difference,
        List.filter_filter]
      simp [holds, apart]

/-- Every member of `s` is a member of `t`. -/
def Table.Within (s t : Table) : Prop := ∀ k, s.contains k = true → t.contains k = true

/-- No member of `s` is a member of `t`. -/
def Table.Apart (s t : Table) : Prop := ∀ k, s.contains k = true → t.contains k = false

theorem Table.isSubset_iff : s.isSubset t = true ↔ s.Within t := by
  rw [isSubset, List.all_eq_true]
  exact forall_congr' fun k => by rw [Ordered.contains_iff_mem_keys s]

theorem Table.isDisjoint_iff : (s.intersection t).isEmpty = true ↔ s.Apart t := by
  have law (k : Key) := (SetOp.laws .intersection s t).contains k
  constructor
  · intro empty k there
    have none : (s.intersection t).contains k = false := by
      rw [Ordered.isEmpty, List.isEmpty_iff] at empty
      rw [Ordered.contains, Ordered.get?, empty]
      rfl
    have both := law k
    rwa [SetOp.combine, none, there, SetOp.holds, Bool.true_and, eq_comm] at both
  · intro apart
    rw [Ordered.isEmpty, List.isEmpty_iff]
    apply List.eq_nil_iff_forall_not_mem.2
    intro e mem
    have here : (s.intersection t).contains e.1 = true :=
      (Ordered.contains_iff_mem_keys _ _).2 (List.mem_map_of_mem mem)
    have both := law e.1
    rw [SetOp.combine, here, SetOp.holds] at both
    obtain ⟨left, right⟩ := Bool.and_eq_true_iff.1 both.symm
    rw [apart e.1 left] at right
    cases right

/-- A set within another one has at most as many members, and is the smaller one if their sizes
differ. -/
theorem Table.Within.size_lt_iff (within : s.Within t) : s.size < t.size ↔ s.size ≠ t.size := by
  have sub : s.keys ⊆ t.keys := fun k mem =>
    (t.contains_iff_mem_keys k).1 (within k ((s.contains_iff_mem_keys k).2 mem))
  have sizes : s.keys.length ≤ t.keys.length := (s.distinct.subperm sub).length_le
  simp only [Ordered.keys, List.length_map] at sizes
  unfold Ordered.size
  omega

/-- A set is strictly within another one if it is within it, and their sizes differ. -/
theorem Table.strictly (s t : Table) : (s.isSubset t && decide (s.size < t.size)) =
    (s.isSubset t && decide (s.size ≠ t.size)) := by
  cases within : s.isSubset t with
  | false => rfl
  | true => rw [decide_eq_decide.2 (Within.size_lt_iff (isSubset_iff.1 within))]

end

/-! ### The machine -/

section

variable {m : Machine σ} {r : Runner σ} {a b : Address} {s t u : Table} {op : SetOp}

/-- A computation makes a new set and changes nothing else. -/
def Makes (m : Machine σ) (u : Table) (x : M σ Value) : Prop :=
  ∃ c h, x m = .ok (.ref c) { m with heap := h } ∧ m.heap.get? c = none ∧
    h.get? c = some (.set u) ∧ ∀ d ≠ c, h.get? d = m.heap.get? d

/-- A computation gives `v` and changes the set at an address, and nothing else. -/
def Becomes (m : Machine σ) (a : Address) (u : Table) (v : Value) (x : M σ Value) : Prop :=
  ∃ h, x m = .ok v { m with heap := h } ∧ h.get? a = some (.set u) ∧
    ∀ d ≠ a, h.get? d = m.heap.get? d

theorem makes_set (m : Machine σ) (u : Table) : Makes m u (make (.set u)) := by
  refine ⟨m.heap.next, (m.heap.alloc (.set u)).2, rfl, m.heap.get?_next, ?_, ?_⟩
  · rw [Heap.get?_alloc, if_pos rfl]
  · intro d other
    rw [Heap.get?_alloc, if_neg other]

theorem Makes.of_eq {x y : M σ Value} (same : x m = y m) (makes : Makes m u y) : Makes m u x := by
  unfold Makes
  rwa [same]

theorem becomes_modifyTable (own : m.heap.get? a = some (.set s)) (f : Table → Table) (v : Value) :
    Becomes m a (f s) v (do changeTableAt a f; return v) := by
  refine ⟨m.heap.modifyTable a f, rfl, ?_, ?_⟩
  · rw [Heap.modifyTable, Heap.get?_modify, if_pos rfl, own]
    rfl
  · intro d other
    rw [Heap.modifyTable, Heap.get?_modify, if_neg other.symm]

section

variable (own : m.heap.get? a = some (.set s)) (other : m.heap.get? b = some (.set t))
include own other

omit other in
theorem callNative_set (name : String) :
    callNative r (.ref a) name [.ref b] [] m = setMethod r a name [.ref b] m := by
  show objectMethod r a name [.ref b] [] m = _
  rw [objectMethod, getHeap_bind, own]

omit own in
theorem setOperand_eq : setOperand r (.ref b) m = .ok t m := by
  have found : (Value.ref b).address?.bind m.heap.set? = some t := by
    rw [Value.address?, Option.bind_some, Heap.set?, other]
  rw [setOperand, getHeap_bind, found]
  rfl

theorem setQuestion_eq (f : Table → Table → Bool) :
    setQuestion r f a (.ref b) m = .ok (.bool (f s t)) m := by
  rw [setQuestion, M.bind_ok (tableAt_eq (Heap.table?_eq_some.2 (.inr own))),
    M.bind_ok (setOperand_eq other)]
  rfl

theorem isSubset_asked :
    callNative r (.ref a) "issubset" [.ref b] [] m = .ok (.bool (s.isSubset t)) m :=
  (callNative_set own _).trans (setQuestion_eq own other Table.isSubset)

theorem isSuperset_asked :
    callNative r (.ref a) "issuperset" [.ref b] [] m = .ok (.bool (t.isSubset s)) m :=
  (callNative_set own _).trans (setQuestion_eq own other fun own other => other.isSubset own)

theorem isDisjoint_asked : callNative r (.ref a) "isdisjoint" [.ref b] [] m =
    .ok (.bool (s.intersection t).isEmpty) m :=
  (callNative_set own _).trans
    (setQuestion_eq own other fun own other => (own.intersection other).isEmpty)

/-- The method makes the combination. -/
theorem method_makes (op : SetOp) :
    Makes m (op.combine s t) (callNative r (.ref a) op.method [.ref b] []) := by
  have combined : setMethod r a op.method [.ref b] m = (do
      make (.set (← combineAll r op.combine (← tableAt a) [.ref b]))) m := by
    cases op <;> rfl
  have table : combineAll r op.combine s [.ref b] m = .ok (op.combine s t) m := by
    rw [combineAll, List.foldlM_cons, bind_assoc, M.bind_ok (setOperand_eq other)]
    rfl
  refine Makes.of_eq ?_ (makes_set m (op.combine s t))
  rw [callNative_set own, combined,
    M.bind_ok (tableAt_eq (Heap.table?_eq_some.2 (.inr own))), M.bind_ok table]

/-- The operator makes the combination. -/
theorem operator_makes (op : SetOp) :
    Makes m (op.combine s t) (binaryOp r op.operator (.ref a) (.ref b)) := by
  refine Makes.of_eq ?_ (makes_set m (op.combine s t))
  have objects : objectOperator r op.operator (.ref a) (.ref b) m =
      make (.set (op.combine s t)) m := by
    have left : m.heap.object? (.ref a) = some (.set s) := own
    have right : m.heap.object? (.ref b) = some (.set t) := other
    rw [objectOperator, getHeap_bind, left, right]
    cases op <;> rfl
  rw [← objects]
  cases op <;> rfl

theorem update_becomes : Becomes m a (s.union t) .none
    (callNative r (.ref a) "update" [.ref b] []) := by
  have update : callNative r (.ref a) "update" [.ref b] [] m =
      (do changeTableAt a (·.union t); return Value.none) m := by
    rw [callNative_set own]
    show (setUpdate r a [.ref b] >>= fun _ => pure Value.none) m = _
    rw [setUpdate, bind_assoc, M.bind_ok (setOperand_eq other)]
    rfl
  unfold Becomes
  rw [update]
  exact becomes_modifyTable own _ _

theorem inplace_becomes : Becomes m a (s.union t) (.ref a)
    (inplaceOp r .bitOr (.ref a) (.ref b)) := by
  have left : m.heap.object? (.ref a) = some (.set s) := own
  have found : (Value.ref b).address?.bind m.heap.set? = some t := by
    rw [Value.address?, Option.bind_some, Heap.set?, other]
  have update : inplaceOp r .bitOr (.ref a) (.ref b) m =
      (do changeTableAt a (·.union t); return Value.ref a) m := by
    rw [inplaceOp, getHeap_bind, left]
    simp only [found]
  unfold Becomes
  rw [update]
  exact becomes_modifyTable own _ _

omit other in
theorem inplaceOp_eq (op : SetOp) (ne : op ≠ .union) :
    inplaceOp r op.operator (.ref a) (.ref b) m = binaryOp r op.operator (.ref a) (.ref b) m := by
  have left : m.heap.object? (.ref a) = some (.set s) := own
  rw [inplaceOp, getHeap_bind, left]
  cases op with
  | union => exact absurd rfl ne
  | _ => rfl

end

/-! ### Comparisons -/

/-- Members are found by the keys that they are filed under. -/
theorem hasMembers_filed (t : Table) : ∀ {es : List (Key × Value × Value)},
    (∀ e ∈ es, m.heap.key? e.2.1 = some e.1) →
      hasMembers t (es.map (·.2.1)) m = .ok ((es.map (·.1)).all t.contains) m
  | [], _ => rfl
  | e :: es, keyed => by
    obtain ⟨key, keyed⟩ := List.forall_mem_cons.1 keyed
    rw [List.map_cons, hasMembers, M.bind_ok (keyOf_some key), List.map_cons, List.all_cons]
    by_cases found : t.contains e.1 = true
    · rw [if_pos found, found, Bool.true_and]
      exact hasMembers_filed t keyed
    · rw [if_neg found, Bool.eq_false_iff.2 found, Bool.false_and]
      rfl

theorem hasMembers_isSubset (filed : m.heap.Filed) (own : m.heap.get? a = some (.set s))
    (t : Table) : hasMembers t s.members m = .ok (s.isSubset t) m := by
  have members : s.members = s.entries.map (·.2.1) := by
    simp [Table.members, Ordered.values, Function.comp_def]
  rw [members]
  exact hasMembers_filed t (filed.keyed (Heap.table?_eq_some.2 (.inr own)))

theorem order_sets (filed : m.heap.Filed) (own : m.heap.get? a = some (.set s))
    (other : m.heap.get? b = some (.set t)) (cmp : CompareOp) :
    orderValues r cmp (.ref a) (.ref b) m = .ok (match cmp with
      | .lt => s.isSubset t && s.size < t.size
      | .le => s.isSubset t
      | .gt => t.isSubset s && s.size > t.size
      | _ => t.isSubset s) m := by
  have left : m.heap.shape (.ref a) = .set s := by simp only [Heap.shape, own]
  have right : m.heap.shape (.ref b) = .set t := by simp only [Heap.shape, other]
  have shapes : orderValues r cmp (.ref a) (.ref b) m = setOrder cmp s t m := by
    show orderShapes r cmp (.ref a) (.ref b) m = _
    rw [orderShapes, getHeap_bind, left, right]
  rw [shapes, setOrder, M.bind_ok (hasMembers_isSubset filed own t),
    M.bind_ok (hasMembers_isSubset filed other s)]
  cases cmp <;> rfl

end

/-! ### What sets owe -/

/-- What the methods and operators of sets owe on a machine: a method and its operator make one and
the same new set, `update` and `|=` put the union in the place of the left set, and the methods that
ask about inclusion decide it. -/
structure Machine.CombinesSets (m : Machine σ) : Prop where
  combined : ∀ (r : Runner σ) (op : SetOp) {a b s t}, m.heap.get? a = some (.set s) →
    m.heap.get? b = some (.set t) → ∃ u, op.Laws s t u ∧
      Makes m u (callNative r (.ref a) op.method [.ref b] []) ∧
      Makes m u (binaryOp r op.operator (.ref a) (.ref b))
  updated : ∀ (r : Runner σ) {a b s t}, m.heap.get? a = some (.set s) →
    m.heap.get? b = some (.set t) → ∃ u, SetOp.union.Laws s t u ∧
      Becomes m a u .none (callNative r (.ref a) "update" [.ref b] []) ∧
      Becomes m a u (.ref a) (inplaceOp r .bitOr (.ref a) (.ref b))
  /-- The other assignments with an operator make new sets. -/
  inplace : ∀ (r : Runner σ) (op : SetOp) {a b s}, m.heap.get? a = some (.set s) → op ≠ .union →
    inplaceOp r op.operator (.ref a) (.ref b) m = binaryOp r op.operator (.ref a) (.ref b) m
  asked : ∀ (r : Runner σ) {a b s t}, m.heap.get? a = some (.set s) →
    m.heap.get? b = some (.set t) → ∃ subset superset disjoint,
      (subset = true ↔ s.Within t) ∧ (superset = true ↔ t.Within s) ∧
      (disjoint = true ↔ s.Apart t) ∧
      callNative r (.ref a) "issubset" [.ref b] [] m = .ok (.bool subset) m ∧
      callNative r (.ref a) "issuperset" [.ref b] [] m = .ok (.bool superset) m ∧
      callNative r (.ref a) "isdisjoint" [.ref b] [] m = .ok (.bool disjoint) m

/-- What comparing two sets owes on a machine: the comparisons say what the methods say, and the
strict ones ask for different sizes as well. -/
structure Machine.ComparesSets (m : Machine σ) : Prop where
  subset : ∀ tell reveal fuel {a b s t answer}, m.heap.get? a = some (.set s) →
    m.heap.get? b = some (.set t) →
    let r := runner tell reveal (fuel + 1)
    callNative r (.ref a) "issubset" [.ref b] [] m = .ok (.bool answer) m →
      compareValues r .le (.ref a) (.ref b) m = .ok answer m ∧
      compareValues r .lt (.ref a) (.ref b) m = .ok (answer && s.size ≠ t.size) m
  superset : ∀ tell reveal fuel {a b s t answer}, m.heap.get? a = some (.set s) →
    m.heap.get? b = some (.set t) →
    let r := runner tell reveal (fuel + 1)
    callNative r (.ref a) "issuperset" [.ref b] [] m = .ok (.bool answer) m →
      compareValues r .ge (.ref a) (.ref b) m = .ok answer m ∧
      compareValues r .gt (.ref a) (.ref b) m = .ok (answer && s.size ≠ t.size) m

theorem Machine.combinesSets (m : Machine σ) : m.CombinesSets where
  combined _ op {_ _ s t} own other :=
    ⟨_, op.laws s t, method_makes own other op, operator_makes own other op⟩
  updated _ {_ _ s t} own other :=
    ⟨_, SetOp.union.laws s t, update_becomes own other, inplace_becomes own other⟩
  inplace _ op {_ _ _} own ne := inplaceOp_eq own op ne
  asked _ {_ _ _ _} own other :=
    ⟨_, _, _, Table.isSubset_iff, Table.isSubset_iff, Table.isDisjoint_iff,
      isSubset_asked own other, isSuperset_asked own other, isDisjoint_asked own other⟩

theorem Heap.Filed.comparesSets {m : Machine σ} (filed : m.heap.Filed) : m.ComparesSets where
  subset tell reveal fuel {a b s t answer} own other := by
    intro r asked
    cases (isSubset_asked own other).symm.trans asked
    constructor
    · exact order_sets filed own other .le
    · rw [← Table.strictly s t]
      exact order_sets filed own other .lt
  superset tell reveal fuel {a b s t answer} own other := by
    intro r asked
    cases (isSuperset_asked own other).symm.trans asked
    constructor
    · exact order_sets filed own other .ge
    · rw [decide_eq_decide.2 (@ne_comm _ s.size t.size), ← Table.strictly t s]
      exact order_sets filed own other .gt

/-- Whether every run from a machine on comes through nothing but states in which comparing sets is
right: those on the trail of the same run, whether it ends or not. -/
def Machine.StaysComparingSets (m : Machine σ) (observe : Observer σ) : Prop :=
  ∀ fuel p,
    plainly (runProgram (trailing observe fuel) p m.trailed) =
        runProgram (watched observe fuel) p m ∧
      ∀ v ∈ (machineOf (runProgram (trailing observe fuel) p m.trailed)).log.visits,
        v.machine.ComparesSets

theorem Machine.StaysFiled.comparingSets {m : Machine σ} {observe : Observer σ}
    (H : m.StaysFiled observe) : m.StaysComparingSets observe := by
  intro fuel p
  obtain ⟨same, filed⟩ := H fuel p
  exact ⟨same, fun v hv => (filed v hv).1.comparesSets⟩

/-- Sets are combined and compared as sets are. On every machine, whichever sets are given, the two
may be one: a combination holds what its Boolean operation says, the members of the left set first,
and is made by the method and by the operator without changing either set; `update` and `|=` put
the union in the place of the left set; the methods that ask about inclusion decide it. Where tables
agree with their keys, the comparisons say what these methods say, and every state that a run comes
through is such. -/
theorem set_algebra :
    (∀ m : Machine σ, m.CombinesSets) ∧ (∀ m : Machine σ, m.heap.Filed → m.ComparesSets) ∧
      (∀ (observe : Observer σ) log, (Machine.start log).StaysComparingSets observe) ∧
      ∀ s, (Machine.forTrace s).StaysComparingSets (Recorder.observe s) := by
  refine ⟨Machine.combinesSets, fun m filed => filed.comparesSets, fun observe log => ?_,
    fun s => ?_⟩
  · obtain ⟨w, H⟩ := Sound.start_stands log
    exact (Stands.staysFiled (m := Machine.start log) H observe).comparingSets
  · obtain ⟨w, H⟩ := Sound.forTrace_stands s
    exact (Stands.staysFiled (m := Machine.forTrace s) H (Recorder.observe s)).comparingSets

/-- `{1, "x"} ^ {True, 2}` is `{"x", 2}`. -/
theorem set_algebra_mixed :
    let s : Table := ⟨[(.int 1, .int 1, .none), (.str "x", .str "x", .none)], by decide⟩
    let t : Table := ⟨[(.int 1, .bool true, .none), (.int 2, .int 2, .none)], by decide⟩
    let m : Machine Unit :=
      { Machine.start () with heap := ⟨#[some (.set s), some (.set t)], 0⟩ }
    let a := Value.ref Heap.base
    let b := Value.ref (Heap.base + 1)
    (∃ u : Table, u.keyedMembers = [(.str "x", .str "x"), (.int 2, .int 2)] ∧
      Makes m u (callNative (quiet 1) a "symmetric_difference" [b] []) ∧
      Makes m u (binaryOp (quiet 1) .bitXor a b)) ∧
      compareValues (quiet 1) .lt a b m = .ok false m := by
  intro s t m a b
  have own : m.heap.get? Heap.base = some (.set s) := rfl
  have other : m.heap.get? (Heap.base + 1) = some (.set t) := rfl
  obtain ⟨combines, compares, -⟩ := set_algebra (σ := Unit)
  have filed : m.heap.Filed := by
    refine Heap.filed_of_objects fun u hu e he => ?_
    have found : u = s ∨ u = t := by simpa [m] using hu
    have keyed : ∀ e ∈ s.entries ++ t.entries, m.heap.key? e.2.1 = some e.1 := by
      simp [s, t, Heap.key?]
    obtain rfl | rfl := found
    · exact keyed e (List.mem_append_left _ he)
    · exact keyed e (List.mem_append_right _ he)
  refine ⟨?_, ?_⟩
  · obtain ⟨u, laws, method, operator⟩ :=
      (combines m).combined (quiet 1) .symmetricDifference own other
    refine ⟨u, ?_, method, operator⟩
    rw [laws.members]
    rfl
  · obtain ⟨subset, -, -, sub, -, -, asked, -⟩ := (combines m).asked (quiet 1) own other
    have less := ((compares m filed).subset (fun _ _ => pure ()) (pure ()) 0 own other asked).2
    cases subset with
    | false => exact less
    | true => cases sub.1 rfl (.str "x") rfl

end Stepwise
