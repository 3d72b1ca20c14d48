import Stepwise.Proofs.Datum
import Stepwise.Proofs.Matching

/-!
# The order of values

How values are ordered that are made of integers, truth values, strings, tuples and lists
(`order_total_lexicographic`): of less, equal and greater one holds, less is transitive, and
sequences are ordered by the first items that differ.

## The model

A value stands for a datum (`Heap.Denotes`), which has no cycles, as a value on the heap might. A
comparison for equality, or by order, says what the data say (`equals_denoted`, `order_denoted`),
by induction on the bound on the depth: the two go together, since the order of two sequences asks
first where they are not equal.
-/

namespace Stepwise

open Script

variable {σ : Type}

/-! ### Values and what they stand for -/

namespace Heap

mutual

/-- A value made of numbers, texts, tuples and lists stands for a datum. -/
def Denotes (h : Heap) (v : Value) : Datum → Prop
  | .number n => v.asInt? = some n
  | .text s => v = .str s
  | .sequence tuple ds =>
    ∃ items, h.shape v = .sequence items ∧ isTuple v = tuple ∧ h.DenoteAll items ds

/-- Some values stand for some data, one by one. -/
def DenoteAll (h : Heap) : List Value → List Datum → Prop
  | v :: vs, d :: ds => h.Denotes v d ∧ h.DenoteAll vs ds
  | [], [] => True
  | _, _ => False

end

variable {h : Heap} {v : Value} {x y : Datum} {vs us : List Value} {xs ys : List Datum}

mutual

theorem Denotes.unique : ∀ {v : Value} {x y : Datum}, h.Denotes v x → h.Denotes v y → x = y
  | v, .number m, .number n, left, right => congrArg _ (Option.some_inj.1 (left.symm.trans right))
  | v, .text s, .text t, left, right => by
    cases Eq.trans (Eq.symm left) right
    rfl
  | v, .sequence tuple xs, .sequence tuple' ys, ⟨as, shape, kind, all⟩,
      ⟨bs, shape', kind', all'⟩ => by
    cases shape.symm.trans shape'
    rw [← kind, ← kind', DenoteAll.unique all all']
  | v, .number n, .text s, left, right | v, .text s, .number n, right, left => by
    cases right
    cases left
  | v, .number n, .sequence _ _, left, ⟨_, shape, _⟩
  | v, .sequence _ _, .number n, ⟨_, shape, _⟩, left => by
    cases (shape_of_asInt? left).symm.trans shape
  | v, .text s, .sequence _ _, left, ⟨_, shape, _⟩
  | v, .sequence _ _, .text s, ⟨_, shape, _⟩, left => by
    cases left
    cases shape

theorem DenoteAll.unique : ∀ {vs : List Value} {xs ys : List Datum}, h.DenoteAll vs xs →
    h.DenoteAll vs ys → xs = ys
  | [], [], [], _, _ => rfl
  | v :: vs, x :: xs, y :: ys, left, right => by
    rw [Denotes.unique left.1 right.1, DenoteAll.unique left.2 right.2]

end

/-- What is a number stands for it. -/
theorem Denotes.number (stands : h.Denotes v x) (int : v.asInt? ≠ none) :
    ∃ n, v.asInt? = some n ∧ x = .number n := by
  obtain ⟨n, int⟩ := Option.ne_none_iff_exists'.1 int
  exact ⟨n, int, stands.unique (y := .number n) int⟩

theorem Denotes.of_sequence (stands : h.Denotes v x) (shape : h.shape v = .sequence vs) :
    ∃ xs, x = .sequence (isTuple v) xs ∧ h.DenoteAll vs xs := by
  cases x with
  | number n => cases (shape_of_asInt? stands).symm.trans shape
  | text s =>
    cases stands
    cases shape
  | sequence tuple xs =>
    obtain ⟨items, shape', rfl, all⟩ := stands
    cases shape.symm.trans shape'
    exact ⟨xs, rfl, all⟩

/-- What stands for a number or a text is a scalar. -/
theorem Denotes.shape_scalar (stands : h.Denotes v x) (flat : x.isFlat) :
    h.shape v = .scalar := by
  cases x with
  | number n => exact shape_of_asInt? stands
  | text s =>
    cases stands
    rfl
  | sequence => cases flat

theorem Denotes.isFloat (stands : h.Denotes v x) : v.isFloat = false := by
  cases x with
  | number n =>
    cases v with
    | float => cases stands
    | _ => rfl
  | text s =>
    cases stands
    rfl
  | sequence tuple ds =>
    obtain ⟨items, shape, -⟩ := stands
    cases v with
    | float => cases shape
    | _ => rfl

end Heap

/-! ### Equality -/

section

variable {r : Runner σ} {m : Machine σ} {a b : Value} {x y : Datum} {as bs : List Value}
  {xs ys : List Datum} {op : CompareOp}

/-- Values of which one is no number are compared as objects, and then by what they hold. -/
theorem equalValues_of_notNumber (float : a.isFloat = false) (float' : b.isFloat = false)
    (number : a.asInt? = none ∨ b.asInt? = none) : equalValues r a b m =
      if sameObject m.heap a b then .ok true m else equalShapes r a b m := by
  have other : (getHeap >>= fun h => if sameObject h a b then pure true else equalShapes r a b :
      M σ Bool) m = if sameObject m.heap a b then .ok true m else equalShapes r a b m := by
    rw [getHeap_bind]
    split <;> rfl
  unfold equalValues
  rw [← other]
  obtain none | none := number
  · rw [none, Heap.asFloat?_of_asInt? float none]
  · rw [none, Heap.asFloat?_of_asInt? float' none]
    cases a.asInt? <;> cases a.asFloat? <;> rfl

theorem allEqual_denoted : ∀ {as bs : List Value} {xs ys : List Datum},
    (∀ {a b x y}, m.heap.Denotes a x → m.heap.Denotes b y → x ∈ xs →
      r.equals a b m = .ok (decide (x.compare? y = some .eq)) m) →
    as.length = bs.length → m.heap.DenoteAll as xs → m.heap.DenoteAll bs ys →
      allEqual r as bs m = .ok (decide (Datum.compareAll? xs ys = some .eq)) m
  | [], [], [], [], _, _, _, _ => rfl
  | a :: as, b :: bs, x :: xs, y :: ys, equals, length, left, right => by
    rw [allEqual, M.bind_ok (equals left.1 right.1 List.mem_cons_self)]
    by_cases same : x.compare? y = some .eq
    · rw [Datum.compareAll?_cons_eq same, if_pos (decide_eq_true same)]
      exact allEqual_denoted (fun ha hb mem => equals ha hb (List.mem_cons_of_mem x mem))
        (Nat.succ.inj length) left.2 right.2
    · rw [Datum.compareAll?_cons_ne same, if_neg (by simpa using same), decide_eq_false same]
      rfl

theorem length_of_denoteAll : ∀ {as : List Value} {xs : List Datum}, m.heap.DenoteAll as xs →
    as.length = xs.length
  | [], [], _ => rfl
  | _ :: _, _ :: _, stand => congrArg (· + 1) (length_of_denoteAll stand.2)

theorem sameScalar_denoted (stands : m.heap.Denotes a x) (stands' : m.heap.Denotes b y)
    (flat : x.isFlat) (flat' : y.isFlat) (number : a.asInt? = none ∨ b.asInt? = none) :
    sameScalar a b = decide (x.compare? y = some .eq) := by
  cases x with
  | number k =>
    cases y with
    | number n =>
      obtain none | none := number
      · cases none.symm.trans stands
      · cases none.symm.trans stands'
    | text t =>
      cases stands'
      cases a with
      | bool | int => rfl
      | _ => cases stands
    | sequence => cases flat'
  | text s =>
    cases stands
    cases y with
    | number n =>
      cases b with
      | bool | int => rfl
      | _ => cases stands'
    | text t =>
      cases stands'
      rw [Bool.eq_iff_iff, decide_eq_true_iff, Datum.compare?_eq_iff, Datum.text.injEq]
      exact beq_iff_eq
    | sequence => cases flat'
  | sequence => cases flat

theorem equalShapes_denoted (stands : m.heap.Denotes a x) (stands' : m.heap.Denotes b y)
    (number : a.asInt? = none ∨ b.asInt? = none)
    (equals : ∀ {a b u v}, m.heap.Denotes a u → m.heap.Denotes b v → u.depth < x.depth →
      r.equals a b m = .ok (decide (u.compare? v = some .eq)) m) :
    equalShapes r a b m = .ok (decide (x.compare? y = some .eq)) m := by
  cases x with
  | number | text =>
    cases y with
    | number | text =>
      rw [← sameScalar_denoted stands stands' rfl rfl number, equalShapes, getHeap_bind,
        stands.shape_scalar rfl, stands'.shape_scalar rfl]
      rfl
    | sequence tuple' ys =>
      obtain ⟨bs, shape', -⟩ := stands'
      rw [equalShapes, getHeap_bind, stands.shape_scalar rfl, shape']
      rfl
  | sequence tuple xs =>
    obtain ⟨as, shape, rfl, all⟩ := stands
    cases y with
    | number | text =>
      rw [equalShapes, getHeap_bind, shape, stands'.shape_scalar rfl]
      rfl
    | sequence tuple' ys =>
      obtain ⟨bs, shape', rfl, all'⟩ := stands'
      rw [equalShapes, getHeap_bind, shape, shape']
      show (if isTuple a != isTuple b || as.length ≠ bs.length then pure false
        else allEqual r as bs : M σ Bool) m = _
      by_cases alike : isTuple a = isTuple b ∧ as.length = bs.length
      · rw [if_neg (by simp [alike]), Datum.compare?, if_pos alike.1]
        exact allEqual_denoted (fun ha hb mem => equals ha hb (Datum.depth_lt_of_mem mem)) alike.2
          all all'
      · have differ : (Datum.sequence (isTuple a) xs).compare? (.sequence (isTuple b) ys) ≠
            some .eq := by
          intro level
          obtain ⟨kind, rfl⟩ := Datum.sequence.inj (Datum.compare?_eq_iff.1 level)
          exact alike ⟨kind, (length_of_denoteAll all).trans (length_of_denoteAll all').symm⟩
        rw [if_pos (by simpa [imp_iff_not_or] using alike), decide_eq_false differ]
        rfl

/-- Whether two values are equal is whether they stand for one datum. -/
theorem equals_denoted (tell : Nat → Moment → M σ Unit) (reveal : M σ Unit) (fuel : Nat) :
    ∀ {a b : Value} {x y : Datum}, m.heap.Denotes a x → m.heap.Denotes b y → x.depth < fuel →
      (runner tell reveal fuel).equals a b m = .ok (decide (x.compare? y = some .eq)) m := by
  induction fuel with
  | zero => exact fun _ _ deep => absurd deep (Nat.not_lt_zero _)
  | succ fuel ih =>
    intro a b x y stands stands' deep
    show equalValues (runner tell reveal fuel) a b m = _
    by_cases number : a.asInt? = none ∨ b.asInt? = none
    · rw [equalValues_of_notNumber stands.isFloat stands'.isFloat number]
      by_cases same : sameObject m.heap a b = true
      · cases Heap.eq_of_sameObject same
        rw [if_pos same, stands.unique stands', Datum.compare?_self]
        rfl
      · rw [if_neg same]
        exact equalShapes_denoted stands stands' number fun ha hb less =>
          ih ha hb (less.trans_le (Nat.le_of_lt_succ deep))
    · rw [not_or] at number
      obtain ⟨k, left, rfl⟩ := stands.number number.1
      obtain ⟨n, right, rfl⟩ := stands'.number number.2
      have same : decide (k = n) =
          decide ((Datum.number k).compare? (.number n) = some .eq) := by
        rw [decide_eq_decide, Datum.compare?_eq_iff, Datum.number.injEq]
      unfold equalValues
      rw [left, right, ← same]
      rfl

/-! ### Order -/

/-- What an order comparison of two things in a given order says: nothing if they have none. -/
def OrdersBy (op : CompareOp) (m : Machine σ) (o : Option Ordering) (run : M σ Bool) : Prop :=
  match o with
  | some o => run m = .ok (decides op o) m
  | none => ∃ left right, run m = .error (.error ⟨.type (.notOrdered op left right), m.pos⟩) m

theorem textOrder_eq (s t : String) : textOrder s t = compare s t := by
  unfold textOrder
  obtain less | rfl | greater := lt_trichotomy s t
  · rw [if_pos less, compare_lt_iff_lt.2 less]
  · rw [if_neg (lt_irrefl s), if_pos rfl, compare_eq_iff_eq.2 rfl]
  · rw [if_neg greater.not_gt, if_neg greater.ne', compare_gt_iff_gt.2 greater]

theorem sequenceOrder_denoted : ∀ {as bs : List Value} {xs ys : List Datum},
    (∀ {a b x y}, m.heap.Denotes a x → m.heap.Denotes b y → x ∈ xs →
      r.equals a b m = .ok (decide (x.compare? y = some .eq)) m ∧
        OrdersBy op m (x.compare? y) (r.run (.order op a b))) →
    m.heap.DenoteAll as xs → m.heap.DenoteAll bs ys →
      OrdersBy op m (Datum.compareAll? xs ys) (sequenceOrder r op as bs)
  | [], [], [], [], _, _, _ => rfl
  | [], b :: bs, [], _ :: _, _, _, _ => by
    show EStateM.Result.ok (decides op (compare 0 (bs.length + 1))) m = _
    rw [compare_lt_iff_lt.2 (Nat.succ_pos _)]
  | a :: as, [], _ :: _, [], _, _, _ => by
    show EStateM.Result.ok (decides op (compare (as.length + 1) 0)) m = _
    rw [compare_gt_iff_gt.2 (Nat.succ_pos _)]
  | a :: as, b :: bs, x :: xs, y :: ys, parts, left, right => by
    obtain ⟨equals, order⟩ := parts left.1 right.1 List.mem_cons_self
    unfold OrdersBy
    rw [sequenceOrder, M.bind_ok equals]
    by_cases same : x.compare? y = some .eq
    · rw [Datum.compareAll?_cons_eq same, if_pos (decide_eq_true same)]
      exact sequenceOrder_denoted (fun ha hb mem => parts ha hb (List.mem_cons_of_mem x mem))
        left.2 right.2
    · rw [Datum.compareAll?_cons_ne same, if_neg (by simpa using same)]
      exact order

/-- Scalars have no order, unless both are numbers or both are texts. -/
theorem compare?_of_scalars (stands : m.heap.Denotes a x) (stands' : m.heap.Denotes b y)
    (flat : x.isFlat) (flat' : y.isFlat) (number : a.asInt? = none ∨ b.asInt? = none)
    (text : a.asStr? = none ∨ b.asStr? = none) : x.compare? y = none := by
  cases x with
  | number k =>
    cases y with
    | number n =>
      obtain none | none := number
      · cases none.symm.trans stands
      · cases none.symm.trans stands'
    | text => rfl
    | sequence => cases flat'
  | text s =>
    cases y with
    | number => rfl
    | text t =>
      cases stands
      cases stands'
      obtain ⟨⟨⟩⟩ | ⟨⟨⟩⟩ := text
    | sequence => cases flat'
  | sequence => cases flat

theorem orderShapes_denoted (stands : m.heap.Denotes a x) (stands' : m.heap.Denotes b y)
    (number : a.asInt? = none ∨ b.asInt? = none) (text : a.asStr? = none ∨ b.asStr? = none)
    (parts : ∀ {a b u v}, m.heap.Denotes a u → m.heap.Denotes b v → u.depth < x.depth →
      r.equals a b m = .ok (decide (u.compare? v = some .eq)) m ∧
        OrdersBy op m (u.compare? v) (r.run (.order op a b))) :
    OrdersBy op m (x.compare? y) (orderShapes r op a b) := by
  have fails (none : x.compare? y = none)
      (run : orderShapes r op a b m = failOrder op a b m) :
      OrdersBy op m (x.compare? y) (orderShapes r op a b) := by
    rw [none]
    exact ⟨_, _, run⟩
  cases x with
  | number | text =>
    cases y with
    | number | text =>
      apply fails (compare?_of_scalars stands stands' rfl rfl number text)
      rw [orderShapes, getHeap_bind, stands.shape_scalar rfl, stands'.shape_scalar rfl]
    | sequence tuple' ys =>
      obtain ⟨bs, shape', -⟩ := stands'
      apply fails rfl
      rw [orderShapes, getHeap_bind, stands.shape_scalar rfl, shape']
  | sequence tuple xs =>
    obtain ⟨as, shape, rfl, all⟩ := stands
    cases y with
    | number | text =>
      apply fails rfl
      rw [orderShapes, getHeap_bind, shape, stands'.shape_scalar rfl]
    | sequence tuple' ys =>
      obtain ⟨bs, shape', rfl, all'⟩ := stands'
      have run : orderShapes r op a b m = (if isTuple a == isTuple b then sequenceOrder r op as bs
          else failOrder op a b : M σ Bool) m := by
        rw [orderShapes, getHeap_bind, shape, shape']
      by_cases kind : isTuple a = isTuple b
      · rw [Datum.compare?, if_pos kind]
        rw [if_pos (beq_iff_eq.2 kind)] at run
        unfold OrdersBy
        rw [run]
        exact sequenceOrder_denoted (fun ha hb mem => parts ha hb (Datum.depth_lt_of_mem mem))
          all all'
      · rw [if_neg (by simpa using kind)] at run
        exact fails (if_neg kind) run

theorem orderValues_of_other (float : a.isFloat = false) (float' : b.isFloat = false)
    (number : a.asInt? = none ∨ b.asInt? = none) (text : a.asStr? = none ∨ b.asStr? = none) :
    orderValues r op a b = orderShapes r op a b := by
  unfold orderValues
  split
  · next left right =>
    obtain none | none := number
    · cases none.symm.trans left
    · cases none.symm.trans right
  · split
    · next left right =>
      obtain none | none := number
      · cases (Heap.asFloat?_of_asInt? float none).symm.trans left
      · cases (Heap.asFloat?_of_asInt? float' none).symm.trans right
    · split
      · obtain ⟨⟨⟩⟩ | ⟨⟨⟩⟩ := text
      · rfl

/-- What an order comparison of two values says is what the data that they stand for say. -/
theorem order_denoted (tell : Nat → Moment → M σ Unit) (reveal : M σ Unit) (op : CompareOp)
    (fuel : Nat) : ∀ {a b : Value} {x y : Datum}, m.heap.Denotes a x → m.heap.Denotes b y →
      x.depth < fuel →
      OrdersBy op m (x.compare? y) ((runner tell reveal fuel).run (.order op a b)) := by
  induction fuel with
  | zero => exact fun _ _ deep => absurd deep (Nat.not_lt_zero _)
  | succ fuel ih =>
    intro a b x y stands stands' deep
    show OrdersBy op m (x.compare? y) (orderValues (runner tell reveal fuel) op a b)
    unfold OrdersBy
    by_cases number : a.asInt? = none ∨ b.asInt? = none
    · by_cases text : a.asStr? = none ∨ b.asStr? = none
      · rw [orderValues_of_other stands.isFloat stands'.isFloat number text]
        refine orderShapes_denoted stands stands' number text fun ha hb less => ?_
        have enough := less.trans_le (Nat.le_of_lt_succ deep)
        exact ⟨equals_denoted tell reveal fuel ha hb enough, ih ha hb enough⟩
      · rw [not_or] at text
        cases a with
        | str s =>
          cases b with
          | str t =>
            rw [stands.unique (y := .text s) rfl, stands'.unique (y := .text t) rfl,
              Datum.compare?, ← textOrder_eq]
            rfl
          | _ => exact absurd rfl text.2
        | _ => exact absurd rfl text.1
    · rw [not_or] at number
      obtain ⟨k, left, rfl⟩ := stands.number number.1
      obtain ⟨n, right, rfl⟩ := stands'.number number.2
      rw [Datum.compare?]
      unfold orderValues
      rw [left, right]
      rfl

theorem OrdersBy.ok_iff {o : Option Ordering} {run : M σ Bool} {answer : Bool} {m' : Machine σ}
    (answers : OrdersBy op m o run) :
    run m = .ok answer m' ↔ m' = m ∧ o.map (decides op) = some answer := by
  cases o with
  | none =>
    obtain ⟨left, right, failed⟩ := answers
    rw [failed]
    exact iff_of_false nofun nofun
  | some o =>
    have gave : run m = .ok (decides op o) m := answers
    rw [gave, EStateM.Result.ok.injEq, Option.map_some, Option.some_inj, and_comm, @eq_comm _ m]

end

/-- The comparisons by order. -/
def orderOps : List CompareOp := [.lt, .le, .gt, .ge]

theorem compareValues_of_order {r : Runner σ} {op : CompareOp} (order : op ∈ orderOps)
    (a b : Value) : compareValues r op a b = r.run (.order op a b) := by
  cases op with
  | lt | le | gt | ge => rfl
  | _ => simp [orderOps] at order

section

variable {tell : Nat → Moment → M σ Unit} {reveal : M σ Unit} {fuel : Nat} {m m' : Machine σ}
  {a b : Value} {x y : Datum} {answer : Bool} {op : CompareOp}

theorem ask_order_iff (order : op ∈ orderOps) (ha : m.heap.Denotes a x) (hb : m.heap.Denotes b y)
    (deep : x.depth < fuel) : compareValues (runner tell reveal fuel) op a b m = .ok answer m' ↔
      m' = m ∧ (x.compare? y).map (decides op) = some answer := by
  rw [compareValues_of_order order]
  exact (order_denoted tell reveal op fuel ha hb deep).ok_iff

theorem ask_equal (ha : m.heap.Denotes a x) (hb : m.heap.Denotes b y) (deep : x.depth < fuel) :
    compareValues (runner tell reveal fuel) .eq a b m =
      .ok (decide (x.compare? y = some .eq)) m := equals_denoted tell reveal fuel ha hb deep

section

variable (ha : m.heap.Denotes a x) (hb : m.heap.Denotes b y) (deep : x.depth < fuel)
include ha hb deep

theorem ask_order_ends (order : op ∈ orderOps) :
    (∃ answer, compareValues (runner tell reveal fuel) op a b m = .ok answer m) ∨
      ∃ left right, compareValues (runner tell reveal fuel) op a b m =
        .error (.error ⟨.type (.notOrdered op left right), m.pos⟩) m := by
  have answers := order_denoted tell reveal op fuel ha hb deep
  rw [compareValues_of_order order]
  cases asked : x.compare? y with
  | none =>
    rw [asked] at answers
    exact .inr answers
  | some o =>
    rw [asked] at answers
    exact .inl ⟨_, answers⟩

/-- Less, equal and greater are the three cases there are. -/
theorem exactly_one {less same greater : Bool} {m₁ m₂ m₃ : Machine σ} (deep' : y.depth < fuel)
    (first : compareValues (runner tell reveal fuel) .lt a b m = .ok less m₁)
    (second : compareValues (runner tell reveal fuel) .eq a b m = .ok same m₂)
    (third : compareValues (runner tell reveal fuel) .lt b a m = .ok greater m₃) :
    [less, same, greater].count true = 1 ∧
      compareValues (runner tell reveal fuel) .le a b m = .ok (less || same) m := by
  obtain ⟨-, isLess⟩ := (ask_order_iff (by decide) ha hb deep).1 first
  obtain ⟨-, isGreater⟩ := (ask_order_iff (by decide) hb ha deep').1 third
  cases (ask_equal ha hb deep).symm.trans second
  rw [ask_order_iff (by decide) ha hb deep, and_iff_right rfl]
  rw [Datum.compare?_swap] at isGreater
  obtain ⟨o, asked, rfl⟩ := Option.map_eq_some_iff.1 isLess
  rw [asked] at isGreater ⊢
  cases isGreater
  cases o <;> exact ⟨rfl, rfl⟩

/-- Greater and at least are less and at most the other way round. -/
theorem ask_reversed (deep' : y.depth < fuel) :
    (compareValues (runner tell reveal fuel) .gt a b m = .ok answer m ↔
      compareValues (runner tell reveal fuel) .lt b a m = .ok answer m) ∧
    (compareValues (runner tell reveal fuel) .ge a b m = .ok answer m ↔
      compareValues (runner tell reveal fuel) .le b a m = .ok answer m) := by
  rw [ask_order_iff (by decide) ha hb deep, ask_order_iff (by decide) hb ha deep',
    ask_order_iff (by decide) ha hb deep, ask_order_iff (by decide) hb ha deep',
    Datum.compare?_swap x y]
  cases x.compare? y with
  | none => exact ⟨Iff.rfl, Iff.rfl⟩
  | some o => cases o <;> exact ⟨Iff.rfl, Iff.rfl⟩

theorem less_iff : compareValues (runner tell reveal fuel) .lt a b m = .ok true m' ↔
    m' = m ∧ x.compare? y = some .lt := by
  rw [ask_order_iff (by decide) ha hb deep]
  refine and_congr_right fun _ => ?_
  cases x.compare? y with
  | none => exact iff_of_false nofun nofun
  | some o => cases o <;> decide

end

theorem less_trans {c : Value} {z : Datum} {m₁ m₂ : Machine σ} (ha : m.heap.Denotes a x)
    (hb : m.heap.Denotes b y) (hc : m.heap.Denotes c z) (deep : x.depth < fuel)
    (deep' : y.depth < fuel)
    (first : compareValues (runner tell reveal fuel) .lt a b m = .ok true m₁)
    (second : compareValues (runner tell reveal fuel) .lt b c m = .ok true m₂) :
    compareValues (runner tell reveal fuel) .lt a c m = .ok true m := by
  obtain ⟨-, less⟩ := (less_iff ha hb deep).1 first
  obtain ⟨-, less'⟩ := (less_iff hb hc deep').1 second
  exact (less_iff ha hc deep).2 ⟨rfl, Datum.compare?_trans less less'⟩

/-! ### Lexicographic order -/

/-- Equal items in front make no difference. -/
theorem compareAll?_of_equal {before before' us vs : List Value}
    (same : List.Forall₂ (fun u v => compareValues (runner tell reveal fuel) .eq u v m =
      .ok true m) before before') :
    ∀ {xs ys : List Datum}, m.heap.DenoteAll (before ++ us) xs →
      m.heap.DenoteAll (before' ++ vs) ys → Datum.depths xs < fuel →
      ∃ xs' ys', m.heap.DenoteAll us xs' ∧ m.heap.DenoteAll vs ys' ∧ Datum.depths xs' < fuel ∧
        Datum.compareAll? xs ys = Datum.compareAll? xs' ys' := by
  induction same with
  | nil => exact fun left right deep => ⟨_, _, left, right, deep, rfl⟩
  | cons equal _ ih =>
    intro xs ys left right deep
    cases xs with
    | nil => cases left
    | cons x xs =>
      cases ys with
      | nil => cases right
      | cons y ys =>
        rw [Datum.depths, Nat.max_lt] at deep
        rw [ask_equal left.1 right.1 deep.1] at equal
        have level : x.compare? y = some .eq := by simpa using equal
        rw [Datum.compareAll?_cons_eq level]
        exact ih left.2 right.2 deep.2

section

variable {before before' us vs : List Value} (ha : m.heap.Denotes a x) (hb : m.heap.Denotes b y)
  (deep : x.depth < fuel) (left : m.heap.shape a = .sequence (before ++ us))
  (right : m.heap.shape b = .sequence (before' ++ vs)) (kind : isTuple a = isTuple b)
  (same : List.Forall₂ (fun u v => compareValues (runner tell reveal fuel) .eq u v m =
    .ok true m) before before')
include ha hb deep left right kind same

/-- Sequences that start with equal items have the order of what comes after these. -/
theorem compare?_of_equal : ∃ xs ys, m.heap.DenoteAll us xs ∧ m.heap.DenoteAll vs ys ∧
    Datum.depths xs < fuel ∧ x.compare? y = Datum.compareAll? xs ys := by
  obtain ⟨xs, rfl, all⟩ := ha.of_sequence left
  obtain ⟨ys, rfl, all'⟩ := hb.of_sequence right
  obtain ⟨xs', ys', all, all', deep, equal⟩ :=
    compareAll?_of_equal same all all' ((Nat.lt_succ_self _).trans deep)
  refine ⟨xs', ys', all, all', deep, ?_⟩
  rw [Datum.compare?, if_pos kind, equal]

end

section

variable {before before' us vs : List Value} {u v : Value} (ha : m.heap.Denotes a x)
  (hb : m.heap.Denotes b y) (deep : x.depth < fuel) (kind : isTuple a = isTuple b)
  (same : List.Forall₂ (fun u v => compareValues (runner tell reveal fuel) .eq u v m =
    .ok true m) before before')
include ha hb deep kind same

/-- Two sequences have the order of the first items that differ. -/
theorem ask_of_difference (order : op ∈ orderOps)
    (left : m.heap.shape a = .sequence (before ++ u :: us))
    (right : m.heap.shape b = .sequence (before' ++ v :: vs))
    (differ : compareValues (runner tell reveal fuel) .eq u v m = .ok false m) :
    compareValues (runner tell reveal fuel) op a b m = .ok answer m ↔
      compareValues (runner tell reveal fuel) op u v m = .ok answer m := by
  obtain ⟨xs, ys, all, all', deeps, asked⟩ := compare?_of_equal ha hb deep left right kind same
  cases xs with
  | nil => cases all
  | cons p ps =>
    cases ys with
    | nil => cases all'
    | cons q qs =>
      rw [Datum.depths, Nat.max_lt] at deeps
      rw [ask_equal all.1 all'.1 deeps.1] at differ
      have unlevel : p.compare? q ≠ some .eq := by simpa using differ
      rw [Datum.compareAll?_cons_ne unlevel] at asked
      rw [ask_order_iff order ha hb deep, ask_order_iff order all.1 all'.1 deeps.1, asked]

/-- A part in front comes before the whole. -/
theorem less_of_front (left : m.heap.shape a = .sequence before)
    (right : m.heap.shape b = .sequence (before' ++ v :: vs)) :
    compareValues (runner tell reveal fuel) .lt a b m = .ok true m := by
  rw [← List.append_nil before] at left
  obtain ⟨xs, ys, all, all', -, asked⟩ := compare?_of_equal ha hb deep left right kind same
  refine (less_iff ha hb deep).2 ⟨rfl, ?_⟩
  cases xs with
  | cons => cases all
  | nil =>
    cases ys with
    | nil => cases all'
    | cons => exact asked

end

end

/-- The order of integers, truth values, strings, and tuples and lists of these. A comparison of two
of them changes nothing, and says something or fails because they have no order. What is said of
less, equal and greater is true of exactly one; at most is less or equal, and greater and at least
are less and at most the other way round; less is transitive; sequences are compared at the first
position where they differ, and a part in front comes before the whole. -/
theorem order_total_lexicographic (tell : Nat → Moment → M σ Unit) (reveal : M σ Unit)
    {fuel : Nat} {m : Machine σ} {a b c : Value} {x y z : Datum} (ha : m.heap.Denotes a x)
    (hb : m.heap.Denotes b y) (hc : m.heap.Denotes c z) (deep : x.depth < fuel)
    (deep' : y.depth < fuel) :
    let ask := compareValues (runner tell reveal fuel)
    (∃ same, ask .eq a b m = .ok same m) ∧
    (∀ op ∈ orderOps, (∃ answer, ask op a b m = .ok answer m) ∨ ∃ left right,
      ask op a b m = .error (.error ⟨.type (.notOrdered op left right), m.pos⟩) m) ∧
    (∀ less same greater m₁ m₂ m₃, ask .lt a b m = .ok less m₁ → ask .eq a b m = .ok same m₂ →
      ask .lt b a m = .ok greater m₃ →
      [less, same, greater].count true = 1 ∧ ask .le a b m = .ok (less || same) m) ∧
    (∀ answer, (ask .gt a b m = .ok answer m ↔ ask .lt b a m = .ok answer m) ∧
      (ask .ge a b m = .ok answer m ↔ ask .le b a m = .ok answer m)) ∧
    (∀ m₁ m₂, ask .lt a b m = .ok true m₁ → ask .lt b c m = .ok true m₂ →
      ask .lt a c m = .ok true m) ∧
    ∀ as bs before before', m.heap.shape a = .sequence as → m.heap.shape b = .sequence bs →
      isTuple a = isTuple b →
      List.Forall₂ (fun u v => ask .eq u v m = .ok true m) before before' →
      (∀ u us v vs, as = before ++ u :: us → bs = before' ++ v :: vs →
        ask .eq u v m = .ok false m → ∀ op ∈ orderOps, ∀ answer,
          ask op a b m = .ok answer m ↔ ask op u v m = .ok answer m) ∧
      ∀ v vs, as = before → bs = before' ++ v :: vs → ask .lt a b m = .ok true m := by
  intro ask
  refine ⟨⟨_, ask_equal ha hb deep⟩, ?_, ?_, ?_, ?_, ?_⟩
  · intro op order
    exact ask_order_ends ha hb deep order
  · intro less same greater m₁ m₂ m₃ first second third
    exact exactly_one ha hb deep deep' first second third
  · intro answer
    exact ask_reversed ha hb deep deep'
  · intro m₁ m₂ first second
    exact less_trans ha hb hc deep deep' first second
  · intro as bs before before' left right kind same
    constructor
    · rintro u us v vs rfl rfl differ op order answer
      exact ask_of_difference ha hb deep kind same order left right differ
    · rintro v vs rfl rfl
      exact less_of_front ha hb deep kind same left right

/-- `[1, (True, "x")]` comes before `[1, (2, "a")]`, as `(True, "x")` does before `(2, "a")`, and so
before `[1, (2, "a"), 0]`. -/
theorem order_total_lexicographic_nested :
    let one := Value.tuple 0 [.bool true, .str "x"]
    let two := Value.tuple 1 [.int 2, .str "a"]
    let m : Machine Unit := { Machine.start () with heap := ⟨#[some (.list #[.int 1, one]),
      some (.list #[.int 1, two]), some (.list #[.int 1, two, .int 0])], 2⟩ }
    let ask := compareValues (quiet 3)
    let a := Value.ref Heap.base
    let b := Value.ref (Heap.base + 1)
    let c := Value.ref (Heap.base + 2)
    ask .le a b m = .ok true m ∧ ask .lt a c m = .ok true m ∧
      (ask .lt a b m = .ok true m ↔ ask .lt one two m = .ok true m) := by
  intro one two m ask a b c
  let x := Datum.sequence true [.number 1, .text "x"]
  let y := Datum.sequence true [.number 2, .text "a"]
  have ha : m.heap.Denotes a (.sequence false [.number 1, x]) :=
    ⟨_, rfl, rfl, rfl, ⟨_, rfl, rfl, rfl, rfl, trivial⟩, trivial⟩
  have hb : m.heap.Denotes b (.sequence false [.number 1, y]) :=
    ⟨_, rfl, rfl, rfl, ⟨_, rfl, rfl, rfl, rfl, trivial⟩, trivial⟩
  have hc : m.heap.Denotes c (.sequence false [.number 1, y, .number 0]) :=
    ⟨_, rfl, rfl, rfl, ⟨_, rfl, rfl, rfl, rfl, trivial⟩, rfl, trivial⟩
  have deep : (Datum.sequence false [.number 1, x]).depth < 3 := by decide
  have deep' : (Datum.sequence false [.number 1, y]).depth < 3 := by decide
  obtain ⟨-, -, three, -, trans, lexicographic⟩ := order_total_lexicographic
    (fun _ _ => pure ()) (pure ()) ha hb hc deep deep'
  refine ⟨(three true false false m m m rfl rfl rfl).2, trans m m rfl rfl, ?_⟩
  exact (lexicographic _ _ [.int 1] [.int 1] rfl rfl rfl (.cons rfl .nil)).1 one [] two [] rfl rfl
    rfl .lt (by decide) true

end Stepwise
