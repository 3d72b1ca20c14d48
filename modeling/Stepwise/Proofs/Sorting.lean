import Mathlib.Data.List.Sort
import Mathlib.Data.Sum.Order
import Stepwise.Proofs.Handling
import Stepwise.Proofs.Lexicographic

/-!
# Sorting

What `sorted`, `list.sort`, `min` and `max` owe (`sort_stable_or_harmless`): no item is lost or
added, whatever the comparisons say; keys that can be ranked give the one stable order; a sort that
fails has written nothing.

## The model

The ranks of the keys are in a linear order, in which a reversed sort goes down (`inOrder`). A list
sorted by ranks is a permutation in this order, and stable: it has the items of each rank in the
order in which they came (`SortsBy`). What comes first in it is the item that beats all in front of
it and is beaten by none behind it (`Leads`), which is what `min` and `max` look for.

Functions of the script run between any two comparisons. What a computation keeps whatever its
outcome (`Upholds`) goes through a sort step by step.
-/

namespace Stepwise

open Script

variable {σ : Type}

/-! ### Sorted lists -/

section

variable {α β : Type} [LinearOrder β]

/-- Whether two ranks may follow each other in a sorted list. -/
def inOrder (reverse : Bool) (a b : β) : Bool := if reverse then b ≤ a else a ≤ b

/-- What a stable sort by ranks owes. -/
structure SortsBy (rank : α → β) (reverse : Bool) (items sorted : List α) : Prop where
  perm : sorted.Perm items
  ordered : sorted.Pairwise fun x y => inOrder reverse (rank x) (rank y)
  /-- Items of one rank keep their order. -/
  stable : ∀ g, (sorted.filter fun x => rank x = g) = items.filter fun x => rank x = g

variable {reverse : Bool} {a b c : β} {rank : α → β} {items sorted xs ys : List α} {x y : α}

theorem inOrder_trans (ab : inOrder reverse a b = true) (bc : inOrder reverse b c = true) :
    inOrder reverse a c = true := by
  cases reverse <;> simp only [inOrder, decide_eq_true_eq, if_true, Bool.false_eq_true, if_false]
    at *
  · exact le_trans ab bc
  · exact le_trans bc ab

theorem inOrder_total (a b : β) : (inOrder reverse a b || inOrder reverse b a) = true := by
  cases reverse <;> simp [inOrder, le_total]

theorem inOrder_self (a : β) : inOrder reverse a a = true := by
  have total : (inOrder reverse a a || inOrder reverse a a) = true := inOrder_total a a
  rwa [Bool.or_self] at total

theorem inOrder_antisymm {a b : β} (ab : inOrder reverse a b = true)
    (ba : inOrder reverse b a = true) : a = b := by
  cases reverse <;> simp only [inOrder, decide_eq_true_eq, if_true, Bool.false_eq_true, if_false]
    at ab ba
  · exact le_antisymm ab ba
  · exact le_antisymm ba ab

theorem inOrder_of_not {a b : β} (not : inOrder reverse a b = false) :
    inOrder reverse b a = true := by
  have total : (inOrder reverse a b || inOrder reverse b a) = true := inOrder_total a b
  rwa [not, Bool.false_or] at total

/-- Merging two sorted lists takes the items of one rank from the left list first. -/
theorem filter_merge (g : β) : ∀ {xs ys : List α},
    (xs.Pairwise fun x y => inOrder reverse (rank x) (rank y)) →
    (List.merge xs ys fun x y => inOrder reverse (rank x) (rank y)).filter
        (fun x => rank x = g) =
      xs.filter (fun x => rank x = g) ++ ys.filter fun x => rank x = g
  | [], ys, _ => by simp
  | x :: xs, [], _ => by simp
  | x :: xs, y :: ys, ordered => by
    have ordered' := List.pairwise_cons.1 ordered
    by_cases first : inOrder reverse (rank x) (rank y) = true
    · rw [List.cons_merge_cons, if_pos first]
      by_cases here : rank x = g <;> simp [here, filter_merge g ordered'.2]
    · rw [List.cons_merge_cons, if_neg first]
      by_cases here : rank y = g
      · -- What is left on the left comes after `y`, so none of it has the rank of `y`.
        have none : (x :: xs).filter (fun x => rank x = g) = [] := by
          apply List.filter_eq_nil_iff.2
          intro z mem same
          apply first
          rw [here, ← of_decide_eq_true same]
          obtain rfl | mem := List.mem_cons.1 mem
          · exact inOrder_self _
          · exact ordered'.1 z mem
        rw [List.filter_cons_of_pos (by simpa using here), filter_merge g ordered, none]
        simp [here]
      · rw [List.filter_cons_of_neg (by simpa using here), filter_merge g ordered]
        simp [here]

theorem SortsBy.merge {xs' ys' : List α} (left : SortsBy rank reverse xs xs')
    (right : SortsBy rank reverse ys ys') :
    SortsBy rank reverse (xs ++ ys)
      (List.merge xs' ys' fun x y => inOrder reverse (rank x) (rank y)) where
  perm := (List.merge_perm_append _).trans (left.perm.append right.perm)
  ordered := by
    apply List.pairwise_merge
    · exact fun _ _ _ => inOrder_trans
    · exact fun x y => inOrder_total (rank x) (rank y)
    · exact left.ordered
    · exact right.ordered
  stable g := by rw [filter_merge g left.ordered, left.stable, right.stable, List.filter_append]

theorem SortsBy.of_length_le_one (short : items.length ≤ 1) : SortsBy rank reverse items items where
  perm := .refl _
  ordered := by
    match items, short with
    | [], _ => exact .nil
    | [x], _ => exact List.pairwise_singleton ..
  stable _ := rfl

/-- An item that comes strictly before those in front of it, and may stay before those behind. -/
def Leads (rank : α → β) (reverse : Bool) (items : List α) (x : α) : Prop :=
  ∃ before after, items = before ++ x :: after ∧
    (∀ y ∈ before, inOrder reverse (rank y) (rank x) = false) ∧
    ∀ y ∈ after, inOrder reverse (rank x) (rank y) = true

theorem Leads.inOrder (leads : Leads rank reverse items x) (mem : y ∈ items) :
    Stepwise.inOrder reverse (rank x) (rank y) = true := by
  obtain ⟨before, after, rfl, strict, rest⟩ := leads
  obtain mem | mem := List.mem_append.1 mem
  · exact inOrder_of_not (strict y mem)
  · obtain rfl | mem := List.mem_cons.1 mem
    · exact inOrder_self _
    · exact rest y mem

/-- With one more item, the same one leads or the new one. -/
theorem Leads.concat (leads : Leads rank reverse items x) (y : α) :
    Leads rank reverse (items ++ [y])
      (if Stepwise.inOrder reverse (rank x) (rank y) then x else y) := by
  by_cases stay : Stepwise.inOrder reverse (rank x) (rank y) = true
  · rw [if_pos stay]
    obtain ⟨before, after, rfl, strict, rest⟩ := leads
    refine ⟨before, after ++ [y], by simp, strict, ?_⟩
    intro z mem
    obtain mem | mem := List.mem_append.1 mem
    · exact rest z mem
    · exact List.mem_singleton.1 mem ▸ stay
  · rw [if_neg stay]
    refine ⟨items, [], rfl, ?_, nofun⟩
    intro z mem
    apply Bool.eq_false_iff.2
    intro back
    exact stay (inOrder_trans (leads.inOrder mem) back)

/-- The item that leads comes first in a stable sort. -/
theorem Leads.head (leads : Leads rank reverse items x) {y : α} {ys : List α}
    (sorts : SortsBy rank reverse items (y :: ys)) : y = x := by
  have memX : x ∈ items := by
    obtain ⟨before, after, rfl, -, -⟩ := leads
    simp
  have memY : y ∈ items := sorts.perm.mem_iff.1 List.mem_cons_self
  have front : Stepwise.inOrder reverse (rank y) (rank x) = true := by
    obtain rfl | mem := List.mem_cons.1 (sorts.perm.mem_iff.2 memX)
    · exact inOrder_self _
    · exact (List.pairwise_cons.1 sorts.ordered).1 x mem
  have same : rank y = rank x := inOrder_antisymm front (leads.inOrder memY)
  -- Both lists hold the items of this rank in one order, and `x` is the first of them.
  have stable := sorts.stable (rank x)
  obtain ⟨before, after, rfl, strict, -⟩ := leads
  have none : before.filter (fun z => rank z = rank x) = [] := by
    apply List.filter_eq_nil_iff.2
    intro z mem equal
    have ahead := strict z mem
    rw [of_decide_eq_true equal, inOrder_self] at ahead
    cases ahead
  rw [List.filter_cons_of_pos (by simpa using same), List.filter_append, none,
    List.filter_cons_of_pos (by simp)] at stable
  exact (List.cons.inj stable).1

end

/-! ### Merge sort -/

section

variable {α β : Type} [LinearOrder β] {m m' : Machine σ} {f : α → α → M σ Bool}
  {rank : α → β} {reverse : Bool} {items sorted : List α}

/-- Merging with comparisons that say whether two items may stay in their order. -/
theorem mergeWith_eq {le : α → α → Bool} : ∀ {fuel : Nat} {merged xs ys : List α},
    xs.length + ys.length ≤ fuel → (∀ x ∈ xs, ∀ y ∈ ys, f x y m = .ok (!le x y) m) →
    mergeWith f fuel merged xs ys m = .ok (merged.reverse ++ List.merge xs ys le) m
  | fuel, merged, [], ys, _, _ => by cases fuel <;> simp [mergeWith] <;> rfl
  | fuel, merged, x :: xs, [], _, _ => by cases fuel <;> simp [mergeWith] <;> rfl
  | 0, merged, x :: xs, y :: ys, enough, _ => by simp at enough
  | fuel + 1, merged, x :: xs, y :: ys, enough, asks => by
    have answer := asks x List.mem_cons_self y List.mem_cons_self
    rw [mergeWith, M.bind_ok answer, List.cons_merge_cons]
    simp only [List.length_cons] at enough
    cases le x y with
    | true =>
      simp only [Bool.not_true, Bool.false_eq_true, if_false, if_true]
      rw [mergeWith_eq (by simp; omega) fun a mem => asks a (List.mem_cons_of_mem x mem)]
      simp
    | false =>
      simp only [Bool.not_false, if_true, Bool.false_eq_true, if_false]
      rw [mergeWith_eq (by simp; omega) fun a mem b mem' =>
        asks a mem b (List.mem_cons_of_mem y mem')]
      simp

/-- Sorting with comparisons that say whether two items may stay in their order. -/
theorem mergeSort_sorts : ∀ {fuel : Nat} {items : List α}, items.length ≤ fuel →
    (∀ x ∈ items, ∀ y ∈ items, f x y m = .ok (!inOrder reverse (rank x) (rank y)) m) →
    ∃ sorted, mergeSort f fuel items m = .ok sorted m ∧ SortsBy rank reverse items sorted
  | 0, items, short, _ => ⟨items, rfl, .of_length_le_one (by omega)⟩
  | fuel + 1, items, short, asks => by
    unfold mergeSort
    by_cases one : items.length ≤ 1
    · rw [if_pos one]
      exact ⟨items, rfl, .of_length_le_one one⟩
    · rw [if_neg one]
      let half := items.length / 2
      have sortPart {part : List α} (short : part.length ≤ fuel) (sub : part ⊆ items) :
          ∃ sorted, mergeSort f fuel part m = .ok sorted m ∧
            SortsBy rank reverse part sorted :=
        mergeSort_sorts short fun x hx y hy => asks x (sub hx) y (sub hy)
      have subLeft := List.take_subset half items
      have subRight := List.drop_subset half items
      obtain ⟨left, runLeft, sortsLeft⟩ := sortPart (by rw [List.length_take]; omega) subLeft
      obtain ⟨right, runRight, sortsRight⟩ := sortPart (by rw [List.length_drop]; omega) subRight
      have room : left.length + right.length ≤ items.length := by
        rw [sortsLeft.perm.length_eq, sortsRight.perm.length_eq, List.length_take,
          List.length_drop]
        omega
      have merged : mergeWith f items.length [] left right m = .ok
          ([] ++ List.merge left right fun x y => inOrder reverse (rank x) (rank y)) m :=
        mergeWith_eq room fun x hx y hy => asks x (subLeft (sortsLeft.perm.mem_iff.1 hx)) y
          (subRight (sortsRight.perm.mem_iff.1 hy))
      refine ⟨_, ?_, List.take_append_drop half items ▸ sortsLeft.merge sortsRight⟩
      rw [M.bind_ok runLeft, M.bind_ok runRight, merged]
      rfl

end

/-! ### What a sort keeps -/

section

variable {α β : Type} {P : Machine σ → Prop} {Q : α → Prop} {R : β → Prop}

/-- Whether a computation keeps what holds of the machine, also if it fails, and gives only results
for which `Q` holds. -/
def Upholds (P : Machine σ → Prop) (Q : α → Prop) (x : M σ α) : Prop :=
  ∀ m out m', P m → Gives x m out m' → P m' ∧ ∀ a, out = .ok a → Q a

namespace Upholds

variable {x : M σ α} {f : α → M σ β} {a : α}

theorem pure (holds : Q a) : Upholds P Q (pure a : M σ α) := by
  intro m out m' kept ends
  obtain ⟨rfl, rfl⟩ := Gives.pure_iff.1 ends
  refine ⟨kept, ?_⟩
  rintro _ ⟨⟩
  exact holds

theorem bind (hx : Upholds P Q x) (hf : ∀ a, Q a → Upholds P R (f a)) :
    Upholds P R (x >>= f) := by
  intro m out m' kept ends
  obtain ⟨a, m₁, first, next⟩ | ⟨e, failed, rfl⟩ := Gives.bind_iff.1 ends
  · obtain ⟨kept', holds⟩ := hx _ _ _ kept first
    exact hf a (holds a rfl) _ _ _ kept' next
  · exact ⟨(hx _ _ _ kept failed).1, nofun⟩

theorem mono {Q' : α → Prop} (hx : Upholds P Q x) (more : ∀ a, Q a → Q' a) : Upholds P Q' x := by
  intro m out m' kept ends
  obtain ⟨kept', holds⟩ := hx m out m' kept ends
  exact ⟨kept', fun a same => more a (holds a same)⟩

/-- Nothing is asked of a computation whose machines and results may be anything. -/
theorem any (x : M σ α) : Upholds (fun _ => True) (fun _ => True) x :=
  fun _ _ _ _ _ => ⟨trivial, fun _ _ => trivial⟩

theorem mapM {S : α → β → Prop} : ∀ {items : List α}, (∀ v ∈ items, Upholds P (S v) (f v)) →
    Upholds P (List.Forall₂ S items) (items.mapM f)
  | [], _ => by
    rw [List.mapM_nil]
    exact .pure .nil
  | v :: vs, each => by
    rw [List.mapM_cons]
    apply (each v List.mem_cons_self).bind
    intro b related
    apply (mapM fun u mem => each u (List.mem_cons_of_mem v mem)).bind
    intro bs others
    exact .pure (.cons related others)

end Upholds

/-- Merging loses and adds nothing, whatever the comparisons say. -/
theorem mergeWith_upholds {f : α → α → M σ Bool} : ∀ {fuel : Nat} {merged xs ys : List α},
    (∀ x ∈ xs, ∀ y ∈ ys, Upholds P (fun _ => True) (f x y)) →
    Upholds P (·.Perm (merged ++ (xs ++ ys))) (mergeWith f fuel merged xs ys)
  | fuel, merged, [], ys, _ => by
    cases fuel <;> exact .pure (by simpa [mergeWith] using merged.reverse_perm.append_right ys)
  | fuel, merged, x :: xs, [], _ => by
    cases fuel <;> exact .pure (by simpa using merged.reverse_perm.append_right (x :: xs))
  | 0, merged, x :: xs, y :: ys, _ =>
    .pure (by simpa using merged.reverse_perm.append_right (x :: xs ++ y :: ys))
  | fuel + 1, merged, x :: xs, y :: ys, compare => by
    rw [mergeWith]
    apply (compare x List.mem_cons_self y List.mem_cons_self).bind
    rintro (_ | _) -
    · refine (mergeWith_upholds fun a mem => compare a (List.mem_cons_of_mem x mem)).mono ?_
      intro zs perm
      exact perm.trans (by simpa using List.perm_middle.symm)
    · refine (mergeWith_upholds fun a mem b mem' =>
        compare a mem b (List.mem_cons_of_mem y mem')).mono ?_
      intro zs perm
      calc zs
          _ |>.Perm (y :: (merged ++ (x :: xs)) ++ ys) := by simpa using perm
          _ |>.Perm (merged ++ (x :: xs) ++ y :: ys) := List.perm_middle.symm
          _ = merged ++ (x :: xs ++ y :: ys) := by simp

/-- Sorting loses and adds nothing, whatever the comparisons say. -/
theorem mergeSort_upholds {f : α → α → M σ Bool} : ∀ {fuel : Nat} {items : List α},
    (∀ x ∈ items, ∀ y ∈ items, Upholds P (fun _ => True) (f x y)) →
    Upholds P (·.Perm items) (mergeSort f fuel items)
  | 0, items, _ => .pure (.refl _)
  | fuel + 1, items, compare => by
    unfold mergeSort
    by_cases one : items.length ≤ 1
    · simp only [one, if_true]
      exact .pure (.refl _)
    · simp only [one, if_false]
      let half := items.length / 2
      have sortPart {part : List α} (sub : part ⊆ items) :
          Upholds P (·.Perm part) (mergeSort f fuel part) :=
        mergeSort_upholds fun x hx y hy => compare x (sub hx) y (sub hy)
      have subLeft := List.take_subset half items
      have subRight := List.drop_subset half items
      apply (sortPart subLeft).bind
      intro left permLeft
      apply (sortPart subRight).bind
      intro right permRight
      refine (mergeWith_upholds fun x hx y hy => compare x (subLeft (permLeft.mem_iff.1 hx)) y
        (subRight (permRight.mem_iff.1 hy))).mono ?_
      intro sorted perm
      calc sorted
          _ |>.Perm ([] ++ (left ++ right)) := perm
          _ |>.Perm (items.take half ++ items.drop half) := permLeft.append permRight
          _ = items := List.take_append_drop half items

theorem of_forall₂_keyed {K : Value → Prop} {items : List Value} {pairs : List (Value × Value)}
    (related : List.Forall₂ (fun v p => p.2 = v ∧ K p.1) items pairs) :
    pairs.map (·.2) = items ∧ ∀ p ∈ pairs, K p.1 := by
  induction related with
  | nil => exact ⟨rfl, nofun⟩
  | cons h _ ih => exact ⟨by rw [List.map_cons, h.1, ih.1], List.forall_mem_cons.2 ⟨h.2, ih.2⟩⟩

/-- A sort keeps what its calls keep, and gives the items in some order. -/
theorem sortValues_upholds {r : Runner σ} {K : Value → Prop} {items : List Value}
    {key : Option Value} {reverse : Bool} (keys : ∀ v ∈ items, Upholds P K (keyFor r key v))
    (compare : ∀ a b, K a → K b → Upholds P (fun _ => True) (r.lessThan a b)) :
    Upholds P (·.Perm items) (sortValues r items key reverse) := by
  have keyed : Upholds P (List.Forall₂ (fun v p => p.2 = v ∧ K p.1) items)
      (items.mapM fun v => return (← keyFor r key v, v)) := by
    apply Upholds.mapM
    intro v mem
    apply (keys v mem).bind
    intro k hk
    exact .pure ⟨rfl, hk⟩
  unfold sortValues
  apply keyed.bind
  intro pairs related
  obtain ⟨same, held⟩ := of_forall₂_keyed related
  have sorts : Upholds P (·.Perm pairs) (mergeSort (rightFirst r reverse) items.length pairs) := by
    apply mergeSort_upholds
    intro x hx y hy
    cases reverse
    · exact compare y.1 x.1 (held y hy) (held x hx)
    · exact compare x.1 y.1 (held x hx) (held y hy)
  apply sorts.bind
  intro sorted perm
  exact .pure (same ▸ perm.map (·.2))

/-- A failing `items.sort(…)` keeps what its calls keep: it writes only at its end. -/
theorem listSort_upholds {r : Runner σ} {K : Value → Prop} {a : Address} {keywords : Keywords}
    {key : Option Value} {reverse : Bool} {m m₁ m' : Machine σ} {e : RuntimeError}
    (options : sortOptions r "sort" keywords none false m = .ok (key, reverse) m₁)
    (keys : ∀ v ∈ (m₁.heap.list? a).getD #[], Upholds P K (keyFor r key v))
    (compare : ∀ a b, K a → K b → Upholds P (fun _ => True) (r.lessThan a b))
    (holds : P m₁) (fails : listMethod r a "sort" [] keywords m = .error (.error e) m') :
    P m' := by
  have sort : listMethod r a "sort" [] keywords m = (do
      let sorted ← sortValues r ((m₁.heap.list? a).getD #[]).toList key reverse
      changeList a fun _ => sorted.toArray
      return Value.none) m₁ := M.bind_ok options
  rw [sort, ← Gives.error_iff] at fails
  obtain ⟨sorted, m₂, -, written⟩ | ⟨f, broke, -⟩ := Gives.bind_iff.1 fails
  · cases written
  · exact (sortValues_upholds (fun v mem => keys v (Array.mem_toList_iff.1 mem)) compare _ _ _
      holds broke).1

end

/-! ### Keys that are all numbers or all texts -/

/-- The rank of a key that is an integer, a truth value or a string. -/
def Value.rank (v : Value) : Int ⊕ₗ String :=
  match v with
  | .str s => Sum.inrₗ s
  | v => Sum.inlₗ (v.asInt?.getD 0)

/-- Keys that are all integers or truth values, or all strings. -/
def Graded (keys : List Value) : Prop :=
  (∀ k ∈ keys, k.asInt?.isSome) ∨ ∀ k ∈ keys, k.asStr?.isSome

section

variable {tell : Nat → Moment → M σ Unit} {reveal : M σ Unit} {fuel : Nat} {m m' : Machine σ}
  {keys : List Value} {x y : Value} {key : Option Value} {reverse : Bool}

theorem Value.rank_of_asInt? {n : Int} (int : x.asInt? = some n) : x.rank = Sum.inlₗ n := by
  cases x with
  | bool | int =>
    cases int
    rfl
  | _ => cases int

theorem decides_lt_compare {β : Type} [LinearOrder β] (a b : β) :
    decides .lt (compare a b) = decide (a < b) := by
  rw [decides, Bool.eq_iff_iff, beq_iff_eq, compare_lt_iff_lt, decide_eq_true_iff]

/-- Such keys are compared by their ranks, and that changes nothing. -/
theorem Graded.lessThan (graded : Graded keys) (hx : x ∈ keys) (hy : y ∈ keys) :
    (runner tell reveal (fuel + 1)).lessThan x y m = .ok (decide (x.rank < y.rank)) m := by
  obtain ints | texts := graded
  · obtain ⟨a, ha⟩ := Option.isSome_iff_exists.1 (ints x hx)
    obtain ⟨b, hb⟩ := Option.isSome_iff_exists.1 (ints y hy)
    have left : m.heap.Denotes x (.number a) := ha
    have right : m.heap.Denotes y (.number b) := hb
    have answer : (runner tell reveal (fuel + 1)).lessThan x y m =
        .ok (decides .lt (compare a b)) m :=
      order_denoted tell reveal .lt (fuel + 1) left right fuel.succ_pos
    rw [answer, decides_lt_compare, Value.rank_of_asInt? ha, Value.rank_of_asInt? hb,
      decide_eq_decide.2 Sum.Lex.inl_lt_inl_iff]
  · cases x with
    | str a =>
      cases y with
      | str b =>
        have answer : (runner tell reveal (fuel + 1)).lessThan (.str a) (.str b) m =
            .ok (decides .lt (compare a b)) m :=
          order_denoted tell reveal .lt (fuel + 1) (x := .text a) (y := .text b) rfl rfl
            fuel.succ_pos
        rw [answer, decides_lt_compare, Value.rank, Value.rank,
          decide_eq_decide.2 Sum.Lex.inr_lt_inr_iff]
      | _ => cases texts _ hy
    | _ => cases texts _ hx

theorem Graded.rightFirst {p q : Value × Value} (graded : Graded keys) (hp : p.1 ∈ keys)
    (hq : q.1 ∈ keys) : Stepwise.rightFirst (runner tell reveal (fuel + 1)) reverse p q m =
      .ok (!inOrder reverse p.1.rank q.1.rank) m := by
  cases reverse with
  | false =>
    refine (graded.lessThan hq hp).trans ?_
    rw [inOrder, if_neg Bool.false_ne_true, ← decide_not, decide_eq_decide.2 not_le]
  | true =>
    refine (graded.lessThan hp hq).trans ?_
    rw [inOrder, if_pos rfl, ← decide_not, decide_eq_decide.2 not_le]

theorem of_mapM_cons {f : Value → M σ Value} {v : Value} {vs keys : List Value}
    (made : (v :: vs).mapM f m = .ok keys m') :
    ∃ k ks m₁, keys = k :: ks ∧ f v m = .ok k m₁ ∧ vs.mapM f m₁ = .ok ks m' := by
  rw [List.mapM_cons, ← Gives.ok_iff] at made
  obtain ⟨k, m₁, first, more⟩ | ⟨e, -, ⟨⟩⟩ := Gives.bind_iff.1 made
  obtain ⟨ks, m₂, others, done⟩ | ⟨e, -, ⟨⟩⟩ := Gives.bind_iff.1 more
  cases Gives.ok_iff.1 done
  exact ⟨k, ks, m₁, rfl, Gives.ok_iff.1 first, Gives.ok_iff.1 others⟩

/-- What makes the keys makes the items with their keys. -/
theorem mapM_keyed {f : Value → M σ Value} : ∀ {items keys : List Value} {m : Machine σ},
    items.mapM f m = .ok keys m' → keys.length = items.length ∧
      (items.mapM fun v => return (← f v, v)) m = .ok (keys.zip items) m'
  | [], keys, m, made => by
    cases made
    exact ⟨rfl, rfl⟩
  | v :: vs, keys, m, made => by
    obtain ⟨k, ks, m₁, rfl, first, others⟩ := of_mapM_cons made
    obtain ⟨length, keyed⟩ := mapM_keyed others
    refine ⟨congrArg (· + 1) length, ?_⟩
    rw [List.mapM_cons, bind_assoc, M.bind_ok first, pure_bind, M.bind_ok keyed]
    rfl

/-- A sort by such keys succeeds, and changes no more than the key function does. -/
theorem sortValues_sorts {items : List Value}
    (made : items.mapM (keyFor (runner tell reveal (fuel + 1)) key) m = .ok keys m')
    (graded : Graded keys) : ∃ sorted,
      sortValues (runner tell reveal (fuel + 1)) items key reverse m =
          .ok (sorted.map (·.2)) m' ∧
        SortsBy (·.1.rank) reverse (keys.zip items) sorted := by
  obtain ⟨length, keyed⟩ := mapM_keyed made
  have short : (keys.zip items).length ≤ items.length := by
    rw [List.length_zip]
    exact min_le_right _ _
  have sorts : ∃ sorted, mergeSort (Stepwise.rightFirst (runner tell reveal (fuel + 1)) reverse)
      items.length (keys.zip items) m' = .ok sorted m' ∧
        SortsBy (·.1.rank) reverse (keys.zip items) sorted :=
    mergeSort_sorts short fun p hp q hq =>
      graded.rightFirst (List.of_mem_zip hp).1 (List.of_mem_zip hq).1
  obtain ⟨sorted, run, sorts⟩ := sorts
  refine ⟨sorted, ?_, sorts⟩
  rw [sortValues, M.bind_ok keyed, M.bind_ok run]
  rfl

end

/-! ### Smallest and largest -/

section

variable {tell : Nat → Moment → M σ Unit} {reveal : M σ Unit} {fuel : Nat} {m m' : Machine σ}
  {key : Option Value} {largest : Bool}

/-- The search for an extreme item compares as a sort does. -/
theorem extreme_cons (r : Runner σ) (best : Value × Value) (v : Value) (vs : List Value) :
    extreme r largest key (some best) (v :: vs) = (do
      let k ← keyFor r key v
      let better ← rightFirst r largest best (k, v)
      extreme r largest key (some (if better then (k, v) else best)) vs) := by
  cases largest <;> rfl

/-- The search for an extreme item ends with the one that leads. -/
theorem extreme_leads {keys : List Value} (graded : Graded keys) :
    ∀ {items ks : List Value} {seen : List (Value × Value)} {best : Value × Value}
      {m : Machine σ},
    items.mapM (keyFor (runner tell reveal (fuel + 1)) key) m = .ok ks m' →
    Leads (·.1.rank) largest seen best → best.1 ∈ keys → (∀ k ∈ ks, k ∈ keys) →
    ∃ x, Leads (·.1.rank) largest (seen ++ ks.zip items) x ∧
      extreme (runner tell reveal (fuel + 1)) largest key (some best) items m =
        .ok (some x.2) m'
  | [], ks, seen, best, m, made, leads, _, _ => by
    cases made
    exact ⟨best, by simpa using leads, rfl⟩
  | v :: vs, ks, seen, best, m, made, leads, known, within => by
    obtain ⟨k, ks, m₁, rfl, first, others⟩ := of_mapM_cons made
    obtain ⟨here, within⟩ := List.forall_mem_cons.1 within
    have asked : rightFirst (runner tell reveal (fuel + 1)) largest best (k, v) m₁ =
        .ok (!inOrder largest best.1.rank k.rank) m₁ := graded.rightFirst known here
    let next := if inOrder largest best.1.rank k.rank then best else (k, v)
    have next_known : next.1 ∈ keys := by
      show (if inOrder largest best.1.rank k.rank then best else (k, v)).1 ∈ keys
      split
      · exact known
      · exact here
    obtain ⟨x, leads', run⟩ := extreme_leads graded others
      (leads.concat (k, v)) next_known within
    refine ⟨x, by simpa using leads', ?_⟩
    rw [extreme_cons, M.bind_ok first, M.bind_ok asked, ← run]
    cases inOrder largest best.1.rank k.rank <;> rfl

theorem builtinSorted_eq {r : Runner σ} {v : Value} {keywords : Keywords} {reverse : Bool}
    (options : sortOptions r "sorted" keywords none false m = .ok (key, reverse) m') :
    builtinSorted r [v] keywords m = (do
      let items ← r.iterate v
      makeList (← sortValues r items key reverse)) m' := M.bind_ok options

theorem builtinExtreme_eq {r : Runner σ} {v : Value} {keywords : Keywords} {default : Option Value}
    (options : extremeOptions (if largest then "max" else "min") keywords none none m =
      .ok (key, default) m') :
    builtinExtreme r largest [v] keywords m = (do
      let items ← r.iterate v
      match (← extreme r largest key none items).or default with
      | some v => return v
      | none => fail (.value (.emptyExtreme (if largest then "max" else "min")))) m' :=
  M.bind_ok options

/-- Among items whose keys are ranked, the extreme one is the first of the sorted list. -/
theorem extreme_eq_head {items keys : List Value} (present : items ≠ [])
    (made : items.mapM (keyFor (runner tell reveal (fuel + 1)) key) m = .ok keys m')
    (graded : Graded keys) : ∃ x xs,
      sortValues (runner tell reveal (fuel + 1)) items key largest m = .ok (x :: xs) m' ∧
        extreme (runner tell reveal (fuel + 1)) largest key none items m = .ok (some x) m' := by
  obtain ⟨sorted, run, sorts⟩ := sortValues_sorts made graded
  obtain ⟨v, vs, rfl⟩ := List.exists_cons_of_ne_nil present
  obtain ⟨k, ks, m₁, rfl, first, others⟩ := of_mapM_cons made
  have alone : Leads (·.1.rank) largest [(k, v)] (k, v) := ⟨[], [], rfl, nofun, nofun⟩
  obtain ⟨x, leads, found⟩ := extreme_leads graded others alone
    List.mem_cons_self fun _ => List.mem_cons_of_mem k
  cases sorted with
  | nil => cases sorts.perm.length_eq
  | cons p ps =>
    cases leads.head sorts
    refine ⟨x.2, ps.map (·.2), by rw [run, List.map_cons], ?_⟩
    rw [extreme, M.bind_ok first, found]

end

/-- What sorting owes. A sort that succeeds gives the items in some order, whatever the comparisons
say. If the keys are all integers or truth values, or all strings, it does succeed: the items come
in the order of their keys, those with one key in the order they had, also in reverse. A
`list.sort` that fails has written nothing, so all that its calls of the key function and its
comparisons keep, such as the list, is as it was. With such keys `min` gives the first item of
`sorted`, and `max` the first item of `sorted` in reverse. -/
theorem sort_stable_or_harmless (tell : Nat → Moment → M σ Unit) (reveal : M σ Unit) (fuel : Nat) :
    let r := runner tell reveal (fuel + 1)
    (∀ (s : Runner σ) (items : List Value) (key : Option Value) (reverse : Bool)
      (m m' : Machine σ) (sorted : List Value),
      sortValues s items key reverse m = .ok sorted m' → sorted.Perm items) ∧
    (∀ (items : List Value) (key : Option Value) (reverse : Bool) (m m' : Machine σ)
      (keys : List Value), items.mapM (keyFor r key) m = .ok keys m' → Graded keys →
      ∃ sorted, sortValues r items key reverse m = .ok (sorted.map (·.2)) m' ∧
        SortsBy (·.1.rank) reverse (keys.zip items) sorted) ∧
    (∀ (s : Runner σ) (P : Machine σ → Prop) (K : Value → Prop) (a : Address)
      (keywords : Keywords) (key : Option Value) (reverse : Bool) (m m₁ m' : Machine σ)
      (e : RuntimeError), sortOptions s "sort" keywords none false m = .ok (key, reverse) m₁ →
      (∀ v ∈ (m₁.heap.list? a).getD #[], Upholds P K (keyFor s key v)) →
      (∀ x y, K x → K y → Upholds P (fun _ => True) (s.lessThan x y)) →
      P m₁ → listMethod s a "sort" [] keywords m = .error (.error e) m' → P m') ∧
    ∀ (v : Value) (largest : Bool) (keywords keywords' : Keywords) (key default : Option Value)
      (items keys : List Value) (m m₁ m₂ : Machine σ),
      sortOptions r "sorted" keywords none false m = .ok (key, largest) m →
      extremeOptions (if largest then "max" else "min") keywords' none none m =
        .ok (key, default) m →
      r.iterate v m = .ok items m₁ → items ≠ [] →
      items.mapM (keyFor r key) m₁ = .ok keys m₂ → Graded keys →
      ∃ x xs, builtinSorted r [v] keywords m = makeList (x :: xs) m₂ ∧
        builtinExtreme r largest [v] keywords' m = .ok x m₂ := by
  intro r
  refine ⟨?_, ?_, ?_, ?_⟩
  · intro s items key reverse m m' sorted run
    have upholds : Upholds (fun _ => True) (·.Perm items) (sortValues s items key reverse) :=
      sortValues_upholds (fun _ _ => .any _) fun _ _ _ _ => .any _
    exact (upholds m _ m' trivial (Gives.ok_iff.2 run)).2 sorted rfl
  · intro items key reverse m m' keys made graded
    exact sortValues_sorts made graded
  · intro s P K a keywords key reverse m m₁ m' e options keys compare holds fails
    exact listSort_upholds options keys compare holds fails
  · intro v largest keywords keywords' key default items keys m m₁ m₂ options options' listed
      present made graded
    obtain ⟨x, xs, sorted, found⟩ := extreme_eq_head present made graded
    refine ⟨x, xs, ?_, ?_⟩
    · rw [builtinSorted_eq options, M.bind_ok listed, M.bind_ok sorted]
    · rw [builtinExtreme_eq options', M.bind_ok listed, M.bind_ok found]
      rfl

/-- By absolute value, -1 is the first of `(2, -1, 1)` in order, and 2 in reverse. A `sort` of
`[3, "a"]` fails, and leaves the list as it was. -/
theorem sort_stable_or_harmless_abs :
    let m : Machine Unit :=
      { Machine.start () with heap := ⟨#[some (.list #[.int 3, .str "a"])], 0⟩ }
    let v := Value.tuple 0 [.int 2, .int (-1), .int 1]
    let key := ("key", Value.builtin .abs)
    (∃ xs, builtinSorted (quiet 1) [v] [key] m = makeList (.int (-1) :: xs) m ∧
      builtinExtreme (quiet 1) false [v] [key] m = .ok (.int (-1)) m) ∧
    (∃ xs, builtinSorted (quiet 1) [v] [key, ("reverse", .bool true)] m =
        makeList (.int 2 :: xs) m ∧
      builtinExtreme (quiet 1) true [v] [key] m = .ok (.int 2) m) ∧
    ∃ e m', listMethod (quiet 1) Heap.base "sort" [] [] m = .error (.error e) m' ∧
      m'.heap.list? Heap.base = some #[.int 3, .str "a"] := by
  intro m v key
  obtain ⟨-, -, harmless, extremes⟩ :=
    sort_stable_or_harmless (σ := Unit) (fun _ _ => pure ()) (pure ()) 0
  have graded : Graded [.int 2, .int 1, .int 1] := .inl (by simp [Value.asInt?])
  refine ⟨?_, ?_, ?_⟩
  · obtain ⟨x, xs, sorted, found⟩ := extremes v false [key] [key] _ _ _ _ m m m rfl rfl rfl
      (List.cons_ne_nil _ _) rfl graded
    cases found.symm.trans rfl
    exact ⟨xs, sorted, found⟩
  · obtain ⟨x, xs, sorted, found⟩ := extremes v true [key, ("reverse", .bool true)] [key] _ _ _ _
      m m m rfl rfl rfl (List.cons_ne_nil _ _) rfl graded
    cases found.symm.trans rfl
    exact ⟨xs, sorted, found⟩
  · let P (n : Machine Unit) : Prop := n.heap.list? Heap.base = some #[.int 3, .str "a"]
    let K (v : Value) : Prop := v = .int 3 ∨ v = .str "a"
    have keys : ∀ v ∈ (m.heap.list? Heap.base).getD #[], Upholds P K (keyFor (quiet 1) none v) := by
      intro v mem
      apply Upholds.pure
      simpa [m, Heap.list?, Heap.get?, Heap.base] using mem
    have compare : ∀ x y, K x → K y → Upholds P (fun _ => True) ((quiet 1).lessThan x y) := by
      rintro _ _ (rfl | rfl) (rfl | rfl) n out n' kept ends <;> cases ends <;>
        exact ⟨kept, fun _ _ => trivial⟩
    refine ⟨_, _, rfl, ?_⟩
    exact harmless (quiet 1) P K Heap.base [] none false m m _ _ rfl keys compare rfl rfl

/-- Appending to a list while it is sorted changes the list: a `sort` of `[3, 1]` by its own
`append` fails, and the list is `[3, 1, 3, 1]` then. -/
theorem failed_sort_changes_list :
    let m : Machine Unit := { Machine.start () with heap :=
      ⟨#[some (.list #[.int 3, .int 1]), some (.nativeMethod (.ref Heap.base) "append")], 0⟩ }
    ∃ e m', listMethod (quiet 1) Heap.base "sort" [] [("key", .ref (Heap.base + 1))] m =
        .error (.error e) m' ∧
      m.heap.list? Heap.base = some #[.int 3, .int 1] ∧
      m'.heap.list? Heap.base = some #[.int 3, .int 1, .int 3, .int 1] :=
  ⟨_, _, rfl, rfl, rfl⟩

end Stepwise
