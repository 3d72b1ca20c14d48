import Stepwise.Proofs.Equality
import Stepwise.Proofs.Live

/-!
# What there is to follow

How many objects a heap has and how deep the tuples in them are nested (`Heap.live`,
`Heap.nesting`). What follows the values of a heap and comes to no object twice goes no deeper than
these two allow, as long as no special method takes it elsewhere (`callSpecial_none`).
-/

namespace Stepwise

/-! ### Sizes of heaps -/

theorem Value.nesting_le {v : Value} : ∀ {vs : List Value}, v ∈ vs → v.nesting ≤ Value.nestings vs
  | u :: us, mem => by
    rw [Value.nestings]
    obtain rfl | mem := List.mem_cons.1 mem
    · exact Nat.le_max_left _ _
    · exact Nat.le_trans (nesting_le mem) (Nat.le_max_right _ _)

theorem Table.key_held {t : Table} {e : Value × Value} (mem : e ∈ t.pairs) : e.1 ∈ t.held :=
  List.mem_flatMap.2 ⟨e, mem, List.mem_cons_self⟩

theorem Table.value_held {t : Table} {e : Value × Value} (mem : e ∈ t.pairs) : e.2 ∈ t.held :=
  List.mem_flatMap.2 ⟨e, mem, List.mem_cons_of_mem _ List.mem_cons_self⟩

theorem Table.member_held {t : Table} {v : Value} (mem : v ∈ t.members) : v ∈ t.held := by
  obtain ⟨e, he, rfl⟩ := List.mem_map.1 mem
  exact Table.key_held he

namespace Heap

variable {h : Heap} {a : Address} {o : Object} {v : Value}

/-- The addresses of all objects. -/
def live (h : Heap) : List Address :=
  ((List.range h.size).map (base + ·)).filter fun a => (h.get? a).isSome

/-- How deep the tuples that objects hold are nested. -/
def nesting (h : Heap) : Nat :=
  Value.nestings (h.live.flatMap fun a => ((h.get? a).map Object.held).getD [])

theorem mem_live (found : h.get? a = some o) : a ∈ h.live := by
  refine List.mem_filter.2 ⟨?_, by simp [found]⟩
  unfold get? at found
  split at found
  · cases found
  next above =>
  obtain ⟨inside, -⟩ := Array.getElem?_eq_some_iff.1 (Option.join_eq_some_iff.1 found)
  exact List.mem_map.2
    ⟨a - base, List.mem_range.2 inside, Nat.add_sub_of_le (Nat.le_of_not_lt above)⟩

theorem mem_objects (found : h.get? a = some o) : some o ∈ h.objects := by
  unfold get? at found
  split at found
  · cases found
  · exact Array.mem_of_getElem? (Option.join_eq_some_iff.1 found)

theorem nesting_le (found : h.get? a = some o) (mem : v ∈ o.held) : v.nesting ≤ h.nesting :=
  Value.nesting_le (List.mem_flatMap.2 ⟨a, mem_live found, by simpa [found] using mem⟩)

end Heap

/-! ### Special methods -/

namespace Machine

variable {σ : Type} {m : Machine σ} {r : Runner σ} {v : Value}

/-- A special method that the class of a value does not have is not called. -/
theorem callSpecial_none {name : String} {args : List Value}
    (silent : ∀ cls, m.heap.classOf? v = some cls → m.heap.classLookup? cls name = none) :
    callSpecial r v name args m = .ok none m := by
  have missing : ((m.heap.classOf? v).bind fun cls => m.heap.classLookup? cls name) = none := by
    cases cls : m.heap.classOf? v with
    | none => rfl
    | some cls' => exact silent cls' cls
  unfold callSpecial callSpecialWith
  rw [getHeap_bind]
  simp only [missing]
  rfl

end Machine

end Stepwise
