import Stepwise.Proofs.Comparing

/-!
# Comparisons that end

Comparing two values comes to an end, and then no deeper than the numbers of objects and of nested
tuples allow, exactly if no comparison is made again inside itself (`compare_ends_iff`). Two lists
that hold themselves are enough for a comparison without end: whether they are equal is the question
whether they are equal.

## The model

A comparison that is not of two objects goes on to values that are nested less deep, so a comparison
without end comes back to a pair of objects (`Heap.circular_iff`), of which there are only so many
(`Heap.sites`).
-/

namespace Stepwise

open Relation Script

variable {σ : Type}

/-! ### How deep a comparison goes -/

namespace Heap

variable {h : Heap} {c d : Comparison} {a b x y v : Value}

theorem mem_of_asks {cs : List Check} (asks : h.Asks cs x y) : .pair x y ∈ cs := by
  induction asks with
  | here => exact List.mem_cons_self
  | pass _ ih | same _ _ ih => exact List.mem_cons_of_mem _ ih

theorem mem_of_tries {items : List Value} (tries : h.Tries v items x) : x ∈ items := by
  induction tries with
  | here => exact List.mem_cons_self
  | later _ _ _ ih => exact List.mem_cons_of_mem _ ih

/-- All comparisons of two objects. -/
def sites (h : Heap) : List Comparison :=
  [ComparisonKind.equal, .order].flatMap fun kind => h.live.flatMap fun a => h.live.map fun b =>
    ⟨kind, .ref a, .ref b⟩

/-- A bound on the steps until a comparison of two objects. -/
def depth (h : Heap) : Comparison → Nat
  | ⟨.member, a, _⟩ => max h.nesting a.nesting + 1
  | ⟨_, a, _⟩ => a.nesting

/-- How deep a comparison goes at most. -/
def reach (h : Heap) (c : Comparison) : Nat :=
  Tour.room (2 * (h.live.length * h.live.length)) (max h.nesting c.left.nesting + 1)

/-- What a value on the heap is compared by is no deeper than what objects hold. -/
theorem nesting_within {p : Address} {o : Object} (found : h.get? p = some o)
    (mem : x ∈ h.within (.ref p)) : x.nesting ≤ h.nesting := by
  refine nesting_le found ?_
  simp only [within, shape, found] at mem
  cases o with
  | list => exact mem
  | dict =>
    obtain ⟨e, he, rfl⟩ := List.mem_map.1 mem
    exact Table.value_held he
  | _ => cases mem

theorem nesting_items (mem : x ∈ h.itemsOf a) : x.nesting ≤ max h.nesting a.nesting := by
  cases shape : h.shape a with
  | sequence items =>
    have within : x ∈ h.within a := by simpa only [itemsOf, Heap.within, shape] using mem
    obtain ⟨mark, rfl⟩ | ⟨p, own, rfl, found, rfl⟩ := shape_sequence shape
    · have : x.nesting ≤ Value.nestings items := Value.nesting_le within
      rw [Value.nesting]
      omega
    · exact Nat.le_trans (nesting_within found within) (Nat.le_max_left _ _)
  | _ =>
    simp only [itemsOf, shape] at mem
    cases mem

/-- A comparison inside another one is one of values that are held. -/
theorem involves_cases (next : h.Involves c d) :
    (∃ a v x, c = ⟨.member, a, v⟩ ∧ x ∈ h.itemsOf a ∧ d = ⟨.equal, x, v⟩) ∨
      c.kind ≠ .member ∧ d.kind ≠ .member ∧ h.Aligned c.left c.right ∧
        d.left ∈ h.within c.left := by
  cases next with
  | equal asks =>
    obtain ⟨aligned, held, -⟩ := aligned_of_pair (mem_of_asks asks)
    exact .inr ⟨nofun, nofun, aligned, held⟩
  | item asks | order asks =>
    obtain ⟨aligned, held, -⟩ := aligned_of_side (mem_of_asks asks)
    exact .inr ⟨nofun, nofun, aligned, held⟩
  | member tries => exact .inl ⟨_, _, _, rfl, mem_of_tries tries, rfl⟩

theorem depth_of_ne (kind : c.kind ≠ .member) : h.depth c = c.left.nesting := by
  obtain ⟨_ | _ | _, a, b⟩ := c
  · rfl
  · rfl
  · exact absurd rfl kind

theorem mem_sites {kind : ComparisonKind} {p q : Address} {o o' : Object} (ne : kind ≠ .member)
    (found : h.get? p = some o) (found' : h.get? q = some o') :
    ⟨kind, .ref p, .ref q⟩ ∈ h.sites := by
  refine List.mem_flatMap.2 ⟨kind, ?_, List.mem_flatMap.2 ⟨p, mem_live found,
    List.mem_map.2 ⟨q, mem_live found', rfl⟩⟩⟩
  cases kind <;> simp_all

theorem length_sites : h.sites.length = 2 * (h.live.length * h.live.length) := by
  simp only [sites, List.flatMap_cons, List.flatMap_nil, List.length_append, List.length_nil,
    List.length_flatMap, List.length_map, List.map_const', List.sum_replicate_nat]
  omega

theorem comparing_fits {most : Nat} (le : h.nesting ≤ most) :
    h.comparing.Fits h.sites h.depth most where
  marked := nofun
  afresh := by
    rintro ⟨kind, a, b⟩ d ⟨next, anchor⟩
    obtain ⟨a, v, x, same, -⟩ | ⟨ne, -, aligned, -⟩ := involves_cases next
    · cases same
      cases anchor
    · cases aligned with
      | tuples => cases kind <;> cases anchor
      | objects found found' => exact mem_sites ne found found'
  shallower := by
    rintro ⟨kind, a, b⟩ d - ⟨next, anchor⟩
    obtain ⟨a, v, x, same, held, rfl⟩ | ⟨ne, ne', aligned, held⟩ := involves_cases next
    · cases same
      exact Nat.lt_succ_of_le (nesting_items held)
    · rw [depth_of_ne ne, depth_of_ne ne']
      cases aligned with
      | tuples => exact Nat.lt_succ_of_le (Value.nesting_le held)
      | objects => cases kind <;> first | exact absurd rfl ne | cases anchor
  inside_le := nofun
  afresh_le := by
    rintro ⟨kind, a, b⟩ d ⟨next, anchor⟩
    obtain ⟨a, v, x, same, -⟩ | ⟨-, ne, aligned, held⟩ := involves_cases next
    · cases same
      cases anchor
    · rw [depth_of_ne ne]
      cases aligned with
      | tuples => cases kind <;> cases anchor
      | objects found _ => exact Nat.le_trans (nesting_within found held) le

/-! ### Comparisons without end -/

theorem leads_eq : h.comparing.Leads = h.Involves := by
  funext c d
  refine propext ⟨fun step => step.elim And.left And.left, fun next => ?_⟩
  cases kind : anchored c with
  | true => exact .inr ⟨next, kind⟩
  | false => exact .inl ⟨next, kind⟩

theorem reaches_iff : h.comparing.Reaches c d ↔ ReflTransGen h.Involves c d := by
  rw [Tour.Reaches, leads_eq]

/-- Depth is lost on the way from one comparison to another one inside it, unless there is a
comparison of two objects on it. -/
theorem depth_lt_or_afresh (way : TransGen h.Involves c d) : h.depth d < h.depth c ∨
    ∃ x y, h.comparing.Reaches c x ∧ h.comparing.afresh x y ∧ h.comparing.Reaches y d := by
  have step {x y : Comparison} (next : h.Involves x y) :
      h.depth y < h.depth x ∨ h.comparing.afresh x y := by
    cases kind : anchored x with
    | true => exact .inr ⟨next, kind⟩
    | false => exact .inl ((comparing_fits (Nat.le_refl _)).shallower rfl ⟨next, kind⟩)
  -- As long as no two objects have been compared, depth has been lost with every step.
  induction way with
  | single next => exact (step next).imp id fun afresh => ⟨c, _, .refl, afresh, .refl⟩
  | @tail x y way next ih =>
    obtain lower | ⟨u, v, first, afresh, rest⟩ := ih
    · obtain lower' | afresh := step next
      · exact .inl (Nat.lt_trans lower' lower)
      · exact .inr ⟨x, y, reaches_iff.2 way.to_reflTransGen, afresh, .refl⟩
    · exact .inr ⟨u, v, first, afresh, reaches_iff.2 ((reaches_iff.1 rest).tail next)⟩

theorem circular_iff : h.Circular c ↔ h.comparing.Endless c := by
  constructor
  · rintro ⟨d, way, round⟩
    obtain lower | ⟨x, y, first, afresh, rest⟩ := depth_lt_or_afresh round
    · exact absurd lower (Nat.lt_irrefl _)
    · exact ⟨x, y, .trans (reaches_iff.2 way) first, afresh, .trans rest first⟩
  · rintro ⟨x, y, way, afresh, back⟩
    exact ⟨x, reaches_iff.1 way, .head' afresh.1 (reaches_iff.1 back)⟩

/-- A comparison that comes to none that is made again inside itself goes no deeper than the numbers
of objects and of nested tuples allow. -/
theorem ends_of_reach {fuel : Nat} (finite : ¬h.Circular c) (le : h.reach c ≤ fuel) :
    h.comparing.Ends fuel [] c := by
  rw [circular_iff] at finite
  have fits := h.comparing_fits
    (Nat.le_trans (Nat.le_max_left h.nesting c.left.nesting) (Nat.le_succ _))
  have shallow : h.depth c ≤ max h.nesting c.left.nesting + 1 := by
    obtain ⟨_ | _ | _, a, b⟩ := c <;> simp only [depth] <;> omega
  rw [reach, ← length_sites] at le
  exact fits.ends_of_room finite shallow le

end Heap

end Stepwise
