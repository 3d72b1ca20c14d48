import Stepwise.Proofs.Selection

/-!
# What slices write

Writing and deleting slices agrees with reading them (`slices_write`): the positions that are read
are those that are replaced or removed, and the items at all others stay, in their order.

## The model

A list is supposed to have less than `2 ** 62` items, which all lists in memory have. What comes in
is a list as well, maybe the same one, so that no function of the script runs; it is copied before
anything is written. A slice without gaps is written from a start and an end that are computed on
their own (`Slice.replaceSpan_eq` says that they are those of the span that is read).
-/

namespace Stepwise

open Script Heap

/-! ### Lists with parts replaced -/

namespace Slice

variable {α : Type} {s : Slice} {items new xs : List α} {ps : List Nat}

/-- What stays of a list are the items at the other positions. -/
theorem removeAt_items : ((List.range items.length).filter (· ∉ ps)).map (items[·]?) =
    (removeAt items ps).map some := by
  have each (e : α × Nat) (mem : e ∈ items.zipIdx.filter fun e => !ps.contains e.2) :
      items[e.2]? = some e.1 :=
    List.mem_zipIdx_iff_getElem?.1 (List.mem_filter.1 mem).1
  calc ((List.range items.length).filter (· ∉ ps)).map (items[·]?)
      = ((items.zipIdx.map Prod.snd).filter (· ∉ ps)).map (items[·]?) := by
        rw [List.zipIdx_map_snd, List.range_eq_range']
    _ = (items.zipIdx.filter fun e => !ps.contains e.2).map fun e => items[e.2]? := by
        rw [List.filter_map, List.map_map]
        congr 2
        funext e
        simp
    _ = (removeAt items ps).map some := by
        rw [removeAt, List.map_map]
        exact List.map_congr_left each

theorem length_replaceAt : ∀ {items xs : List α} {ps : List Nat},
    (replaceAt items ps xs).length = items.length
  | items, [], [] | items, _ :: _, [] | items, [], _ :: _ => rfl
  | items, x :: xs, p :: ps => by rw [replaceAt, length_replaceAt, List.length_set]

theorem replaceAt_nil : replaceAt items [] xs = items := by
  cases xs <;> rfl

/-- Other positions keep their items. -/
theorem replaceAt_other {p : Nat} (other : p ∉ ps) : (replaceAt items ps xs)[p]? = items[p]? := by
  induction ps generalizing items xs with
  | nil => rw [replaceAt_nil]
  | cons q ps ih =>
    cases xs with
    | nil => rfl
    | cons x xs =>
      rw [List.mem_cons, not_or] at other
      rw [replaceAt, ih other.2, List.getElem?_set_ne (Ne.symm other.1)]

/-- What has been put somewhere is found there, in the same order. -/
theorem replaceAt_items (distinct : ps.Nodup) (inside : ∀ p ∈ ps, p < items.length)
    (len : xs.length = ps.length) : ps.map ((replaceAt items ps xs)[·]?) = xs.map some := by
  induction ps generalizing items xs with
  | nil => rw [List.eq_nil_of_length_eq_zero len]; rfl
  | cons p ps ih =>
    cases xs with
    | nil => cases len
    | cons x xs =>
      rw [List.nodup_cons] at distinct
      have first : (replaceAt (items.set p x) ps xs)[p]? = some x := by
        rw [replaceAt_other distinct.1, List.getElem?_set_self (inside p List.mem_cons_self)]
      rw [List.map_cons, List.map_cons, replaceAt, first, ih distinct.2]
      · intro q mem
        rw [List.length_set]
        exact inside q (List.mem_cons_of_mem p mem)
      · exact Nat.succ.inj len

/-- To put items where they are changes nothing. -/
theorem replaceAt_self (picked : ps.map (items[·]?) = xs.map some) :
    replaceAt items ps xs = items := by
  induction ps generalizing xs with
  | nil => exact replaceAt_nil
  | cons p ps ih =>
    cases xs with
    | nil => cases picked
    | cons x xs =>
      obtain ⟨first, rest⟩ := List.cons_eq_cons.1 picked
      obtain ⟨lt, rfl⟩ := List.getElem?_eq_some_iff.1 first
      rw [replaceAt, List.set_getElem_self, ih rest]

/-- A slice without gaps is written where it is read: from where its lower bound lies to behind the
last position that is selected, if there is one. -/
theorem replaceSpan_eq (hs : s.stride = 1) (small : items.length < 0x4000000000000000)
    (visits : s.Visits items.length ps) : ∃ hi, let lo := (s.origin items.length).toNat
      ps = List.range' lo (hi - lo) ∧ lo ≤ hi ∧ hi ≤ items.length ∧
        ∀ new, s.replaceSpan items ps new = items.take lo ++ new ++ items.drop hi := by
  let lo := (s.origin items.length).toNat
  let hi := max lo (s.limit items.length).toNat
  have up : 0 < s.stride := by omega
  have span : ps = List.range' lo (hi - lo) := by
    rw [show hi - lo = (s.limit items.length).toNat - lo by omega]
    exact visits.eq (visits_span hs small).computed
  have below : hi ≤ items.length := by
    have origin : _ ∧ s.origin items.length ≤ s.high items.length := bound_between ..
    have limit : _ ∧ s.limit items.length ≤ s.high items.length := bound_between ..
    rw [high, if_pos up] at origin limit
    omega
  have start : (s.lower.map (clamp (countOf items.length) 0 (countOf items.length))).getD 0 =
      s.origin items.length := by
    rw [countOf_eq (by omega), ← first_eq, first, if_pos up]
  refine ⟨hi, span, Nat.le_max_left .., below, fun new => ?_⟩
  rw [replaceSpan, start]
  by_cases empty : hi - lo = 0
  · have last : ps.getLast? = none := by rw [span, List.getLast?_range', if_pos empty]
    rw [last]
    show items.take lo ++ new ++ items.drop (max lo lo) = items.take lo ++ new ++ items.drop hi
    rw [show max lo lo = hi by omega]
  · have last : ps.getLast? = some (lo + (hi - lo) - 1) := by
      rw [span, List.getLast?_range', if_neg empty]
    have stop : max (lo + (hi - lo) - 1 + 1) lo = hi := by omega
    rw [last]
    exact congrArg (fun k => items.take lo ++ new ++ items.drop k) stop

/-- What is read from a span is what stands there. -/
theorem span_items {lo hi : Nat} (le : lo ≤ hi) (below : hi ≤ items.length)
    (picked : (List.range' lo (hi - lo)).map (items[·]?) = xs.map some) :
    items.take lo ++ xs ++ items.drop hi = items := by
  rw [map_range' (by omega)] at picked
  obtain rfl := List.map_injective_iff.2 (Option.some_injective _) picked
  have rest : (items.drop lo).drop (hi - lo) = items.drop hi := by
    rw [List.drop_drop, show lo + (hi - lo) = hi by omega]
  rw [← rest, List.append_assoc, List.take_append_drop, List.take_append_drop]

end Slice

/-! ### Lists on the heap -/

variable {σ : Type} {m : Machine σ} {a b : Address} {items new : List Value} {s : Slice}
  {ps : List Nat}

/-- The machine in which a list has other items. -/
def Machine.withItems (m : Machine σ) (a : Address) (items : List Value) : Machine σ :=
  { m with heap := m.heap.modifyList a fun _ => items.toArray }

/-- The list has them then, and nothing else has changed. -/
theorem get?_withItems (ha : m.heap.get? a = some (.list items.toArray)) (b : Address) :
    (m.withItems a new).heap.get? b =
      if a = b then some (.list new.toArray) else m.heap.get? b := by
  unfold Machine.withItems Heap.modifyList
  rw [get?_modify]
  split
  · next same =>
    rw [← same, ha]
    rfl
  · rfl

/-- To give a list the items that it has changes nothing. -/
theorem retains_withItems (ha : m.heap.get? a = some (.list items.toArray)) :
    m.heap.Retains (m.withItems a items).heap := by
  intro b o found
  rw [get?_withItems ha]
  split
  · next same => rw [← ha, same, found]
  · exact found

theorem delSlice_run (ha : m.heap.get? a = some (.list items.toArray))
    (visits : s.Visits items.length ps) :
    delSlice (.ref a) s m = .ok () (m.withItems a (Slice.removeAt items ps)) := by
  have positions : s.positions items.toArray.size = some ps := visits.computed
  rw [delSlice, getHeap_bind, indexed_list ha]
  dsimp only
  rw [positions]
  rfl

theorem setSlice_run (tell : Nat → Moment → M σ Unit) (reveal : M σ Unit) (fuel : Nat)
    (ha : m.heap.get? a = some (.list items.toArray))
    (hb : m.heap.get? b = some (.list new.toArray)) (visits : s.Visits items.length ps) :
    setSlice (runner tell reveal (fuel + 1)) (.ref a) s (.ref b) m =
      if s.stride = 1 then .ok () (m.withItems a (s.replaceSpan items ps new))
      else if ps.length ≠ new.length then
        .error (.error ⟨.value (.sliceSize new.length ps.length), m.pos⟩) m
      else .ok () (m.withItems a (Slice.replaceAt items ps new)) := by
  have positions : s.positions items.toArray.size = some ps := visits.computed
  have source : itemsOf (runner tell reveal fuel) (.ref b) m = .ok new m := by
    rw [itemsOf, getHeap_bind, hb]
    rfl
  have copied : attempt ((runner tell reveal (fuel + 1)).iterate (.ref b)) m = .ok (.ok new) m := by
    show attempt (itemsOf (runner tell reveal fuel) (.ref b)) m = _
    rw [attempt, source]
  rw [setSlice, getHeap_bind, indexed_list ha]
  dsimp only
  rw [M.bind_ok copied]
  dsimp only
  rw [positions]
  show (if s.stride = 1 then _ else _ : M σ Unit) m = _
  split
  · rfl
  · split <;> rfl

/-- Writing and deleting a slice of a list does to it what reading the slice says: it selects the
positions `ps`. -/
structure WritesAsRead (r : Runner σ) (m : Machine σ) (a : Address) (s : Slice)
    (items : List Value) (ps : List Nat) : Prop where
  /-- The items at these positions are read. -/
  read : ∃ xs, ps.map (items[·]?) = xs.map some ∧ GivesItems (getSlice (.ref a) s) m .list xs
  /-- Deleting leaves the items at all other positions, in their order. -/
  delete : ∃ rest, ((List.range items.length).filter (· ∉ ps)).map (items[·]?) = rest.map some ∧
    delSlice (.ref a) s m = .ok () (m.withItems a rest)
  /-- Without gaps, the positions are a span, which is empty at the lower bound if there are none;
  and any number of items may come in its place. -/
  span : s.stride = 1 → ∃ hi, let lo := (s.origin items.length).toNat
    ps = List.range' lo (hi - lo) ∧ lo ≤ hi ∧ hi ≤ items.length ∧
      ∀ {b new}, m.heap.Sequence .list (.ref b) new → setSlice r (.ref a) s (.ref b) m =
        .ok () (m.withItems a (items.take lo ++ new ++ items.drop hi))
  /-- With gaps, each position gets one of as many items, and all others keep theirs; so the slice
  then reads what has been written. -/
  spread : s.stride ≠ 1 → ∀ {b new}, m.heap.Sequence .list (.ref b) new → new.length = ps.length →
    ∃ items', setSlice r (.ref a) s (.ref b) m = .ok () (m.withItems a items') ∧
      items'.length = items.length ∧ (∀ p, p ∉ ps → items'[p]? = items[p]?) ∧
      GivesItems (getSlice (.ref a) s) (m.withItems a items') .list new
  /-- With gaps, another number of items is an error, and nothing changes. -/
  misfit : s.stride ≠ 1 → ∀ {b new}, m.heap.Sequence .list (.ref b) new → new.length ≠ ps.length →
    setSlice r (.ref a) s (.ref b) m =
      .error (.error ⟨.value (.sliceSize new.length ps.length), m.pos⟩) m
  /-- To write what has been read changes nothing. -/
  self : ∃ m', (getSlice (.ref a) s >>= setSlice r (.ref a) s) m = .ok () m' ∧
    m.heap.Retains m'.heap

section

variable (tell : Nat → Moment → M σ Unit) (reveal : M σ Unit) (fuel : Nat)
  (ha : m.heap.get? a = some (.list items.toArray)) (visits : s.Visits items.length ps)

include ha visits

theorem setSlice_spread (gaps : s.stride ≠ 1)
    (hb : m.heap.get? b = some (.list new.toArray)) (len : new.length = ps.length) :
    ∃ items', setSlice (runner tell reveal (fuel + 1)) (.ref a) s (.ref b) m =
        .ok () (m.withItems a items') ∧
      items'.length = items.length ∧ (∀ p, p ∉ ps → items'[p]? = items[p]?) ∧
      GivesItems (getSlice (.ref a) s) (m.withItems a items') .list new := by
  have same : (Slice.replaceAt items ps new).length = items.length := Slice.length_replaceAt
  have written : (m.withItems a (Slice.replaceAt items ps new)).heap.Sequence .list (.ref a)
      (Slice.replaceAt items ps new) := .list (by rw [get?_withItems ha, if_pos rfl])
  refine ⟨Slice.replaceAt items ps new, ?_, same, fun p => Slice.replaceAt_other, ?_⟩
  · rw [setSlice_run tell reveal fuel ha hb visits, if_neg gaps, if_neg (by omega)]
  · exact getSlice_givesItems written (same ▸ visits)
      (Slice.replaceAt_items visits.distinct visits.inside len)

/-- To write what is read leaves the list as it is. -/
theorem setSlice_self {xs : List Value} (small : items.length < 0x4000000000000000)
    (hb : m.heap.get? b = some (.list xs.toArray)) (picked : ps.map (items[·]?) = xs.map some) :
    setSlice (runner tell reveal (fuel + 1)) (.ref a) s (.ref b) m =
      .ok () (m.withItems a items) := by
  rw [setSlice_run tell reveal fuel ha hb visits]
  by_cases one : s.stride = 1
  · obtain ⟨hi, span, le, below, replaced⟩ := Slice.replaceSpan_eq one small visits
    rw [if_pos one, replaced, Slice.span_items le below (span ▸ picked)]
  · have len : ps.length = xs.length := by simpa using congrArg List.length picked
    rw [if_neg one, if_neg (by omega), Slice.replaceAt_self picked]

end

/-- Writing and deleting slices of lists agrees with reading them. -/
theorem slices_write (tell : Nat → Moment → M σ Unit) (reveal : M σ Unit) (fuel : Nat)
    (ha : m.heap.Sequence .list (.ref a) items) (small : items.length < 0x4000000000000000)
    (hs : s.Moderate) : ∃ ps, s.Visits items.length ps ∧
      WritesAsRead (runner tell reveal (fuel + 1)) m a s items ps := by
  have visits := hs.visits small
  obtain ⟨xs, picked⟩ := Slice.exists_items visits.inside
  have read := getSlice_givesItems ha visits picked
  cases ha with
  | list ha =>
    refine ⟨_, visits, ⟨xs, picked, read⟩, ?delete, fun one => ?span,
      fun gaps b new hb len => ?spread, fun gaps b new hb len => ?misfit, ?self⟩
    case delete => exact ⟨_, Slice.removeAt_items, delSlice_run ha visits⟩
    case span =>
      obtain ⟨hi, span, le, below, replaced⟩ := Slice.replaceSpan_eq one small visits
      refine ⟨hi, span, le, below, fun {b new} hb => ?_⟩
      cases hb with
      | list hb => rw [setSlice_run tell reveal fuel ha hb visits, if_pos one, replaced]
    case spread =>
      cases hb with
      | list hb => exact setSlice_spread tell reveal fuel ha visits gaps hb len
    case misfit =>
      cases hb with
      | list hb =>
        rw [setSlice_run tell reveal fuel ha hb visits, if_neg gaps, if_pos (Ne.symm len)]
    case self =>
      obtain ⟨v, m', run, retains, seq⟩ := read
      cases seq with
      | list hb =>
        have kept := retains _ _ ha
        refine ⟨_, ?_, retains.trans (retains_withItems kept)⟩
        rw [M.bind_ok run]
        exact setSlice_self tell reveal fuel kept visits small hb picked

/-- What `a[::-2]` reads of a list of three items, and what `del a[::-2]` leaves. -/
theorem slices_write_back :
    let h := (Machine.start ()).heap
    let items : List Value := [.int 1, .int 2, .int 3]
    let m : Machine Unit := { Machine.start () with heap := (h.alloc (.list items.toArray)).2 }
    let s : Slice := ⟨none, none, some (-2)⟩
    m.heap.Sequence .list (.ref h.next) items ∧ s.Moderate ∧
      WritesAsRead (quiet 1) m h.next s items [2, 0] ∧
      delSlice (.ref h.next) s m = .ok () (m.withItems h.next [.int 2]) := by
  intro h items m s
  have list : m.heap.Sequence .list (.ref h.next) items :=
    .list (get?_alloc_next (h := h) (.list items.toArray))
  have moderate : s.Moderate := ⟨by decide, by decide⟩
  obtain ⟨ps, visits, written⟩ :=
    slices_write (fun _ _ => pure ()) (pure ()) 0 list (by decide) moderate
  obtain rfl : ps = [2, 0] := visits.eq (by decide)
  obtain ⟨rest, others, deleted⟩ := written.delete
  obtain rfl : [Value.int 2] = rest := List.map_injective_iff.2 (Option.some_injective _) others
  exact ⟨list, moderate, written, deleted⟩

end Stepwise
