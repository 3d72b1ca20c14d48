import Stepwise.Proofs.Relation.Order

/-!
# Coupled items

Listing the items of a value, and reading, writing and deleting items and slices, go alike on both
sides.
-/

namespace Stepwise

open Script Coupling

variable {σ τ : Type} {C : Coupling σ τ} [hC : C.Lawful] {c : C.Ctx} {w : World}
variable {α β : Type} {A : Rel α β}
variable {r : Runner σ} {r' : Runner τ} (hr : RunnerRel C r r')

/-! ### Arrays and slices -/

/-- Arrays that are related item by item. -/
abbrev ArrayRel : Rel (Array Value) (Array Value) := fun w is is' =>
  ValuesRel w is.toList is'.toList

namespace ArrayRel

variable {is is' : Array Value}

theorem size (h : ArrayRel w is is') : is.size = is'.size := by
  simpa using ListRel.length h

theorem get? (h : ArrayRel w is is') (n : Nat) : OptionRel ValueRel w is[n]? is'[n]? := by
  simpa using ListRel.get? h n

theorem itemAt (h : ArrayRel w is is') (n : Nat) :
    ValueRel w (Stepwise.itemAt is n) (Stepwise.itemAt is' n) := by
  simpa only [Stepwise.itemAt, Array.getD_eq_getD_getElem?] using (get? h n).getD .none

theorem itemsAt (h : ArrayRel w is is') : ∀ ps : List Nat,
    OptionRel ValuesRel w (Slice.itemsAt is ps) (Slice.itemsAt is' ps)
  | [] => .some .nil
  | p :: ps => by
    simp only [Slice.itemsAt, List.mapM_cons]
    exact (get? h p).bind fun hv => (itemsAt h ps).bind fun hvs => .some (.cons hv hvs)

theorem pick (h : ArrayRel w is is') (s : Slice) :
    OptionRel ValuesRel w (s.pick is) (s.pick is') := by
  unfold Slice.pick
  rw [size h]
  cases s.positions is'.size with
  | none => exact .none
  | some ps => exact itemsAt h ps

end ArrayRel

theorem ListRel.replaceSpan {is is' new new' : List Value} (h : ValuesRel w is is')
    (hn : ValuesRel w new new') (s : Slice) (ps : List Nat) :
    ValuesRel w (s.replaceSpan is ps new) (s.replaceSpan is' ps new') := by
  simp only [Slice.replaceSpan, h.length]
  exact ((h.take _).append hn).append (h.drop _)

theorem ListRel.replaceAt : ∀ (ps : List Nat) {is is' new new' : List Value}, ValuesRel w is is' →
    ValuesRel w new new' → ValuesRel w (Slice.replaceAt is ps new) (Slice.replaceAt is' ps new')
  | [], _, _, _, _, h, _ => by simpa only [Slice.replaceAt] using h
  | p :: ps, _, _, _, _, h, .nil => by simpa only [Slice.replaceAt] using h
  | p :: ps, _, _, _, _, h, .cons hv hvs => by
    simpa only [Slice.replaceAt] using ListRel.replaceAt ps (h.set hv p) hvs

theorem ListRel.removeAt {is is' : List Value} (h : ValuesRel w is is') (ps : List Nat) :
    ValuesRel w (Slice.removeAt is ps) (Slice.removeAt is' ps) := by
  have key : ∀ (n : Nat), ListRel (PairRel ValueRel Same) w (is.zipIdx n) (is'.zipIdx n) := by
    induction h with
    | nil => exact fun _ => .nil
    | cons hv _ ih => exact fun n => .cons ⟨hv, rfl⟩ (ih (n + 1))
  refine ((key 0).filter fun h => ?_).map fun h => h.fst
  rw [h.snd]

omit hC in
/-- The same value on both sides, if there is one. -/
theorem enough_same {α : Type} (o : Option α) : C.Sim c w Same (enough o) (enough o) :=
  .enough (.of_eq rfl)

include hr

/-! ### Iteration -/

theorem drain_sim {fuel fuel' : Nat} (rounds : C.Rounds fuel fuel') :
    ∀ {w : World} {v v' : Value} {items items' : List Value},
    ValueRel w v v' → ValuesRel w items items' →
    C.Sim c w ValuesRel (drain r v fuel items) (drain r' v' fuel' items') := by
  induction rounds with
  | stop => exact fun _ _ => .stop
  | left h => exact fun _ _ => .left h
  | @round fuel fuel' _ ih =>
    intro w v v' items items' hv hi
    refine (callSpecial_sim hr (.inr (by decide)) hv .nil).attempt_bind ?_ fun w₁ x x' h₁ hx => ?_
    · intro _ e m he
      dsimp only
      rw [if_neg he.1]
      exact .rethrow he
    cases hx with
    | ok hx =>
      cases hx with
      | some hx => exact ih (up h₁ hv) (.cons hx (up h₁ hi))
      | none => exact failType_sim _ (up h₁ hv)
    | error he =>
      refine .ite (by rw [he.fault.kind]) (fun _ => .pure ?_) fun _ => .rethrow he
      exact (up h₁ hi).reverse

theorem itemsOfInstance_sim {v v' : Value} (hv : ValueRel w v v') :
    C.Sim c w ValuesRel (itemsOfInstance r v) (itemsOfInstance r' v') := by
  refine (callSpecial_sim hr (.inr (by decide)) hv .nil).bind fun w₁ x x' h₁ hx => ?_
  cases hx with
  | none => exact failType_sim _ (up h₁ hv)
  | some hx =>
    refine .ite (by rw [hx.identical (up h₁ hv)]) (fun _ => ?_) fun _ => hr.iterate hx
    exact drain_sim hr hr.bounds.rounds hx .nil

omit hr hC in
theorem ListRel.refl_of {vs : List Value} (h : ∀ v ∈ vs, ValueRel w v v) : ValuesRel w vs vs :=
  List.forall₂_same.2 h

omit hr hC in
theorem ListRel.ints (ns : List Int) : ValuesRel w (ns.map .int) (ns.map .int) := by
  refine ListRel.refl_of fun v hv => ?_
  obtain ⟨n, -, rfl⟩ := List.mem_map.1 hv
  exact .int n

theorem itemsOf_sim {v v' : Value} (hv : ValueRel w v v') :
    C.Sim c w ValuesRel (itemsOf r v) (itemsOf r' v') := by
  have same := hv
  cases hv with
  | str s =>
    refine .pure (ListRel.refl_of fun v hv => ?_)
    obtain ⟨ch, -, rfl⟩ := List.mem_map.1 hv
    exact .str _
  | tuple _ h => exact .pure h
  | range a b d =>
    refine (enough_same _).bind fun _ ns ns' _ hn => ?_
    cases hn
    exact .pure (ListRel.ints ns)
  | ref ha =>
    refine .getHeap fun m m' hm => ?_
    obtain ⟨e, e'⟩ | ⟨o, o', e, e', ho⟩ := (hC.near hm).heap.object ha <;> simp only [e, e']
    · exact failType_sim _ same
    · cases ho with
      | list h => exact .pure h
      | dict h | set h => exact .pure (TableRel.members h)
      | inst _ => exact itemsOfInstance_sim hr same
      | _ => exact failType_sim _ same
  | _ => exact failType_sim _ same

/-! ### Reading items -/

/-- Related ways of indexing. -/
inductive IndexedRel (w : World) : Indexed → Indexed → Prop
  | list {is is'} (h : ArrayRel w is is') : IndexedRel w (.list is) (.list is')
  | dict {t t'} (h : TableRel w t t') : IndexedRel w (.dict t) (.dict t')
  | instance_ : IndexedRel w .instance_ .instance_
  | other : IndexedRel w .other .other

omit hr hC in
theorem HeapRel.indexed {h h' : Heap} {v v' : Value} (H : HeapRel w h h') (hv : ValueRel w v v') :
    IndexedRel w (h.indexed v) (h'.indexed v') := by
  unfold Heap.indexed
  obtain ⟨e, e'⟩ | ⟨o, o', e, e', ho⟩ := (H.object? hv).cases <;> simp only [e, e']
  · exact .other
  · cases ho with
    | list h => exact .list h
    | dict h => exact .dict h
    | inst _ => exact .instance_
    | _ => exact .other

omit hr in
theorem position_sim (kind : String) {v v' : Value} (hv : ValueRel w v v') (len : Nat) :
    C.Sim c w Same (position kind v len) (position kind v' len) := by
  unfold position
  rw [hv.asInt?]
  cases v'.asInt? with
  | none => exact .ite .rfl (fun _ => failType_sim _ hv) fun _ => failType_sim _ hv
  | some n => exact .ite .rfl (fun _ => fail_sim (.plain rfl)) fun _ => .pure rfl

omit hr in
theorem changedPosition_sim {v v' : Value} (hc : C.changes) (hv : ValueRel w v v') (len : Nat) :
    C.Sim c w Same (changedPosition v len) (changedPosition v' len) := by
  refine ((position_sim _ hv _).attempt (hC.upright hc)).bind fun w₁ n n' h₁ hn => ?_
  cases hn with
  | ok hn => exact .pure hn
  | @error e e' he =>
    obtain ⟨f, p⟩ := e
    obtain ⟨f', p'⟩ := e'
    obtain ⟨hf : FaultRel w₁ f f', hp⟩ := he
    dsimp only
    have again := Sim.rethrow (C := C) (c := c) (A := Same (α := Nat)) ⟨hf, hp⟩
    cases hf with
    | @plain f h =>
      cases f with
      | index _ => exact fail_sim (.plain rfl)
      | _ => exact again
    | _ => exact again

theorem getEntry_sim {t t' : Table} {k k' : Value} (ht : TableRel w t t') (hk : ValueRel w k k') :
    C.Sim c w ValueRel (getEntry r t k) (getEntry r' t' k') := by
  refine (keyOf_sim hk).bind fun w₁ h h' h₁ hh => ?_
  obtain ⟨e, e'⟩ | ⟨v, v', e, e', hv⟩ := (TableRel.value? (up h₁ ht) hh).cases <;>
    simp only [e, e']
  · exact failKey_sim hr (up h₁ hk)
  · exact .pure hv

theorem getObjectItem_sim {v v' i i' : Value} (hv : ValueRel w v v') (hi : ValueRel w i i') :
    C.Sim c w ValueRel (getObjectItem r v i) (getObjectItem r' v' i') := by
  refine .getHeap fun m m' hm => ?_
  have hx := (hC.near hm).heap.indexed hv
  revert hx
  generalize m.heap.indexed v = x, m'.heap.indexed v' = x'
  intro hx
  cases hx with
  | list h =>
    dsimp only
    rw [ArrayRel.size h]
    refine (position_sim _ hi _).bind fun w₁ n n' h₁ hn => ?_
    cases hn
    exact .pure (ArrayRel.itemAt (up (A := ValuesRel) h₁ h) n)
  | dict h => exact getEntry_sim hr h hi
  | instance_ =>
    refine (callSpecial_sim hr (.inr (by decide)) hv (.cons hi .nil)).bind fun w₁ x x' h₁ hx => ?_
    cases hx with
    | some hx => exact .pure hx
    | none => exact failType_sim _ (up h₁ hv)
  | other => exact failType_sim _ hv

theorem getItem_sim {v v' i i' : Value} (hv : ValueRel w v v') (hi : ValueRel w i i') :
    C.Sim c w ValueRel (getItem r v i) (getItem r' v' i') := by
  have other := getObjectItem_sim hr (c := c) hv hi
  cases hv with
  | str s =>
    refine (position_sim _ hi _).bind fun w₁ n n' h₁ hn => ?_
    cases hn
    exact .pure (.str _)
  | @tuple _ _ is is' _ h =>
    refine Sim.bind (A := Same) ?_ fun w₁ n n' h₁ hn => ?_
    · rw [ListRel.length h]
      exact position_sim _ hi _
    · cases hn
      have ha : ArrayRel w₁ is.toArray is'.toArray := up (A := ValuesRel) h₁ h
      exact .pure (ArrayRel.itemAt ha n)
  | range a b d =>
    refine (position_sim _ hi _).bind fun w₁ n n' h₁ hn => ?_
    cases hn
    refine (enough_same _).bind fun _ k k' _ hk => ?_
    cases hk
    exact .pure (.int _)
  | _ => exact other

omit hr in
theorem getSlice_sim {v v' : Value} (hv : ValueRel w v v') (s : Slice) :
    C.Sim c w ValueRel (getSlice v s) (getSlice v' s) := by
  have same := hv
  cases hv with
  | str t =>
    refine (enough_same _).bind fun _ cs cs' _ hcs => ?_
    cases hcs
    exact .pure (.str _)
  | @tuple _ _ is is' _ h =>
    have ha : ArrayRel w is.toArray is'.toArray := h
    exact (Sim.enough (ArrayRel.pick ha s)).bind fun _ _ _ _ hvs => makeTuple_sim hvs
  | range a b d =>
    refine (enough_same _).bind fun _ ps ps' _ hps => ?_
    cases hps
    refine (enough_same _).bind fun _ ns ns' _ hns => ?_
    cases hns
    exact makeList_sim (ListRel.ints ns)
  | ref ha =>
    refine .getHeap fun m m' hm => ?_
    have hx := (hC.near hm).heap.indexed same
    revert hx
    generalize m.heap.indexed _ = x, m'.heap.indexed _ = x'
    intro hx
    cases hx with
    | list h => exact (Sim.enough (ArrayRel.pick h s)).bind fun _ _ _ _ hvs => makeList_sim hvs
    | _ => exact failType_sim _ same
  | _ => exact failType_sim _ same

omit hr in
/-- A bound that is there. -/
theorem boundNumber_sim {v v' : Value} (hv : ValueRel w v v') : C.Sim c w Same
      (match v.asInt? with
        | some n => pure (some n)
        | none => fail (.type .sliceBound))
      (match v'.asInt? with
        | some n => pure (some n)
        | none => fail (.type .sliceBound)) := by
  rw [hv.asInt?]
  cases v'.asInt? with
  | some n => exact .pure rfl
  | none => exact fail_sim (.plain rfl)

theorem sliceBound_sim {e : Option Expr} (he : Every C.phrase (optionParts e)) :
    C.Sim c w Same (sliceBound r e) (sliceBound r' e) := by
  cases e with
  | none => exact .pure rfl
  | some e =>
    refine (hr.eval he).bind fun w₁ v v' h₁ hv => ?_
    have number := boundNumber_sim (C := C) (c := c) hv
    cases hv with
    | none => exact .pure rfl
    | _ => exact number

theorem evalSlice_sim {lower upper step : Option Expr} (hl : Every C.phrase (optionParts lower))
    (hu : Every C.phrase (optionParts upper)) (hs : Every C.phrase (optionParts step)) :
    C.Sim c w Same (evalSlice r lower upper step) (evalSlice r' lower upper step) := by
  refine (sliceBound_sim hr hl).bind fun w₁ l l' h₁ hl => ?_
  refine (sliceBound_sim hr hu).bind fun w₂ u u' h₂ hu => ?_
  refine (sliceBound_sim hr hs).bind fun w₃ s s' h₃ hs => ?_
  cases hl
  cases hu
  cases hs
  exact .ite .rfl (fun _ => fail_sim (.plain rfl)) fun _ => .pure rfl

/-! ### Writing and deleting items -/

omit hr in
theorem setItems_sim {v v' : Value} {is is' : List Value} (hc : C.changes) (hv : ValueRel w v v')
    (hi : ValuesRel w is is') : C.Sim c w Same (setItems v is) (setItems v' is') := by
  cases hv with
  | ref ha => exact modifyList_sim hc ha fun _ => by simpa using hi
  | _ => exact .pure rfl

omit hr in
theorem setListItem_sim {v v' x x' : Value} (hc : C.changes) (hv : ValueRel w v v') (n : Nat)
    (hx : ValueRel w x x') : C.Sim c w Same (setListItem v n x) (setListItem v' n x') := by
  cases hv with
  | ref ha =>
    refine modifyList_sim hc ha fun h => ?_
    simpa using ListRel.set h hx n
  | _ => exact .pure rfl

omit hr in
theorem changeTable_sim {v v' : Value} {f f' : Table → Table} (hc : C.changes)
    (hv : ValueRel w v v') (hf : ∀ {t t'}, TableRel w t t' → TableRel w (f t) (f' t')) :
    C.Sim c w Same (changeTable v f) (changeTable v' f') := by
  cases hv with
  | ref ha => exact modifyTable_sim hc ha hf
  | _ => exact .pure rfl

theorem setItem_sim {v v' i i' x x' : Value} (hc : C.changes) (hv : ValueRel w v v')
    (hi : ValueRel w i i') (hx : ValueRel w x x') :
    C.Sim c w Same (setItem r v i x) (setItem r' v' i' x') := by
  refine .getHeap fun m m' hm => ?_
  have hs := (hC.near hm).heap.indexed hv
  revert hs
  generalize m.heap.indexed v = s, m'.heap.indexed v' = s'
  intro hs
  cases hs with
  | list h =>
    dsimp only
    rw [ArrayRel.size h]
    refine (changedPosition_sim hc hi _).bind fun w₁ n n' h₁ hn => ?_
    cases hn
    exact setListItem_sim hc (up h₁ hv) n (up h₁ hx)
  | dict _ =>
    refine (keyOf_filed hi).bind fun w₁ k k' h₁ hk => ?_
    exact changeTable_sim hc (up h₁ hv) fun ht => TableRel.insert ht hk (up h₁ hi) (up h₁ hx)
  | instance_ =>
    refine (callSpecial_sim hr (.inl hc) hv (.cons hi (.cons hx .nil))).bind
      fun w₁ y y' h₁ hy => ?_
    cases hy with
    | some _ => exact .pure rfl
    | none => exact failType_sim _ (up h₁ hv)
  | other => exact failType_sim _ hv

theorem setSlice_sim {v v' x x' : Value} (hc : C.changes) (hv : ValueRel w v v') (s : Slice)
    (hx : ValueRel w x x') : C.Sim c w Same (setSlice r v s x) (setSlice r' v' s x') := by
  refine .getHeap fun m m' hm => ?_
  have hs := (hC.near hm).heap.indexed hv
  revert hs
  generalize m.heap.indexed v = o, m'.heap.indexed v' = o'
  intro hs
  cases hs with
  | list h =>
    refine ((hr.iterate hx).attempt (hC.upright hc)).bind fun w₁ new new' h₁ hn => ?_
    have h := up (A := ValuesRel) h₁ h
    cases hn with
    | error _ => exact fail_sim (.plain rfl)
    | ok hn =>
      dsimp only
      rw [ArrayRel.size h, hn.length]
      refine (enough_same _).bind fun w₂ ps ps' h₂ hps => ?_
      cases hps
      have h := up (A := ValuesRel) h₂ h
      have hn := up (A := ValuesRel) h₂ hn
      refine .ite .rfl (fun _ => ?_) fun _ => .ite .rfl (fun _ => fail_sim (.plain rfl)) fun _ => ?_
      · exact setItems_sim hc (up (h₁.trans h₂) hv) (h.replaceSpan hn s ps)
      · exact setItems_sim hc (up (h₁.trans h₂) hv) (h.replaceAt ps hn)
  | _ => exact failType_sim _ hv

theorem delItem_sim {v v' i i' : Value} (hc : C.changes) (hv : ValueRel w v v')
    (hi : ValueRel w i i') : C.Sim c w Same (delItem r v i) (delItem r' v' i') := by
  refine .getHeap fun m m' hm => ?_
  have hs := (hC.near hm).heap.indexed hv
  revert hs
  generalize m.heap.indexed v = s, m'.heap.indexed v' = s'
  intro hs
  cases hs with
  | list h =>
    dsimp only
    rw [ArrayRel.size h]
    refine (changedPosition_sim hc hi _).bind fun w₁ n n' h₁ hn => ?_
    cases hn
    cases hv with
    | ref ha =>
      refine modifyList_sim hc (h₁.addr ha) fun h => ?_
      simpa [Array.toList_eraseIdxIfInBounds] using ListRel.eraseIdx h n
    | _ => exact .pure rfl
  | dict ht =>
    refine (keyOf_sim hi).bind fun w₁ k k' h₁ hk => ?_
    refine .ite (by rw [TableRel.contains (up h₁ ht) hk]) (fun _ => ?_) fun _ =>
      failKey_sim hr (up h₁ hi)
    exact changeTable_sim hc (up h₁ hv) fun ht => TableRel.erase ht hk
  | instance_ =>
    refine (callSpecial_sim hr (.inl hc) hv (.cons hi .nil)).bind fun w₁ y y' h₁ hy => ?_
    cases hy with
    | some _ => exact .pure rfl
    | none => exact failType_sim _ (up h₁ hv)
  | other => exact failType_sim _ hv

omit hr in
theorem delSlice_sim {v v' : Value} (hc : C.changes) (hv : ValueRel w v v') (s : Slice) :
    C.Sim c w Same (delSlice v s) (delSlice v' s) := by
  refine .getHeap fun m m' hm => ?_
  have hs := (hC.near hm).heap.indexed hv
  revert hs
  generalize m.heap.indexed v = o, m'.heap.indexed v' = o'
  intro hs
  cases hs with
  | list h =>
    dsimp only
    rw [ArrayRel.size h]
    refine (enough_same _).bind fun w₁ ps ps' h₁ hps => ?_
    cases hps
    exact setItems_sim hc (up h₁ hv) (ListRel.removeAt (up (A := ValuesRel) h₁ h) ps)
  | _ => exact failType_sim _ hv

end Stepwise
