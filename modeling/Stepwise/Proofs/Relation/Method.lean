import Stepwise.Eval.Method
import Stepwise.Proofs.Relation.Write

/-!
# Coupled methods

The methods of lists, dictionaries and sets go alike on both sides.
-/

namespace Stepwise

open Script Coupling Text

variable {σ τ : Type} {C : Coupling σ τ} [hC : C.Lawful] {c : C.Ctx} {w : World}
variable {α β : Type} {A : Rel α β}
variable {r : Runner σ} {r' : Runner τ} (hr : RunnerRel C r r')
variable {a a' : Address} {v v' : Value} {args args' : List Value} {ks ks' : Keywords}

theorem checked_sim {name : String} {min max : Nat} {x : M σ α} {y : M τ β}
    (hargs : ValuesRel w args args') (h : ∀ w₁, w ≤ w₁ → C.Sim c w₁ A x y) :
    C.Sim c w A (do arity name args min max; x) (do arity name args' min max; y) :=
  (arity_sim name hargs min max).bind fun w₁ _ _ h₁ _ => h w₁ h₁

omit hC in
theorem makeNone_sim {x : M σ Unit} {y : M τ Unit} (h : C.Sim c w Same x y) :
    C.Sim c w ValueRel (do x; return .none) (do y; return .none) :=
  h.bind fun _ _ _ _ _ => .pure .none

/-! ### Lists -/

theorem listItems_sim (ha : w.addr a a') :
    C.Sim c w ArrayRel (listItems a) (listItems a') :=
  .getHeap fun _ _ hm => .pure
    (OptionRel.getD (A := ArrayRel) ((hC.near hm).heap.list? ha) .nil)

theorem changeList_sim {f f' : Array Value → Array Value} (hc : C.changes) (ha : w.addr a a')
    (hf : ∀ {is is'}, ArrayRel w is is' → ArrayRel w (f is) (f' is')) :
    C.Sim c w Same (changeList a f) (changeList a' f') :=
  modifyList_sim hc ha hf

theorem listInsert_sim {i i' : Value} (hc : C.changes) (ha : w.addr a a') (hi : ValueRel w i i')
    (hv : ValueRel w v v') : C.Sim c w ValueRel (listInsert a i v) (listInsert a' i' v') := by
  refine (indexValue_sim hi).bind fun w₁ n n' h₁ hn => ?_
  cases hn
  refine (changeList_sim hc (h₁.addr ha) fun {is is'} h => ?_).bind fun _ _ _ _ _ => .pure .none
  have rebuilt (xs : Array Value) : xs = xs.toList.toArray := Array.toArray_toList.symm
  rw [ArrayRel.size h, rebuilt is, rebuilt is']
  simpa only [ArrayRel, List.insertIdxIfInBounds_toArray] using ListRel.insertIdx h (up h₁ hv) _

/-- Taking out the item at an index. -/
theorem popAt_sim (hc : C.changes) (ha : w.addr a a') (n : Int) : C.Sim c w ValueRel
      (do
        let items ← listItems a
        if items.isEmpty then fail (.index .popEmpty)
        else
          let n := if n < 0 then n + items.size else n
          match if n < 0 then none else items[n.toNat]? with
          | none => fail (.index .pop)
          | some v => do
            changeList a (·.eraseIdxIfInBounds n.toNat)
            return v)
      (do
        let items ← listItems a'
        if items.isEmpty then fail (.index .popEmpty)
        else
          let n := if n < 0 then n + items.size else n
          match if n < 0 then none else items[n.toNat]? with
          | none => fail (.index .pop)
          | some v => do
            changeList a' (·.eraseIdxIfInBounds n.toNat)
            return v) := by
  refine (listItems_sim ha).bind fun w₁ is is' h₁ hi => ?_
  dsimp only
  rw [ArrayRel.size hi]
  have empty : is.isEmpty = is'.isEmpty := by simpa using ListRel.isEmpty hi
  refine .ite (by rw [empty]) (fun _ => fail_sim (.plain rfl)) fun _ => ?_
  generalize (if n < 0 then n + is'.size else n) = k
  have item : OptionRel ValueRel w₁ (if k < 0 then none else is[k.toNat]?)
      (if k < 0 then none else is'[k.toNat]?) := by
    split
    · exact .none
    · exact ArrayRel.get? hi _
  obtain ⟨e, e'⟩ | ⟨v, v', e, e', hv⟩ := item.cases <;> simp only [e, e']
  · exact fail_sim (.plain rfl)
  · refine (changeList_sim hc (h₁.addr ha) fun h => ?_).bind
      fun w₂ _ _ h₂ _ => .pure (up h₂ hv)
    simpa [ArrayRel, Array.toList_eraseIdxIfInBounds] using ListRel.eraseIdx h _

theorem listPop_sim (hc : C.changes) (ha : w.addr a a') (hargs : ValuesRel w args args') :
    C.Sim c w ValueRel (listPop a args) (listPop a' args') := by
  unfold listPop
  cases hargs with
  | nil => exact popAt_sim hc ha (-1)
  | cons hv _ =>
    refine (indexValue_sim hv).bind fun w₁ n n' h₁ hn => ?_
    cases hn
    exact popAt_sim hc (h₁.addr ha) n

section

include hr

omit hC in
theorem positionOf_sim : ∀ {w : World} (n : Nat) {vs vs' : List Value}, ValueRel w v v' →
    ValuesRel w vs vs' → C.Sim c w Same (positionOf r v n vs) (positionOf r' v' n vs')
  | _, _, _, _, _, .nil => .pure rfl
  | w, n, _, _, hv, .cons hx hxs => by
    refine (hr.equals hx hv).bind fun w₁ b b' h₁ hb => ?_
    exact .ite (by rw [hb]) (fun _ => .pure rfl)
      fun _ => positionOf_sim (n + 1) (up h₁ hv) (up h₁ hxs)

omit hC in
theorem countOfEqual_sim : ∀ {w : World} (n : Nat) {vs vs' : List Value}, ValueRel w v v' →
    ValuesRel w vs vs' → C.Sim c w Same (countOfEqual r v n vs) (countOfEqual r' v' n vs')
  | _, _, _, _, _, .nil => .pure rfl
  | w, n, _, _, hv, .cons hx hxs => by
    refine (hr.equals hx hv).bind fun w₁ b b' h₁ hb => ?_
    cases hb
    exact countOfEqual_sim _ (up h₁ hv) (up h₁ hxs)

theorem listRemove_sim (hc : C.changes) (ha : w.addr a a') (hv : ValueRel w v v') :
    C.Sim c w ValueRel (listRemove r a v) (listRemove r' a' v') := by
  refine (listItems_sim ha).bind fun w₁ is is' h₁ hi => ?_
  refine (positionOf_sim hr 0 (up h₁ hv) hi).bind fun w₂ n n' h₂ hn => ?_
  cases hn
  cases n with
  | none => exact fail_sim (.plain rfl)
  | some n =>
    have ha₂ := (h₁.trans h₂).addr ha
    refine (listItems_sim ha₂).bind fun w₃ is is' h₃ hi => ?_
    refine .ite (by rw [ArrayRel.size hi]) (fun _ => ?_) fun _ => .stop
    refine makeNone_sim (changeList_sim hc (h₃.addr ha₂) fun h => ?_)
    simpa [ArrayRel, Array.toList_eraseIdxIfInBounds] using ListRel.eraseIdx h _

omit hr in
/-- An end of the part of a list that is searched. -/
theorem searchBound_sim (hargs : ValuesRel w args args') (length n default : Nat) : C.Sim c w Same
      (match args[n]? with
        | some v => do return clampPosition length (← indexValue v)
        | none => return default)
      (match args'[n]? with
        | some v => do return clampPosition length (← indexValue v)
        | none => return default) := by
  obtain ⟨e, e'⟩ | ⟨v, v', e, e', hv⟩ := (hargs.get? n).cases <;> simp only [e, e']
  · exact .pure rfl
  · exact (indexValue_sim hv).bind fun _ _ _ _ hn => .pure (by rw [hn]; rfl)

theorem listIndex_sim (ha : w.addr a a') (hargs : ValuesRel w args args') :
    C.Sim c w ValueRel (listIndex r a args) (listIndex r' a' args') := by
  refine (listItems_sim ha).bind fun w₁ is is' h₁ hi => ?_
  dsimp only
  rw [ListRel.length hi]
  refine (searchBound_sim (up h₁ hargs) _ 1 0).bind fun w₂ start start' h₂ hs => ?_
  refine (searchBound_sim (up (h₁.trans h₂) hargs) _ 2 _).bind fun w₃ stop stop' h₃ ht => ?_
  cases hs
  cases ht
  have h₁₃ := h₁.trans (h₂.trans h₃)
  refine (positionOf_sim hr start (argument_rel (up h₁₃ hargs) 0)
    (((up (A := ValuesRel) (h₂.trans h₃) hi).drop _).take _)).bind fun w₄ n n' h₄ hn => ?_
  cases hn
  cases n with
  | some n => exact .pure (.int n)
  | none =>
    refine (hr.repr (argument_rel (up (h₁₃.trans h₄) hargs) 0)).bind fun _ t t' _ ht => ?_
    cases ht
    exact fail_sim (.plain rfl)

theorem listMethod_sim (hc : C.changes) (ha : w.addr a a') (name : String)
    (hargs : ValuesRel w args args') (hks : KeywordsRel w ks ks') :
    C.Sim c w ValueRel (listMethod r a name args ks) (listMethod r' a' name args' ks') := by
  unfold listMethod
  split
  · refine checked_sim hargs fun w₁ h₁ => makeNone_sim <|
      changeList_sim hc (h₁.addr ha) fun h => ?_
    simpa [ArrayRel] using ListRel.append h
      (.cons (argument_rel (up h₁ hargs) 0) .nil : ValuesRel w₁ _ _)
  · refine checked_sim hargs fun w₁ h₁ => ?_
    refine (hr.iterate (argument_rel (up h₁ hargs) 0)).bind fun w₂ vs vs' h₂ hvs => ?_
    refine makeNone_sim (changeList_sim hc ((h₁.trans h₂).addr ha) fun h => ?_)
    simpa [ArrayRel] using ListRel.append h hvs
  · refine checked_sim hargs fun w₁ h₁ => ?_
    exact listInsert_sim hc (h₁.addr ha) (argument_rel (up h₁ hargs) 0)
      (argument_rel (up h₁ hargs) 1)
  · exact checked_sim hargs fun w₁ h₁ => listPop_sim hc (h₁.addr ha) (up h₁ hargs)
  · exact checked_sim hargs fun w₁ h₁ =>
      listRemove_sim hr hc (h₁.addr ha) (argument_rel (up h₁ hargs) 0)
  · exact checked_sim hargs fun w₁ h₁ => listIndex_sim hr (h₁.addr ha) (up h₁ hargs)
  · refine checked_sim hargs fun w₁ h₁ => ?_
    refine (listItems_sim (h₁.addr ha)).bind fun w₂ is is' h₂ hi => ?_
    refine (countOfEqual_sim hr 0 (argument_rel (up (h₁.trans h₂) hargs) 0) hi).bind
      fun _ n n' _ hn => ?_
    cases hn
    exact .pure (.int n)
  · refine checked_sim hargs fun w₁ h₁ => makeNone_sim <|
      changeList_sim hc (h₁.addr ha) fun h => ?_
    simpa [ArrayRel] using ListRel.reverse h
  · refine checked_sim hargs fun w₁ h₁ => ?_
    refine (sortOptions_sim hr _ false (up h₁ hks) .none).bind fun w₂ o o' h₂ ho => ?_
    obtain ⟨key, reverse⟩ := o
    obtain ⟨key', reverse'⟩ := o'
    obtain ⟨hkey, rfl : reverse = reverse'⟩ := ho
    have h₁₂ := h₁.trans h₂
    refine (listItems_sim (h₁₂.addr ha)).bind fun w₃ is is' h₃ hi => ?_
    refine (sortValues_sim hr hc hi (up h₃ hkey) reverse).bind fun w₄ ss ss' h₄ hs => ?_
    exact makeNone_sim (changeList_sim hc ((h₁₂.trans (h₃.trans h₄)).addr ha) fun _ => hs)
  · exact checked_sim hargs fun w₁ h₁ => (listItems_sim (h₁.addr ha)).bind
      fun w₂ is is' h₂ hi => makeList_sim hi
  · exact checked_sim hargs fun w₁ h₁ => makeNone_sim <|
      changeList_sim hc (h₁.addr ha) fun _ => .nil
  · exact fail_sim (.plain rfl)

end

/-! ### Dictionaries -/

theorem tableAt_sim (ha : w.addr a a') : C.Sim c w TableRel (tableAt a) (tableAt a') :=
  .getHeap fun _ _ hm => .pure
    (OptionRel.getD (A := TableRel) ((hC.near hm).heap.table? ha) TableRel.empty)

theorem changeTableAt_sim {f f' : Table → Table} (hc : C.changes) (ha : w.addr a a')
    (hf : ∀ {t t'}, TableRel w t t' → TableRel w (f t) (f' t')) :
    C.Sim c w Same (changeTableAt a f) (changeTableAt a' f') :=
  modifyTable_sim hc ha hf

theorem insertAll_sim (hc : C.changes) : ∀ {w : World} {es es' : List (Value × Value)},
    w.addr a a' → ListRel (PairRel ValueRel ValueRel) w es es' →
    C.Sim c w Same (insertAll a es) (insertAll a' es')
  | _, _, _, _, .nil => .pure rfl
  | w, _, _, ha, .cons he hes => by
    refine (keyOf_filed he.fst).bind fun w₁ k k' h₁ hk => ?_
    refine (changeTableAt_sim hc (h₁.addr ha) fun ht =>
      TableRel.insert ht hk (up h₁ he.fst) (up h₁ he.snd)).bind fun w₂ _ _ h₂ _ => ?_
    have h := h₁.trans h₂
    exact insertAll_sim hc (h.addr ha) (up (A := ListRel (PairRel ValueRel ValueRel)) h hes)

theorem dictPopItem_sim (hc : C.changes) (ha : w.addr a a') :
    C.Sim c w ValueRel (dictPopItem a) (dictPopItem a') := by
  refine (tableAt_sim ha).bind fun w₁ t t' h₁ ht => ?_
  obtain ⟨e, e'⟩ | ⟨x, x', e, e', hx⟩ := (TableRel.pairs ht).getLast?.cases <;>
    simp only [e, e']
  · exact fail_sim (.key _ (.str _))
  · refine (keyOf_sim hx.fst).bind fun w₂ k k' h₂ hk => ?_
    refine (changeTableAt_sim hc ((h₁.trans h₂).addr ha) fun ht => TableRel.erase ht hk).bind
      fun w₃ _ _ h₃ _ => ?_
    have h := h₂.trans h₃
    exact makeTuple_sim (.cons (up h hx.fst) (.cons (up h hx.snd) .nil))

theorem dictSetDefault_sim (hc : C.changes) (ha : w.addr a a') (hargs : ValuesRel w args args') :
    C.Sim c w ValueRel (dictSetDefault a args) (dictSetDefault a' args') := by
  refine (keyOf_filed (argument_rel hargs 0)).bind fun w₁ k k' h₁ hk => ?_
  refine (tableAt_sim (h₁.addr ha)).bind fun w₂ t t' h₂ ht => ?_
  have h := h₁.trans h₂
  obtain ⟨e, e'⟩ | ⟨v, v', e, e', hv⟩ := (TableRel.value? ht (up h₂ hk.key)).cases <;>
    simp only [e, e']
  · refine (changeTableAt_sim hc (h.addr ha) fun ht => TableRel.insert ht (up h₂ hk)
      (argument_rel (up h hargs) 0) (argument_rel (up h hargs) 1)).bind fun w₃ _ _ h₃ _ => ?_
    exact .pure (argument_rel (up (h.trans h₃) hargs) 1)
  · exact .pure hv

section

include hr

theorem pairOf_sim (hv : ValueRel w v v') :
    C.Sim c w (PairRel ValueRel ValueRel) (pairOf r v) (pairOf r' v') := by
  refine (hr.iterate hv).bind fun w₁ vs vs' _ hvs => ?_
  have len := hvs.length
  rcases hvs with _ | ⟨ha, _ | ⟨hb, _ | ⟨hd, ht⟩⟩⟩
  · exact fail_sim (.plain rfl)
  · exact fail_sim (.plain rfl)
  · exact .pure ⟨ha, hb⟩
  · simp only [len]
    exact fail_sim (.plain rfl)

theorem entriesOf_sim (hv : ValueRel w v v') :
    C.Sim c w (ListRel (PairRel ValueRel ValueRel)) (entriesOf r v) (entriesOf r' v') := by
  refine .getHeap fun m m' hm => ?_
  have found :
      OptionRel TableRel w (v.address?.bind m.heap.dict?) (v'.address?.bind m'.heap.dict?) :=
    hv.address?.bind fun ha => (hC.near hm).heap.dict? ha
  obtain ⟨e, e'⟩ | ⟨t, t', e, e', ht⟩ := found.cases <;> simp only [e, e']
  · exact (hr.iterate hv).bind fun _ _ _ _ hvs => .mapM hvs fun _ _ _ _ hx => pairOf_sim hr hx
  · exact .pure (TableRel.pairs ht)

theorem dictPop_sim (hc : C.changes) (ha : w.addr a a') (hargs : ValuesRel w args args') :
    C.Sim c w ValueRel (dictPop r a args) (dictPop r' a' args') := by
  refine (keyOf_sim (argument_rel hargs 0)).bind fun w₁ k k' h₁ hk => ?_
  refine (tableAt_sim (h₁.addr ha)).bind fun w₂ t t' h₂ ht => ?_
  have h := h₁.trans h₂
  obtain ⟨e, e'⟩ | ⟨v, v', e, e', hv⟩ := (TableRel.value? ht (up h₂ hk)).cases <;>
    simp only [e, e']
  · obtain ⟨e, e'⟩ | ⟨v, v', e, e', hv⟩ := ((up h hargs).get? 1).cases <;> simp only [e, e']
    · exact failKey_sim hr (argument_rel (up h hargs) 0)
    · exact .pure hv
  · exact (changeTableAt_sim hc (h.addr ha) fun ht => TableRel.erase ht (up h₂ hk)).bind
      fun _ _ _ h₃ _ => .pure (up h₃ hv)

theorem dictMethod_sim (hc : C.changes) (ha : w.addr a a') (name : String)
    (hargs : ValuesRel w args args') :
    C.Sim c w ValueRel (dictMethod r a name args) (dictMethod r' a' name args') := by
  unfold dictMethod
  split
  · refine checked_sim hargs fun w₁ h₁ => ?_
    refine (keyOf_sim (argument_rel (up h₁ hargs) 0)).bind fun w₂ k k' h₂ hk => ?_
    have h₁₂ := h₁.trans h₂
    refine (tableAt_sim (h₁₂.addr ha)).bind fun w₃ t t' h₃ ht => .pure ?_
    exact (TableRel.value? ht (up h₃ hk)).getD (argument_rel (up (h₁₂.trans h₃) hargs) 1)
  · exact checked_sim hargs fun w₁ h₁ => (tableAt_sim (h₁.addr ha)).bind
      fun _ _ _ _ ht => makeList_sim (TableRel.members ht)
  · exact checked_sim hargs fun w₁ h₁ => (tableAt_sim (h₁.addr ha)).bind
      fun _ _ _ _ ht => makeList_sim ((TableRel.pairs ht).map fun h => h.snd)
  · refine checked_sim hargs fun w₁ h₁ => (tableAt_sim (h₁.addr ha)).bind fun _ _ _ _ ht => ?_
    refine (Sim.mapM (TableRel.pairs ht) fun _ _ _ _ he => ?_).bind
      fun _ _ _ _ h => makeList_sim h
    exact makeTuple_sim (.cons he.fst (.cons he.snd .nil))
  · exact checked_sim hargs fun w₁ h₁ => dictPop_sim hr hc (h₁.addr ha) (up h₁ hargs)
  · exact checked_sim hargs fun w₁ h₁ => dictPopItem_sim hc (h₁.addr ha)
  · exact checked_sim hargs fun w₁ h₁ => dictSetDefault_sim hc (h₁.addr ha) (up h₁ hargs)
  · refine checked_sim hargs fun w₁ h₁ => ?_
    cases hargs with
    | nil => exact .pure .none
    | cons hv _ =>
      refine (entriesOf_sim hr (up h₁ hv)).bind fun w₂ es es' h₂ hes => ?_
      exact makeNone_sim (insertAll_sim hc ((h₁.trans h₂).addr ha) hes)
  · exact checked_sim hargs fun w₁ h₁ => (tableAt_sim (h₁.addr ha)).bind
      fun _ _ _ _ ht => make_sim (.dict ht) rfl
  · exact checked_sim hargs fun w₁ h₁ => makeNone_sim <|
      changeTableAt_sim hc (h₁.addr ha) fun _ => TableRel.empty
  · exact fail_sim (.plain rfl)

/-! ### Sets -/

theorem setOperand_sim (hv : ValueRel w v v') :
    C.Sim c w TableRel (setOperand r v) (setOperand r' v') := by
  refine .getHeap fun m m' hm => ?_
  have found : OptionRel TableRel w (v.address?.bind m.heap.set?) (v'.address?.bind m'.heap.set?) :=
    hv.address?.bind fun ha => (hC.near hm).heap.set? ha
  obtain ⟨e, e'⟩ | ⟨t, t', e, e', ht⟩ := found.cases <;> simp only [e, e']
  · exact (hr.iterate hv).bind fun _ _ _ _ hvs => membersOf_sim hvs
  · exact .pure ht

theorem combineAll_sim {f : Table → Table → Table} {t t' : Table} (ht : TableRel w t t')
    (hargs : ValuesRel w args args')
    (hf : ∀ {w s s' t t'}, TableRel w s s' → TableRel w t t' → TableRel w (f s t) (f s' t')) :
    C.Sim c w TableRel (combineAll r f t args) (combineAll r' f t' args') :=
  .foldlM hargs ht fun _ _ _ _ _ _ ht hv =>
    (setOperand_sim hr hv).bind fun _ _ _ h₁ hs => .pure (hf (up h₁ ht) hs)

theorem setUpdate_sim (hc : C.changes) : ∀ {w : World} {args args' : List Value}, w.addr a a' →
    ValuesRel w args args' → C.Sim c w Same (setUpdate r a args) (setUpdate r' a' args')
  | _, _, _, _, .nil => .pure rfl
  | w, _, _, ha, .cons hv hvs => by
    refine (setOperand_sim hr hv).bind fun w₁ t t' h₁ ht => ?_
    refine (changeTableAt_sim hc (h₁.addr ha) fun hs => TableRel.union hs ht).bind
      fun w₂ _ _ h₂ _ => ?_
    have h := h₁.trans h₂
    exact setUpdate_sim hc (h.addr ha) (up h hvs)

omit hr in
theorem setDiscard_sim (hc : C.changes) (ha : w.addr a a') (hv : ValueRel w v v') :
    C.Sim c w Same (setDiscard a v) (setDiscard a' v') := by
  refine (keyOf_sim hv).bind fun w₁ k k' h₁ hk => ?_
  refine (tableAt_sim (h₁.addr ha)).bind fun w₂ t t' h₂ ht => ?_
  rw [TableRel.contains ht (up h₂ hk)]
  exact (changeTableAt_sim hc ((h₁.trans h₂).addr ha) fun ht => TableRel.erase ht (up h₂ hk)).bind
    fun _ _ _ _ _ => .pure rfl

omit hr in
theorem setPop_sim (hc : C.changes) (ha : w.addr a a') :
    C.Sim c w ValueRel (setPop a) (setPop a') := by
  refine (tableAt_sim ha).bind fun w₁ t t' h₁ ht => ?_
  have members := TableRel.members ht
  revert members
  generalize t.members = vs, t'.members = vs'
  intro members
  cases members with
  | nil => exact fail_sim (.key _ (.str _))
  | cons hv _ =>
    refine (keyOf_sim hv).bind fun w₂ k k' h₂ hk => ?_
    exact (changeTableAt_sim hc ((h₁.trans h₂).addr ha) fun ht => TableRel.erase ht hk).bind
      fun _ _ _ h₃ _ => .pure (up (h₂.trans h₃) hv)

theorem setQuestion_sim {f : Table → Table → Bool} (ha : w.addr a a') (hv : ValueRel w v v')
    (hf : ∀ {w s s' t t'}, TableRel w s s' → TableRel w t t' → f s t = f s' t') :
    C.Sim c w ValueRel (setQuestion r f a v) (setQuestion r' f a' v') := by
  refine (tableAt_sim ha).bind fun w₁ t t' h₁ ht => ?_
  refine (setOperand_sim hr (up h₁ hv)).bind fun w₂ s s' h₂ hs => ?_
  rw [hf (up h₂ ht) hs]
  exact .pure (.bool _)

theorem setMethod_sim (hc : C.changes) (ha : w.addr a a') (name : String)
    (hargs : ValuesRel w args args') :
    C.Sim c w ValueRel (setMethod r a name args) (setMethod r' a' name args') := by
  have combined (f : Table → Table → Table)
      (hf : ∀ {w s s' t t'}, TableRel w s s' → TableRel w t t' → TableRel w (f s t) (f s' t')) :
      C.Sim c w ValueRel (do make (.set (← combineAll r f (← tableAt a) args)))
        (do make (.set (← combineAll r' f (← tableAt a') args'))) :=
    (tableAt_sim ha).bind fun w₁ t t' h₁ ht => (combineAll_sim hr ht (up h₁ hargs) hf).bind
      fun _ _ _ _ ht => make_sim (.set ht) rfl
  unfold setMethod
  split
  · refine checked_sim hargs fun w₁ h₁ => ?_
    refine (keyOf_filed (argument_rel (up h₁ hargs) 0)).bind fun w₂ k k' h₂ hk => ?_
    have h := h₁.trans h₂
    exact makeNone_sim <| changeTableAt_sim hc (h.addr ha) fun ht =>
      TableRel.add ht hk (argument_rel (up h hargs) 0)
  · refine checked_sim hargs fun w₁ h₁ => ?_
    refine (setDiscard_sim hc (h₁.addr ha) (argument_rel (up h₁ hargs) 0)).bind
      fun w₂ b b' h₂ hb => ?_
    refine .ite (by rw [hb]) (fun _ => .pure .none) fun _ => ?_
    exact failKey_sim hr (argument_rel (up (h₁.trans h₂) hargs) 0)
  · refine checked_sim hargs fun w₁ h₁ => ?_
    exact (setDiscard_sim hc (h₁.addr ha) (argument_rel (up h₁ hargs) 0)).bind
      fun _ _ _ _ _ => .pure .none
  · exact checked_sim hargs fun w₁ h₁ => setPop_sim hc (h₁.addr ha)
  · exact combined _ TableRel.union
  · exact combined _ TableRel.intersection
  · exact combined _ TableRel.difference
  · exact combined _ TableRel.symmetricDifference
  · exact makeNone_sim (setUpdate_sim hr hc ha hargs)
  · exact checked_sim hargs fun w₁ h₁ =>
      setQuestion_sim hr (h₁.addr ha) (argument_rel (up h₁ hargs) 0) TableRel.isSubset
  · exact checked_sim hargs fun w₁ h₁ =>
      setQuestion_sim hr (h₁.addr ha) (argument_rel (up h₁ hargs) 0) fun hs ht =>
        TableRel.isSubset ht hs
  · exact checked_sim hargs fun w₁ h₁ =>
      setQuestion_sim hr (h₁.addr ha) (argument_rel (up h₁ hargs) 0) fun hs ht =>
        TableRel.isEmpty (TableRel.intersection hs ht)
  · exact checked_sim hargs fun w₁ h₁ => (tableAt_sim (h₁.addr ha)).bind
      fun _ _ _ _ ht => make_sim (.set ht) rfl
  · exact checked_sim hargs fun w₁ h₁ => makeNone_sim <|
      changeTableAt_sim hc (h₁.addr ha) fun _ => TableRel.empty
  · exact fail_sim (.plain rfl)

end

end Stepwise
