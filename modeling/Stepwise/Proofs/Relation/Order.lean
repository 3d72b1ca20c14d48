import Stepwise.Eval.Sort
import Stepwise.Proofs.Relation.Show

/-!
# Coupled comparisons

Comparing, sorting, listing and indexing values go alike on both sides.
-/

namespace Stepwise

open Script Coupling

variable {σ τ : Type} {C : Coupling σ τ} [hC : C.Lawful] {c : C.Ctx} {w : World}
variable {α β : Type} {A : Rel α β}
variable {r : Runner σ} {r' : Runner τ} (hr : RunnerRel C r r')
include hr

/-! ### Sorting -/

omit hr hC in
theorem mergeWith_sim {B : Rel α β} [Grows B] {f : α → α → M σ Bool}
    {f' : β → β → M τ Bool}
    (hf : ∀ w' x x' y y', w ≤ w' → B w' x x' → B w' y y' →
      C.Sim c w' Same (f x y) (f' x' y')) :
    ∀ (fuel : Nat) {w' : World} {ms xs ys : List α} {ms' xs' ys' : List β}, w ≤ w' →
      ListRel B w' ms ms' →
      ListRel B w' xs xs' → ListRel B w' ys ys' →
      C.Sim c w' (ListRel B) (mergeWith f fuel ms xs ys) (mergeWith f' fuel ms' xs' ys') := by
  intro fuel
  induction fuel with
  | zero =>
    intro w' ms xs ys ms' xs' ys' hw hm hx hy
    simp only [mergeWith]
    exact .pure ((hm.reverse.append hx).append hy)
  | succ fuel ih =>
    intro w' ms xs ys ms' xs' ys' hw hm hx hy
    rcases hx with _ | ⟨hx, hxs⟩
    · simp only [mergeWith]
      exact .pure ((hm.reverse.append .nil).append hy)
    rcases hy with _ | ⟨hy, hys⟩
    · simp only [mergeWith]
      exact .pure ((hm.reverse.append (.cons hx hxs)).append .nil)
    simp only [mergeWith]
    refine (hf w' _ _ _ _ hw hx hy).bind fun w₁ b b' h₁ hb => ?_
    cases hb
    refine .ite .rfl (fun _ => ?_) fun _ => ?_
    · exact ih (hw.trans h₁) (.cons (up h₁ hy) (up h₁ hm))
        (.cons (up h₁ hx) (up (A := ListRel B) h₁ hxs)) (up (A := ListRel B) h₁ hys)
    · exact ih (hw.trans h₁) (.cons (up h₁ hx) (up h₁ hm)) (up (A := ListRel B) h₁ hxs)
        (.cons (up h₁ hy) (up (A := ListRel B) h₁ hys))

omit hr hC in
theorem mergeSort_sim {B : Rel α β} [Grows B] {f : α → α → M σ Bool} {f' : β → β → M τ Bool}
    (hf : ∀ w' x x' y y', w ≤ w' → B w' x x' → B w' y y' →
      C.Sim c w' Same (f x y) (f' x' y')) :
    ∀ (fuel : Nat) {w' : World} {xs : List α} {xs' : List β}, w ≤ w' → ListRel B w' xs xs' →
      C.Sim c w' (ListRel B) (mergeSort f fuel xs) (mergeSort f' fuel xs')
  | 0, _, _, _, _, hx => .pure hx
  | fuel + 1, w', xs, xs', hw, hx => by
    simp only [mergeSort, hx.length]
    refine .ite .rfl (fun _ => .pure hx) fun _ => ?_
    refine (mergeSort_sim hf fuel hw (hx.take _)).bind fun w₁ ls ls' h₁ hl => ?_
    refine (mergeSort_sim hf fuel (hw.trans h₁) ((up h₁ hx).drop _)).bind
      fun w₂ rs rs' h₂ hr => ?_
    exact mergeWith_sim hf _ ((hw.trans h₁).trans h₂) .nil (up h₂ hl) hr

theorem keyFor_sim {key key' : Option Value} {v v' : Value} (hc : C.changes ∨ key = none)
    (hk : OptionRel ValueRel w key key') (hv : ValueRel w v v') :
    C.Sim c w ValueRel (keyFor r key v) (keyFor r' key' v') := by
  cases hk with
  | none => exact .pure hv
  | some hk => exact hr.call (hC.tame (hc.resolve_right (by simp)) _) hk (.cons hv .nil) .nil

omit hC in
theorem rightFirst_sim (reverse : Bool) {x x' y y' : Value × Value}
    (hx : PairRel ValueRel ValueRel w x x') (hy : PairRel ValueRel ValueRel w y y') :
    C.Sim c w Same (rightFirst r reverse x y) (rightFirst r' reverse x' y') := by
  unfold rightFirst
  exact .ite .rfl (fun _ => lessThan_sim hr hx.fst hy.fst) fun _ => lessThan_sim hr hy.fst hx.fst

theorem sortValues_sim {vs vs' : List Value} {key key' : Option Value} (hc : C.changes)
    (hv : ValuesRel w vs vs') (hk : OptionRel ValueRel w key key') (reverse : Bool) :
    C.Sim c w ValuesRel (sortValues r vs key reverse) (sortValues r' vs' key' reverse) := by
  refine (Sim.mapM (B := PairRel ValueRel ValueRel) hv fun w₁ v v' h₁ hv =>
    (keyFor_sim hr (.inl hc) (up h₁ hk) hv).bind fun w₂ k k' h₂ hk =>
      .pure ⟨hk, up h₂ hv⟩).bind fun w₁ ks ks' h₁ hks => ?_
  rw [hv.length]
  refine (mergeSort_sim (B := PairRel ValueRel ValueRel) (fun _ _ _ _ _ _ hx hy =>
    rightFirst_sim hr reverse hx hy) _ le_rfl hks).bind fun w₂ ss ss' h₂ hs => ?_
  exact .pure (hs.map fun h => h.snd)

theorem sortOptions_sim (callee : String) : ∀ {w : World} {ks ks' : Keywords}
    {key key' : Option Value} (reverse : Bool), KeywordsRel w ks ks' →
    OptionRel ValueRel w key key' →
    C.Sim c w (PairRel (OptionRel ValueRel) Same) (sortOptions r callee ks key reverse)
      (sortOptions r' callee ks' key' reverse)
  | _, _, _, _, _, _, .nil, hk => .pure ⟨hk, rfl⟩
  | w, (name, v) :: ks, (name', v') :: ks', key, key', reverse, .cons h t, hk => by
    obtain ⟨rfl : name = name', hv : ValueRel w v v'⟩ := h
    unfold sortOptions
    split
    · rw [hv.isNone]
      refine sortOptions_sim callee reverse t ?_
      split
      · exact .none
      · exact .some hv
    · refine (truthy_sim hr hv).bind fun w₁ b b' h₁ hb => ?_
      cases hb
      exact sortOptions_sim callee b (up h₁ t) (up h₁ hk)
    · exact fail_sim (.plain rfl)

/-! ### Equality -/

/-- Related shapes. -/
inductive ShapeRel (w : World) : Shape → Shape → Prop
  | sequence {vs vs'} (h : ValuesRel w vs vs') : ShapeRel w (.sequence vs) (.sequence vs')
  | mapping {t t'} (h : TableRel w t t') : ShapeRel w (.mapping t) (.mapping t')
  | set {t t'} (h : TableRel w t t') : ShapeRel w (.set t) (.set t')
  | instance_ : ShapeRel w .instance_ .instance_
  | scalar : ShapeRel w .scalar .scalar

omit hr hC in
theorem HeapRel.shape {h h' : Heap} {v v' : Value} (H : HeapRel w h h') (hv : ValueRel w v v') :
    ShapeRel w (h.shape v) (h'.shape v') := by
  cases hv with
  | tuple _ hs => exact .sequence hs
  | ref ha =>
    unfold Heap.shape
    obtain ⟨e, e'⟩ | ⟨o, o', e, e', ho⟩ := H.object ha <;> simp only [e, e']
    · exact .scalar
    · cases ho with
      | list h => exact .sequence h
      | dict h => exact .mapping h
      | set h => exact .set h
      | inst _ => exact .instance_
      | _ => exact .scalar
  | _ => exact .scalar

omit hr hC in
theorem ValueRel.isTuple {v v' : Value} (h : ValueRel w v v') :
    Stepwise.isTuple v = Stepwise.isTuple v' := by
  cases h <;> rfl

omit hC in
theorem allEqual_sim : ∀ {w : World} {as as' bs bs' : List Value}, ValuesRel w as as' →
    ValuesRel w bs bs' → C.Sim c w Same (allEqual r as bs) (allEqual r' as' bs')
  | _, _, _, _, _, .nil, _ => .pure rfl
  | _, _, _, _, _, .cons _ _, .nil => .pure rfl
  | w, _, _, _, _, .cons ha has, .cons hb hbs => by
    refine (hr.equals ha hb).bind fun w₁ x x' h₁ hx => ?_
    exact .ite (by rw [hx]) (fun _ => allEqual_sim (up h₁ has) (up h₁ hbs)) fun _ => .pure rfl

theorem hasEntries_sim : ∀ {w : World} {a a' : Address} {es es' : List (Value × Value)},
    w.addr a a' → ListRel (PairRel ValueRel ValueRel) w es es' →
    C.Sim c w Same (hasEntries r a es) (hasEntries r' a' es')
  | _, _, _, _, _, _, .nil => .pure rfl
  | w, _, _, (key, value) :: es, (key', value') :: es', ha, .cons h t => by
    refine (keyOf_sim h.fst).bind fun w₁ k k' h₁ hk => .getHeap fun m m' hm => ?_
    obtain ⟨e, e'⟩ | ⟨v, v', e, e', hv⟩ := (((hC.near hm).heap.dict? (h₁.addr ha)).bind fun ht =>
      TableRel.value? ht hk).cases <;> simp only [e, e']
    · exact .pure rfl
    · refine (hr.equals (up h₁ h.snd) hv).bind fun w₂ x x' h₂ hx => ?_
      exact .ite (by rw [hx]) (fun _ => hasEntries_sim ((h₁.trans h₂).addr ha)
        (up (h₁.trans h₂) t)) fun _ => .pure rfl

omit hr in
theorem hasMembers_sim : ∀ {w : World} {t t' : Table} {vs vs' : List Value}, TableRel w t t' →
    ValuesRel w vs vs' → C.Sim c w Same (hasMembers (σ := σ) t vs) (hasMembers (σ := τ) t' vs')
  | _, _, _, _, _, _, .nil => .pure rfl
  | w, _, _, _, _, ht, .cons hv hvs => by
    refine (keyOf_sim hv).bind fun w₁ k k' h₁ hk => ?_
    exact .ite (by rw [TableRel.contains (up h₁ ht) hk])
      (fun _ => hasMembers_sim (up h₁ ht) (up h₁ hvs)) fun _ => .pure rfl

omit hr hC in
theorem ValueRel.sameScalar {a a' b b' : Value} (ha : ValueRel w a a') (hb : ValueRel w b b') :
    Stepwise.sameScalar a b = Stepwise.sameScalar a' b' := by
  have key := ha.identical hb
  cases ha with
  | range _ _ _ =>
    cases hb with
    | range _ _ _ => rfl
    | _ => exact key
  | _ => exact key

omit hr hC in
theorem HeapRel.sameObject {h h' : Heap} {a a' b b' : Value} (H : HeapRel w h h')
    (ha : ValueRel w a a') (hb : ValueRel w b b') :
    Stepwise.sameObject h a b = Stepwise.sameObject h' a' b' := by
  cases ha with
  | ref ha =>
    cases hb with
    | ref hb =>
      simp only [Stepwise.sameObject, World.addr_eq_iff ha hb, (H.instance? ha).isNone]
    | _ => rfl
  | _ => cases hb <;> rfl

theorem askSpecial_sim {a a' b b' : Value} {method reflected : String}
    (ha : ValueRel w a a') (hb : ValueRel w b b') (hm : method ∈ specialMethods)
    (hm' : reflected ∈ specialMethods) :
    C.Sim c w (OptionRel Same) (askSpecial r a b method reflected)
      (askSpecial r' a' b' method reflected) := by
  refine (callSpecial_sim hr (.inr hm) ha (.cons hb .nil)).bind fun w₁ v v' h₁ hv => ?_
  cases hv with
  | some hv => exact (truthy_sim hr hv).bind fun _ _ _ _ hb => .pure (.some hb)
  | none =>
    refine (callSpecial_sim hr (.inr hm') (up h₁ hb) (.cons (up h₁ ha) .nil)).bind
      fun w₂ u u' h₂ hu => ?_
    cases hu with
    | some hu => exact (truthy_sim hr hu).bind fun _ _ _ _ hb => .pure (.some hb)
    | none => exact .pure .none

theorem equalShapes_sim {a a' b b' : Value} (ha : ValueRel w a a') (hb : ValueRel w b b') :
    C.Sim c w Same (equalShapes r a b) (equalShapes r' a' b') := by
  have special : C.Sim c w Same
      (do return (← askSpecial r a b "__eq__" "__eq__").getD (a.identical b))
      (do return (← askSpecial r' a' b' "__eq__" "__eq__").getD (a'.identical b')) := by
    refine (askSpecial_sim hr ha hb (by decide) (by decide)).bind fun w₁ o o' h₁ ho => ?_
    exact .pure (OptionRel.getD (A := Same) ho (ha.identical hb))
  refine .getHeap fun m m' hm => ?_
  have hs := (hC.near hm).heap.shape ha
  have ht := (hC.near hm).heap.shape hb
  revert hs ht
  generalize m.heap.shape a = s, m'.heap.shape a' = s', m.heap.shape b = t, m'.heap.shape b' = t'
  intro hs ht
  cases hs with
  | instance_ => exact special
  | sequence hs =>
    cases ht with
    | instance_ => exact special
    | sequence ht =>
      refine .ite ?_ (fun _ => .pure rfl) fun _ => allEqual_sim hr hs ht
      rw [ha.isTuple, hb.isTuple, hs.length, ht.length]
    | _ => exact .pure rfl
  | mapping hs =>
    cases ht with
    | instance_ => exact special
    | mapping ht =>
      obtain ⟨e, e'⟩ | ⟨x, x', e, e', hx⟩ := hb.address?.cases <;> simp only [e, e']
      · exact .pure rfl
      · exact .ite (by rw [TableRel.size hs, TableRel.size ht]) (fun _ => .pure rfl)
          fun _ => hasEntries_sim hr hx (TableRel.pairs hs)
    | _ => exact .pure rfl
  | set hs =>
    cases ht with
    | instance_ => exact special
    | set ht =>
      exact .ite (by rw [TableRel.size hs, TableRel.size ht]) (fun _ => .pure rfl)
        fun _ => hasMembers_sim ht (TableRel.members hs)
    | _ => exact .pure rfl
  | scalar =>
    cases ht with
    | instance_ => exact special
    | scalar => exact .pure (ha.sameScalar hb)
    | _ => exact .pure rfl

theorem equalValues_sim {a a' b b' : Value} (ha : ValueRel w a a') (hb : ValueRel w b b') :
    C.Sim c w Same (equalValues r a b) (equalValues r' a' b') := by
  unfold equalValues
  rw [ha.asInt?, hb.asInt?, ha.asFloat?, hb.asFloat?]
  split
  · exact .pure rfl
  split
  · exact .pure rfl
  refine .getHeap fun m m' hm => ?_
  exact .ite (by rw [(hC.near hm).heap.sameObject ha hb]) (fun _ => .pure rfl)
    fun _ => equalShapes_sim hr ha hb

/-! ### Order -/

omit hC in
theorem sequenceOrder_sim (op : CompareOp) : ∀ {w : World} {as as' bs bs' : List Value},
    ValuesRel w as as' → ValuesRel w bs bs' →
    C.Sim c w Same (sequenceOrder r op as bs) (sequenceOrder r' op as' bs')
  | w, _, _, _, _, .cons ha has, .cons hb hbs => by
    refine (hr.equals ha hb).bind fun w₁ x x' h₁ hx => ?_
    exact .ite (by rw [hx]) (fun _ => sequenceOrder_sim op (up h₁ has) (up h₁ hbs))
      fun _ => hr.order (up h₁ ha) (up h₁ hb)
  | _, _, _, _, _, .nil, .nil => .pure rfl
  | _, _, _, _, _, .nil, .cons hb hbs => by
    simp only [sequenceOrder, List.length_cons, ListRel.length hbs]
    exact .pure rfl
  | _, _, _, _, _, .cons ha has, .nil => by
    simp only [sequenceOrder, List.length_cons, ListRel.length has]
    exact .pure rfl

omit hr in
theorem failOrder_sim (op : CompareOp) {a a' b b' : Value} (ha : ValueRel w a a')
    (hb : ValueRel w b b') : C.Sim c w A (failOrder op a b) (failOrder op a' b') :=
  (typeName_sim ha).bind fun w₁ n n' h₁ hn => (typeName_sim (up h₁ hb)).bind fun w₂ l l' h₂ hl => by
    cases hn
    cases hl
    exact fail_sim (.plain rfl)

omit hr in
theorem setOrder_sim (op : CompareOp) {s s' t t' : Table} (hs : TableRel w s s')
    (ht : TableRel w t t') :
    C.Sim c w Same (setOrder (σ := σ) op s t) (setOrder (σ := τ) op s' t') := by
  refine (hasMembers_sim ht (TableRel.members hs)).bind fun w₁ x x' h₁ hx => ?_
  refine (hasMembers_sim (up h₁ hs) (TableRel.members (up h₁ ht))).bind fun w₂ y y' h₂ hy => ?_
  cases hx
  cases hy
  rw [TableRel.size hs, TableRel.size ht]
  exact .pure rfl

omit hr hC in
theorem orderMethods_special (op : CompareOp) :
    (orderMethods op).1 ∈ specialMethods ∧ (orderMethods op).2 ∈ specialMethods := by
  cases op <;> decide

/-- An order that the classes of the values decide. -/
theorem specialOrder_sim (op : CompareOp) {a a' b b' : Value} (ha : ValueRel w a a')
    (hb : ValueRel w b b') : C.Sim c w Same
      (do
        match ← askSpecial r a b (orderMethods op).1 (orderMethods op).2 with
        | some b => return b
        | none => failOrder op a b)
      (do
        match ← askSpecial r' a' b' (orderMethods op).1 (orderMethods op).2 with
        | some b => return b
        | none => failOrder op a' b') := by
  obtain ⟨hm, hm'⟩ := orderMethods_special op
  refine (askSpecial_sim hr ha hb hm hm').bind fun w₁ o o' h₁ ho => ?_
  cases ho with
  | some h => exact .pure h
  | none => exact failOrder_sim op (up h₁ ha) (up h₁ hb)

theorem orderShapes_sim (op : CompareOp) {a a' b b' : Value} (ha : ValueRel w a a')
    (hb : ValueRel w b b') : C.Sim c w Same (orderShapes r op a b) (orderShapes r' op a' b') := by
  have special := specialOrder_sim (c := c) hr op ha hb
  refine .getHeap fun m m' hm => ?_
  have hs := (hC.near hm).heap.shape ha
  have ht := (hC.near hm).heap.shape hb
  dsimp only
  revert hs ht
  generalize m.heap.shape a = s, m'.heap.shape a' = s', m.heap.shape b = t, m'.heap.shape b' = t'
  intro hs ht
  cases hs with
  | instance_ => cases ht <;> exact special
  | sequence hs =>
    cases ht with
    | instance_ => exact special
    | sequence ht =>
      exact .ite (by rw [ha.isTuple, hb.isTuple]) (fun _ => sequenceOrder_sim hr op hs ht)
        fun _ => failOrder_sim op ha hb
    | _ => exact failOrder_sim op ha hb
  | set hs =>
    cases ht with
    | instance_ => exact special
    | set ht => exact setOrder_sim op hs ht
    | _ => exact failOrder_sim op ha hb
  | _ =>
    cases ht with
    | instance_ => exact special
    | _ => exact failOrder_sim op ha hb

theorem orderValues_sim (op : CompareOp) {a a' b b' : Value} (ha : ValueRel w a a')
    (hb : ValueRel w b b') : C.Sim c w Same (orderValues r op a b) (orderValues r' op a' b') := by
  unfold orderValues
  rw [ha.asInt?, hb.asInt?, ha.asFloat?, hb.asFloat?]
  split
  · exact .pure rfl
  split
  · exact .pure rfl
  have key := orderShapes_sim hr (c := c) op ha hb
  cases ha with
  | str s =>
    cases hb with
    | str t => exact .pure rfl
    | _ => exact key
  | _ => exact key

/-! ### Membership -/

omit hC in
theorem isAmong_sim {v v' : Value} : ∀ {w : World} {cs cs' : List Value}, ValueRel w v v' →
    ValuesRel w cs cs' → C.Sim c w Same (isAmong r v cs) (isAmong r' v' cs')
  | _, _, _, _, .nil => .pure rfl
  | w, _, _, hv, .cons hc hcs => by
    refine .ite (by rw [hc.identical hv]) (fun _ => .pure rfl) fun _ => ?_
    refine (hr.equals hc hv).bind fun w₁ x x' h₁ hx => ?_
    exact .ite (by rw [hx]) (fun _ => .pure rfl) fun _ => isAmong_sim (up h₁ hv) (up h₁ hcs)

theorem containsIn_sim {v v' u u' : Value} (hv : ValueRel w v v') (hu : ValueRel w u u') :
    C.Sim c w Same (containsIn r v u) (containsIn r' v' u') := by
  refine .getHeap fun m m' hm => ?_
  have hs := (hC.near hm).heap.shape hv
  revert hs
  generalize m.heap.shape v = s, m'.heap.shape v' = s'
  intro hs
  cases hs with
  | sequence hs => exact isAmong_sim hr hu hs
  | mapping ht | set ht =>
    refine (keyOf_sim hu).bind fun w₁ k k' h₁ hk => .pure ?_
    exact TableRel.contains (up h₁ ht) hk
  | instance_ =>
    refine (callSpecial_sim hr (.inr (by decide)) hv (.cons hu .nil)).bind fun w₁ x x' h₁ hx => ?_
    cases hx with
    | some hx => exact truthy_sim hr hx
    | none => exact failType_sim _ (up h₁ hv)
  | scalar => exact failType_sim _ hv

theorem contains_sim {v v' u u' : Value} (hv : ValueRel w v v') (hu : ValueRel w u u') :
    C.Sim c w Same (contains r v u) (contains r' v' u') := by
  have other := containsIn_sim hr (c := c) hv hu
  have same := hu
  cases hv with
  | str s =>
    cases hu with
    | str t => exact .pure rfl
    | _ => exact failType_sim _ same
  | range a b d => exact .pure (by rw [hu.asInt?]; rfl)
  | _ => exact other

/-! ### All comparisons -/

theorem notEqual_sim {a a' b b' : Value} (ha : ValueRel w a a') (hb : ValueRel w b b') :
    C.Sim c w Same (notEqual r a b) (notEqual r' a' b') := by
  refine (callSpecial_sim hr (.inr (by decide)) ha (.cons hb .nil)).bind fun w₁ x x' h₁ hx => ?_
  cases hx with
  | some hx => exact truthy_sim hr hx
  | none =>
    exact (hr.equals (up h₁ ha) (up h₁ hb)).bind fun _ _ _ _ h => .pure (congrArg _ h)

theorem compareValues_sim (op : CompareOp) {a a' b b' : Value} (ha : ValueRel w a a')
    (hb : ValueRel w b b') :
    C.Sim c w Same (compareValues r op a b) (compareValues r' op a' b') := by
  cases op with
  | eq => exact hr.equals ha hb
  | ne => exact notEqual_sim hr ha hb
  | is => exact .pure (ha.identical hb)
  | isNot => exact .pure (congrArg _ (ha.identical hb))
  | isIn => exact contains_sim hr hb ha
  | notIn => exact (contains_sim hr hb ha).bind fun _ _ _ _ h => .pure (congrArg _ h)
  | lt | le | gt | ge => exact hr.order ha hb

end Stepwise
