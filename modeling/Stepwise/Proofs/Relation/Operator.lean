import Stepwise.Eval.Operator
import Stepwise.Proofs.Relation.Method

/-!
# Coupled operators

Unary and binary operators and assignments with an operator go alike on both sides.
-/

namespace Stepwise

open Script Coupling

variable {σ τ : Type} {C : Coupling σ τ} [hC : C.Lawful] {c : C.Ctx} {w : World}
variable {α β : Type} {A : Rel α β}
variable {r : Runner σ} {r' : Runner τ} (hr : RunnerRel C r r')
variable {a a' b b' v v' : Value}

/-! ### Special methods -/

theorem operatorMethods_special (op : BinaryOp) :
    (operatorMethods op).1 ∈ specialMethods ∧ (operatorMethods op).2 ∈ specialMethods := by
  cases op <;> decide

theorem failOperands_sim (op : BinaryOp) (ha : ValueRel w a a') (hb : ValueRel w b b') :
    C.Sim c w A (failOperands op a b) (failOperands op a' b') := by
  refine (typeName_sim ha).bind fun w₁ s s' h₁ hs => ?_
  refine (typeName_sim (up h₁ hb)).bind fun w₂ t t' h₂ ht => ?_
  cases hs
  cases ht
  exact .ite .rfl (fun _ => fail_sim (.plain rfl)) fun _ => fail_sim (.plain rfl)

/-! ### Binary operators -/

theorem ListRel.repeated {as : List α} {bs : List β} (h : ListRel A w as bs) (n : Int) :
    ListRel A w (repeated n as) (repeated n bs) :=
  ListRel.flatten (ListRel.replicate (A := ListRel A) h _)

theorem setOperator_rel (op : BinaryOp) :
    setOperator? op = none ∨ ∃ f, setOperator? op = some f ∧
      ∀ {w s s' t t'}, TableRel w s s' → TableRel w t t' → TableRel w (f s t) (f s' t') := by
  cases op with
  | bitOr => exact .inr ⟨_, rfl, TableRel.union⟩
  | bitAnd => exact .inr ⟨_, rfl, TableRel.intersection⟩
  | sub => exact .inr ⟨_, rfl, TableRel.difference⟩
  | bitXor => exact .inr ⟨_, rfl, TableRel.symmetricDifference⟩
  | _ => exact .inl rfl

theorem TableRel.merge {s s' t t' : Table} (hs : TableRel w s s') (ht : TableRel w t t') :
    TableRel w (mergeTables s t) (mergeTables s' t') :=
  ht.entries.foldl (B := TableRel) hs
    fun hm he => TableRel.insert hm ⟨he.key, he.filed⟩ he.pair.fst he.pair.snd

include hr

theorem instanceOperator_sim (op : BinaryOp) (ha : ValueRel w a a') (hb : ValueRel w b b') :
    C.Sim c w ValueRel (instanceOperator r op a b) (instanceOperator r' op a' b') := by
  obtain ⟨left, right⟩ := operatorMethods_special op
  refine (callSpecial_sim hr (.inr left) ha (.cons hb .nil)).bind fun w₁ x x' h₁ hx => ?_
  cases hx with
  | some hx => exact .pure hx
  | none =>
    refine (callSpecial_sim hr (.inr right) (up h₁ hb) (.cons (up h₁ ha) .nil)).bind
      fun w₂ y y' h₂ hy => ?_
    cases hy with
    | some hy => exact .pure hy
    | none => exact failOperands_sim op (up (h₁.trans h₂) ha) (up (h₁.trans h₂) hb)

omit hr in
/-- A list with something that may be a number. -/
theorem timesList_sim (op : BinaryOp) (ha : ValueRel w a a') (hb : ValueRel w b b') (o : Option Int)
    {is is' : Array Value} (h : ValuesRel w is.toList is'.toList) : C.Sim c w ValueRel
      (match o with
        | some n => if op = .mul then makeList (repeated n is.toList) else failOperands op a b
        | none => failOperands op a b)
      (match o with
        | some n => if op = .mul then makeList (repeated n is'.toList) else failOperands op a' b'
        | none => failOperands op a' b') := by
  have fails := failOperands_sim (C := C) (c := c) (A := ValueRel) op ha hb
  cases o with
  | none => exact fails
  | some n => exact .ite .rfl (fun _ => makeList_sim (h.repeated n)) fun _ => fails

theorem objectOperator_sim (op : BinaryOp) (ha : ValueRel w a a') (hb : ValueRel w b b') :
    C.Sim c w ValueRel (objectOperator r op a b) (objectOperator r' op a' b') := by
  have fails := failOperands_sim (C := C) (c := c) (A := ValueRel) op ha hb
  have special := instanceOperator_sim (c := c) hr op ha hb
  have times (o : Option Int) {is is' : Array Value} (h : ValuesRel w is.toList is'.toList) :=
    timesList_sim (C := C) (c := c) op ha hb o h
  unfold objectOperator
  rw [ha.asInt?, hb.asInt?]
  refine .getHeap fun m m' hm => ?_
  have H := (hC.near hm).heap
  obtain ⟨e, e'⟩ | ⟨x, x', e, e', hx⟩ := (H.object? ha).cases <;>
    obtain ⟨f, f'⟩ | ⟨y, y', f, f', hy⟩ := (H.object? hb).cases <;> simp only [e, e', f, f']
  · exact fails
  · cases hy with
    | inst _ => exact special
    | list h => exact times _ h
    | _ => exact fails
  · cases hx with
    | inst _ => exact special
    | list h => exact times _ h
    | _ => exact fails
  · cases hx with
    | inst _ => cases hy <;> exact special
    | list h =>
      cases hy with
      | list k =>
        exact .ite .rfl (fun _ => make_sim (.list (by simpa using h.append k)) rfl) fun _ => fails
      | inst _ => exact special
      | _ => exact times _ h
    | set h =>
      cases hy with
      | set k =>
        dsimp only
        obtain e | ⟨f, e, hf⟩ := setOperator_rel op <;> simp only [e]
        · exact fails
        · exact make_sim (.set (hf h k)) rfl
      | inst _ => exact special
      | list k => exact times _ k
      | _ => exact fails
    | dict h =>
      cases hy with
      | dict k => exact .ite .rfl (fun _ => make_sim (.dict (h.merge k)) rfl) fun _ => fails
      | inst _ => exact special
      | list k => exact times _ k
      | _ => exact fails
    | _ =>
      cases hy with
      | inst _ => exact special
      | list k => exact times _ k
      | _ => exact fails

theorem otherOperator_sim (op : BinaryOp) (ha : ValueRel w a a') (hb : ValueRel w b b') :
    C.Sim c w ValueRel (otherOperator r op a b) (otherOperator r' op a' b') := by
  have object := objectOperator_sim (c := c) hr op ha hb
  have same := hb
  cases op with
  | add =>
    cases ha with
    | str s =>
      cases hb with
      | str t => exact .pure (.str _)
      | _ => exact object
    | tuple _ h =>
      cases hb with
      | tuple _ k => exact makeTuple_sim (ListRel.append h k)
      | _ => exact object
    | _ => exact object
  | mod =>
    cases ha with
    | str s =>
      refine (percentFormat_sim hr s same).bind fun _ t t' _ ht => ?_
      cases ht
      exact .pure (.str _)
    | _ => exact object
  | mul =>
    cases ha with
    | str s =>
      cases hb with
      | int n => exact .pure (.str _)
      | bool b => exact .pure (.str _)
      | _ => exact object
    | int n =>
      cases hb with
      | str s => exact .pure (.str _)
      | tuple _ h => exact makeTuple_sim (ListRel.repeated h n)
      | _ => exact object
    | bool b =>
      cases hb with
      | str s => exact .pure (.str _)
      | tuple _ h =>
        cases b with
        | true => exact makeTuple_sim h
        | false => exact makeTuple_sim .nil
      | _ => exact object
    | tuple _ h =>
      cases hb with
      | int n => exact makeTuple_sim (ListRel.repeated h n)
      | bool b =>
        cases b with
        | true => exact makeTuple_sim h
        | false => exact makeTuple_sim .nil
      | _ => exact object
    | _ => exact object
  | _ => exact object

/-- Operands that are not both integers. -/
theorem realOperator_sim (op : BinaryOp) (ha : ValueRel w a a') (hb : ValueRel w b b')
    (o p : Option Float) : C.Sim c w ValueRel
      (match o, p with
        | some x, some y => do
          return .float (← lift (floatOp op (← typeName a) (← typeName b) x y))
        | _, _ => otherOperator r op a b)
      (match o, p with
        | some x, some y => do
          return .float (← lift (floatOp op (← typeName a') (← typeName b') x y))
        | _, _ => otherOperator r' op a' b') := by
  split
  · refine (typeName_sim ha).bind fun w₁ s s' h₁ hs => ?_
    refine (typeName_sim (up h₁ hb)).bind fun w₂ t t' h₂ ht => ?_
    cases hs
    cases ht
    refine (lift_same (.floatOp _ _ _ _ _)).bind fun _ x x' _ hx => ?_
    cases hx
    exact .pure (.float _)
  · exact otherOperator_sim hr op ha hb

theorem binaryOp_sim (op : BinaryOp) (ha : ValueRel w a a') (hb : ValueRel w b b') :
    C.Sim c w ValueRel (binaryOp r op a b) (binaryOp r' op a' b') := by
  unfold binaryOp
  rw [ha.asInt?, hb.asInt?, ha.asFloat?, hb.asFloat?]
  split
  · exact intOp_sim op _ _
  · exact realOperator_sim hr op ha hb _ _

/-! ### Assignments with an operator -/

theorem inplaceInstance_sim (op : BinaryOp) (hc : C.changes) (ha : ValueRel w a a')
    (hb : ValueRel w b b') :
    C.Sim c w ValueRel (inplaceInstance r op a b) (inplaceInstance r' op a' b') := by
  unfold inplaceInstance
  cases inplaceMethod? op with
  | none => exact binaryOp_sim hr op ha hb
  | some method =>
    refine (callSpecial_sim hr (.inl hc) ha (.cons hb .nil)).bind fun w₁ x x' h₁ hx => ?_
    cases hx with
    | some hx => exact .pure hx
    | none => exact binaryOp_sim hr op (up h₁ ha) (up h₁ hb)

theorem inplaceOp_sim (op : BinaryOp) (hc : C.changes) (ha : ValueRel w a a')
    (hb : ValueRel w b b') :
    C.Sim c w ValueRel (inplaceOp r op a b) (inplaceOp r' op a' b') := by
  have plain := binaryOp_sim (c := c) hr op ha hb
  have special := inplaceInstance_sim (c := c) hr op hc ha hb
  have same := ha
  cases ha with
  | @ref a a' h =>
    refine .getHeap fun m m' hm => ?_
    have H := (hC.near hm).heap
    obtain ⟨e, e'⟩ | ⟨x, x', e, e', hx⟩ := (H.object? same).cases <;> simp only [e, e']
    · exact plain
    cases hx with
    | list _ =>
      cases op with
      | add =>
        refine (hr.iterate hb).bind fun w₁ vs vs' h₁ hvs => ?_
        refine (changeList_sim hc (h₁.addr h) fun hi => ?_).bind
          fun _ _ _ h₂ _ => .pure (up (h₁.trans h₂) same)
        simpa [ArrayRel] using ListRel.append hi hvs
      | _ => exact plain
    | set _ =>
      cases op with
      | bitOr =>
        have found : OptionRel TableRel w (b.address?.bind m.heap.set?)
            (b'.address?.bind m'.heap.set?) := hb.address?.bind fun h => H.set? h
        dsimp only
        obtain ⟨e, e'⟩ | ⟨t, t', e, e', ht⟩ := found.cases <;> simp only [e, e']
        · exact plain
        · exact (changeTableAt_sim hc h fun hs => TableRel.union hs ht).bind
            fun _ _ _ h₁ _ => .pure (up h₁ same)
      | _ => exact plain
    | inst _ => exact special
    | _ => exact plain
  | _ => exact plain

/-! ### Unary operators -/

theorem unarySpecial_sim (op : UnaryOp) (hn : op ≠ .not) (hv : ValueRel w v v') :
    C.Sim c w ValueRel (unarySpecial r op v) (unarySpecial r' op v') := by
  have special : (unaryMethod op).1 ∈ specialMethods := by
    cases op with
    | not => exact absurd rfl hn
    | _ => decide
  refine (callSpecial_sim hr (.inr special) hv .nil).bind fun w₁ x x' h₁ hx => ?_
  cases hx with
  | some hx => exact .pure hx
  | none => exact failType_sim _ (up h₁ hv)

theorem unaryOp_sim (op : UnaryOp) (hv : ValueRel w v v') :
    C.Sim c w ValueRel (unaryOp r op v) (unaryOp r' op v') := by
  have special (hn : op ≠ .not) := unarySpecial_sim (c := c) hr op hn hv
  have negated (n : Int) : C.Sim c w ValueRel (do return .int (← lift (exact (-n))))
      (do return .int (← lift (exact (-n)))) :=
    (lift_same (.exact _)).bind fun _ n n' _ hn => .pure (by cases hn; exact .int _)
  cases op with
  | not =>
    refine (truthy_sim hr hv).bind fun _ b b' _ hb => ?_
    cases hb
    exact .pure (.bool _)
  | neg =>
    cases hv with
    | float x => exact .pure (.float _)
    | int n => exact negated n
    | bool b => exact negated _
    | _ => exact special nofun
  | pos =>
    cases hv with
    | float x => exact .pure (.float _)
    | int n => exact .pure (.int _)
    | bool b => exact .pure (.int _)
    | _ => exact special nofun
  | invert =>
    cases hv with
    | int n => exact .pure (.int _)
    | bool b => exact .pure (.int _)
    | _ => exact special nofun

end Stepwise
