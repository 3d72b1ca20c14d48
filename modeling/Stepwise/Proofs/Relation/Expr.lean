import Stepwise.Eval.Assign
import Stepwise.Proofs.Relation.Builtin

/-!
# Coupled expressions

Evaluating expressions, and assigning to and deleting targets, go alike on both sides. Expressions
that make functions, bind names or call more than harmless functions need leave to change something
(`Coupling.Lawful.calm`).
-/

namespace Stepwise

open Script Coupling

variable {σ τ : Type} {C : Coupling σ τ} [hC : C.Lawful] {c : C.Ctx} {w : World}
variable {α β : Type} {A : Rel α β}
variable {r : Runner σ} {r' : Runner τ} (hr : RunnerRel C r r')
variable {v v' : Value}
include hr

/-! ### Calls -/

theorem starItems_sim (hv : ValueRel w v v') :
    C.Sim c w ValuesRel (starItems r v) (starItems r' v') := by
  refine (hr.iterate hv).attempt_bind (fun _ _ _ _ => .failType _ v) fun w₁ x x' h₁ hx => ?_
  cases hx with
  | ok h => exact .pure h
  | error _ => exact failType_sim _ (up h₁ hv)

/-- The arguments of a call; without a key function among them none comes out. -/
theorem evalArguments_sim : ∀ {w : World} {as : List Argument}, Every C.phrase (argumentParts as) →
    C.Sim c w (fun w p p' => PairRel ValuesRel KeywordsRel w p p' ∧
        ((∀ a ∈ as, a.isKeyless = true) → Keyless p.2))
      (evalArguments r as) (evalArguments r' as)
  | _, [], _ => .pure ⟨⟨.nil, .nil⟩, fun _ _ h => by cases h⟩
  | w, .positional e :: as, h => by
    rw [argumentParts, every_append] at h
    refine (hr.eval h.1).bind fun w₁ v v' h₁ hv => ?_
    refine (evalArguments_sim h.2).bind fun w₂ p p' h₂ hp => .pure ⟨⟨?_, hp.1.snd⟩, fun less => ?_⟩
    · exact .cons (up h₂ hv) hp.1.fst
    · exact hp.2 fun a ha => less a (.tail _ ha)
  | w, .keyword name e :: as, h => by
    rw [argumentParts, every_append] at h
    refine (hr.eval h.1).bind fun w₁ v v' h₁ hv => ?_
    refine (evalArguments_sim h.2).bind fun w₂ p p' h₂ hp => .pure ⟨⟨hp.1.fst, ?_⟩, fun less => ?_⟩
    · exact .cons ⟨rfl, up h₂ hv⟩ hp.1.snd
    · refine List.forall_mem_cons.2 ⟨?_, hp.2 fun a ha => less a (.tail _ ha)⟩
      simpa [Argument.isKeyless] using less _ (.head _)
  | w, .star e :: as, h => by
    rw [argumentParts, every_append] at h
    refine (hr.eval h.1).bind fun w₁ v v' h₁ hv => ?_
    refine (starItems_sim hr hv).bind fun w₂ vs vs' h₂ hvs => ?_
    refine (evalArguments_sim h.2).bind fun w₃ p p' h₃ hp => .pure ⟨⟨?_, hp.1.snd⟩, fun less => ?_⟩
    · exact ListRel.append (up h₃ hvs) hp.1.fst
    · exact hp.2 fun a ha => less a (.tail _ ha)

/-- A call of something that is not an attribute. -/
theorem plainCall_sim {func : Expr} {as : List Argument} (hc : C.changes)
    (hf : Every C.phrase func.parts) (has : Every C.phrase (argumentParts as)) :
    C.Sim c w ValueRel
      (do let f ← r.eval func; let (args, ks) ← evalArguments r as; callValue r f args ks)
      (do let f ← r'.eval func; let (args, ks) ← evalArguments r' as; callValue r' f args ks) := by
  refine (hr.eval hf).bind fun w₁ f f' h₁ hf => ?_
  refine (evalArguments_sim hr has).bind fun w₂ p p' h₂ hp => ?_
  exact callValue_sim hr (hC.tame hc _) (up h₂ hf) hp.1.fst hp.1.snd

theorem evalCall_sim {func : Expr} {as : List Argument}
    (h : Every C.phrase (Expr.call func as).parts) :
    C.Sim c w ValueRel (evalCall r func as) (evalCall r' func as) := by
  have phrase := h.expr
  rw [Expr.parts, every_cons, every_append] at h
  obtain ⟨-, hf, has⟩ := h
  rcases hC.calm with hc | calm
  · unfold evalCall
    split
    · rw [Expr.parts, every_cons] at hf
      refine (hr.eval hf.2).bind fun w₁ v v' h₁ hv => ?_
      refine (evalArguments_sim hr has).bind fun w₂ p p' h₂ hp => ?_
      exact callMethod_sim hr hc (up h₂ hv) _ hp.1.fst hp.1.snd
    · exact plainCall_sim hr hc hf has
  · obtain ⟨x, rfl, hx, less⟩ := calm _ phrase
    refine (hr.name hx).bind fun w₁ f f' h₁ hf => ?_
    obtain ⟨b, rfl, rfl, hb⟩ := hf
    refine (evalArguments_sim hr has).bind fun w₂ p p' h₂ hp => ?_
    exact callBuiltin_sim hr b (.inr ⟨hb, hp.2 less⟩) hp.1.fst hp.1.snd

/-! ### Comprehensions -/

theorem allHold_sim : ∀ {w : World} {es : List Expr}, Every C.phrase (allParts es) →
    C.Sim c w Same (allHold r es) (allHold r' es)
  | _, [], _ => .pure rfl
  | w, e :: es, h => by
    rw [allParts, every_append] at h
    refine (hr.eval h.1).bind fun w₁ v v' h₁ hv => ?_
    refine (truthy_sim hr hv).bind fun w₂ b b' h₂ hb => ?_
    exact .ite (by rw [hb]) (fun _ => allHold_sim h.2) fun _ => .pure rfl

omit hC in
theorem forItems_sim [Grows A] {k : Clause} {f : α → M σ α} {f' : β → M τ β}
    [hC : C.Lawful] (hc : C.changes) (hk : Every C.phrase (clauseParts [k]))
    (hb : ∀ x ∈ targetNames [] k.target, C.binds c x)
    (hf : ∀ {w a b}, A w a b → C.Sim c w A (f a) (f' b)) :
    ∀ {w : World} {vs vs' : List Value} {a : α} {b : β}, ValuesRel w vs vs' → A w a b →
      C.Sim c w A (forItems r k f vs a) (forItems r' k f' vs' b)
  | _, _, _, _, _, .nil, ha => .pure ha
  | w, _, _, _, _, .cons hv hvs, ha => by
    obtain ⟨target, items, conditions⟩ := k
    have parts := hk
    simp only [clauseParts, every_append, every_nil, and_true] at hk
    refine (hr.assign hc hk.1.1 hb hv).bind fun w₁ _ _ h₁ _ => ?_
    refine (allHold_sim hr hk.2).bind fun w₂ t t' h₂ ht => ?_
    have h := h₁.trans h₂
    refine .ite (by rw [ht]) (fun _ => ?_) fun _ => ?_
    · refine (hf (up h ha)).bind fun w₃ a b h₃ ha => ?_
      exact forItems_sim hc parts hb hf (up (h.trans h₃) hvs) ha
    · exact forItems_sim hc parts hb hf (up h hvs) (up h ha)

theorem forClauses_sim [Grows A] {f : α → M σ α} {f' : β → M τ β} (hc : C.changes)
    (hf : ∀ {w a b}, A w a b → C.Sim c w A (f a) (f' b)) :
    ∀ {w : World} {ks : List Clause} {a : α} {b : β}, Every C.phrase (clauseParts ks) →
      (∀ k ∈ ks, ∀ x ∈ targetNames [] k.target, C.binds c x) → A w a b →
      C.Sim c w A (forClauses r f ks a) (forClauses r' f' ks b)
  | _, [], _, _, _, _, ha => hf ha
  | w, .mk target items conditions :: ks, a, b, hk, hb, ha => by
    rw [List.forall_mem_cons] at hb
    simp only [clauseParts, every_append] at hk
    obtain ⟨⟨⟨ht, hi⟩, hs⟩, hks⟩ := hk
    refine (hr.eval hi).bind fun w₁ v v' h₁ hv => ?_
    refine (hr.iterate hv).bind fun w₂ vs vs' h₂ hvs => ?_
    have one : Every C.phrase (clauseParts [.mk target items conditions]) := by
      simp only [clauseParts, every_append, every_nil, and_true]
      exact ⟨⟨ht, hi⟩, hs⟩
    exact forItems_sim hr hc one hb.1 (fun ha => forClauses_sim hc hf hks hb.2 ha) hvs
      (up (h₁.trans h₂) ha)

omit hr in
omit hC in
theorem restore_rel {n n' : Namespace} {saved saved' : List (String × Option Value)}
    (hn : NamespaceRel w n n') (hs : ListRel (PairRel Same (OptionRel ValueRel)) w saved saved') :
    NamespaceRel w (saved.foldl restore n) (saved'.foldl restore n') := by
  refine hs.foldl (B := NamespaceRel) hn fun {n n' p p'} hn hp => ?_
  obtain ⟨x, o⟩ := p
  obtain ⟨x', o'⟩ := p'
  obtain ⟨rfl : x = x', ho⟩ := hp
  cases ho with
  | none => exact OrderedRel.erase hn rfl
  | some hv => exact OrderedRel.set hn rfl hv

omit hr in
/-- Names that are bound for a time go alike with what is done in the meantime. -/
theorem whileBound_sim [Grows A] {e : Expr} {x : M σ α} {y : M τ β} (hc : C.changes)
    (he : C.phrase (.expr e)) (h : ∀ c' w', w ≤ w' → (∀ n ∈ e.boundNames, C.binds c' n) →
      C.Sim c' w' A x y) : C.Sim c w A (whileBound e.boundNames x) (whileBound e.boundNames y) := by
  by_cases confined : C.confined
  · exact hC.bound confined he h
  refine .get fun m m' hm => ?_
  have H := hC.near hm
  have hvars : NamespaceRel w (((m.heap.scope? m.currentScope).map Scope.vars).getD .empty)
      (((m'.heap.scope? m'.currentScope).map Scope.vars).getD .empty) :=
    OptionRel.getD (A := NamespaceRel) ((H.heap.scope? H.currentScope).map fun h => h.vars)
      OrderedRel.empty
  have saved (names : List String) {n n' : Namespace} (hn : NamespaceRel w n n') :
      ListRel (PairRel Same (OptionRel ValueRel)) w (names.map fun x => (x, n.get? x))
        (names.map fun x => (x, n'.get? x)) := by
    induction names with
    | nil => exact .nil
    | cons x xs ih => exact .cons ⟨rfl, OrderedRel.get? hn rfl⟩ ih
  have inside := h c w le_rfl fun n _ => (hC.binds c n).resolve_left confined
  refine (inside.attempt (hC.upright hc)).bind fun w₁ x x' h₁ hx => ?_
  have hs := up (A := ListRel (PairRel Same (OptionRel ValueRel))) h₁ (saved e.boundNames hvars)
  refine (modifyScope_sim hc confined (h₁.place H.currentScope) fun hn => restore_rel hn hs).bind
    fun w₂ _ _ h₂ _ => ?_
  cases hx with
  | ok h => exact .pure (up h₂ h)
  | error he => exact .rethrow (up h₂ he)

omit hr hC in
theorem comprehension_eq {f : α → M σ α} {a : α} {ks : List Clause} : comprehension r ks f a =
    whileBound (allTargetNames [] (ks.map (·.target))) (forClauses r f ks a) := rfl

theorem comprehension_sim [Grows A] {f : α → M σ α} {f' : β → M τ β} {a : α} {b : β} {e : Expr}
    {ks : List Clause} (hc : C.changes) (he : C.phrase (.expr e))
    (names : allTargetNames [] (ks.map (·.target)) = e.boundNames)
    (hk : Every C.phrase (clauseParts ks))
    (hf : ∀ {c w a b}, A w a b → C.Sim c w A (f a) (f' b)) (ha : A w a b) :
    C.Sim c w A (comprehension r ks f a) (comprehension r' ks f' b) := by
  rw [comprehension_eq, comprehension_eq, names]
  refine whileBound_sim hc he fun c' w' hw hb => forClauses_sim hr hc hf hk ?_ (up hw ha)
  exact fun k hk x hx => hb x (names ▸ mem_allTargetNames.2 (.inr ⟨_, List.mem_map_of_mem hk, hx⟩))

theorem comprehensionItems_sim {e whole : Expr} {ks : List Clause} (hc : C.changes)
    (hw : C.phrase (.expr whole))
    (names : allTargetNames [] (ks.map (·.target)) = whole.boundNames)
    (he : Every C.phrase e.parts) (hk : Every C.phrase (clauseParts ks)) :
    C.Sim c w ValuesRel (comprehensionItems r e ks) (comprehensionItems r' e ks) := by
  refine (comprehension_sim hr (A := ValuesRel) hc hw names hk (fun h => ?_) .nil).bind
    fun _ _ _ _ h => .pure h.reverse
  exact (hr.eval he).bind fun w₁ v v' h₁ hv => .pure (.cons hv (up h₁ h))

theorem comprehensionEntries_sim {k v whole : Expr} {ks : List Clause} (hc : C.changes)
    (hw : C.phrase (.expr whole))
    (names : allTargetNames [] (ks.map (·.target)) = whole.boundNames)
    (hk : Every C.phrase k.parts) (hv : Every C.phrase v.parts)
    (hks : Every C.phrase (clauseParts ks)) :
    C.Sim c w (ListRel (PairRel ValueRel ValueRel)) (comprehensionEntries r k v ks)
      (comprehensionEntries r' k v ks) := by
  refine (comprehension_sim hr (A := ListRel (PairRel ValueRel ValueRel)) hc hw names hks
    (fun h => ?_) .nil).bind fun _ _ _ _ h => .pure h.reverse
  refine (hr.eval hk).bind fun w₁ x x' h₁ hx => ?_
  refine (hr.eval hv).bind fun w₂ y y' h₂ hy => .pure (.cons ⟨up h₂ hx, hy⟩ ?_)
  exact up (A := ListRel (PairRel ValueRel ValueRel)) (h₁.trans h₂) h

/-! ### Other expressions -/

theorem evalParts_sim : ∀ {w : World} {ps : List FieldPart}, Every C.phrase (fieldParts ps) →
    C.Sim c w Same (evalParts r ps) (evalParts r' ps)
  | _, [], _ => .pure rfl
  | w, .text s :: ps, h => by
    rw [fieldParts] at h
    exact (evalParts_sim h).bind fun _ _ _ _ ht => .pure (congrArg _ ht)
  | w, .field e conversion spec :: ps, h => by
    rw [fieldParts, every_append] at h
    refine (hr.eval h.1).bind fun w₁ v v' h₁ hv => ?_
    refine (writeField_sim hr hv conversion _).bind fun w₂ t t' h₂ ht => ?_
    cases ht
    exact (evalParts_sim h.2).bind fun _ _ _ _ ht => .pure (congrArg _ ht)

omit hC in
theorem evalEntries_sim : ∀ {w : World} {es : List (Expr × Expr)}, Every C.phrase (pairParts es) →
    C.Sim c w (ListRel (PairRel ValueRel ValueRel)) (evalEntries r es) (evalEntries r' es)
  | _, [], _ => .pure .nil
  | w, (k, v) :: es, h => by
    rw [pairParts, every_append, every_append] at h
    refine (hr.eval h.1.1).bind fun w₁ x x' h₁ hx => ?_
    refine (hr.eval h.1.2).bind fun w₂ y y' h₂ hy => ?_
    refine (evalEntries_sim h.2).bind fun w₃ es es' h₃ hes => .pure (.cons ?_ hes)
    exact ⟨up (h₂.trans h₃) hx, up h₃ hy⟩

theorem evalChain_sim : ∀ {w : World} {v v' : Value} {rest : List (CompareOp × Expr)},
    Every C.phrase (restParts rest) → ValueRel w v v' →
    C.Sim c w Same (evalChain r v rest) (evalChain r' v' rest)
  | _, _, _, [], _, _ => .pure rfl
  | w, _, _, (op, e) :: rest, h, hv => by
    rw [restParts, every_append] at h
    refine (hr.eval h.1).bind fun w₁ u u' h₁ hu => ?_
    refine (compareValues_sim hr op (up h₁ hv) hu).bind fun w₂ b b' h₂ hb => ?_
    exact .ite (by rw [hb]) (fun _ => evalChain_sim h.2 (up h₂ hu)) fun _ => .pure rfl

theorem evalSubscript_sim {object index : Expr} (ho : Every C.phrase object.parts)
    (hi : Every C.phrase index.parts) :
    C.Sim c w ValueRel (evalSubscript r object index) (evalSubscript r' object index) := by
  refine (hr.eval ho).bind fun w₁ v v' h₁ hv => ?_
  have item : C.Sim c w₁ ValueRel (do getItem r v (← r.eval index))
      (do getItem r' v' (← r'.eval index)) :=
    (hr.eval hi).bind fun w₂ i i' h₂ hi => getItem_sim hr (up h₂ hv) hi
  cases index with
  | slice lower upper step =>
    simp only [Expr.parts, every_cons, every_append] at hi
    refine (evalSlice_sim hr hi.2.1.1 hi.2.1.2 hi.2.2).bind fun w₂ s s' h₂ hs => ?_
    cases hs
    exact getSlice_sim (up h₂ hv) s
  | _ => exact item

theorem evalBinary_sim (op : BinaryOp) {left right : Expr} (hl : Every C.phrase left.parts)
    (hr' : Every C.phrase right.parts) :
    C.Sim c w ValueRel (evalBinary r op left right) (evalBinary r' op left right) := by
  refine (hr.eval hl).bind fun w₁ a a' h₁ ha => ?_
  refine (hr.eval hr').bind fun w₂ b b' h₂ hb => ?_
  exact binaryOp_sim hr op (up h₂ ha) hb

theorem evalBool_sim (op : BoolOp) {left right : Expr} (hl : Every C.phrase left.parts)
    (hr' : Every C.phrase right.parts) :
    C.Sim c w ValueRel (evalBool r op left right) (evalBool r' op left right) := by
  refine (hr.eval hl).bind fun w₁ v v' h₁ hv => ?_
  refine (truthy_sim hr hv).bind fun w₂ b b' h₂ hb => ?_
  cases hb
  exact .ite .rfl (fun _ => .pure (up h₂ hv)) fun _ => hr.eval hr'

theorem evalDisplay_sim {e : Expr} (he : Every C.phrase e.parts) :
    C.Sim c w ValueRel (evalDisplay r e) (evalDisplay r' e) := by
  cases e with
  | tuple items =>
    rw [Expr.parts, every_cons] at he
    exact (evalAll_sim hr he.2).bind fun _ _ _ _ h => makeTuple_sim h
  | list items =>
    rw [Expr.parts, every_cons] at he
    exact (evalAll_sim hr he.2).bind fun _ _ _ _ h => makeList_sim h
  | set items =>
    rw [Expr.parts, every_cons] at he
    exact (evalAll_sim hr he.2).bind fun _ _ _ _ h => makeSet_sim h
  | dict pairs =>
    rw [Expr.parts, every_cons] at he
    exact (evalEntries_sim hr he.2).bind fun _ _ _ _ h => makeDict_sim h
  | listComp e ks =>
    have hc := hC.calm.resolve_right fun calm => calm _ he.expr
    have whole := he.expr
    rw [Expr.parts, every_cons, every_append] at he
    exact (comprehensionItems_sim hr hc whole rfl he.2.1 he.2.2).bind
      fun _ _ _ _ h => makeList_sim h
  | setComp e ks =>
    have hc := hC.calm.resolve_right fun calm => calm _ he.expr
    have whole := he.expr
    rw [Expr.parts, every_cons, every_append] at he
    exact (comprehensionItems_sim hr hc whole rfl he.2.1 he.2.2).bind
      fun _ _ _ _ h => makeSet_sim h
  | dictComp k v ks =>
    have hc := hC.calm.resolve_right fun calm => calm _ he.expr
    have whole := he.expr
    rw [Expr.parts, every_cons, every_append, every_append] at he
    exact (comprehensionEntries_sim hr hc whole rfl he.2.1.1 he.2.1.2 he.2.2).bind
      fun _ _ _ _ h => makeDict_sim h
  | _ => exact .pure .none

theorem evalExpr_sim : ∀ {e : Expr}, Every C.phrase e.parts →
    C.Sim c w ValueRel (evalExpr r e) (evalExpr r' e)
  | .none, _ => .pure .none
  | .bool b, _ => .pure (.bool b)
  | .int n, _ => .pure (.int n)
  | .float x, _ => .pure (.float x)
  | .str s, _ => .pure (.str s)
  | .fstring ps, he => by
    rw [Expr.parts, every_cons] at he
    refine (evalParts_sim hr he.2).bind fun _ t t' _ ht => ?_
    cases ht
    exact .pure (.str _)
  | .name x, _ => lookupName_sim x
  | .attribute object name, he => by
    rw [Expr.parts, every_cons] at he
    exact (hr.eval he.2).bind fun _ _ _ _ hv => getAttribute_sim hv name
  | .subscript object index, he => by
    rw [Expr.parts, every_cons, every_append] at he
    exact evalSubscript_sim hr he.2.1 he.2.2
  | .slice _ _ _, _ => fail_sim (.plain rfl)
  | .call _ _, he => evalCall_sim hr he
  | .unary op operand, he => by
    rw [Expr.parts, every_cons] at he
    exact (hr.eval he.2).bind fun _ _ _ _ hv => unaryOp_sim hr op hv
  | .binary op left right, he => by
    rw [Expr.parts, every_cons, every_append] at he
    exact evalBinary_sim hr op he.2.1 he.2.2
  | .compare left rest, he => by
    rw [Expr.parts, every_cons, every_append] at he
    refine (hr.eval he.2.1).bind fun _ v v' _ hv => ?_
    exact makeBool_sim (evalChain_sim hr he.2.2 hv)
  | .boolOp op left right, he => by
    rw [Expr.parts, every_cons, every_append] at he
    exact evalBool_sim hr op he.2.1 he.2.2
  | .ifElse test body orelse, he => by
    rw [Expr.parts, every_cons, every_append, every_append] at he
    refine (hr.eval he.2.1.1).bind fun w₁ v v' h₁ hv => ?_
    refine (truthy_sim hr hv).bind fun w₂ b b' h₂ hb => ?_
    exact .ite (by rw [hb]) (fun _ => hr.eval he.2.1.2) fun _ => hr.eval he.2.2
  | .lambda fn, he => by
    have hc := hC.calm.resolve_right fun calm => calm _ he.expr
    rw [Expr.parts, every_cons] at he
    exact makeFunction_sim hr hc he.2
  | .tuple _, he | .list _, he | .set _, he | .dict _, he | .listComp _ _, he | .setComp _ _, he
  | .dictComp _ _ _, he => evalDisplay_sim hr he

/-! ### Targets -/

theorem unpackItems_sim (hc : C.changes) (hv : ValueRel w v v') :
    C.Sim c w ValuesRel (unpackItems r v) (unpackItems r' v') := by
  refine ((hr.iterate hv).attempt (hC.upright hc)).bind fun w₁ x x' h₁ hx => ?_
  cases hx with
  | ok h => exact .pure h
  | @error e e' he =>
    obtain ⟨f, p⟩ := e
    obtain ⟨f', p'⟩ := e'
    obtain ⟨hf, hp⟩ := he
    have same := hf
    cases hf with
    | @plain f _ =>
      cases f with
      | type t => exact failType_sim _ (up h₁ hv)
      | _ => exact .rethrow ⟨same, hp⟩
    | _ => exact .rethrow ⟨same, hp⟩

theorem unpack_sim (hc : C.changes) (hv : ValueRel w v v') (n : Nat) :
    C.Sim c w ValuesRel (unpack r v n) (unpack r' v' n) := by
  refine (unpackItems_sim hr hc hv).bind fun w₁ vs vs' h₁ hvs => ?_
  rw [hvs.length]
  refine .ite .rfl (fun _ => fail_sim (.plain rfl)) fun _ => ?_
  exact .ite .rfl (fun _ => fail_sim (.plain rfl)) fun _ => .pure hvs

omit hC in
theorem assignAll_sim (hc : C.changes) : ∀ {w : World} {ts : List Expr} {vs vs' : List Value},
    Every C.phrase (allParts ts) → (∀ t ∈ ts, ∀ x ∈ targetNames [] t, C.binds c x) →
    ValuesRel w vs vs' → C.Sim c w Same (assignAll r ts vs) (assignAll r' ts vs')
  | _, [], _, _, _, _, _ => .pure rfl
  | _, _ :: _, _, _, _, _, .nil => .pure rfl
  | w, t :: ts, _, _, h, hb, .cons hv hvs => by
    rw [allParts, every_append] at h
    rw [List.forall_mem_cons] at hb
    exact (hr.assign hc h.1 hb.1 hv).bind
      fun w₁ _ _ h₁ _ => assignAll_sim hc h.2 hb.2 (up h₁ hvs)

theorem assignTarget_sim {e : Expr} (hc : C.changes) (he : Every C.phrase e.parts)
    (hb : ∀ x ∈ targetNames [] e, C.binds c x) (hv : ValueRel w v v') :
    C.Sim c w Same (assignTarget r e v) (assignTarget r' e v') := by
  have all (ts : List Expr) (ht : Every C.phrase (allParts ts))
      (hb : ∀ x ∈ allTargetNames [] ts, C.binds c x) : C.Sim c w Same
      (do let items ← unpack r v ts.length; assignAll r ts items)
      (do let items ← unpack r' v' ts.length; assignAll r' ts items) :=
    (unpack_sim hr hc hv _).bind fun _ _ _ _ h => assignAll_sim hr hc ht
      (fun t ht x hx => hb x (mem_allTargetNames.2 (.inr ⟨t, ht, hx⟩))) h
  unfold assignTarget
  split
  · exact assignName_sim hc (hb _ (by simp [targetNames])) hv
  · rw [Expr.parts, every_cons] at he
    exact (hr.eval he.2).bind fun w₁ _ _ h₁ ho => setAttribute_sim hc ho _ (up h₁ hv)
  · simp only [Expr.parts, every_cons, every_append] at he
    obtain ⟨-, ho, -, ⟨hl, hu⟩, hs⟩ := he
    refine (hr.eval ho).bind fun w₁ x x' h₁ hx => ?_
    refine (evalSlice_sim hr hl hu hs).bind fun w₂ s s' h₂ hs => ?_
    cases hs
    exact setSlice_sim hr hc (up h₂ hx) s (up (h₁.trans h₂) hv)
  · rw [Expr.parts, every_cons, every_append] at he
    refine (hr.eval he.2.1).bind fun w₁ x x' h₁ hx => ?_
    refine (hr.eval he.2.2).bind fun w₂ i i' h₂ hi => ?_
    exact setItem_sim hr hc (up h₂ hx) hi (up (h₁.trans h₂) hv)
  · rw [Expr.parts, every_cons] at he
    exact all _ he.2 hb
  · rw [Expr.parts, every_cons] at he
    exact all _ he.2 hb
  · exact fail_sim (.plain rfl)

omit hC in
theorem assignEach_sim [hC : C.Lawful] (hx : C.executes) :
    ∀ {w : World} {ts : List Expr} {v v' : Value},
    Every C.phrase (allParts ts) → ValueRel w v v' →
    C.Sim c w Same (assignEach r v ts) (assignEach r' v' ts)
  | _, [], _, _, _, _ => .pure rfl
  | w, t :: ts, _, _, h, hv => by
    rw [allParts, every_append] at h
    exact (hr.assign (hC.changes hx) h.1 (fun x _ => hC.free hx c x) hv).bind
      fun w₁ _ _ h₁ _ => assignEach_sim hx h.2 (up h₁ hv)

omit hC in
theorem deleteAll_sim (hx : C.executes) : ∀ {w : World} {ts : List Expr},
    Every C.phrase (allParts ts) → C.Sim c w Same (deleteAll r ts) (deleteAll r' ts)
  | _, [], _ => .pure rfl
  | w, t :: ts, h => by
    rw [allParts, every_append] at h
    exact (hr.delete hx h.1).bind fun w₁ _ _ h₁ _ => deleteAll_sim hx h.2

theorem deleteTarget_sim {e : Expr} (hx : C.executes) (he : Every C.phrase e.parts) :
    C.Sim c w Same (deleteTarget r e) (deleteTarget r' e) := by
  have hc := hC.changes hx
  unfold deleteTarget
  split
  · exact deleteName_sim hx _
  · rw [Expr.parts, every_cons] at he
    exact (hr.eval he.2).bind fun w₁ _ _ h₁ ho => deleteAttribute_sim hc ho _
  · simp only [Expr.parts, every_cons, every_append] at he
    obtain ⟨-, ho, -, ⟨hl, hu⟩, hs⟩ := he
    refine (hr.eval ho).bind fun w₁ x x' h₁ ho => ?_
    refine (evalSlice_sim hr hl hu hs).bind fun w₂ s s' h₂ hs => ?_
    cases hs
    exact delSlice_sim hc (up h₂ ho) s
  · rw [Expr.parts, every_cons, every_append] at he
    refine (hr.eval he.2.1).bind fun w₁ x x' h₁ ho => ?_
    exact (hr.eval he.2.2).bind fun w₂ i i' h₂ hi => delItem_sim hr hc (up h₂ ho) hi
  · rw [Expr.parts, every_cons] at he
    exact deleteAll_sim hr hx he.2
  · rw [Expr.parts, every_cons] at he
    exact deleteAll_sim hr hx he.2
  · exact fail_sim (.plain rfl)

theorem augmentedAssign_sim {target value : Expr} (op : BinaryOp) (hx : C.executes)
    (ht : Every C.phrase target.parts) (hv : Every C.phrase value.parts) :
    C.Sim c w Same (augmentedAssign r target op value) (augmentedAssign r' target op value) := by
  have hc := hC.changes hx
  unfold augmentedAssign
  split
  · refine (lookupName_sim _).bind fun w₁ u u' h₁ hu => ?_
    refine (hr.eval hv).bind fun w₂ y y' h₂ hy => ?_
    exact (inplaceOp_sim hr op hc (up h₂ hu) hy).bind
      fun _ _ _ _ h => assignName_sim hc (hC.free hx c _) h
  · rw [Expr.parts, every_cons] at ht
    refine (hr.eval ht.2).bind fun w₁ o o' h₁ ho => ?_
    refine (getAttribute_sim ho _).bind fun w₂ u u' h₂ hu => ?_
    refine (hr.eval hv).bind fun w₃ y y' h₃ hy => ?_
    refine (inplaceOp_sim hr op hc (up h₃ hu) hy).bind fun w₄ z z' h₄ hz => ?_
    exact setAttribute_sim hc (up (h₂.trans (h₃.trans h₄)) ho) _ hz
  · exact fail_sim (.plain rfl)
  · rw [Expr.parts, every_cons, every_append] at ht
    refine (hr.eval ht.2.1).bind fun w₁ o o' h₁ ho => ?_
    refine (hr.eval ht.2.2).bind fun w₂ i i' h₂ hi => ?_
    refine (getItem_sim hr (up h₂ ho) hi).bind fun w₃ u u' h₃ hu => ?_
    refine (hr.eval hv).bind fun w₄ y y' h₄ hy => ?_
    refine (inplaceOp_sim hr op hc (up h₄ hu) hy).bind fun w₅ z z' h₅ hz => ?_
    have h := h₃.trans (h₄.trans h₅)
    exact setItem_sim hr hc (up (h₂.trans h) ho) (up h hi) hz
  · exact fail_sim (.plain rfl)

end Stepwise
