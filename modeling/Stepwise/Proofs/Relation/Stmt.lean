import Stepwise.Proofs.Relation.Expr

/-!
# Coupled statements

Running statements goes alike on both sides. A statement marks the line of its own part, and the
lines of its blocks are among those that its frame reports.
-/

namespace Stepwise

open Script Coupling

/-- Supplies of related items. -/
inductive SupplyRel (w : World) : Supply → Supply → Prop
  | range (next stop step : Int) : SupplyRel w (.range next stop step) (.range next stop step)
  | list {a a'} (ha : w.addr a a') (n : Nat) : SupplyRel w (.list a n) (.list a' n)
  | items {vs vs'} (h : ValuesRel w vs vs') : SupplyRel w (.items vs) (.items vs')

instance : Grows SupplyRel where
  up hw h := by
    cases h with
    | range a b d => exact .range a b d
    | list ha n => exact .list (hw.addr ha) n
    | items h => exact .items (up hw h)

variable {σ τ : Type} {C : Coupling σ τ} [hC : C.Lawful] {c : C.Ctx} {w : World}
variable {α β : Type} {A : Rel α β}
variable {r : Runner σ} {r' : Runner τ} (hr : RunnerRel C r r')
variable {v v' : Value} {a a' : Address} {e e' : RuntimeError}

/-! ### Raising and catching -/

/-- The object that is made for an error of the machine itself. -/
theorem faultObject_sim (he : ErrorRel w e e')
    (hargs : ValuesRel w (faultArguments e.fault) (faultArguments e'.fault)) : C.Sim c w ValueRel
      (do match errorClass? (← get) e with
        | some cls => make (.inst ⟨cls, .empty, faultArguments e.fault⟩)
        | none => return .none)
      (do match errorClass? (← get) e' with
        | some cls => make (.inst ⟨cls, .empty, faultArguments e'.fault⟩)
        | none => return .none) := by
  refine .get fun m m' hm => ?_
  obtain ⟨f, f'⟩ | ⟨a, a', f, f', ha⟩ := ((hC.near hm).errorClass? he).cases <;> simp only [f, f']
  · exact .pure .none
  · exact make_sim (.inst ⟨ha, OrderedRel.empty, hargs⟩) rfl

theorem exceptionObject_sim (he : ErrorRel w e e') :
    C.Sim c w ValueRel (exceptionObject e) (exceptionObject e') := by
  have instance_ := faultObject_sim (C := C) (c := c) he
  obtain ⟨f, p⟩ := e
  obtain ⟨f', p'⟩ := e'
  obtain ⟨hf, -⟩ := he
  cases hf with
  | @plain f h =>
    cases f with
    | raised x => cases h
    | key s k => cases h
    | _ => exact instance_ (.cons (.str _) .nil)
  | key s hv => exact instance_ (.cons hv .nil)
  | raised n msg hc hv => exact .pure hv

section

include hr

theorem raisedObject_sim (hv : ValueRel w v v') :
    C.Sim c w ValueRel (raisedObject r v) (raisedObject r' v') := by
  have same := hv
  cases hv with
  | ref ha =>
    refine .getHeap fun m m' hm => ?_
    refine .ite (by rw [(hC.near hm).heap.isExceptionClass ha]) (fun _ => ?_) fun _ => .pure same
    exact instantiate_sim hr ha .nil .nil
  | _ => exact .pure same

theorem raiseValue_sim (hv : ValueRel w v v') :
    C.Sim c w FlowRel (raiseValue r v) (raiseValue r' v') := by
  refine (raisedObject_sim hr hv).bind fun w₁ o o' h₁ ho => ?_
  refine .getHeap fun m m' hm => ?_
  have H := (hC.near hm).heap
  obtain ⟨e, e'⟩ | ⟨cls, cls', e, e', hcls⟩ :=
    ((H.classOf? ho).filter fun ha => H.isExceptionClass ha).cases <;> simp only [e, e']
  · exact fail_sim (.plain rfl)
  refine (exceptionMessage_sim hr ho).bind fun w₂ t t' h₂ ht => .getHeap fun m₂ m₂' hm₂ => ?_
  rw [(hC.near hm₂).heap.className (h₂.addr hcls), show t = t' from ht]
  exact fail_sim (.raised _ _ (h₂.addr hcls) (up h₂ ho))

theorem execRaise_sim {o : Option Expr} (ho : Every C.phrase (optionParts o)) :
    C.Sim c w FlowRel (execRaise r o) (execRaise r' o) := by
  cases o with
  | some e => exact (hr.eval ho).bind fun _ _ _ _ hv => raiseValue_sim hr hv
  | none =>
    refine .get fun m m' hm => ?_
    have H := (hC.near hm).handled
    revert H
    generalize m.handled = es, m'.handled = es'
    intro H
    cases H with
    | nil => exact fail_sim (.plain rfl)
    | cons he _ => exact .rethrow he

theorem matchesFilter_sim {o : Option Expr} (he : ErrorRel w e e')
    (ho : Every C.phrase (optionParts o)) :
    C.Sim c w Same (matchesFilter r e o) (matchesFilter r' e' o) := by
  cases o with
  | none => exact .pure rfl
  | some x =>
    refine (hr.eval ho).bind fun w₁ v v' h₁ hv => .get fun m m' hm => ?_
    rw [(hC.near hm).catches? (up h₁ he) hv]
    split
    · exact .pure rfl
    · exact fail_sim (.plain rfl)

/-! ### Loops -/

theorem revisit_sim {pos : Pos} (hx : C.executes) (hl : C.line c pos.line)
    (hn : ∃ n, C.phrase n ∧ n.line? = some pos.line) :
    C.Sim c w Same (revisit r pos) (revisit r' pos) :=
  (hC.goTo hx fun _ => rfl).bind fun _ _ _ _ _ => hr.mark hx hl hn

theorem whileLoop_sim {test : Expr} {body orelse : List Stmt} {pos : Pos} (hx : C.executes)
    (ht : Every C.phrase test.parts) (hb : Every C.phrase (blockParts body))
    (ho : Every C.phrase (blockParts orelse)) (hbl : ∀ n ∈ blockLines body, C.line c n)
    (hol : ∀ n ∈ blockLines orelse, C.line c n) (hl : C.line c pos.line)
    (hn : ∃ n, C.phrase n ∧ n.line? = some pos.line) {fuel fuel' : Nat}
    (rounds : C.Rounds fuel fuel') : ∀ {w : World},
    C.Sim c w FlowRel (whileLoop r test body orelse pos fuel)
      (whileLoop r' test body orelse pos fuel') := by
  induction rounds with
  | stop => exact .stop
  | left h => exact .left h
  | @round fuel fuel' _ ih =>
    intro w
    refine (hr.eval ht).bind fun w₁ v v' h₁ hv => ?_
    refine (truthy_sim hr hv).bind fun w₂ b b' h₂ hbool => ?_
    refine .ite (by rw [hbool]) (fun _ => ?_) fun _ => block_sim hr hx ho hol
    have again {w : World} : C.Sim c w FlowRel
        (do revisit r pos; whileLoop r test body orelse pos fuel)
        (do revisit r' pos; whileLoop r' test body orelse pos fuel') :=
      (revisit_sim hr hx hl hn).bind fun _ _ _ _ _ => ih
    refine (block_sim hr hx hb hbl).bind fun w₃ f f' h₃ hf => ?_
    cases hf with
    | normal | continue_ => exact again
    | break_ => exact .pure .normal
    | return_ h => exact .pure (.return_ h)

theorem supplyOf_sim (hv : ValueRel w v v') :
    C.Sim c w SupplyRel (supplyOf r v) (supplyOf r' v') := by
  have listed := (hr.iterate (c := c) hv).bind (B := SupplyRel)
    fun _ _ _ _ h => .pure (.items h)
  cases hv with
  | range a b d => exact .pure (.range a b d)
  | ref ha =>
    refine .getHeap fun m m' hm => ?_
    obtain ⟨e, e'⟩ | ⟨is, is', e, e', -⟩ := ((hC.near hm).heap.list? ha).cases <;>
      simp only [e, e']
    · exact listed
    · exact .pure (.list ha 0)
  | _ => exact listed

omit hr hC in
theorem HeapRel.nextItem? {h h' : Heap} {s s' : Supply} (H : HeapRel w h h')
    (hs : SupplyRel w s s') :
    OptionRel (PairRel ValueRel SupplyRel) w (Stepwise.nextItem? h s)
      (Stepwise.nextItem? h' s') := by
  cases hs with
  | range next stop step =>
    simp only [Stepwise.nextItem?]
    split
    · exact .some ⟨.int _, .range _ _ _⟩
    · exact .none
  | list ha n =>
    exact ((H.list? ha).bind fun hi => ArrayRel.get? hi n).map fun hv => ⟨hv, .list ha (n + 1)⟩
  | items h =>
    cases h with
    | nil => exact .none
    | cons hv hvs => exact .some ⟨hv, .items hvs⟩

theorem forLoop_sim {target : Expr} {body orelse : List Stmt} {pos : Pos} (hx : C.executes)
    (ht : Every C.phrase target.parts) (hb : Every C.phrase (blockParts body))
    (ho : Every C.phrase (blockParts orelse)) (hbl : ∀ n ∈ blockLines body, C.line c n)
    (hol : ∀ n ∈ blockLines orelse, C.line c n) (hl : C.line c pos.line)
    (hn : ∃ n, C.phrase n ∧ n.line? = some pos.line) {fuel fuel' : Nat}
    (rounds : C.Rounds fuel fuel') : ∀ {w : World} {s s' : Supply}, SupplyRel w s s' →
    C.Sim c w FlowRel (forLoop r target body orelse pos fuel s)
      (forLoop r' target body orelse pos fuel' s') := by
  induction rounds with
  | stop => exact fun _ => .stop
  | left h => exact fun _ => .left h
  | @round fuel fuel' _ ih =>
    intro w s s' hs
    refine .getHeap fun m m' hm => ?_
    obtain ⟨e, e'⟩ | ⟨p, p', e, e', hp⟩ := ((hC.near hm).heap.nextItem? hs).cases <;>
      simp only [e, e']
    · exact block_sim hr hx ho hol
    refine (hr.assign (hC.changes hx) ht (fun x _ => hC.free hx c x) hp.fst).bind
      fun w₁ _ _ h₁ _ => ?_
    refine (block_sim hr hx hb hbl).bind fun w₂ f f' h₂ hf => ?_
    have again : C.Sim c w₂ FlowRel
        (do revisit r pos; forLoop r target body orelse pos fuel p.2)
        (do revisit r' pos; forLoop r' target body orelse pos fuel' p'.2) :=
      (revisit_sim hr hx hl hn).bind fun w₃ _ _ h₃ _ => ih (up (h₁.trans (h₂.trans h₃)) hp.snd)
    cases hf with
    | normal | continue_ => exact again
    | break_ => exact .pure .normal
    | return_ h => exact .pure (.return_ h)

/-! ### Errors -/

omit hr hC in
/-- How a handler ends, once its variable is gone. -/
theorem afterHandler_sim {x y : Except RuntimeError Flow} : AttemptRel FlowRel w x y →
    C.Sim c w FlowRel
      (match x with
        | .ok flow => return flow
        | .error e => rethrow e)
      (match y with
        | .ok flow => return flow
        | .error e => rethrow e) := by
  intro hxy
  cases hxy with
  | ok h => exact .pure h
  | error h => exact .rethrow h

theorem runHandler_sim {h : Handler} (hx : C.executes) (he : ErrorRel w e e')
    (hb : Every C.phrase (blockParts h.body)) (hl : ∀ n ∈ blockLines h.body, C.line c n) :
    C.Sim c w FlowRel (runHandler r h e) (runHandler r' h e') := by
  have hc := hC.changes hx
  have body {w₁ : World} (h₁ : w ≤ w₁) : C.Sim c w₁ (AttemptRel FlowRel)
      (whileHandling e (r.block h.body)) (whileHandling e' (r'.block h.body)) :=
    hC.handling hx (up h₁ he) fun c' w' _ keep =>
      block_sim hr hx hb fun n hn => keep n (hl n hn)
  unfold runHandler
  cases h.binding with
  | none => exact (body le_rfl).bind fun _ _ _ _ hxy => afterHandler_sim hxy
  | some name =>
    refine (exceptionObject_sim he).bind fun w₁ o o' h₁ ho => ?_
    refine (assignName_sim hc (hC.free hx c name) ho).bind fun w₂ _ _ h₂ _ => ?_
    refine (body (h₁.trans h₂)).bind fun w₃ x y h₃ hxy => ?_
    exact ((deleteName_sim hx name).attempt (hC.upright hc)).bind
      fun w₄ _ _ h₄ _ => afterHandler_sim (up h₄ hxy)

theorem handle_sim (hx : C.executes) : ∀ {w : World} {hs : List Handler}, ErrorRel w e e' →
    Every C.phrase (handlerParts hs) → (∀ n ∈ handlerLines hs, C.line c n) →
    C.Sim c w FlowRel (handle r e hs) (handle r' e' hs)
  | _, [], he, _, _ => .rethrow he
  | w, .mk filter binding body pos :: hs, he, h, hl => by
    rw [handlerParts, every_cons, every_append, every_append] at h
    rw [handlerLines, List.forall_mem_cons, List.forall_mem_append] at hl
    refine (hC.goTo hx fun _ => rfl).bind fun w₁ _ _ h₁ _ => ?_
    refine (hr.mark hx hl.1 ⟨_, h.1, rfl⟩).bind fun w₂ _ _ h₂ _ => ?_
    have he := up (h₁.trans h₂) he
    refine (matchesFilter_sim hr he h.2.1.1).bind fun w₃ b b' h₃ hb => ?_
    refine .ite (by rw [hb]) (fun _ => ?_) fun _ => handle_sim hx (up h₃ he) h.2.2 hl.2.2
    exact runHandler_sim hr (h := .mk filter binding body pos) hx (up h₃ he) h.2.1.2 hl.2.1

theorem execGuarded_sim {body orelse : List Stmt} {hs : List Handler} (hx : C.executes)
    (hb : Every C.phrase (blockParts body)) (hh : Every C.phrase (handlerParts hs))
    (ho : Every C.phrase (blockParts orelse)) (hbl : ∀ n ∈ blockLines body, C.line c n)
    (hhl : ∀ n ∈ handlerLines hs, C.line c n) (hol : ∀ n ∈ blockLines orelse, C.line c n) :
    C.Sim c w FlowRel (execGuarded r body hs orelse) (execGuarded r' body hs orelse) := by
  refine ((block_sim hr hx hb hbl).attempt (hC.upright (hC.changes hx))).bind
    fun w₁ x y h₁ hxy => ?_
  cases hxy with
  | ok h =>
    have same := h
    cases h with
    | normal => exact block_sim hr hx ho hol
    | _ => exact .pure same
  | error he => exact handle_sim hr hx he hh hhl

theorem execTry_sim {body orelse finalbody : List Stmt} {hs : List Handler} (hx : C.executes)
    (hp : Every C.phrase (Action.try_ body hs orelse finalbody).parts)
    (hl : ∀ n ∈ (Action.try_ body hs orelse finalbody).ownLines, C.line c n) :
    C.Sim c w FlowRel (execTry r body hs orelse finalbody)
      (execTry r' body hs orelse finalbody) := by
  simp only [Action.parts, every_append] at hp
  simp only [Action.ownLines, List.forall_mem_append] at hl
  obtain ⟨⟨⟨hb, hh⟩, ho⟩, hf⟩ := hp
  obtain ⟨⟨⟨hbl, hhl⟩, hol⟩, hfl⟩ := hl
  have guarded {w : World} := execGuarded_sim (w := w) hr hx hb hh ho hbl hhl hol
  refine .ite .rfl (fun _ => guarded) fun _ => ?_
  refine (guarded.attempt (hC.upright (hC.changes hx))).bind fun w₁ x y h₁ hxy => ?_
  refine (block_sim hr hx hf hfl).bind fun w₂ f f' h₂ hflow => ?_
  have same := hflow
  cases hflow with
  | normal =>
    cases hxy with
    | ok h => exact .pure (up h₂ h)
    | error he => exact .rethrow (up h₂ he)
  | _ => exact .pure same

/-! ### Definitions and imports -/

theorem evalBases_sim : ∀ {w : World} {es : List Expr}, Every C.phrase (allParts es) →
    C.Sim c w (ListRel AddrRel) (evalBases r es) (evalBases r' es)
  | _, [], _ => .pure .nil
  | w, e :: es, h => by
    rw [allParts, every_append] at h
    refine (hr.eval h.1).bind fun w₁ v v' h₁ hv => ?_
    have same := hv
    cases hv with
    | builtin b =>
      cases b with
      | object => exact evalBases_sim h.2
      | _ => exact failType_sim _ same
    | ref ha =>
      refine .getHeap fun m m' hm => ?_
      refine .ite (by rw [((hC.near hm).heap.class? ha).isSome]) (fun _ => ?_)
        fun _ => failType_sim _ same
      exact (evalBases_sim h.2).bind fun w₂ _ _ h₂ hs => .pure (.cons (h₂.addr ha) hs)
    | _ => exact failType_sim _ same

theorem execClass_sim {d : ClassDef} (hx : C.executes) (hd : Every C.phrase d.parts) :
    C.Sim c w Same (execClass r d) (execClass r' d) := by
  have hc := hC.changes hx
  refine (evalBases_sim hr hd.cls.2.1).bind fun w₁ bs bs' h₁ hbs => ?_
  refine (newClass_sim d.name hx hbs).bind fun w₂ cls cls' h₂ ⟨hcls, own⟩ => ?_
  refine (hC.capture hc).bind fun w₃ s s' h₃ hs => ?_
  refine (hr.classBody hx hd.cls.1 (h₃.addr hcls) hs fun c' w' _ lines =>
    block_sim hr hx hd.cls.2.2 lines).bind fun w₄ n n' h₄ hn => ?_
  refine (modifyClass_sim hc (h₄.addr (h₃.addr hcls)) (fun _ => hn) (.inl own)).bind fun w₅ _ _ h₅ _ => ?_
  exact assignName_sim hc (hC.free hx c _) (.ref (h₅.addr (h₄.addr (h₃.addr hcls))))

end

omit hC in
theorem mathAttributes_rel : NamespaceRel w mathAttributes mathAttributes := by
  refine OrderedRel.ofList (ListRel.append ?_ ?_)
  · exact .cons ⟨rfl, .float _⟩ (.cons ⟨rfl, .float _⟩ (.cons ⟨rfl, .float _⟩
      (.cons ⟨rfl, .float _⟩ (.cons ⟨rfl, .float _⟩ .nil))))
  · induction Builtin.mathematical with
    | nil => exact .nil
    | cons b bs ih => exact .cons ⟨rfl, .builtin b⟩ ih

theorem importModule_sim (hx : C.executes) (name : String) :
    C.Sim c w AddrRel (importModule name) (importModule name) := by
  refine .get fun m m' hm => ?_
  obtain ⟨e, e'⟩ | ⟨a, a', e, e', ha⟩ := ((hC.near hm).modules.lookup name).cases <;>
    simp only [e, e']
  · refine .ite .rfl (fun _ => ?_) fun _ => fail_sim (.plain rfl)
    refine (hC.alloc (.module ⟨rfl, mathAttributes_rel⟩) rfl).bind fun w₁ a a' h₁ ha => ?_
    exact (hC.enlist name hx ha).bind fun w₂ _ _ h₂ _ => .pure (h₂.addr ha)
  · exact .pure ha

theorem execImport_sim (hx : C.executes) : ∀ {w : World} {ns : List ImportName},
    C.Sim c w Same (execImport ns) (execImport ns)
  | _, [] => .pure rfl
  | w, n :: ns => by
    refine (importModule_sim hx n.name).bind fun w₁ a a' h₁ ha => ?_
    exact (assignName_sim (hC.changes hx) (hC.free hx c _) (.ref ha)).bind
      fun _ _ _ _ _ => execImport_sim hx

theorem importNames_sim (pos : Pos) (hx : C.executes) : ∀ {w : World} {ns : List ImportName},
    ValueRel w v v' → C.Sim c w Same (importNames v pos ns) (importNames v' pos ns)
  | _, [], _ => .pure rfl
  | w, n :: ns, hv => by
    have hc := hC.changes hx
    refine ((getAttribute_sim hv n.name).attempt (hC.upright hc)).bind fun w₁ x y h₁ hxy => ?_
    cases hxy with
    | ok ho =>
      exact (assignName_sim hc (hC.free hx c _) ho).bind
        fun w₂ _ _ h₂ _ => importNames_sim pos hx (up (h₁.trans h₂) hv)
    | error _ =>
      have he : ErrorRel w₁ ⟨.module n.name, pos⟩ ⟨.module n.name, pos⟩ :=
        ⟨.plain rfl, fun _ => rfl⟩
      exact Sim.bind (A := Same) (.rethrow he)
        fun w₂ _ _ h₂ _ => importNames_sim pos hx (up (h₁.trans h₂) hv)

/-! ### Other statements -/

omit hC in
theorem frameKind_eq {f f' : Option Frame} (h : OptionRel FrameRel w f f') :
    f.map Frame.kind = f'.map Frame.kind := by
  cases h with
  | none => rfl
  | some h => exact congrArg some h.kind

theorem execNonlocal_sim (names : List String) (pos : Pos) (hx : C.executes) :
    C.Sim c w Same (execNonlocal names pos) (execNonlocal names pos) := by
  refine frame?_sim.bind fun w₁ f f' h₁ hf => ?_
  rw [frameKind_eq hf]
  split
  · exact .rethrow ⟨.plain rfl, fun _ => rfl⟩
  · refine hC.amend hx ⟨fun h => { h with nonlocals := ?_ }, fun _ _ => rfl, fun _ => rfl,
      fun _ => rfl, fun _ => rfl⟩ fun _ => rfl
    rw [h.nonlocals]

theorem execGlobal_sim (names : List String) (hx : C.executes) :
    C.Sim c w Same (execGlobal names) (execGlobal names) := by
  refine hC.amend hx ⟨fun {w f f'} h => ?_, fun f _ => ?_, fun f => ?_, fun f => ?_, fun f => ?_⟩
    fun f => ?_
  · rw [h.kind, h.globals]
    split
    · exact h
    · exact { h with kind := rfl, globals := rfl }
  all_goals split <;> rfl

section

include hr

theorem execAssert_sim {test : Expr} {message : Option Expr} (ht : Every C.phrase test.parts)
    (hm : Every C.phrase (optionParts message)) :
    C.Sim c w Same (execAssert r test message) (execAssert r' test message) := by
  refine (hr.eval ht).bind fun w₁ v v' h₁ hv => ?_
  refine (truthy_sim hr hv).bind fun w₂ b b' h₂ hb => ?_
  refine .ite (by rw [hb]) (fun _ => .pure rfl) fun _ => ?_
  cases message with
  | none => exact fail_sim (.plain rfl)
  | some e =>
    refine (hr.eval hm).bind fun w₃ u u' _ hu => (hr.str hu).bind fun w₄ t t' _ ht => ?_
    cases ht
    exact fail_sim (.plain rfl)

theorem execReturn_sim {value : Option Expr} (hv : Every C.phrase (optionParts value)) :
    C.Sim c w FlowRel (execReturn r value) (execReturn r' value) := by
  refine frame?_sim.bind fun w₁ f f' h₁ hf => ?_
  rw [frameKind_eq hf]
  split
  · exact (evalOption_sim hr hv).bind fun _ _ _ _ ho => .pure (.return_ (ho.getD .none))
  · exact fail_sim (.plain rfl)

theorem execSimple_sim {s : Action} (pos : Pos) (hx : C.executes) (hs : Every C.phrase s.parts) :
    C.Sim c w Same (execSimple r s pos) (execSimple r' s pos) := by
  have hc := hC.changes hx
  cases s with
  | expr e => exact (hr.eval hs).bind fun _ _ _ _ _ => .pure rfl
  | assign targets value =>
    rw [Action.parts, every_append] at hs
    exact (hr.eval hs.2).bind fun _ _ _ _ hv => assignEach_sim hr hx hs.1 hv
  | augAssign target op value =>
    rw [Action.parts, every_append] at hs
    exact augmentedAssign_sim hr op hx hs.1 hs.2
  | delete targets => exact deleteAll_sim hr hx hs
  | global names => exact execGlobal_sim names hx
  | nonlocal names => exact execNonlocal_sim names pos hx
  | assert test message =>
    rw [Action.parts, every_append] at hs
    exact execAssert_sim hr hs.1 hs.2
  | import_ names => exact execImport_sim hx
  | importFrom module names =>
    exact (importModule_sim hx module).bind fun _ _ _ _ ha => importNames_sim pos hx (.ref ha)
  | functionDef d =>
    exact (makeFunction_sim hr hc hs).bind
      fun _ _ _ _ hf => assignName_sim hc (hC.free hx c _) hf
  | classDef d => exact execClass_sim hr hx hs
  | _ => exact .pure rfl

theorem execAction_sim {s : Action} {pos : Pos} (hx : C.executes) (hs : Every C.phrase s.parts)
    (hl : ∀ n ∈ s.ownLines, C.line c n) (hp : C.line c pos.line)
    (hn : ∃ n, C.phrase n ∧ n.line? = some pos.line) :
    C.Sim c w FlowRel (execAction r s pos) (execAction r' s pos) := by
  have simple := (execSimple_sim (c := c) (w := w) hr pos hx hs).bind (B := FlowRel)
    fun _ _ _ _ _ => .pure .normal
  cases s with
  | break_ => exact .pure .break_
  | continue_ => exact .pure .continue_
  | return_ value => exact execReturn_sim hr hs
  | raise e => exact execRaise_sim hr hs
  | if_ test body orelse =>
    simp only [Action.parts, every_append] at hs
    simp only [Action.ownLines, List.forall_mem_append] at hl
    refine (hr.eval hs.1.1).bind fun w₁ v v' h₁ hv => ?_
    refine (truthy_sim hr hv).bind fun w₂ b b' h₂ hb => ?_
    exact .ite (by rw [hb]) (fun _ => block_sim hr hx hs.1.2 hl.1)
      fun _ => block_sim hr hx hs.2 hl.2
  | while_ test body orelse =>
    simp only [Action.parts, every_append] at hs
    simp only [Action.ownLines, List.forall_mem_append] at hl
    exact whileLoop_sim hr hx hs.1.1 hs.1.2 hs.2 hl.1 hl.2 hp hn hr.bounds.rounds
  | for_ target items body orelse =>
    simp only [Action.parts, every_append] at hs
    simp only [Action.ownLines, List.forall_mem_append] at hl
    obtain ⟨⟨⟨ht, hi⟩, hb⟩, ho⟩ := hs
    refine (hr.eval hi).bind fun w₁ v v' h₁ hv => ?_
    refine (supplyOf_sim hr hv).bind fun w₂ s s' h₂ hs => ?_
    exact forLoop_sim hr hx ht hb ho hl.1 hl.2 hp hn hr.bounds.rounds hs
  | try_ body handlers orelse finalbody => exact execTry_sim hr hx hs hl
  | _ => exact simple

theorem execStmt_sim {s : Stmt} (hx : C.executes) (hs : Every C.phrase s.parts)
    (hl : ∀ n ∈ s.ownLines, C.line c n) :
    C.Sim c w FlowRel (execStmt r s) (execStmt r' s) := by
  obtain ⟨s, pos, stop⟩ := s
  rw [Stmt.parts, every_cons] at hs
  rw [Stmt.ownLines, List.forall_mem_cons] at hl
  refine (hC.goTo hx fun _ => rfl).bind fun w₁ _ _ h₁ _ => ?_
  refine (hr.mark hx hl.1 ⟨_, hs.1, rfl⟩).bind fun w₂ _ _ h₂ _ => ?_
  exact execAction_sim hr hx hs.2 hl.2 hl.1 ⟨_, hs.1, rfl⟩

end

end Stepwise
