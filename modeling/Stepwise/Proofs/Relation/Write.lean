import Stepwise.Proofs.Relation.Index
import Stepwise.Proofs.Relation.Plain

/-!
# Coupled formatting

Attributes of values, and values written under specifications and into templates, go alike on both
sides.
-/

namespace Stepwise

open Script Coupling

variable {σ τ : Type} {C : Coupling σ τ} [hC : C.Lawful] {c : C.Ctx} {w : World}
variable {α β : Type} {A : Rel α β}

/-! ### Attributes -/

/-- Related outcomes of reading an attribute. -/
inductive AttributeRel (w : World) : Attribute → Attribute → Prop
  | value {v v'} (h : ValueRel w v v') : AttributeRel w (.value v) (.value v')
  | bind {v v' u u'} (h : ValueRel w v v') (hu : ValueRel w u u') :
    AttributeRel w (.bind v u) (.bind v' u')
  | native {u u'} (h : ValueRel w u u') : AttributeRel w (.native u) (.native u')
  | missing (f : AttributeFault) : AttributeRel w (.missing f) (.missing f)

namespace HeapRel

variable {h h' : Heap} {a a' : Address} {v v' u u' : Value}

theorem nativeMethods (H : HeapRel w h h') (hv : ValueRel w v v') :
    h.nativeMethods v = h'.nativeMethods v' := by
  cases hv with
  | ref ha =>
    unfold Heap.nativeMethods
    obtain ⟨e, e'⟩ | ⟨o, o', e, e', ho⟩ := H.object ha <;> simp only [e, e']
    cases ho <;> rfl
  | _ => rfl

theorem hasNativeMethod (H : HeapRel w h h') (hv : ValueRel w v v') (name : String) :
    h.hasNativeMethod v name = h'.hasNativeMethod v' name :=
  congrArg (·.contains name) (H.nativeMethods hv)

theorem instanceAttribute (H : HeapRel w h h') (ha : w.addr a a') {i i' : Instance}
    (hi : InstanceRel w i i') (name : String) :
    AttributeRel w (h.instanceAttribute a i name) (h'.instanceAttribute a' i' name) := by
  unfold Heap.instanceAttribute
  have own := OrderedRel.get? hi.attrs (rfl : Same w name name)
  obtain ⟨e, e'⟩ | ⟨v, v', e, e', hv⟩ := own.cases <;>
    simp only [e, e']
  · split
    · exact .value (.ref hi.cls)
    obtain ⟨e, e'⟩ | ⟨v, v', e, e', hv⟩ := (H.classLookup? hi.cls name).cases <;> simp only [e, e']
    · rw [H.className hi.cls]
      exact .missing _
    · exact .bind hv.fst (.ref ha)
  · exact .value hv

theorem classAttribute (H : HeapRel w h h') (ha : w.addr a a') {cls cls' : Class}
    (hc : ClassRel w cls cls') (name : String) :
    AttributeRel w (h.classAttribute a cls name) (h'.classAttribute a' cls' name) := by
  unfold Heap.classAttribute
  rw [hc.name]
  split
  · exact .value (.str _)
  obtain ⟨e, e'⟩ | ⟨v, v', e, e', hv⟩ := (H.classLookup? ha name).cases <;> simp only [e, e']
  · exact .missing _
  · exact .value hv.fst

theorem superAttribute (H : HeapRel w h h') (ha : w.addr a a') (hu : ValueRel w u u')
    (name : String) :
    AttributeRel w (h.superAttribute a u name) (h'.superAttribute a' u' name) := by
  unfold Heap.superAttribute
  have start := ((H.classOf? hu).or hu.address?).getD ha
  obtain ⟨e, e'⟩ | ⟨v, v', e, e', hv⟩ := (H.classLookupAfter? start ha name).cases <;>
    simp only [e, e']
  · split
    · exact .native hu
    · exact .missing _
  · exact .bind hv.fst hu

theorem attributeOf (H : HeapRel w h h') (hv : ValueRel w v v') (name : String) :
    AttributeRel w (h.attributeOf v name) (h'.attributeOf v' name) := by
  have other : AttributeRel w
      (if h.hasNativeMethod v name then .native v else .missing (.ofObject (h.typeName v) name))
      (if h'.hasNativeMethod v' name then .native v'
        else .missing (.ofObject (h'.typeName v') name)) := by
    rw [H.hasNativeMethod hv, H.typeName hv]
    split
    · exact .native hv
    · exact .missing _
  unfold Heap.attributeOf
  cases hv with
  | builtin b =>
    dsimp only
    split
    · exact .value (.str _)
    · exact other
  | ref ha =>
    obtain ⟨e, e'⟩ | ⟨o, o', e, e', ho⟩ := H.object ha <;> simp only [e, e']
    · exact other
    cases ho with
    | inst hi => exact H.instanceAttribute ha hi name
    | cls hc => exact H.classAttribute ha hc name
    | module hm =>
      dsimp only
      obtain ⟨e, e'⟩ | ⟨v, v', e, e', hv⟩ :=
        (OrderedRel.get? hm.attrs (rfl : Same w name name)).cases <;> simp only [e, e']
      · rw [hm.name]
        exact .missing _
      · exact .value hv
    | super ha hu => exact H.superAttribute ha hu name
    | func hf =>
      dsimp only
      split
      · rw [hf.definition]
        exact .value (.str _)
      · exact other
    | _ => exact other
  | _ => exact other

theorem exceptionArgs? (H : HeapRel w h h') (hv : ValueRel w v v') (name : String) :
    OptionRel ValuesRel w (h.exceptionArgs? v name) (h'.exceptionArgs? v' name) := by
  refine hv.address?.bind fun ha => (H.instance? ha).bind fun hi => ?_
  rw [OrderedRel.contains hi.attrs (rfl : Same w name name), H.isExceptionClass hi.cls]
  split
  · exact .some hi.args
  · exact .none

end HeapRel

theorem bindTo_sim {v v' u u' : Value} (hv : ValueRel w v v') (hu : ValueRel w u u') :
    C.Sim c w ValueRel (bindTo v u) (bindTo v' u') := by
  have same := hv
  cases hv with
  | ref ha =>
    refine .getHeap fun m m' hm => ?_
    obtain ⟨e, e'⟩ | ⟨f, f', e, e', hf⟩ := ((hC.near hm).heap.closure? ha).cases <;>
      simp only [e, e']
    · exact .pure same
    · exact make_sim (.boundMethod hu ha) rfl
  | _ => exact .pure same

theorem getAttribute_sim {v v' : Value} (hv : ValueRel w v v') (name : String) :
    C.Sim c w ValueRel (getAttribute v name) (getAttribute v' name) := by
  refine .getHeap fun m m' hm => ?_
  have H := (hC.near hm).heap
  obtain ⟨e, e'⟩ | ⟨as, as', e, e', has⟩ := (H.exceptionArgs? hv name).cases <;> simp only [e, e']
  · have key := H.attributeOf hv name
    revert key
    generalize m.heap.attributeOf v name = x, m'.heap.attributeOf v' name = x'
    intro key
    cases key with
    | value h => exact .pure h
    | bind h hu => exact bindTo_sim h hu
    | native h => exact make_sim (.nativeMethod h name) rfl
    | missing f => exact fail_sim (.plain rfl)
  · exact makeTuple_sim has

theorem failAttribute_sim {v v' : Value} (hv : ValueRel w v v') (name : String) :
    C.Sim c w A (failAttribute v name) (failAttribute v' name) :=
  (typeName_sim hv).bind fun _ _ _ _ h => fail_sim (h ▸ .plain rfl)

theorem setAttribute_sim {v v' x x' : Value} (hc : C.changes) (hv : ValueRel w v v')
    (name : String) (hx : ValueRel w x x') :
    C.Sim c w Same (setAttribute v name x) (setAttribute v' name x') := by
  have missing := failAttribute_sim (C := C) (c := c) (A := Same (α := Unit)) hv name
  cases hv with
  | @ref a a' ha =>
    refine .getHeap_here fun m m' hm => ?_
    obtain ⟨e, e'⟩ | ⟨o, o', e, e', ho⟩ := (hC.near hm).heap.object ha <;> simp only [e, e']
    · exact missing m m' hm
    cases ho with
    | inst _ =>
      have changes : C.Sim c w Same
          (changeHeap (·.modifyInstance a fun i => { i with attrs := i.attrs.set name x }))
          (changeHeap (·.modifyInstance a' fun i => { i with attrs := i.attrs.set name x' })) :=
        modifyInstance_sim hc ha
          (fun hi => { hi with attrs := OrderedRel.set hi.attrs rfl hx }) (fun _ => rfl) fun _ => rfl
      exact changes m m' hm
    | cls hcls =>
      dsimp only
      rw [← hcls.builtin]
      split
      · exact missing m m' hm
      · next made =>
        have made := Bool.eq_false_iff.2 made
        exact modifyClass_agree hc hm ha (fun hn => OrderedRel.set hn rfl hx) e e' made
          (hcls.builtin ▸ made)
    | _ => exact missing m m' hm
  | _ => exact missing

theorem deleteAttribute_sim {v v' : Value} (hc : C.changes) (hv : ValueRel w v v')
    (name : String) : C.Sim c w Same (deleteAttribute v name) (deleteAttribute v' name) := by
  have missing := failAttribute_sim (C := C) (c := c) (A := Same (α := Unit)) hv name
  cases hv with
  | ref ha =>
    refine .getHeap fun m m' hm => ?_
    obtain ⟨e, e'⟩ | ⟨o, o', e, e', ho⟩ := (hC.near hm).heap.object ha <;> simp only [e, e']
    · exact missing
    cases ho with
    | inst hi =>
      refine .ite (by rw [OrderedRel.contains hi.attrs (rfl : Same w name name)]) (fun _ => ?_)
        fun _ => missing
      refine modifyInstance_sim hc ha (fun hi => ?_) (fun _ => rfl) fun _ => rfl
      exact { hi with attrs := OrderedRel.erase hi.attrs rfl }
    | cls hcls =>
      refine .ite (by rw [OrderedRel.contains hcls.attrs (rfl : Same w name name)]) (fun _ => ?_)
        fun _ => missing
      exact modifyClass_sim hc ha (fun hn => OrderedRel.erase hn rfl) (.inr rfl)
    | _ => exact missing
  | _ => exact missing

/-! ### One value -/

section

variable {r : Runner σ} {r' : Runner τ} (hr : RunnerRel C r r')
include hr

theorem writeInteger_sim (s : Spec) {v v' : Value} (hv : ValueRel w v v') (n : Int) :
    C.Sim c w Same (writeInteger r s v n) (writeInteger r' s v' n) := by
  have named {f : String → Except Fault String} (hf : ∀ t, Plain (f t)) :
      C.Sim c w Same (do lift (f (← typeName v))) (do lift (f (← typeName v'))) :=
    (typeName_sim hv).bind fun _ t t' _ ht => by
      cases ht
      exact lift_same (hf t)
  refine .ite .rfl (fun _ => named fun t => .ofFloat s t _) fun _ => ?_
  have whole := named fun t => .ofInteger s t n
  have text := (hr.str (c := c) hv).bind (B := Same) fun _ t t' _ ht =>
    .pure (congrArg (s.pad true) ht)
  cases hv with
  | bool b =>
    split
    · exact text
    · exact whole
  | _ => exact whole

theorem writeSpec_sim (s : Spec) {v v' : Value} (hv : ValueRel w v v') :
    C.Sim c w Same (writeSpec r s v) (writeSpec r' s v') := by
  have other : C.Sim c w Same
      (if s.kind = none ∨ s.kind = some 's' then do return s.pad false (← r.str v)
        else do fail (.value (.formatCode (s.kind.getD ' ') (← typeName v))))
      (if s.kind = none ∨ s.kind = some 's' then do return s.pad false (← r'.str v')
        else do fail (.value (.formatCode (s.kind.getD ' ') (← typeName v')))) := by
    refine .ite .rfl (fun _ => ?_) fun _ => ?_
    · exact (hr.str hv).bind fun _ t t' _ ht => .pure (congrArg (s.pad false) ht)
    · exact (typeName_sim hv).bind fun _ t t' _ ht => fail_sim (ht ▸ .plain rfl)
  have same := hv
  cases hv with
  | str t => exact lift_same (.ofText s t)
  | int n => exact writeInteger_sim hr s same n
  | bool b => exact writeInteger_sim hr s same _
  | float x =>
    refine (typeName_sim same).bind fun _ t t' _ ht => ?_
    cases ht
    exact lift_same (.ofFloat s t x)
  | _ => exact other

theorem write_sim (spec : List Char) {v v' : Value} (hv : ValueRel w v v') :
    C.Sim c w Same (write r spec v) (write r' spec v') := by
  refine .ite .rfl (fun _ => hr.str hv) fun _ => ?_
  cases Spec.parse? spec with
  | some s => exact writeSpec_sim hr s hv
  | none => exact fail_sim (.plain rfl)

theorem writeField_sim {v v' : Value} (hv : ValueRel w v v') (conversion : Option Char)
    (spec : String) :
    C.Sim c w Same (writeField r v conversion spec) (writeField r' v' conversion spec) := by
  cases conversion with
  | none => exact write_sim hr _ hv
  | some ch =>
    have text {x : M σ String} {y : M τ String} (hx : C.Sim c w Same x y) :
        C.Sim c w Same (do write r spec.toList (.str (← x)))
          (do write r' spec.toList (.str (← y))) :=
      hx.bind fun _ t t' _ ht => write_sim hr _ (ht ▸ .str t)
    refine .ite .rfl (fun _ => text (hr.repr hv)) fun _ => ?_
    exact .ite .rfl (fun _ => text (hr.str hv)) fun _ => fail_sim (.plain rfl)

/-! ### Directives -/

theorem writeText_sim (d : Directive) {v v' : Value} (hv : ValueRel w v v') :
    C.Sim c w Same (writeText r d v) (writeText r' d v') := by
  unfold writeText
  dsimp only
  refine .ite .rfl (fun _ => ?_) fun _ => ?_
  · refine (hr.str hv).bind fun _ t t' _ ht => ?_
    cases ht
    exact write_sim hr _ (.str _)
  · refine (hr.repr hv).bind fun _ t t' _ ht => ?_
    cases ht
    exact write_sim hr _ (.str _)

theorem writeWhole_sim (d : Directive) {v v' : Value} (hv : ValueRel w v v') :
    C.Sim c w Same (writeWhole r d v) (writeWhole r' d v') := by
  have same := hv
  cases hv with
  | float x =>
    refine (lift_same (.floatToInt x)).bind fun _ n n' _ hn => ?_
    cases hn
    exact write_sim hr _ (.int n)
  | int n => exact write_sim hr _ (.int n)
  | bool b => exact write_sim hr _ (.bool b)
  | str s => exact .ite .rfl (fun _ => .pure rfl) fun _ => failType_sim _ same
  | _ => exact failType_sim _ same

theorem writeReal_sim (d : Directive) {v v' : Value} (hv : ValueRel w v v') :
    C.Sim c w Same (writeReal r d v) (writeReal r' d v') := by
  unfold writeReal
  rw [hv.asFloat?]
  cases v'.asFloat? with
  | none => exact failType_sim _ hv
  | some x => exact write_sim hr _ (.float x)

theorem writeDirective_sim (d : Directive) {v v' : Value} (hv : ValueRel w v v') :
    C.Sim c w Same (writeDirective r d v) (writeDirective r' d v') := by
  unfold writeDirective
  refine .ite .rfl (fun _ => writeText_sim hr d hv) fun _ => ?_
  refine .ite .rfl (fun _ => writeWhole_sim hr d hv) fun _ => ?_
  exact .ite .rfl (fun _ => writeReal_sim hr d hv) fun _ => fail_sim (.plain rfl)

theorem fillPercent_sim : ∀ {w : World} (ps : List PercentPiece) {vs vs' : List Value},
    ValuesRel w vs vs' → C.Sim c w Same (fillPercent r ps vs) (fillPercent r' ps vs')
  | _, [], _, _, .nil => .pure rfl
  | _, [], _, _, .cons _ _ => fail_sim (.plain rfl)
  | _, .char ch :: ps, vs, vs', h => by
    simp only [fillPercent]
    exact (fillPercent_sim ps h).bind fun _ ts ts' _ ht => .pure (congrArg _ ht)
  | _, .incomplete :: ps, vs, vs', h => by
    simp only [fillPercent]
    exact fail_sim (.plain rfl)
  | _, .directive d :: ps, _, _, .nil => fail_sim (.plain rfl)
  | _, .directive d :: ps, _, _, .cons hv hvs => by
    refine (writeDirective_sim hr d hv).bind fun w₁ t t' h₁ ht => ?_
    cases ht
    exact (fillPercent_sim ps (up h₁ hvs)).bind fun _ ts ts' _ ht => .pure (congrArg _ ht)

theorem percentFormat_sim (template : String) {v v' : Value} (hv : ValueRel w v v') :
    C.Sim c w Same (percentFormat r template v) (percentFormat r' template v') := by
  have fill {vs vs' : List Value} (h : ValuesRel w vs vs') :
      C.Sim c w Same (do return String.join (← fillPercent r (percentPieces template) vs))
        (do return String.join (← fillPercent r' (percentPieces template) vs')) :=
    (fillPercent_sim hr _ h).bind fun _ ts ts' _ ht => .pure (congrArg String.join ht)
  have one := fill (.cons hv .nil)
  cases hv with
  | tuple _ h => exact fill h
  | _ => exact one

/-! ### Fields -/

theorem follow_sim {v v' : Value} (hv : ValueRel w v v') (step : Accessor)
    (hs : ∀ i, step = .item i → ValueRel w i i) :
    C.Sim c w ValueRel (follow r v step) (follow r' v' step) := by
  cases step with
  | attr name => exact getAttribute_sim hv name
  | item index => exact getItem_sim hr hv (hs index rfl)
  | unclosed => exact fail_sim (.plain rfl)
  | stray => exact fail_sim (.plain rfl)

omit hr in
theorem positional_sim {args args' : List Value} (h : ValuesRel w args args') (n : Nat) :
    C.Sim c w ValueRel (positional args n) (positional args' n) := by
  unfold positional
  obtain ⟨e, e'⟩ | ⟨v, v', e, e', hv⟩ := (h.get? n).cases <;> simp only [e, e']
  · exact fail_sim (.plain rfl)
  · exact .pure hv

omit hr in
theorem fieldValue_sim {args args' : List Value} {ks ks' : Keywords} (ha : ValuesRel w args args')
    (hk : KeywordsRel w ks ks') (n : Numbering) (source : FieldSource) :
    C.Sim c w (PairRel ValueRel Same) (fieldValue args ks n source)
      (fieldValue args' ks' n source) := by
  cases source with
  | next =>
    refine .ite .rfl (fun _ => fail_sim (.plain rfl)) fun _ => ?_
    exact (positional_sim ha _).bind fun _ _ _ _ hv => .pure ⟨hv, rfl⟩
  | position i =>
    refine .ite .rfl (fun _ => fail_sim (.plain rfl)) fun _ => ?_
    exact (positional_sim ha _).bind fun _ _ _ _ hv => .pure ⟨hv, rfl⟩
  | keyword name =>
    unfold fieldValue
    obtain ⟨e, e'⟩ | ⟨v, v', e, e', hv⟩ := (ListRel.lookup hk name).cases <;> simp only [e, e']
    · exact fail_sim (.key _ (.str _))
    · exact .pure ⟨hv, rfl⟩

end

/-! ### Templates hold no objects -/

/-- Whether an accessor holds no object. -/
def Accessor.isClosed : Accessor → Prop
  | .item index => ∀ w, ValueRel w index index
  | _ => True

theorem itemKey_closed (cs : List Char) (w : World) : ValueRel w (itemKey cs) (itemKey cs) := by
  unfold itemKey
  split
  · split
    · exact .int _
    · exact .str _
  · exact .str _

theorem accessorsFrom_closed : ∀ (fuel : Nat) (cs : List Char),
    ∀ step ∈ accessorsFrom fuel cs, step.isClosed
  | 0, _, step, h => by simp [accessorsFrom] at h
  | fuel + 1, [], step, h => by simp [accessorsFrom] at h
  | fuel + 1, ch :: cs, step, h => by
    unfold accessorsFrom at h
    split at h
    · rcases List.mem_cons.1 h with rfl | h
      · trivial
      · exact accessorsFrom_closed fuel _ step h
    split at h
    · split at h
      · rw [List.mem_singleton.1 h]
        trivial
      · rcases List.mem_cons.1 h with rfl | h
        · exact itemKey_closed _
        · exact accessorsFrom_closed fuel _ step h
    · rw [List.mem_singleton.1 h]
      trivial

/-- Whether the path of a field holds no object. -/
def TemplatePiece.isClosed : TemplatePiece → Prop
  | .field f => ∀ step ∈ f.path, step.isClosed
  | _ => True

theorem templatePiecesFrom_closed (fuel : Nat) (cs : List Char) :
    ∀ piece ∈ templatePiecesFrom fuel cs, piece.isClosed := by
  fun_induction templatePiecesFrom fuel cs with
  | case1 | case2 => exact fun _ h => by cases h
  | case3 _ _ ih | case4 _ _ ih => exact List.forall_mem_cons.2 ⟨trivial, ih⟩
  | case5 | case6 => exact List.forall_mem_singleton.2 trivial
  | case7 _ _ _ _ _ _ _ _ ih =>
    exact List.forall_mem_cons.2 ⟨accessorsFrom_closed _ _, ih⟩
  | case8 _ _ _ _ _ _ _ ih => exact List.forall_mem_cons.2 ⟨trivial, ih⟩

section

variable {r : Runner σ} {r' : Runner τ} (hr : RunnerRel C r r')
include hr

theorem fillTemplate_sim : ∀ {w : World} {args args' : List Value} {ks ks' : Keywords}
    (n : Numbering) (ps : List TemplatePiece), (∀ p ∈ ps, p.isClosed) → ValuesRel w args args' →
    KeywordsRel w ks ks' →
    C.Sim c w Same (fillTemplate r args ks n ps) (fillTemplate r' args' ks' n ps)
  | _, _, _, _, _, _, [], _, _, _ => by
    simp only [fillTemplate]
    exact .pure rfl
  | _, _, _, _, _, n, .char ch :: ps, hp, ha, hk => by
    simp only [fillTemplate]
    exact (fillTemplate_sim n ps (fun p h => hp p (.tail _ h)) ha hk).bind
      fun _ _ _ _ ht => .pure (congrArg _ ht)
  | _, _, _, _, _, n, .loneClosing :: ps, hp, ha, hk => by
    simp only [fillTemplate]
    exact fail_sim (.plain rfl)
  | _, _, _, _, _, n, .loneOpening :: ps, hp, ha, hk => by
    simp only [fillTemplate]
    exact fail_sim (.plain rfl)
  | w, args, args', ks, ks', n, .field f :: ps, hp, ha, hk => by
    simp only [fillTemplate]
    refine (fieldValue_sim ha hk n f.source).bind fun w₁ p p' h₁ hv => ?_
    obtain ⟨v, n⟩ := p
    obtain ⟨v', n'⟩ := p'
    obtain ⟨hv, rfl : n = n'⟩ := hv
    have hpath : ListRel (fun w a b => a = b ∧ a.isClosed) w₁ f.path f.path :=
      List.forall₂_same.2 fun s hs => ⟨rfl, hp _ (.head _) s hs⟩
    have : Grows (fun (_ : World) (a b : Accessor) => a = b ∧ a.isClosed) := ⟨fun _ h => h⟩
    refine (Sim.foldlM (B := ValueRel) hpath hv fun w₂ v v' s s' h₂ hv hs => ?_).bind
      fun w₂ u u' h₂ hu => ?_
    · obtain ⟨rfl, hs⟩ := hs
      refine follow_sim hr hv s fun i e => ?_
      subst e
      exact hs w₂
    · refine (writeField_sim hr hu f.conversion f.spec).bind fun w₃ t t' h₃ ht => ?_
      cases ht
      have h := (h₁.trans h₂).trans h₃
      exact (fillTemplate_sim n ps (fun p h => hp p (.tail _ h)) (up h ha) (up h hk)).bind
        fun _ _ _ _ ht => .pure (congrArg _ ht)

theorem formatTemplate_sim (template : String) {args args' : List Value} {ks ks' : Keywords}
    (ha : ValuesRel w args args') (hk : KeywordsRel w ks ks') :
    C.Sim c w Same (formatTemplate r template args ks) (formatTemplate r' template args' ks') :=
  (fillTemplate_sim hr _ _ (templatePiecesFrom_closed _ _) ha hk).bind
    fun _ _ _ _ ht => .pure (congrArg String.join ht)

end

end Stepwise
