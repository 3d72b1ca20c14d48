import Stepwise.Eval.Builtin
import Stepwise.Proofs.Relation.Iterable
import Stepwise.Proofs.Relation.Native

/-!
# Coupled calls

Calls of built-in functions, and of any value, go alike on both sides. A pure built-in without a key
function needs no leave to change anything.
-/

namespace Stepwise

open Script Coupling

variable {σ τ : Type} {C : Coupling σ τ} [hC : C.Lawful] {c : C.Ctx} {w : World}
variable {α β : Type} {A : Rel α β}
variable {r : Runner σ} {r' : Runner τ} (hr : RunnerRel C r r')
variable {v v' u u' x x' : Value} {args args' : List Value} {ks ks' : Keywords}

/-! ### Identities -/

mutual

theorem KeyRel.eq_of_exact (hw : w.Exact) : ∀ {k k'}, KeyRel w k k' → k = k'
  | _, _, .none | _, _, .int _ | _, _, .float _ | _, _, .str _ | _, _, .range _ _ _
  | _, _, .builtin _ => rfl
  | _, _, .tuple h => congrArg Key.tuple (KeyRel.eqs_of_exact hw h)
  | _, _, .identity h => congrArg Key.identity (hw h)

theorem KeyRel.eqs_of_exact (hw : w.Exact) :
    ∀ {ks ks'}, List.Forall₂ (KeyRel w) ks ks' → ks = ks'
  | _, _, .nil => rfl
  | _, _, .cons h t => List.cons_eq_cons.2 ⟨h.eq_of_exact hw, KeyRel.eqs_of_exact hw t⟩

end

/-- Numbers of objects are the same if all addresses are. -/
theorem HeapRel.identity {h h' : Heap} (H : HeapRel w h h') (hw : w.Exact)
    (hv : ValueRel w v v') : h.identity v = h'.identity v' := by
  unfold Heap.identity
  obtain ⟨e, e'⟩ | ⟨a, a', e, e', ha⟩ := hv.address?.cases <;> simp only [e, e']
  · obtain ⟨f, f'⟩ | ⟨k, k', f, f', hk⟩ := (H.key? hv).cases <;> simp only [f, f']
    rw [hk.eq_of_exact hw]
  · rw [hw ha]

/-! ### Attributes -/

theorem attribute?_sim (hv : ValueRel w v v') (name : String) :
    C.Sim c w (OptionRel ValueRel) (attribute? v name) (attribute? v' name) := by
  refine (getAttribute_sim hv name).attempt_bind ?_ fun w₁ x x' h₁ hx => ?_
  · intro _ e m he
    dsimp only
    rw [if_neg (by simp [he.2])]
    exact .rethrow he
  cases hx with
  | ok hx => exact .pure (.some hx)
  | error he =>
    exact .ite (by rw [he.fault.isAttribute]) (fun _ => .pure .none) fun _ => .rethrow he

theorem builtinGetattr_sim (hargs : ValuesRel w args args') :
    C.Sim c w ValueRel (builtinGetattr args) (builtinGetattr args') := by
  have len := hargs.length
  rcases hargs with _ | ⟨ha, _ | ⟨hb, _ | ⟨hd, _ | ⟨he, ht⟩⟩⟩⟩
  · exact fail_sim (.plain rfl)
  · exact fail_sim (.plain rfl)
  · refine (attributeName_sim hb).bind fun w₁ s s' h₁ hs => ?_
    cases hs
    exact getAttribute_sim (up h₁ ha) s
  · refine (attributeName_sim hb).bind fun w₁ s s' h₁ hs => ?_
    cases hs
    exact (attribute?_sim (up h₁ ha) s).bind
      fun w₂ x x' h₂ hx => .pure (hx.getD (up (h₁.trans h₂) hd))
  · simp only [builtinGetattr, len]
    exact fail_sim (.plain rfl)

theorem builtinHasattr_sim (hv : ValueRel w v v') (hu : ValueRel w u u') :
    C.Sim c w ValueRel (builtinHasattr v u) (builtinHasattr v' u') := by
  refine (attributeName_sim hu).bind fun w₁ s s' h₁ hs => ?_
  cases hs
  refine (attribute?_sim (up h₁ hv) s).bind fun _ x x' _ hx => .pure ?_
  rw [hx.isSome]
  exact .bool _

theorem builtinSetattr_sim (hc : C.changes) (hv : ValueRel w v v') (hu : ValueRel w u u')
    (hx : ValueRel w x x') :
    C.Sim c w ValueRel (builtinSetattr v u x) (builtinSetattr v' u' x') := by
  refine (attributeName_sim hu).bind fun w₁ s s' h₁ hs => ?_
  cases hs
  exact makeNone_sim (setAttribute_sim hc (up h₁ hv) s (up h₁ hx))

theorem builtinIsinstance_sim (hv : ValueRel w v v') (hu : ValueRel w u u') :
    C.Sim c w ValueRel (builtinIsinstance v u) (builtinIsinstance v' u') := by
  refine .getHeap fun m m' hm => ?_
  rw [(hC.near hm).heap.isOfType? hv hu]
  split
  · exact .pure (.bool _)
  · exact fail_sim (.plain rfl)

/-! ### Printing -/

theorem printText_sim (key : String) (hv : ValueRel w v v') :
    C.Sim c w Same (printText key v) (printText key v') := by
  have same := hv
  cases hv with
  | none => exact .pure rfl
  | str s => exact .pure rfl
  | _ => exact failType_sim _ same

theorem printOptions_sim : ∀ {w : World} {ks ks' : Keywords} (sep stop : String),
    KeywordsRel w ks ks' →
    C.Sim c w Same (printOptions ks sep stop) (printOptions ks' sep stop)
  | _, _, _, _, _, .nil => .pure rfl
  | w, (name, _) :: _, (_, _) :: _, sep, stop, .cons hk hks => by
    obtain ⟨rfl, hx⟩ := hk
    refine (printText_sim _ hx).bind fun w₁ t t' h₁ ht => ?_
    cases ht
    dsimp only
    split
    · exact printOptions_sim _ _ (up h₁ hks)
    · exact printOptions_sim _ _ (up h₁ hks)
    · exact printOptions_sim _ _ (up h₁ hks)
    · exact printOptions_sim _ _ (up h₁ hks)
    · exact fail_sim (.plain rfl)

section

include hr

theorem builtinPrint_sim (hc : C.changes) (hargs : ValuesRel w args args')
    (hks : KeywordsRel w ks ks') :
    C.Sim c w ValueRel (builtinPrint r args ks) (builtinPrint r' args' ks') := by
  refine (printOptions_sim " " "\n" hks).bind fun w₁ o o' h₁ ho => ?_
  cases ho
  refine (Sim.mapM (B := Same) (up h₁ hargs) fun _ _ _ _ hv => hr.str hv).bind
    fun w₂ ts ts' _ ht => ?_
  obtain rfl := ListRel.same_iff.1 ht
  exact makeNone_sim (hC.emit _ hc)

/-! ### Texts -/

theorem builtinStr_sim (hargs : ValuesRel w args args') :
    C.Sim c w ValueRel (builtinStr r args) (builtinStr r' args') := by
  refine (optionalArgument_sim _ hargs).bind fun w₁ o o' h₁ ho => ?_
  cases ho with
  | none => exact .pure (.str _)
  | some hv => exact makeText_sim (hr.str hv)

theorem builtinBool_sim (hargs : ValuesRel w args args') :
    C.Sim c w ValueRel (builtinBool r args) (builtinBool r' args') := by
  refine (optionalArgument_sim _ hargs).bind fun w₁ o o' h₁ ho => ?_
  cases ho with
  | none => exact .pure (.bool _)
  | some hv => exact makeBool_sim (truthy_sim hr hv)

theorem builtinFormat_sim (hargs : ValuesRel w args args') :
    C.Sim c w ValueRel (builtinFormat r args) (builtinFormat r' args') := by
  refine (firstArgument_sim _ hargs).bind fun w₁ p p' h₁ hp => ?_
  obtain ⟨v, rest⟩ := p
  obtain ⟨v', rest'⟩ := p'
  obtain ⟨hv, hrest⟩ := hp
  cases hrest with
  | nil => exact makeText_sim (write_sim hr _ hv)
  | cons hx _ =>
    have same := hx
    cases hx with
    | str s => exact makeText_sim (write_sim hr _ hv)
    | _ => exact failType_sim _ same

/-! ### Built-in functions -/

omit hr in
/-- Functions of one argument that go alike, called with some arguments. -/
theorem one_sim (b : Builtin) {f : Value → M σ Value} {f' : Value → M τ Value}
    (hargs : ValuesRel w args args')
    (hf : ∀ {w v v'}, ValueRel w v v' → C.Sim c w ValueRel (f v) (f' v')) :
    C.Sim c w ValueRel (do f (← oneArgument b.name args)) (do f' (← oneArgument b.name args')) :=
  (oneArgument_sim _ hargs).bind fun _ _ _ _ hv => hf hv

omit hr in
/-- Functions of two arguments that go alike, called with some arguments. -/
theorem two_sim (b : Builtin) {f : Value → Value → M σ Value} {f' : Value → Value → M τ Value}
    (hargs : ValuesRel w args args')
    (hf : ∀ {w v v' u u'}, ValueRel w v v' → ValueRel w u u' →
      C.Sim c w ValueRel (f v u) (f' v' u')) :
    C.Sim c w ValueRel (do let (x, y) ← twoArguments b.name args; f x y)
      (do let (x, y) ← twoArguments b.name args'; f' x y) :=
  (twoArguments_sim _ hargs).bind fun _ _ _ _ hp => hf hp.fst hp.snd

theorem callNumeric?_sim (b : Builtin) (hargs : ValuesRel w args args')
    (hks : KeywordsRel w ks ks') :
    OptionRel (C.Sim c · ValueRel) w (callNumeric? r b args ks) (callNumeric? r' b args' ks') := by
  cases b with
  | abs => exact .some (one_sim _ hargs (builtinAbs_sim hr))
  | bin | hex => exact .some (one_sim _ hargs fun hv => (indexValue_sim hv).bind
      fun _ n n' _ hn => .pure (by cases hn; exact .str _))
  | chr => exact .some (one_sim _ hargs builtinChr_sim)
  | ord => exact .some (one_sim _ hargs builtinOrd_sim)
  | divmod => exact .some (two_sim _ hargs (builtinDivmod_sim hr))
  | float =>
    refine .some ((optionalArgument_sim _ hargs).bind fun w₁ o o' h₁ ho => ?_)
    cases ho with
    | none => exact .pure (.float _)
    | some hv => exact toFloat_sim hv
  | int => exact .some (builtinInt_sim hargs hks)
  | pow => exact .some (builtinPow_sim hr hargs)
  | range => exact .some (builtinRange_sim hargs)
  | round => exact .some (builtinRound_sim hargs hks)
  | sum => exact .some (builtinSum_sim hr hargs hks)
  | sqrt => exact .some (one_sim _ hargs mathSqrt_sim)
  | fabs => exact .some (one_sim _ hargs fun hv => (realValue_sim hv).bind
      fun _ n n' _ hn => .pure (by cases hn; exact .float _))
  | floor | ceil => exact .some (one_sim _ hargs (mathRound_sim _))
  | gcd => exact .some (mathGcd_sim 0 hargs)
  | factorial =>
    refine .some (one_sim _ hargs fun hv => (indexValue_sim hv).bind fun _ n n' _ hn => ?_)
    cases hn
    exact makeInt_sim (lift_same (.factorial n))
  | log => exact .some (mathLog_sim hargs)
  | mathPow => exact .some (two_sim _ hargs mathPower_sim)
  | _ => exact .none

theorem callIterating?_sim (b : Builtin) (hb : C.changes ∨ b.isPure = true ∧ Keyless ks)
    (hargs : ValuesRel w args args') (hks : KeywordsRel w ks ks') :
    OptionRel (C.Sim c · ValueRel) w (callIterating? r b args ks)
      (callIterating? r' b args' ks') := by
  cases b with
  | all | any => exact .some (one_sim _ hargs (builtinQuantifier_sim hr _))
  | enumerate => exact .some (builtinEnumerate_sim hr hargs hks)
  | filter =>
    have hc := hb.resolve_right nofun
    exact .some (two_sim _ hargs (builtinFilter_sim hr hc))
  | len => exact .some (one_sim _ hargs fun hv => makeInt_sim (lengthOf_sim hr hv))
  | list => exact .some (builtinCollect_sim hr _ hargs makeList_sim)
  | tuple => exact .some (builtinCollect_sim hr _ hargs makeTuple_sim)
  | set => exact .some (builtinCollect_sim hr _ hargs makeSet_sim)
  | dict => exact .some (builtinDict_sim hr hargs hks)
  | map => exact .some (builtinMap_sim hr (hb.resolve_right nofun) hargs)
  | zip => exact .some (builtinZip_sim hr hargs)
  | max | min => exact .some (builtinExtreme_sim hr _ (hb.imp_right And.right) hargs hks)
  | reversed =>
    exact .some (one_sim _ hargs fun hv => (hr.iterate hv).bind
      fun _ _ _ _ hvs => makeList_sim hvs.reverse)
  | sorted => exact .some (builtinSorted_sim hr (hb.resolve_right nofun) hargs hks)
  | _ => exact .none

theorem callOther_sim (b : Builtin) (hb : C.changes ∨ b.isPure = true)
    (hargs : ValuesRel w args args') (hks : KeywordsRel w ks ks') :
    C.Sim c w ValueRel (callOther r b args ks) (callOther r' b args' ks') := by
  cases b with
  | print => exact builtinPrint_sim hr (hb.resolve_right nofun) hargs hks
  | bool => exact builtinBool_sim hr hargs
  | callable =>
    refine one_sim .callable hargs fun hv => .getHeap fun m m' hm => .pure ?_
    rw [(hC.near hm).heap.isCallable hv]
    exact .bool _
  | format => exact builtinFormat_sim hr hargs
  | getattr => exact builtinGetattr_sim hargs
  | hasattr => exact two_sim .hasattr hargs builtinHasattr_sim
  | setattr =>
    exact (threeArguments_sim _ hargs).bind fun _ _ _ _ hp =>
      builtinSetattr_sim (hb.resolve_right nofun) hp.fst hp.snd.fst hp.snd.snd
  | id =>
    refine one_sim .id hargs fun hv => hr.reveal.bind fun w₁ _ _ h₁ hw => ?_
    refine .getHeap fun m m' hm => .pure ?_
    rw [(hC.near hm).heap.identity hw (up h₁ hv)]
    exact .int _
  | isinstance => exact two_sim .isinstance hargs builtinIsinstance_sim
  | repr => exact one_sim .repr hargs fun hv => makeText_sim (hr.repr hv)
  | str => exact builtinStr_sim hr hargs
  | super => exact makeSuper_sim hargs
  | type =>
    exact one_sim .type hargs fun hv => .getHeap fun m m' hm =>
      .pure ((hC.near hm).heap.typeOf hv)
  | _ => exact fail_sim (.plain rfl)

theorem callBuiltin_sim (b : Builtin) (hb : C.changes ∨ b.isPure = true ∧ Keyless ks)
    (hargs : ValuesRel w args args') (hks : KeywordsRel w ks ks') :
    C.Sim c w ValueRel (callBuiltin r b args ks) (callBuiltin r' b args' ks') := by
  refine .ite (by rw [ListRel.isEmpty hks]) (fun _ => fail_sim (.plain rfl)) fun _ => ?_
  obtain ⟨e, e'⟩ | ⟨x, x', e, e', hx⟩ := (callNumeric?_sim (c := c) hr b hargs hks).cases <;>
    simp only [e, e']
  · obtain ⟨e, e'⟩ | ⟨x, x', e, e', hx⟩ := (callIterating?_sim (c := c) hr b hb hargs hks).cases <;>
      simp only [e, e']
    · exact callOther_sim hr b (hb.imp_right And.left) hargs hks
    · exact hx
  · exact hx

/-! ### Any value -/

theorem callObject_sim {a a' : Address} (ht : C.Tame (.ref a)) (ha : w.addr a a')
    (hargs : ValuesRel w args args') (hks : KeywordsRel w ks ks') :
    C.Sim c w ValueRel (callObject r a args ks) (callObject r' a' args' ks') := by
  have fails {w : World} (ha : w.addr a a') :=
    failType_sim (C := C) (c := c) (A := ValueRel) .notCallable (.ref ha)
  refine .getHeap fun m m' hm => ?_
  have inert := hC.inert hm ht
  obtain ⟨e, e'⟩ | ⟨o, o', e, e', ho⟩ := (hC.near hm).heap.object ha <;> simp only [e, e']
  · exact fails ha
  cases ho with
  | func _ => exact callFunction_sim hr ha hargs hks
  | boundMethod hv hf => exact callFunction_sim hr hf (.cons hv hargs) hks
  | nativeMethod hv name =>
    exact callNative_sim hr (inert.resolve_right fun h => h _ _ e) hv name hargs hks
  | cls _ => exact instantiate_sim hr ha hargs hks
  | inst _ =>
    refine (callSpecialWith_sim hr (.inr (by decide)) (.ref ha) hargs hks).bind
      fun w₁ x x' h₁ hx => ?_
    cases hx with
    | some hx => exact .pure hx
    | none => exact fails (h₁.addr ha)
  | _ => exact fails ha

theorem callValue_sim (ht : C.Tame v) (hv : ValueRel w v v') (hargs : ValuesRel w args args')
    (hks : KeywordsRel w ks ks') :
    C.Sim c w ValueRel (callValue r v args ks) (callValue r' v' args' ks') := by
  have same := hv
  cases hv with
  | builtin b =>
    intro m m' hm
    exact callBuiltin_sim hr b (.inl ((hC.inert hm ht).resolve_right id)) hargs hks m m' hm
  | ref ha => exact callObject_sim hr ht ha hargs hks
  | _ => exact failType_sim _ same

omit hr in
theorem HeapRel.classFunction? {h h' : Heap} (H : HeapRel w h h') (hv : ValueRel w v v')
    (name : String) :
    OptionRel AddrRel w (h.classFunction? v name) (h'.classFunction? v' name) := by
  refine hv.address?.bind fun ha => (H.instance? ha).bind fun hi => ?_
  rw [OrderedRel.contains hi.attrs (rfl : Same w name name)]
  split
  · exact .none
  · exact (H.classLookup? hi.cls name).bind fun hp => hp.fst.address?.bind fun ha =>
      (H.closure? ha).bind fun _ => .some ha

theorem callMethod_sim (hc : C.changes) (hv : ValueRel w v v') (name : String)
    (hargs : ValuesRel w args args') (hks : KeywordsRel w ks ks') :
    C.Sim c w ValueRel (callMethod r v name args ks) (callMethod r' v' name args' ks') := by
  refine .getHeap fun m m' hm => ?_
  have H := (hC.near hm).heap
  refine .ite (by rw [H.hasNativeMethod hv]) (fun _ => ?_) fun _ => ?_
  · exact callNative_sim hr hc hv name hargs hks
  obtain ⟨e, e'⟩ | ⟨a, a', e, e', ha⟩ := (H.classFunction? hv name).cases <;> simp only [e, e']
  · exact (getAttribute_sim hv name).bind fun w₁ f f' h₁ hf =>
      callValue_sim hr (hC.tame hc _) hf (up h₁ hargs) (up h₁ hks)
  · exact callFunction_sim hr ha (.cons hv hargs) hks

end

end Stepwise
