import Stepwise.Proofs.Relation.Method

/-!
# Coupled calls of built-in methods

The methods of strings and numbers, and calls of the methods that values come with, go alike on
both sides.
-/

namespace Stepwise

open Script Coupling Text

variable {σ τ : Type} {C : Coupling σ τ} [hC : C.Lawful] {c : C.Ctx} {w : World}
variable {α β : Type} {A : Rel α β}
variable {r : Runner σ} {r' : Runner τ} (hr : RunnerRel C r r')
variable {a a' : Address} {v v' : Value} {args args' : List Value} {ks ks' : Keywords}

/-! ### Strings -/

/-- Texts hold no objects. -/
theorem texts_rel {ι : Type} (f : ι → String) (xs : List ι) :
    ValuesRel w (xs.map fun x => .str (f x)) (xs.map fun x => .str (f x)) :=
  ListRel.refl_of fun v hv => by
    obtain ⟨x, -, rfl⟩ := List.mem_map.1 hv
    exact .str _

theorem joinParts_sim : ∀ {w : World} (n : Nat) {vs vs' : List Value}, ValuesRel w vs vs' →
    C.Sim c w Same (joinParts n vs) (joinParts n vs')
  | _, _, _, _, .nil => by
    simp only [joinParts]
    exact .pure rfl
  | w, n, _, _, .cons hv hvs => by
    have same := hv
    cases hv with
    | str s =>
      simp only [joinParts]
      exact (joinParts_sim (n + 1) hvs).bind fun _ _ _ _ h => .pure (congrArg _ h)
    | _ =>
      simp only [joinParts]
      exact failType_sim _ same

theorem splitOptions_sim : ∀ {w : World} {ks ks' : Keywords} {v v' : Value} (n : Int),
    KeywordsRel w ks ks' → ValueRel w v v' →
    C.Sim c w (PairRel ValueRel Same) (splitOptions ks v n) (splitOptions ks' v' n)
  | _, _, _, _, _, n, .nil, hv => .pure ⟨hv, rfl⟩
  | w, (name, _) :: _, _, _, _, n, .cons hk hks, hv => by
    obtain ⟨rfl, hx⟩ := hk
    simp only [splitOptions]
    split
    · exact splitOptions_sim n hks hx
    · refine (indexValue_sim hx).bind fun w₁ m m' h₁ hm => ?_
      cases hm
      exact splitOptions_sim m (up h₁ hks) (up h₁ hv)
    · exact fail_sim (.plain rfl)

/-- Splitting, once the limit among the arguments is known. -/
theorem splitAt_sim (cs : List Char) (hargs : ValuesRel w args args') (hks : KeywordsRel w ks ks')
    (n : Int) : C.Sim c w ValueRel
      (do
        let (sep, limit) ← splitOptions ks (argument args 0) n
        match sep with
        | .none => makeList ((words (natural? limit) cs).map textValue)
        | .str "" => fail (.value .emptySeparator)
        | .str sep => makeList ((splitOn sep.toList (natural? limit) cs).map textValue)
        | v => failType .separator v)
      (do
        let (sep, limit) ← splitOptions ks' (argument args' 0) n
        match sep with
        | .none => makeList ((words (natural? limit) cs).map textValue)
        | .str "" => fail (.value .emptySeparator)
        | .str sep => makeList ((splitOn sep.toList (natural? limit) cs).map textValue)
        | v => failType .separator v) := by
  refine (splitOptions_sim n hks (argument_rel hargs 0)).bind fun w₁ o o' h₁ ho => ?_
  obtain ⟨sep, limit⟩ := o
  obtain ⟨sep', limit'⟩ := o'
  obtain ⟨hsep, rfl : limit = limit'⟩ := ho
  have same := hsep
  cases hsep with
  | none => exact makeList_sim (texts_rel _ _)
  | str s =>
    dsimp only
    split
    · contradiction
    · exact fail_sim (.plain rfl)
    · exact makeList_sim (texts_rel _ _)
    · exact failType_sim _ same
  | _ => exact failType_sim _ same

theorem strSplit_sim (cs : List Char) (hargs : ValuesRel w args args')
    (hks : KeywordsRel w ks ks') :
    C.Sim c w ValueRel (strSplit cs args ks) (strSplit cs args' ks') := by
  unfold strSplit
  obtain ⟨e, e'⟩ | ⟨v, v', e, e', hv⟩ := (hargs.get? 1).cases <;> simp only [e, e']
  · exact splitAt_sim cs hargs hks _
  · refine (indexValue_sim hv).bind fun w₁ n n' h₁ hn => ?_
    cases hn
    exact splitAt_sim cs (up h₁ hargs) (up h₁ hks) n

theorem stripped_sim (name : String) (hargs : ValuesRel w args args') :
    C.Sim c w Same (stripped name args) (stripped name args') := by
  cases hargs with
  | nil => exact .pure rfl
  | cons hv _ =>
    have text := (strArgument_sim (C := C) (c := c) name hv).bind (B := Same) fun _ t t' _ ht =>
      .pure (congrArg (fun s : String => s.toList.contains) ht)
    cases hv with
    | none => exact .pure rfl
    | _ => exact text

theorem strReplace_sim (cs : List Char) (hargs : ValuesRel w args args') :
    C.Sim c w ValueRel (strReplace cs args) (strReplace cs args') := by
  refine (strArgument_sim _ (argument_rel hargs 0)).bind fun w₁ old old' h₁ ho => ?_
  refine (strArgument_sim _ (argument_rel (up h₁ hargs) 1)).bind fun w₂ new new' h₂ hn => ?_
  cases ho
  cases hn
  obtain ⟨e, e'⟩ | ⟨v, v', e, e', hv⟩ := ((up (h₁.trans h₂) hargs).get? 2).cases <;>
    simp only [e, e']
  · exact .pure (.str _)
  · refine (indexValue_sim hv).bind fun _ n n' _ hn => ?_
    cases hn
    exact .pure (.str _)

theorem hasAffix_sim (name : String) (p : List Char → Bool) : ∀ {w : World}
    {vs vs' : List Value}, ValuesRel w vs vs' →
    C.Sim c w Same (hasAffix name p vs) (hasAffix name p vs')
  | _, _, _, .nil => .pure rfl
  | w, _, _, .cons hv hvs => by
    refine (strArgument_sim name hv).bind fun w₁ t t' h₁ ht => ?_
    cases ht
    exact .ite .rfl (fun _ => .pure rfl) fun _ => hasAffix_sim name p (up h₁ hvs)

theorem strAffix_sim (name : String) (p : List Char → Bool) (hv : ValueRel w v v') :
    C.Sim c w ValueRel (strAffix name p v) (strAffix name p v') := by
  have affix {vs vs' : List Value} (h : ValuesRel w vs vs') : C.Sim c w ValueRel
      (do return .bool (← hasAffix name p vs)) (do return .bool (← hasAffix name p vs')) :=
    (hasAffix_sim name p h).bind fun _ b b' _ hb => .pure (by cases hb; exact .bool b)
  have one := affix (.cons hv .nil)
  cases hv with
  | tuple _ h => exact affix h
  | _ => exact one

theorem fillArgument_sim (name : String) (hargs : ValuesRel w args args') :
    C.Sim c w Same (fillArgument name args) (fillArgument name args') := by
  unfold fillArgument
  obtain ⟨e, e'⟩ | ⟨v, v', e, e', hv⟩ := (hargs.get? 1).cases <;> simp only [e, e']
  · exact .pure rfl
  · refine (strArgument_sim name hv).bind fun _ t t' _ ht => ?_
    cases ht
    split
    · exact .pure rfl
    · exact fail_sim (.plain rfl)

theorem strAlign_sim (name : String) (f : Char → Nat → List Char → List Char) (cs : List Char)
    (hargs : ValuesRel w args args') :
    C.Sim c w ValueRel (strAlign name f cs args) (strAlign name f cs args') := by
  refine checked_sim hargs fun w₁ h₁ => ?_
  refine (indexValue_sim (argument_rel (up h₁ hargs) 0)).bind fun w₂ n n' h₂ hn => ?_
  cases hn
  refine (fillArgument_sim name (up (h₁.trans h₂) hargs)).bind fun _ ch ch' _ hch => ?_
  cases hch
  exact .pure (.str _)

theorem strPartition_sim (cs : List Char) (hv : ValueRel w v v') :
    C.Sim c w ValueRel (strPartition cs v) (strPartition cs v') := by
  refine (strArgument_sim _ hv).bind fun w₁ t t' h₁ ht => ?_
  cases ht
  refine .ite .rfl (fun _ => fail_sim (.plain rfl)) fun _ => ?_
  split
  · exact makeTuple_sim (.cons (.str _) (.cons (.str _) (.cons (.str _) .nil)))
  · exact makeTuple_sim (.cons (.str _) (.cons (.str _) (.cons (.str _) .nil)))

theorem strSearch_sim (name : String) (cs : List Char) (hargs : ValuesRel w args args') :
    C.Sim c w ValueRel (strSearch name cs args) (strSearch name cs args') := by
  have position (o : Option Nat) {w : World} : ValueRel w (positionValue o) (positionValue o) := by
    cases o <;> exact .int _
  refine checked_sim hargs fun w₁ h₁ => ?_
  refine (strArgument_sim name (argument_rel (up h₁ hargs) 0)).bind fun w₂ t t' h₂ ht => ?_
  cases ht
  dsimp only
  split
  · exact .pure (position _)
  · exact .pure (position _)
  · exact .pure (.int _)
  · split
    · exact .pure (.int _)
    · exact fail_sim (.plain rfl)

section

include hr

theorem strChange_sim (s name : String) (hargs : ValuesRel w args args')
    (hks : KeywordsRel w ks ks') :
    C.Sim c w ValueRel (strChange r s name args ks) (strChange r' s name args' ks') := by
  have strip (f : (Char → Bool) → List Char) : C.Sim c w ValueRel
      (do
        arity name args 0 1
        let p ← stripped name args
        return textValue (f p))
      (do
        arity name args' 0 1
        let p ← stripped name args'
        return textValue (f p)) :=
    checked_sim hargs fun w₁ h₁ => (stripped_sim name (up h₁ hargs)).bind fun _ p p' _ hp =>
      .pure (by cases hp; exact .str _)
  unfold strChange
  dsimp only
  split
  · refine checked_sim hargs fun w₁ h₁ => ?_
    refine (hr.iterate (argument_rel (up h₁ hargs) 0)).bind fun w₂ vs vs' h₂ hvs => ?_
    refine (joinParts_sim 0 hvs).bind fun _ t t' _ ht => ?_
    cases ht
    exact .pure (.str _)
  · exact strSplit_sim _ hargs hks
  · exact checked_sim hargs fun w₁ h₁ => makeList_sim (texts_rel _ _)
  · exact strip fun p => stripEnd p (stripStart p s.toList)
  · exact strip fun p => stripStart p s.toList
  · exact strip fun p => stripEnd p s.toList
  · exact checked_sim hargs fun w₁ h₁ => strReplace_sim _ (up h₁ hargs)
  · exact checked_sim hargs fun w₁ h₁ => strAffix_sim _ _ (argument_rel (up h₁ hargs) 0)
  · exact checked_sim hargs fun w₁ h₁ => strAffix_sim _ _ (argument_rel (up h₁ hargs) 0)
  · refine (formatTemplate_sim hr s hargs hks).bind fun _ t t' _ ht => ?_
    cases ht
    exact .pure (.str _)
  · refine checked_sim hargs fun w₁ h₁ => ?_
    refine (indexValue_sim (argument_rel (up h₁ hargs) 0)).bind fun _ n n' _ hn => ?_
    cases hn
    exact .pure (.str _)
  · exact strAlign_sim _ _ _ hargs
  · exact strAlign_sim _ _ _ hargs
  · exact strAlign_sim _ _ _ hargs
  · exact checked_sim hargs fun w₁ h₁ => strPartition_sim _ (argument_rel (up h₁ hargs) 0)
  · exact fail_sim (.plain rfl)

theorem strMethod_sim (s name : String) (hargs : ValuesRel w args args')
    (hks : KeywordsRel w ks ks') :
    C.Sim c w ValueRel (strMethod r s name args ks) (strMethod r' s name args' ks') := by
  unfold strMethod
  split
  · exact checked_sim hargs fun _ _ => .pure (.bool _)
  split
  · exact checked_sim hargs fun _ _ => .pure (.str _)
  exact .ite .rfl (fun _ => strSearch_sim _ _ hargs) fun _ => strChange_sim hr _ _ hargs hks

/-! ### Calls -/

omit hr in
theorem initInstance_sim {i i' : Instance} (hc : C.changes) (ha : w.addr a a')
    (hi : InstanceRel w i i') (hargs : ValuesRel w args args') :
    C.Sim c w ValueRel (initInstance a i args) (initInstance a' i' args') := by
  refine .getHeap fun m m' hm => ?_
  refine .ite (by rw [(hC.near hm).heap.isExceptionClass hi.cls]) (fun _ => ?_)
    fun _ => .pure .none
  exact makeNone_sim <| modifyInstance_sim hc ha (fun hi => { hi with args := hargs })
    (fun _ => rfl) fun _ => rfl

theorem objectMethod_sim (hc : C.changes) (ha : w.addr a a') (name : String)
    (hargs : ValuesRel w args args') (hks : KeywordsRel w ks ks') :
    C.Sim c w ValueRel (objectMethod r a name args ks) (objectMethod r' a' name args' ks') := by
  have missing := failAttribute_sim (C := C) (c := c) (A := ValueRel) (.ref ha) name
  refine .getHeap fun m m' hm => ?_
  obtain ⟨e, e'⟩ | ⟨o, o', e, e', ho⟩ := (hC.near hm).heap.object ha <;> simp only [e, e']
  · exact missing
  cases ho with
  | list _ => exact listMethod_sim hr hc ha name hargs hks
  | dict _ => exact dictMethod_sim hr hc ha name hargs
  | set _ => exact setMethod_sim hr hc ha name hargs
  | inst hi => exact .ite .rfl (fun _ => initInstance_sim hc ha hi hargs) fun _ => missing
  | _ => exact missing

theorem callNative_sim (hc : C.changes) (hv : ValueRel w v v') (name : String)
    (hargs : ValuesRel w args args') (hks : KeywordsRel w ks ks') :
    C.Sim c w ValueRel (callNative r v name args ks) (callNative r' v' name args' ks') := by
  have missing := failAttribute_sim (C := C) (c := c) (A := ValueRel) hv name
  refine .ite (by rw [ListRel.isEmpty hks]) (fun _ => fail_sim (.plain rfl)) fun _ => ?_
  cases hv with
  | str s => exact strMethod_sim hr s name hargs hks
  | float x =>
    exact .ite .rfl (fun _ => checked_sim hargs fun _ _ => .pure (.bool _)) fun _ => missing
  | int n =>
    exact .ite .rfl (fun _ => checked_sim hargs fun _ _ => .pure (.int _)) fun _ => missing
  | ref ha => exact objectMethod_sim hr hc ha name hargs hks
  | _ => exact missing

end

end Stepwise
