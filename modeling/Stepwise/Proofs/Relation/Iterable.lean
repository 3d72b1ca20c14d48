import Stepwise.Eval.Builtin.Sequence
import Stepwise.Proofs.Relation.Number

/-!
# Coupled functions of iterables

The built-in functions of iterables go alike on both sides. Those that call what they are given
need leave to change something; the smallest and largest of some values need none if they are not
given a key function.
-/

namespace Stepwise

open Script Coupling

variable {σ τ : Type} {C : Coupling σ τ} [hC : C.Lawful] {c : C.Ctx} {w : World}
variable {α β : Type} {A : Rel α β}
variable {r : Runner σ} {r' : Runner τ} (hr : RunnerRel C r r')
variable {v v' u u' x x' : Value} {args args' vs vs' ds ds' : List Value} {ks ks' : Keywords}

/-- Keyword arguments without a key function. -/
def Keyless (ks : Keywords) : Prop := ∀ p ∈ ks, p.1 ≠ "key"

/-! ### Without the runner -/

theorem enumerateStart_sim : ∀ {w : World} {ks ks' : Keywords} (n : Int),
    KeywordsRel w ks ks' → C.Sim c w Same (enumerateStart ks n) (enumerateStart ks' n)
  | _, _, _, _, .nil => .pure rfl
  | w, (name, _) :: _, _, n, .cons hk hks => by
    obtain ⟨rfl, hx⟩ := hk
    refine .ite .rfl (fun _ => ?_) fun _ => fail_sim (.plain rfl)
    refine (indexValue_sim hx).bind fun w₁ m m' h₁ hm => ?_
    cases hm
    exact enumerateStart_sim m (up h₁ hks)

theorem numbered_sim : ∀ {w : World} (n : Int) {vs vs' ds ds' : List Value},
    ValuesRel w vs vs' → ValuesRel w ds ds' →
    C.Sim c w ValueRel (numbered n vs ds) (numbered n vs' ds')
  | _, _, _, _, _, _, .nil, hd => makeList_sim hd.reverse
  | w, n, _, _, _, _, .cons hv hvs, hd => by
    refine (lift_same (.exact n)).bind fun w₁ i i' h₁ hi => ?_
    cases hi
    refine (makeTuple_sim (.cons (.int i) (.cons (up h₁ hv) .nil))).bind fun w₂ t t' h₂ ht => ?_
    have h := h₁.trans h₂
    exact numbered_sim (n + 1) (up h hvs) (.cons ht (up h hd))

omit hC in
theorem rows_rel {cs cs' : List (List Value)} (h : ListRel ValuesRel w cs cs') :
    ListRel ValuesRel w (rows cs) (rows cs') := by
  have arrays : ListRel ArrayRel w (cs.map List.toArray) (cs'.map List.toArray) :=
    h.map fun h => by simpa [ArrayRel] using h
  have sizes := arrays.map_eq (f := Array.size) (g := Array.size) fun h => ArrayRel.size h
  have row (n : Nat) : ValuesRel w ((cs.map List.toArray).map (·.getD n .none))
      ((cs'.map List.toArray).map (·.getD n .none)) :=
    arrays.map fun h => ArrayRel.itemAt h n
  simp only [rows, sizes]
  split
  · rename_i n _
    induction List.range n with
    | nil => exact .nil
    | cons i is ih => exact .cons (row i) ih
  · exact .nil

theorem lengthResult_sim (hv : ValueRel w v v') :
    C.Sim c w Same (lengthResult v) (lengthResult v') := by
  have same := hv
  cases hv with
  | int n => exact .ite .rfl (fun _ => fail_sim (.plain rfl)) fun _ => .pure rfl
  | _ => exact failType_sim _ same

theorem extremeOptions_sim (callee : String) : ∀ {w : World} {ks ks' : Keywords}
    {key key' default default' : Option Value}, KeywordsRel w ks ks' →
    OptionRel ValueRel w key key' → OptionRel ValueRel w default default' →
    C.Sim c w (fun w p p' => PairRel (OptionRel ValueRel) (OptionRel ValueRel) w p p' ∧
        (Keyless ks → key = none → p.1 = none))
      (extremeOptions callee ks key default) (extremeOptions callee ks' key' default')
  | _, _, _, _, _, _, _, .nil, hk, hd => .pure ⟨⟨hk, hd⟩, fun _ h => h⟩
  | w, (name, v) :: _, (_, v') :: _, key, key', default, default', .cons h t, hk, hd => by
    obtain ⟨rfl, hv⟩ := h
    unfold extremeOptions
    split
    · rw [show v.isNone = v'.isNone from ValueRel.isNone hv]
      have hk : OptionRel ValueRel w (if v'.isNone then none else some v)
          (if v'.isNone then none else some v') := by
        split
        · exact .none
        · exact .some hv
      exact (extremeOptions_sim callee t hk hd).mono fun _ _ _ _ h =>
        ⟨h.1, fun less => absurd rfl (less _ (.head _))⟩
    · exact (extremeOptions_sim callee t hk (.some hv)).mono fun _ _ _ _ h =>
        ⟨h.1, fun less => h.2 fun p hp => less p (.tail _ hp)⟩
    · exact fail_sim (.plain rfl)

section

include hr

/-! ### One by one -/

theorem anyTruth_sim (want : Bool) : ∀ {w : World} {vs vs' : List Value}, ValuesRel w vs vs' →
    C.Sim c w Same (anyTruth r want vs) (anyTruth r' want vs')
  | _, _, _, .nil => .pure rfl
  | w, _, _, .cons hv hvs => by
    refine (truthy_sim hr hv).bind fun w₁ b b' h₁ hb => ?_
    exact .ite (by rw [hb]) (fun _ => .pure rfl) fun _ => anyTruth_sim want (up h₁ hvs)

theorem builtinQuantifier_sim (want : Bool) (hv : ValueRel w v v') :
    C.Sim c w ValueRel (builtinQuantifier r want v) (builtinQuantifier r' want v') := by
  refine (hr.iterate hv).bind fun w₁ vs vs' _ hvs => ?_
  refine (anyTruth_sim hr want hvs).bind fun _ b b' _ hb => ?_
  cases hb
  exact .pure (.bool _)

theorem builtinEnumerate_sim (hargs : ValuesRel w args args') (hks : KeywordsRel w ks ks') :
    C.Sim c w ValueRel (builtinEnumerate r args ks) (builtinEnumerate r' args' ks') := by
  refine (enumerateStart_sim 0 hks).bind fun w₁ named named' h₁ hn => ?_
  cases hn
  refine (firstArgument_sim _ (up h₁ hargs)).bind fun w₂ p p' h₂ hp => ?_
  obtain ⟨v, rest⟩ := p
  obtain ⟨v', rest'⟩ := p'
  obtain ⟨hv, hrest⟩ := hp
  have finish (n : Int) {w₃ : World} (h₃ : w₂ ≤ w₃) : C.Sim c w₃ ValueRel
      (do numbered n (← r.iterate v) []) (do numbered n (← r'.iterate v') []) :=
    (hr.iterate (up h₃ hv)).bind fun _ _ _ _ hvs => numbered_sim n hvs .nil
  cases hrest with
  | nil => exact finish named le_rfl
  | cons hx _ =>
    refine (indexValue_sim hx).bind fun w₃ n n' h₃ hn => ?_
    cases hn
    exact finish n h₃

theorem accepted_sim {f f' : Value} (hc : C.changes) : ∀ {w : World} {vs vs' ds ds' : List Value},
    ValueRel w f f' → ValuesRel w vs vs' → ValuesRel w ds ds' →
    C.Sim c w ValuesRel (accepted r f vs ds) (accepted r' f' vs' ds')
  | _, _, _, _, _, _, .nil, hd => .pure hd.reverse
  | w, v :: vs, v' :: vs', ds, ds', hf, .cons hv hvs, hd => by
    have finish {w₁ : World} {u u' : Value} (h₁ : w ≤ w₁) (hu : ValueRel w₁ u u') :
        C.Sim c w₁ ValuesRel
        (do if ← truthy r u then accepted r f vs (v :: ds) else accepted r f vs ds)
        (do if ← truthy r' u' then accepted r' f' vs' (v' :: ds') else accepted r' f' vs' ds') := by
      refine (truthy_sim hr hu).bind fun w₂ b b' h₂ hb => ?_
      have h := h₁.trans h₂
      refine .ite (by rw [hb]) (fun _ => ?_) fun _ => ?_
      · exact accepted_sim hc (up h hf) (up h hvs) (.cons (up h hv) (up h hd))
      · exact accepted_sim hc (up h hf) (up h hvs) (up h hd)
    refine .ite (by rw [hf.isNone]) (fun _ => finish le_rfl hv) fun _ => ?_
    exact (hr.call (hC.tame hc _) hf (.cons hv .nil) .nil).bind
      fun w₁ u u' h₁ hu => finish h₁ hu

theorem builtinFilter_sim (hc : C.changes) (hu : ValueRel w u u') (hv : ValueRel w v v') :
    C.Sim c w ValueRel (builtinFilter r u v) (builtinFilter r' u' v') :=
  (hr.iterate hv).bind fun _ _ _ h₁ hvs => (accepted_sim hr hc (up h₁ hu) hvs .nil).bind
    fun _ _ _ _ h => makeList_sim h

theorem callAll_sim {f f' : Value} (hc : C.changes) : ∀ {w : World} {rs rs' : List (List Value)}
    {ds ds' : List Value}, ValueRel w f f' → ListRel ValuesRel w rs rs' → ValuesRel w ds ds' →
    C.Sim c w ValuesRel (callAll r f rs ds) (callAll r' f' rs' ds')
  | _, _, _, _, _, _, .nil, hd => .pure hd.reverse
  | w, _, _, _, _, hf, .cons hx hxs, hd => by
    refine (hr.call (hC.tame hc _) hf hx .nil).bind fun w₁ u u' h₁ hu => ?_
    exact callAll_sim hc (up h₁ hf) (up (A := ListRel ValuesRel) h₁ hxs) (.cons hu (up h₁ hd))

omit hC in
theorem columns_sim (h : ValuesRel w vs vs') :
    C.Sim c w (ListRel ValuesRel) (vs.mapM r.iterate) (vs'.mapM r'.iterate) :=
  .mapM h fun _ _ _ _ hv => hr.iterate hv

theorem builtinMap_sim (hc : C.changes) (hargs : ValuesRel w args args') :
    C.Sim c w ValueRel (builtinMap r args) (builtinMap r' args') := by
  refine (firstArgument_sim _ hargs).bind fun w₁ p p' h₁ hp => ?_
  obtain ⟨f, rest⟩ := p
  obtain ⟨f', rest'⟩ := p'
  obtain ⟨hf, hrest⟩ := hp
  refine .ite (by rw [ListRel.isEmpty hrest]) (fun _ => fail_sim (.plain rfl)) fun _ => ?_
  refine (columns_sim hr hrest).bind fun w₂ cs cs' h₂ hcs => ?_
  exact (callAll_sim hr hc (up h₂ hf) (rows_rel hcs) .nil).bind fun _ _ _ _ h => makeList_sim h

theorem builtinZip_sim (hargs : ValuesRel w args args') :
    C.Sim c w ValueRel (builtinZip r args) (builtinZip r' args') := by
  refine (columns_sim hr hargs).bind fun w₁ cs cs' _ hcs => ?_
  exact (Sim.mapM (A := ValuesRel) (rows_rel hcs) fun _ _ _ _ h => makeTuple_sim h).bind
    fun _ _ _ _ h => makeList_sim h

theorem builtinSorted_sim (hc : C.changes) (hargs : ValuesRel w args args')
    (hks : KeywordsRel w ks ks') :
    C.Sim c w ValueRel (builtinSorted r args ks) (builtinSorted r' args' ks') := by
  refine (oneArgument_sim _ hargs).bind fun w₁ v v' h₁ hv => ?_
  refine (sortOptions_sim hr _ false (up h₁ hks) .none).bind fun w₂ o o' h₂ ho => ?_
  obtain ⟨key, reverse⟩ := o
  obtain ⟨key', reverse'⟩ := o'
  obtain ⟨hk, rfl : reverse = reverse'⟩ := ho
  refine (hr.iterate (up h₂ hv)).bind fun w₃ vs vs' h₃ hvs => ?_
  exact (sortValues_sim hr hc hvs (up h₃ hk) reverse).bind fun _ _ _ _ h => makeList_sim h

/-! ### Smallest and largest -/

theorem extreme_sim (largest : Bool) : ∀ {w : World} {key key' : Option Value}
    {best best' : Option (Value × Value)} {vs vs' : List Value}, C.changes ∨ key = none →
    OptionRel ValueRel w key key' → OptionRel (PairRel ValueRel ValueRel) w best best' →
    ValuesRel w vs vs' →
    C.Sim c w (OptionRel ValueRel) (extreme r largest key best vs)
      (extreme r' largest key' best' vs')
  | _, _, _, best, best', _, _, _, _, hb, .nil => by
    cases hb with
    | none => exact .pure .none
    | some h => exact .pure (.some h.snd)
  | w, key, key', best, best', v :: vs, v' :: vs', hc, hk, hb, .cons hv hvs => by
    cases hb with
    | none =>
      refine (keyFor_sim hr hc hk hv).bind fun w₁ k k' h₁ hkey => ?_
      exact extreme_sim largest hc (up h₁ hk) (.some ⟨hkey, up h₁ hv⟩) (up h₁ hvs)
    | @some b b' hb =>
      refine (keyFor_sim hr hc hk hv).bind fun w₁ k k' h₁ hkey => ?_
      have go {x : M σ Bool} {y : M τ Bool} (hxy : C.Sim c w₁ Same x y) :
          C.Sim c w₁ (OptionRel ValueRel)
          (do extreme r largest key (some (if ← x then (k, v) else b)) vs)
          (do extreme r' largest key' (some (if ← y then (k', v') else b')) vs') := by
        refine hxy.bind fun w₂ t t' h₂ ht => ?_
        have h := h₁.trans h₂
        refine extreme_sim largest hc (up h hk) (.some ?_) (up h hvs)
        rw [show t = t' from ht]
        split
        · exact ⟨up h₂ hkey, up h hv⟩
        · exact up h hb
      exact .ite .rfl (fun _ => go (lessThan_sim hr (up h₁ hb.fst) hkey))
        fun _ => go (lessThan_sim hr hkey (up h₁ hb.fst))

/-- The extreme of some values, or what stands for it where there are none. -/
theorem extremeOr_sim (largest : Bool) (callee : String) {key key' : Option Value}
    {default default' : Option Value} (hc : C.changes ∨ key = none)
    (hk : OptionRel ValueRel w key key') (hd : OptionRel ValueRel w default default')
    (hvs : ValuesRel w vs vs') : C.Sim c w ValueRel
      (do match (← extreme r largest key none vs).or default with
        | some v => return v
        | none => fail (.value (.emptyExtreme callee)))
      (do match (← extreme r' largest key' none vs').or default' with
        | some v => return v
        | none => fail (.value (.emptyExtreme callee))) := by
  refine (extreme_sim hr largest hc hk .none hvs).bind fun w₁ x x' h₁ hx => ?_
  obtain ⟨e, e'⟩ | ⟨y, y', e, e', hy⟩ := (hx.or (up h₁ hd)).cases <;> simp only [e, e']
  · exact fail_sim (.plain rfl)
  · exact .pure hy

theorem builtinExtreme_sim (largest : Bool) (hc : C.changes ∨ Keyless ks)
    (hargs : ValuesRel w args args') (hks : KeywordsRel w ks ks') :
    C.Sim c w ValueRel (builtinExtreme r largest args ks)
      (builtinExtreme r' largest args' ks') := by
  unfold builtinExtreme
  dsimp only
  generalize (if largest then "max" else "min") = callee
  refine (extremeOptions_sim callee hks .none .none).bind fun w₁ o o' h₁ ho => ?_
  obtain ⟨key, default⟩ := o
  obtain ⟨key', default'⟩ := o'
  obtain ⟨⟨hk, hd⟩, less⟩ := ho
  have hc : C.changes ∨ key = none := hc.imp_right fun h => less h rfl
  have finish {w₂ : World} {vs vs' : List Value} (h₂ : w₁ ≤ w₂) (hvs : ValuesRel w₂ vs vs') :=
    extremeOr_sim (c := c) hr largest callee hc (up h₂ hk) (up h₂ hd) hvs
  rcases hargs with _ | ⟨ha, _ | ⟨hb, ht⟩⟩
  · exact fail_sim (.plain rfl)
  · exact (hr.iterate (up h₁ ha)).bind fun w₂ vs vs' h₂ hvs => finish h₂ hvs
  · exact finish le_rfl (.cons (up h₁ ha) (.cons (up h₁ hb) (up (A := ValuesRel) h₁ ht)))

/-! ### Containers -/

theorem builtinDict_sim (hargs : ValuesRel w args args') (hks : KeywordsRel w ks ks') :
    C.Sim c w ValueRel (builtinDict r args ks) (builtinDict r' args' ks') := by
  have named : ListRel (PairRel ValueRel ValueRel) w (ks.map fun p => (Value.str p.1, p.2))
      (ks'.map fun p => (Value.str p.1, p.2)) := by
    refine hks.map fun {p p'} hp => ⟨?_, hp.snd⟩
    rw [show p.1 = p'.1 from hp.fst]
    exact .str _
  refine (optionalArgument_sim _ hargs).bind fun w₁ o o' h₁ ho => ?_
  have named := up (A := ListRel (PairRel ValueRel ValueRel)) h₁ named
  cases ho with
  | none => exact makeDict_sim named
  | some hv =>
    exact (entriesOf_sim hr hv).bind fun w₂ es es' h₂ hes =>
      makeDict_sim (hes.append (up (A := ListRel (PairRel ValueRel ValueRel)) h₂ named))

theorem builtinCollect_sim (name : String) {f : List Value → M σ Value}
    {f' : List Value → M τ Value} (hargs : ValuesRel w args args')
    (hf : ∀ {w vs vs'}, ValuesRel w vs vs' → C.Sim c w ValueRel (f vs) (f' vs')) :
    C.Sim c w ValueRel (builtinCollect r name f args) (builtinCollect r' name f' args') := by
  refine (optionalArgument_sim _ hargs).bind fun w₁ o o' h₁ ho => ?_
  cases ho with
  | none => exact hf .nil
  | some hv => exact (hr.iterate hv).bind fun _ _ _ _ hvs => hf hvs

/-! ### Lengths -/

theorem objectLength_sim {a a' : Address} (hv : ValueRel w v v') (ha : w.addr a a') :
    C.Sim c w Same (objectLength r v a) (objectLength r' v' a') := by
  have fails := failType_sim (C := C) (c := c) (A := Same (α := Int)) .noLength hv
  refine .getHeap fun m m' hm => ?_
  obtain ⟨e, e'⟩ | ⟨o, o', e, e', ho⟩ := (hC.near hm).heap.object ha <;> simp only [e, e']
  · exact fails
  cases ho with
  | list h => exact .pure (by rw [show _ = _ from ArrayRel.size h]; rfl)
  | dict h | set h => exact .pure (by rw [TableRel.size h]; rfl)
  | inst _ =>
    refine (callSpecial_sim hr (.inr (by decide)) hv .nil).bind fun w₁ x x' h₁ hx => ?_
    cases hx with
    | some hx => exact lengthResult_sim hx
    | none => exact failType_sim _ (up h₁ hv)
  | _ => exact fails

theorem lengthOf_sim (hv : ValueRel w v v') :
    C.Sim c w Same (lengthOf r v) (lengthOf r' v') := by
  have same := hv
  cases hv with
  | str _ => exact .pure rfl
  | tuple _ h => exact .pure (by rw [h.length_eq]; rfl)
  | range _ _ _ => exact .pure rfl
  | ref ha => exact objectLength_sim hr same ha
  | _ => exact failType_sim _ same

end

end Stepwise
