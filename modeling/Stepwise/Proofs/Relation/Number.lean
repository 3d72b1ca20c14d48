import Stepwise.Eval.Builtin.Number
import Stepwise.Proofs.Relation.Operator

/-!
# Coupled functions of numbers

The built-in functions of numbers go alike on both sides.
-/

namespace Stepwise

open Script Coupling Text

variable {σ τ : Type} {C : Coupling σ τ} [hC : C.Lawful] {c : C.Ctx} {w : World}
variable {α β : Type} {A : Rel α β}
variable {r : Runner σ} {r' : Runner τ} (hr : RunnerRel C r r')
variable {v v' u u' x x' : Value} {args args' : List Value} {ks ks' : Keywords}

omit hC in
/-- The same number on both sides. -/
theorem makeInt_sim {x : M σ Int} {y : M τ Int} (h : C.Sim c w Same x y) :
    C.Sim c w ValueRel (do return .int (← x)) (do return .int (← y)) :=
  h.bind fun _ n n' _ hn => .pure (by cases hn; exact .int _)

omit hC in
/-- The same double on both sides. -/
theorem makeFloat_sim {x : M σ Float} {y : M τ Float} (h : C.Sim c w Same x y) :
    C.Sim c w ValueRel (do return .float (← x)) (do return .float (← y)) :=
  h.bind fun _ n n' _ hn => .pure (by cases hn; exact .float _)

omit hC in
/-- The same truth value on both sides. -/
theorem makeBool_sim {x : M σ Bool} {y : M τ Bool} (h : C.Sim c w Same x y) :
    C.Sim c w ValueRel (do return .bool (← x)) (do return .bool (← y)) :=
  h.bind fun _ n n' _ hn => .pure (by cases hn; exact .bool _)

omit hC in
/-- The same text on both sides. -/
theorem makeText_sim {x : M σ String} {y : M τ String} (h : C.Sim c w Same x y) :
    C.Sim c w ValueRel (do return .str (← x)) (do return .str (← y)) :=
  h.bind fun _ n n' _ hn => .pure (by cases hn; exact .str _)

/-! ### Without the runner -/

theorem builtinChr_sim (hv : ValueRel w v v') :
    C.Sim c w ValueRel (builtinChr v) (builtinChr v') := by
  refine (indexValue_sim hv).bind fun _ n n' _ hn => ?_
  cases hn
  split
  · exact .pure (.str _)
  · exact fail_sim (.plain rfl)

theorem builtinOrd_sim (hv : ValueRel w v v') :
    C.Sim c w ValueRel (builtinOrd v) (builtinOrd v') := by
  have same := hv
  cases hv with
  | str s =>
    simp only [builtinOrd]
    split
    · exact .pure (.int _)
    · exact fail_sim (.plain rfl)
  | _ => exact failType_sim _ same

theorem toFloat_sim (hv : ValueRel w v v') : C.Sim c w ValueRel (toFloat v) (toFloat v') := by
  have same := hv
  cases hv with
  | str s => exact makeFloat_sim (lift_same (.parseFloat s))
  | int _ | bool _ | float _ => exact .pure (.float _)
  | _ => exact failType_sim _ same

theorem intBase_sim : ∀ {w : World} {ks ks' : Keywords} (base : Option Int),
    KeywordsRel w ks ks' → C.Sim c w Same (intBase ks base) (intBase ks' base)
  | _, _, _, _, .nil => .pure rfl
  | w, (name, _) :: _, _, base, .cons hk hks => by
    obtain ⟨rfl, hx⟩ := hk
    refine .ite .rfl (fun _ => ?_) fun _ => fail_sim (.plain rfl)
    refine (indexValue_sim hx).bind fun w₁ n n' h₁ hn => ?_
    cases hn
    exact intBase_sim _ (up h₁ hks)

theorem toInt_sim (hv : ValueRel w v v') (base : Option Int) :
    C.Sim c w ValueRel (toInt v base) (toInt v' base) := by
  have same := hv
  cases hv with
  | str s => exact makeInt_sim (lift_same (.parseInt s _))
  | int n | bool b =>
    cases base with
    | none => exact .pure (.int _)
    | some b => exact fail_sim (.plain rfl)
  | float x =>
    cases base with
    | none => exact makeInt_sim (lift_same (.floatToInt x))
    | some b => exact fail_sim (.plain rfl)
  | _ =>
    cases base with
    | none => exact failType_sim _ same
    | some b => exact fail_sim (.plain rfl)

theorem builtinInt_sim (hargs : ValuesRel w args args') (hks : KeywordsRel w ks ks') :
    C.Sim c w ValueRel (builtinInt args ks) (builtinInt args' ks') := by
  refine (intBase_sim none hks).bind fun w₁ base base' h₁ hb => ?_
  cases hb
  have len := hargs.length
  rcases hargs with _ | ⟨ha, _ | ⟨hb, _ | ⟨hd, ht⟩⟩⟩
  · exact .pure (.int _)
  · exact toInt_sim (up h₁ ha) base
  · refine (indexValue_sim (up h₁ hb)).bind fun w₂ n n' h₂ hn => ?_
    cases hn
    exact toInt_sim (up (h₁.trans h₂) ha) _
  · simp only [len]
    exact fail_sim (.plain rfl)

theorem builtinRange_sim (hargs : ValuesRel w args args') :
    C.Sim c w ValueRel (builtinRange args) (builtinRange args') := by
  have range (start stop step : Int) {w : World} : C.Sim c w ValueRel
      (if step = 0 then fail (.value .rangeStep) else return .range start stop step)
      (if step = 0 then fail (.value .rangeStep) else return .range start stop step) :=
    .ite .rfl (fun _ => fail_sim (.plain rfl)) fun _ => .pure (.range _ _ _)
  refine (Sim.mapM (B := Same) hargs fun _ _ _ _ hv => indexValue_sim hv).bind
    fun w₁ ns ns' h₁ hn => ?_
  obtain rfl := ListRel.same_iff.1 hn
  dsimp only
  split
  · exact range _ _ _
  · exact range _ _ _
  · exact range _ _ _
  · exact fail_sim (.plain rfl)
  · exact fail_sim (.plain rfl)

theorem roundDigits_sim : ∀ {w : World} {ks ks' : Keywords} {o o' : Option Value},
    KeywordsRel w ks ks' → OptionRel ValueRel w o o' →
    C.Sim c w (OptionRel ValueRel) (roundDigits ks o) (roundDigits ks' o')
  | _, _, _, _, _, .nil, ho => .pure ho
  | w, (name, _) :: _, _, _, _, .cons hk hks, ho => by
    obtain ⟨rfl, hx⟩ := hk
    exact .ite .rfl (fun _ => roundDigits_sim hks (.some hx)) fun _ => fail_sim (.plain rfl)

/-- A number, with as many digits as there are to be. -/
theorem rounded_sim (digits : Option Int) : ValueRel w v v' → C.Sim c w ValueRel
      (match v, digits with
        | .int n, _ => return .int n
        | .bool b, _ => return .int (if b then 1 else 0)
        | .float x, none => return .int (← lift (floatToInt (roundEven x)))
        | .float x, some d => return .float (roundPlaces x d)
        | v, _ => failType .noRound v)
      (match v', digits with
        | .int n, _ => return .int n
        | .bool b, _ => return .int (if b then 1 else 0)
        | .float x, none => return .int (← lift (floatToInt (roundEven x)))
        | .float x, some d => return .float (roundPlaces x d)
        | v, _ => failType .noRound v) := by
  intro hv
  have same := hv
  cases hv with
  | int _ | bool _ => exact .pure (.int _)
  | float x =>
    cases digits with
    | none => exact makeInt_sim (lift_same (.floatToInt _))
    | some d => exact .pure (.float _)
  | _ => exact failType_sim _ same

theorem builtinRound_sim (hargs : ValuesRel w args args') (hks : KeywordsRel w ks ks') :
    C.Sim c w ValueRel (builtinRound args ks) (builtinRound args' ks') := by
  refine (roundDigits_sim hks .none).bind fun w₁ named named' h₁ hn => ?_
  refine (firstArgument_sim _ (up h₁ hargs)).bind fun w₂ p p' h₂ hp => ?_
  obtain ⟨v, rest⟩ := p
  obtain ⟨v', rest'⟩ := p'
  obtain ⟨hv, hrest⟩ := hp
  have hd : ValueRel w₂ ((rest.head?.or named).getD .none) ((rest'.head?.or named').getD .none) :=
    ((ListRel.head? hrest).or (up h₂ hn)).getD .none
  dsimp only
  revert hd
  generalize (rest.head?.or named).getD .none = d, (rest'.head?.or named').getD .none = d'
  intro hd
  have number (d d' : Value) (hd : ValueRel w₂ d d') : C.Sim c w₂ Same (some <$> indexValue d)
      (some <$> indexValue d') := (indexValue_sim hd).map fun _ _ _ _ h => congrArg some h
  have same := hd
  cases hd with
  | none => exact rounded_sim none hv
  | _ =>
    refine (number _ _ same).bind fun w₃ n n' h₃ hn => ?_
    cases hn
    exact rounded_sim n (up h₃ hv)

theorem sumStart_sim : ∀ {w : World} {ks ks' : Keywords} {v v' : Value},
    KeywordsRel w ks ks' → ValueRel w v v' → C.Sim c w ValueRel (sumStart ks v) (sumStart ks' v')
  | _, _, _, _, _, .nil, hv => .pure hv
  | w, (name, _) :: _, _, _, _, .cons hk hks, hv => by
    obtain ⟨rfl, hx⟩ := hk
    exact .ite .rfl (fun _ => sumStart_sim hks hx) fun _ => fail_sim (.plain rfl)

theorem mathSqrt_sim (hv : ValueRel w v v') :
    C.Sim c w ValueRel (mathSqrt v) (mathSqrt v') := by
  refine (realValue_sim hv).bind fun _ x x' _ hx => ?_
  cases hx
  exact .ite .rfl (fun _ => fail_sim (.plain rfl)) fun _ => .pure (.float _)

theorem mathRound_sim (f : Float → Float) (hv : ValueRel w v v') :
    C.Sim c w ValueRel (mathRound f v) (mathRound f v') := by
  unfold mathRound
  rw [hv.asInt?]
  split
  · exact .pure (.int _)
  · refine (realValue_sim hv).bind fun _ x x' _ hx => ?_
    cases hx
    exact makeInt_sim (lift_same (.floatToInt _))

theorem mathGcd_sim : ∀ {w : World} {vs vs' : List Value} (g : Int), ValuesRel w vs vs' →
    C.Sim c w ValueRel (mathGcd vs g) (mathGcd vs' g)
  | _, _, _, _, .nil => .pure (.int _)
  | w, _, _, g, .cons hv hvs => by
    refine (indexValue_sim hv).bind fun w₁ n n' h₁ hn => ?_
    cases hn
    refine (lift_same (.gcdStep _ _)).bind fun w₂ m m' h₂ hm => ?_
    cases hm
    exact mathGcd_sim _ (up (h₁.trans h₂) hvs)

theorem mathLog_sim (hargs : ValuesRel w args args') :
    C.Sim c w ValueRel (mathLog args) (mathLog args') := by
  have logOf {w : World} {v v' : Value} (hv : ValueRel w v v') (bad : Float → Bool) :
      C.Sim c w Same
      (do
        let x ← realValue v
        if bad x then fail (.value .mathDomain) else return x.log)
      (do
        let x ← realValue v'
        if bad x then fail (.value .mathDomain) else return x.log) := by
    refine (realValue_sim hv).bind fun _ x x' _ hx => ?_
    cases hx
    exact .ite .rfl (fun _ => fail_sim (.plain rfl)) fun _ => .pure rfl
  have len := hargs.length
  rcases hargs with _ | ⟨ha, _ | ⟨hb, _ | ⟨hd, ht⟩⟩⟩
  · exact fail_sim (.plain rfl)
  · exact makeFloat_sim (logOf ha _)
  · refine (logOf ha _).bind fun w₁ x x' h₁ hx => ?_
    cases hx
    refine (logOf (up h₁ hb) _).bind fun _ y y' _ hy => ?_
    cases hy
    exact .pure (.float _)
  · simp only [mathLog, len]
    exact fail_sim (.plain rfl)

theorem mathPower_sim (hv : ValueRel w v v') (hu : ValueRel w u u') :
    C.Sim c w ValueRel (mathPower v u) (mathPower v' u') := by
  refine (realValue_sim hv).bind fun w₁ x x' h₁ hx => ?_
  refine (realValue_sim (up h₁ hu)).bind fun _ y y' _ hy => ?_
  cases hx
  cases hy
  exact .pure (.float _)

/-! ### With the runner -/

section

include hr

/-- The absolute value of an object, which its class decides. -/
theorem specialAbs_sim (hv : ValueRel w v v') : C.Sim c w ValueRel
      (do match ← callSpecial r v "__abs__" [] with
        | some result => return result
        | none => failType (.badOperand "abs()") v)
      (do match ← callSpecial r' v' "__abs__" [] with
        | some result => return result
        | none => failType (.badOperand "abs()") v') := by
  refine (callSpecial_sim hr (.inr (by decide)) hv .nil).bind fun w₁ x x' h₁ hx => ?_
  cases hx with
  | some hx => exact .pure hx
  | none => exact failType_sim _ (up h₁ hv)

theorem builtinAbs_sim (hv : ValueRel w v v') :
    C.Sim c w ValueRel (builtinAbs r v) (builtinAbs r' v') := by
  have special := specialAbs_sim (c := c) hr hv
  cases hv with
  | int n => exact makeInt_sim (lift_same (.exact _))
  | bool b => exact .pure (.int _)
  | float x => exact .pure (.float _)
  | _ => exact special

theorem builtinDivmod_sim (hv : ValueRel w v v') (hu : ValueRel w u u') :
    C.Sim c w ValueRel (builtinDivmod r v u) (builtinDivmod r' v' u') := by
  refine (binaryOp_sim hr .floorDiv hv hu).bind fun w₁ q q' h₁ hq => ?_
  refine (binaryOp_sim hr .mod (up h₁ hv) (up h₁ hu)).bind fun w₂ m m' h₂ hm => ?_
  exact makeTuple_sim (.cons (up h₂ hq) (.cons hm .nil))

theorem builtinPow_sim (hargs : ValuesRel w args args') :
    C.Sim c w ValueRel (builtinPow r args) (builtinPow r' args') := by
  have len := hargs.length
  rcases hargs with _ | ⟨ha, _ | ⟨hb, _ | ⟨hd, _ | ⟨he, ht⟩⟩⟩⟩
  · exact fail_sim (.plain rfl)
  · exact fail_sim (.plain rfl)
  · exact binaryOp_sim hr .pow ha hb
  · simp only [builtinPow, ha.asInt?, hb.asInt?, hd.asInt?]
    split
    · exact makeInt_sim (lift_same (.modularPow _ _ _))
    · exact fail_sim (.plain rfl)
  · simp only [builtinPow, len]
    exact fail_sim (.plain rfl)

theorem builtinSum_sim (hargs : ValuesRel w args args') (hks : KeywordsRel w ks ks') :
    C.Sim c w ValueRel (builtinSum r args ks) (builtinSum r' args' ks') := by
  refine (sumStart_sim hks (.int 0)).bind fun w₁ named named' h₁ hn => ?_
  refine (firstArgument_sim _ (up h₁ hargs)).bind fun w₂ p p' h₂ hp => ?_
  obtain ⟨v, rest⟩ := p
  obtain ⟨v', rest'⟩ := p'
  obtain ⟨hv, hrest⟩ := hp
  have hs : ValueRel w₂ (rest.head?.getD named) (rest'.head?.getD named') :=
    (ListRel.head? hrest).getD (up h₂ hn)
  have sum {s s' : Value} (hs : ValueRel w₂ s s') : C.Sim c w₂ ValueRel
      (do (← r.iterate v).foldlM (binaryOp r .add) s)
      (do (← r'.iterate v').foldlM (binaryOp r' .add) s') :=
    (hr.iterate hv).bind fun _ vs vs' h₃ hvs => .foldlM hvs (up h₃ hs) fun _ _ _ _ _ _ ha hb =>
      binaryOp_sim hr .add ha hb
  dsimp only
  revert hs
  generalize rest.head?.getD named = s, rest'.head?.getD named' = s'
  intro hs
  have same := hs
  cases hs with
  | str _ => exact fail_sim (.plain rfl)
  | _ => exact sum same

end

end Stepwise
