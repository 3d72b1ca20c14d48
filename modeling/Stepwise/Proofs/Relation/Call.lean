import Stepwise.Proofs.Relation.Runner

/-!
# Coupled calls

Arguments in their places, functions and instances, special methods, and the truth and text of
values go alike on both sides.
-/

namespace Stepwise

open Script Coupling

variable {σ τ : Type} {w : World}

/-! ### Arguments in their places -/

/-- Related arguments in their places. -/
structure BoundRel (w : World) (b b' : Bound) : Prop where
  params : KeywordsRel w b.params b'.params
  rest : ValuesRel w b.rest b'.rest
  keywords : KeywordsRel w b.keywords b'.keywords

namespace BoundRel

/-- Slots that are filled on both sides or on neither. -/
abbrev SlotsRel : Rel (List (Option Value)) (List (Option Value)) := ListRel (OptionRel ValueRel)

variable {slots slots' defaults defaults' : List (Option Value)} {args args' : List Value}

theorem slots_rel (h : ValuesRel w args args') (n : Nat) :
    SlotsRel w (Bound.slots n args) (Bound.slots n args') := by
  unfold Bound.slots
  rw [h.length]
  exact ((h.take n).map .some).append (.replicate .none _)

theorem keyword_rel (d : FunctionDef) {state state' : List (Option Value) × Keywords}
    {arg arg' : String × Value} (hs : PairRel SlotsRel KeywordsRel w state state')
    (ha : PairRel Same ValueRel w arg arg') :
    ExceptRel Same (PairRel SlotsRel KeywordsRel) w (Bound.keyword d state arg)
      (Bound.keyword d state' arg') := by
  obtain ⟨slots, rest⟩ := state
  obtain ⟨slots', rest'⟩ := state'
  obtain ⟨name, v⟩ := arg
  obtain ⟨name', v'⟩ := arg'
  obtain ⟨hs, hk⟩ := hs
  obtain ⟨rfl : name = name', hv⟩ := ha
  unfold Bound.keyword
  dsimp only at hs hk hv ⊢
  cases d.params.findIdx? (·.name = name) with
  | none =>
    dsimp only
    split
    · exact .ok ⟨hs, hk.append (.cons ⟨rfl, hv⟩ .nil)⟩
    · exact .error rfl
  | some i =>
    have free : ExceptRel Same (PairRel SlotsRel KeywordsRel) w (.ok (slots.set i (some v), rest))
        (.ok (slots'.set i (some v'), rest') : Except TypeFault _) :=
      .ok ⟨hs.set (.some hv) i, hk⟩
    dsimp only
    obtain ⟨e, e'⟩ | ⟨s, s', e, e', hs⟩ := (hs.get? i).cases <;> rw [e, e']
    · exact free
    · cases hs with
      | none => exact free
      | some _ => exact .error rfl

theorem filled_rel : ∀ (ps : List Param) {slots slots' defaults defaults' : List (Option Value)},
    SlotsRel w slots slots' → SlotsRel w defaults defaults' →
    KeywordsRel w (Bound.filled ps slots defaults) (Bound.filled ps slots' defaults')
  | [], _, _, _, _, _, _ => .nil
  | p :: ps, _, _, _, _, hs, hd => by
    have rest := filled_rel ps hs.tail hd.tail
    unfold Bound.filled
    obtain ⟨e, e'⟩ | ⟨v, v', e, e', hv⟩ := (hs.head?.join.or hd.head?.join).cases <;>
      simp only [e, e']
    · exact rest
    · exact .cons ⟨rfl, hv⟩ rest

theorem unfilled_eq : ∀ (ps : List Param) {slots slots' defaults defaults' : List (Option Value)},
    SlotsRel w slots slots' → SlotsRel w defaults defaults' →
    Bound.unfilled ps slots defaults = Bound.unfilled ps slots' defaults'
  | [], _, _, _, _, _, _ => rfl
  | p :: ps, _, _, _, _, hs, hd => by
    unfold Bound.unfilled
    rw [unfilled_eq ps hs.tail hd.tail, (hs.head?.join.or hd.head?.join).isNone]

/-- Keyword arguments that are put into their slots one by one. -/
theorem keywords_rel (d : FunctionDef) {ks ks' : Keywords} (h : KeywordsRel w ks ks')
    {state state' : List (Option Value) × Keywords}
    (hs : PairRel SlotsRel KeywordsRel w state state') :
    ExceptRel Same (PairRel SlotsRel KeywordsRel) w (ks.foldlM (Bound.keyword d) state)
      (ks'.foldlM (Bound.keyword d) state') := by
  induction ks generalizing ks' state state' with
  | nil =>
    cases h
    exact .ok hs
  | cons k ks ih =>
    cases h with
    | cons hk t =>
      rw [List.foldlM_cons, List.foldlM_cons]
      have key := keyword_rel d hs hk
      revert key
      generalize Bound.keyword d state k = x, Bound.keyword d state' _ = y
      intro key
      cases key with
      | ok h => exact ih t h
      | error h => exact .error h

theorem ofCall (d : FunctionDef) {ks ks' : Keywords} (hd : SlotsRel w defaults defaults')
    (ha : ValuesRel w args args') (hk : KeywordsRel w ks ks') :
    ExceptRel Same BoundRel w (Bound.ofCall d defaults args ks)
      (Bound.ofCall d defaults' args' ks') := by
  unfold Bound.ofCall
  simp only [ha.length, (hd.filter (q := (·.isNone)) fun h => h.isNone).length]
  split
  · exact .error rfl
  · have key := keywords_rel d hk (⟨slots_rel ha d.params.length, .nil⟩ :
      PairRel SlotsRel KeywordsRel w (Bound.slots d.params.length args, [])
        (Bound.slots d.params.length args', []))
    revert key
    generalize ks.foldlM (Bound.keyword d) _ = x, ks'.foldlM (Bound.keyword d) _ = y
    intro key
    cases key with
    | error h => exact .error h
    | @ok p q h =>
      obtain ⟨slots, rest⟩ := p
      obtain ⟨slots', rest'⟩ := q
      simp only [bind, Except.bind, unfilled_eq d.params h.fst hd]
      split
      · exact .ok ⟨filled_rel d.params h.fst hd, ha.drop _, h.snd⟩
      · exact .error rfl

end BoundRel

/-! ### Functions -/

variable {C : Coupling σ τ} [hC : C.Lawful] {c : C.Ctx} {α β : Type} {A : Rel α β}

/-- The parameter that takes the other keywords. -/
theorem keywordScope_sim (o : Option String) {ks ks' : List (String × Value)}
    {vars vars' : Namespace} (hks : ListRel (PairRel Same ValueRel) w ks ks')
    (hv : NamespaceRel w vars vars') : C.Sim c w NamespaceRel
      (match o with
        | some name => do return vars.set name (← makeDict (ks.map fun (k, v) => (.str k, v)))
        | none => return vars)
      (match o with
        | some name => do return vars'.set name (← makeDict (ks'.map fun (k, v) => (.str k, v)))
        | none => return vars') := by
  cases o with
  | none => exact .pure hv
  | some name =>
    refine (makeDict_sim (hks.map ?_)).bind
      fun w₁ v v' h₁ hv' => .pure (OrderedRel.set (up h₁ hv) rfl hv')
    rintro ⟨k, v⟩ ⟨k', v'⟩ ⟨rfl : k = k', hv⟩
    exact ⟨.str k, hv⟩

theorem parameterScope_sim (d : FunctionDef) {b b' : Bound} (h : BoundRel w b b') :
    C.Sim c w NamespaceRel (parameterScope d b) (parameterScope d b') := by
  have start : NamespaceRel w (.ofList b.params) (.ofList b'.params) := OrderedRel.ofList h.params
  unfold parameterScope
  cases d.vararg with
  | none => exact keywordScope_sim d.kwarg h.keywords start
  | some name =>
    refine (makeTuple_sim h.rest).bind fun w₁ v v' h₁ hv => ?_
    exact keywordScope_sim d.kwarg (up h₁ h.keywords) (OrderedRel.set (up h₁ start) rfl hv)

section

variable {r : Runner σ} {r' : Runner τ} (hr : RunnerRel C r r')
include hr

theorem callFunction_sim {a a' : Address} {args args' : List Value} {ks ks' : Keywords}
    (ha : w.addr a a') (hargs : ValuesRel w args args') (hks : KeywordsRel w ks ks') :
    C.Sim c w ValueRel (callFunction r a args ks) (callFunction r' a' args' ks') := by
  refine .get fun m m' hm => ?_
  obtain hi | ⟨lopsided, hi⟩ := hC.inspecting hm
  case inr =>
    -- on the left the function is refused, whatever happens on the right
    rw [if_pos hi]
    exact fun _ _ _ => .lost lopsided ⟨by simp [Fault.kind], rfl⟩
  refine .ite (by rw [hi]) (fun _ => fail_sim (.plain rfl)) fun hi => ?_
  have roams := hC.executes hm (by simpa using hi)
  obtain ⟨e, e'⟩ | ⟨f, f', e, e', hf⟩ := ((hC.near hm).heap.closure? ha).cases <;>
    simp only [e, e']
  · exact fail_sim (.plain rfl)
  obtain ⟨d, defaults, scope, owner⟩ := f
  obtain ⟨d', defaults', scope', owner'⟩ := f'
  obtain ⟨rfl : d = d', hd, hdef, hscope, howner⟩ := hf
  have hb := BoundRel.ofCall d hdef hargs hks
  dsimp only
  revert hb
  generalize Bound.ofCall d defaults args ks = x, Bound.ofCall d defaults' args' ks' = y
  intro hb
  cases hb with
  | error h =>
    cases h
    exact fail_sim (.plain rfl)
  | @ok b b' hb =>
    refine (parameterScope_sim d hb).bind fun w₁ vars vars' h₁ hv => ?_
    have receiver : OptionRel ValueRel w₁ (if owner.isSome then args.head? else none)
        (if owner'.isSome then args'.head? else none) := by
      rw [howner.isSome]
      split
      · exact up h₁ hargs.head?
      · exact .none
    have entered : C.Sim c w₁ ValueRel
        (enterFunction r d vars scope owner (if owner.isSome then args.head? else none))
        (enterFunction r' d vars' scope' owner' (if owner'.isSome then args'.head? else none)) := by
      obtain hx | confined := roams
      · rw [hC.phrase hx hm] at hd
        obtain ⟨hd, -, hbody⟩ := hd.function
        exact hr.enter hx hd hv (up h₁ hscope) (up h₁ howner) receiver
          fun c' w' _ lines => block_sim hr hx hbody lines
      · exact hr.confine confined hv (up h₁ hscope)
    cases owner <;> cases owner' <;> exact entered

omit hC in
theorem evalDefaults_sim : ∀ {w : World} {ps : List Param}, Every C.phrase (paramParts ps) →
    C.Sim c w (ListRel (OptionRel ValueRel)) (evalDefaults r ps) (evalDefaults r' ps)
  | _, [], _ => .pure .nil
  | _, .mk _ default :: ps, hp => by
    rw [paramParts, every_append] at hp
    refine (evalOption_sim hr hp.1).bind fun w₁ v v' h₁ hv => ?_
    exact (evalDefaults_sim hp.2).bind fun w₂ vs vs' h₂ hvs => .pure (.cons (up h₂ hv) hvs)

theorem makeFunction_sim {d : FunctionDef} (hc : C.changes) (hd : Every C.phrase d.parts) :
    C.Sim c w ValueRel (makeFunction r d) (makeFunction r' d) := by
  refine (evalDefaults_sim hr hd.function.2.1).bind fun w₁ vs vs' h₁ hvs => ?_
  refine frame?_sim.bind fun w₂ f f' h₂ hf => ?_
  have finish {o o' : Option Address} (ho : OptionRel AddrRel w₂ o o') :
      C.Sim c w₂ ValueRel (do make (.func ⟨d, vs, ← capturedScope, o⟩))
        (do make (.func ⟨d, vs', ← capturedScope, o'⟩)) := by
    refine (hC.capture hc).bind fun w₃ s s' h₃ hs m m' hm => ?_
    have hf : ClosureRel w₃ ⟨d, vs, s, o⟩ ⟨d, vs', s', o'⟩ :=
      ⟨rfl, fun n hn => hC.knows hc hm (hd n hn), up (h₂.trans h₃) hvs, hs, up h₃ ho⟩
    exact make_sim (.func hf) rfl m m' hm
  cases hf with
  | none => exact finish .none
  | some hf =>
    dsimp only
    rw [hf.kind]
    refine finish ?_
    split
    · exact hf.owner
    · exact .none

/-! ### Instances and special methods -/

theorem instantiate_sim {a a' : Address} {args args' : List Value} {ks ks' : Keywords}
    (ha : w.addr a a') (hargs : ValuesRel w args args') (hks : KeywordsRel w ks ks') :
    C.Sim c w ValueRel (instantiate r a args ks) (instantiate r' a' args' ks') := by
  refine .getHeap fun m m' hm => ?_
  have H := (hC.near hm).heap
  dsimp only
  rw [H.isExceptionClass ha]
  refine (make_sim (.inst ⟨ha, OrderedRel.empty, ?_⟩) rfl).bind fun w₁ o o' h₁ ho => ?_
  · split
    · exact hargs
    · exact .nil
  obtain ⟨e, e'⟩ | ⟨⟨f, _⟩, ⟨f', _⟩, e, e', hf⟩ := (H.classLookup? ha "__init__").cases <;>
    simp only [e, e']
  · refine .ite ?_ (fun _ => fail_sim ?_) fun _ => .pure ho
    · rw [hargs.isEmpty, hks.isEmpty]
    · rw [H.className ha]
      exact .plain rfl
  · have tame : C.Tame f := hC.special hm (by decide) e
    refine (hr.call tame (up h₁ hf.fst) (.cons ho (up h₁ hargs)) (up h₁ hks)).bind
      fun w₂ v v' h₂ hv => ?_
    exact .ite (by rw [hv.isNone]) (fun _ => .pure (up h₂ ho)) fun _ => failType_sim _ hv

theorem callSpecialWith_sim {v v' : Value} {name : String} {args args' : List Value}
    {ks ks' : Keywords} (hn : C.changes ∨ name ∈ specialMethods) (hv : ValueRel w v v')
    (hargs : ValuesRel w args args') (hks : KeywordsRel w ks ks') :
    C.Sim c w (OptionRel ValueRel) (callSpecialWith r v name args ks)
      (callSpecialWith r' v' name args' ks') := by
  refine .getHeap fun m m' hm => ?_
  have H := (hC.near hm).heap
  obtain ⟨e, e'⟩ | ⟨cls, cls', e, e', hcls⟩ := (H.classOf? hv).cases <;>
    simp only [e, e', Option.bind_some, Option.bind_none]
  · exact .pure .none
  obtain ⟨e, e'⟩ | ⟨⟨f, _⟩, ⟨f', _⟩, e, e', hf⟩ := (H.classLookup? hcls name).cases <;>
    simp only [e, e']
  · exact .pure .none
  have tame : C.Tame f := hn.elim (hC.tame · f) fun hn => hC.special hm hn e
  rw [(hf.fst.address?.bind fun ha => H.closure? ha).isSome]
  refine (hr.call tame hf.fst ?_ hks).bind fun w₁ u u' h₁ hu => .pure (.some hu)
  split
  · exact .cons hv hargs
  · exact hargs

theorem callSpecial_sim {v v' : Value} {name : String} {args args' : List Value}
    (hn : C.changes ∨ name ∈ specialMethods) (hv : ValueRel w v v')
    (hargs : ValuesRel w args args') :
    C.Sim c w (OptionRel ValueRel) (callSpecial r v name args) (callSpecial r' v' name args') :=
  callSpecialWith_sim hr hn hv hargs .nil

end

theorem makeSuper_sim {args args' : List Value} (h : ValuesRel w args args') :
    C.Sim c w ValueRel (makeSuper args) (makeSuper args') := by
  have len := h.length
  rcases h with _ | ⟨ha, _ | ⟨hb, _ | ⟨hd, ht⟩⟩⟩
  · refine frame?_sim.bind fun w₁ f f' h₁ hf => ?_
    have ho : OptionRel AddrRel w₁ (f.bind (·.owner)) (f'.bind (·.owner)) :=
      hf.bind fun h => h.owner
    have hv : OptionRel ValueRel w₁ (f.bind (·.receiver)) (f'.bind (·.receiver)) :=
      hf.bind fun h => h.receiver
    obtain ⟨e, e'⟩ | ⟨a, a', e, e', ha⟩ := ho.cases <;> simp only [e, e']
    · exact fail_sim (.plain rfl)
    obtain ⟨e, e'⟩ | ⟨v, v', e, e', hv⟩ := hv.cases <;> simp only [e, e']
    · exact fail_sim (.plain rfl)
    · exact make_sim (.super ha hv) rfl
  · simp only [makeSuper, len]
    exact fail_sim (.plain rfl)
  · refine .getHeap fun m m' hm => ?_
    have H := (hC.near hm).heap
    obtain ⟨e, e'⟩ | ⟨a, a', e, e', ha⟩ :=
      (ha.address?.filter fun h => (H.class? h).isSome).cases <;> simp only [e, e']
    · exact fail_sim (.plain rfl)
    · exact make_sim (.super ha hb) rfl
  · simp only [makeSuper, len]
    exact fail_sim (.plain rfl)

end Stepwise
