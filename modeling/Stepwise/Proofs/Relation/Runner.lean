import Stepwise.Eval.Argument
import Stepwise.Proofs.Heap
import Stepwise.Proofs.Relation.Coupling

/-!
# Coupled runners

Two runners that do every task alike (`RunnerRel`), and the parts of the machine itself: making
objects, keys and tables, names and scopes, arguments of built-in functions.
-/

namespace Stepwise

open Script Coupling

variable {σ τ : Type}

/-- Runs the body of a function with the bindings that it starts with. -/
def enterFunction (r : Runner σ) (d : FunctionDef) (vars : Namespace)
    (scope owner : Option Address) (receiver : Option Value) : M σ Value := do
  let locals ← alloc (.scope ⟨vars, scope⟩)
  runFrame r { Frame.start d.name .function locals d.pos.line with owner, receiver } d.body

/-- Ways to do tasks that go alike. -/
structure TasksRel (C : Coupling σ τ) (run : {α : Type} → Task α → M σ α)
    (run' : {α : Type} → Task α → M τ α) : Prop where
  eval : ∀ {c w e}, Every C.phrase e.parts → C.Sim c w ValueRel (run (.eval e)) (run' (.eval e))
  name : ∀ {c w x}, C.harmless x →
    C.Sim c w (fun _ v v' => ∃ b, v = .builtin b ∧ v' = .builtin b ∧ b.isPure = true)
      (run (.eval (.name x))) (run' (.eval (.name x)))
  exec : ∀ {c w s}, C.executes → Every C.phrase s.parts → (∀ n ∈ s.ownLines, C.line c n) →
    C.Sim c w FlowRel (run (.exec s)) (run' (.exec s))
  call : ∀ {c w f f' args args' ks ks'}, C.Tame f → ValueRel w f f' → ValuesRel w args args' →
    KeywordsRel w ks ks' → C.Sim c w ValueRel (run (.call f args ks)) (run' (.call f' args' ks'))
  equals : ∀ {c w a a' b b'}, ValueRel w a a' → ValueRel w b b' →
    C.Sim c w Same (run (.equals a b)) (run' (.equals a' b'))
  order : ∀ {c w op a a' b b'}, ValueRel w a a' → ValueRel w b b' →
    C.Sim c w Same (run (.order op a b)) (run' (.order op a' b'))
  repr : ∀ {c w v v'}, ValueRel w v v' → C.Sim c w Same (run (.repr v)) (run' (.repr v'))
  str : ∀ {c w v v'}, ValueRel w v v' → C.Sim c w Same (run (.str v)) (run' (.str v'))
  iterate : ∀ {c w v v'}, ValueRel w v v' →
    C.Sim c w ValuesRel (run (.iterate v)) (run' (.iterate v'))
  assign : ∀ {c w e v v'}, C.changes → Every C.phrase e.parts →
    (∀ x ∈ targetNames [] e, C.binds c x) → ValueRel w v v' →
    C.Sim c w Same (run (.assign e v)) (run' (.assign e v'))
  delete : ∀ {c w e}, C.executes → Every C.phrase e.parts →
    C.Sim c w Same (run (.delete e)) (run' (.delete e))

/-- Bounds of two runners: equal ones, or a larger one on the right, if the left run may run out of
fuel alone and showing an address takes nothing. -/
def Bounds (C : Coupling σ τ) (r : Runner σ) (r' : Runner τ) : Prop :=
  r.bound = r'.bound ∨ C.Left ∧ r.bound ≤ r'.bound ∧ r.reveal = pure () ∧ r'.reveal = pure ()

theorem Bounds.rounds {C : Coupling σ τ} {r : Runner σ} {r' : Runner τ} (h : Bounds C r r') :
    C.Rounds r.bound r'.bound := by
  obtain same | ⟨left, le, -⟩ := h
  · exact same ▸ .refl _
  · exact .of_le left le

/-- Runners that do every task alike. -/
structure RunnerRel (C : Coupling σ τ) (r : Runner σ) (r' : Runner τ) : Prop
    extends TasksRel C r.run r'.run where
  bounds : Bounds C r r'
  reveal : ∀ {c w}, C.Sim c w (fun w _ _ => w.Exact) r.reveal r'.reveal
  reveals : C.lopsided → ∀ m, Lost (r.reveal m) ∨ r.reveal m = .ok () m
  mark : ∀ {c w line force condition}, C.executes → C.line c line →
    (∃ n, C.phrase n ∧ n.line? = some line) →
    C.Sim c w Same (markLine r line force condition) (markLine r' line force condition)
  enter : ∀ {c w d vars vars' scope scope' owner owner' receiver receiver'}, C.executes →
    C.phrase (.function d) → NamespaceRel w vars vars' → OptionRel KeptRel w scope scope' →
    OptionRel AddrRel w owner owner' → OptionRel ValueRel w receiver receiver' →
    (∀ c' w', w ≤ w' → (∀ n ∈ blockLines d.body, C.line c' n) →
      C.Sim c' w' FlowRel (r.block d.body) (r'.block d.body)) →
    C.Sim c w ValueRel (enterFunction r d vars scope owner receiver)
      (enterFunction r' d vars' scope' owner' receiver')
  confine : ∀ {c w d vars vars' scope scope' owner owner' receiver receiver'}, C.confined →
    NamespaceRel w vars vars' → OptionRel KeptRel w scope scope' →
    C.Sim c w ValueRel (enterFunction r d vars scope owner receiver)
      (enterFunction r' d vars' scope' owner' receiver') := by exact fun h => h.elim
  classBody : ∀ {c w d cls cls' parent parent'}, C.executes → C.phrase (.cls d) →
    w.addr cls cls' → OptionRel KeptRel w parent parent' →
    (∀ c' w', w ≤ w' → (∀ n ∈ blockLines d.body, C.line c' n) →
      C.Sim c' w' FlowRel (r.block d.body) (r'.block d.body)) →
    C.Sim c w NamespaceRel (runClassBody r cls parent d) (runClassBody r' cls' parent' d)

variable {C : Coupling σ τ} {c : C.Ctx} {w : World} {α β : Type} {A : Rel α β}

/-! ### Sequences of tasks -/

section

variable {r : Runner σ} {r' : Runner τ} (hr : RunnerRel C r r')
include hr

theorem evalAll_sim : ∀ {w : World} {es : List Expr}, Every C.phrase (allParts es) →
    C.Sim c w ValuesRel (r.evalAll es) (r'.evalAll es)
  | _, [], _ => .pure .nil
  | _, e :: es, he => by
    rw [allParts, every_append] at he
    refine (hr.eval he.1).bind fun w₁ v v' h₁ hv => ?_
    exact (evalAll_sim he.2).bind fun w₂ vs vs' h₂ hvs => .pure (.cons (up h₂ hv) hvs)

theorem evalOption_sim {e : Option Expr} (he : Every C.phrase (optionParts e)) :
    C.Sim c w (OptionRel ValueRel) (r.evalOption e) (r'.evalOption e) := by
  cases e with
  | none => exact .pure .none
  | some e => exact (hr.eval he).bind fun _ _ _ _ hv => .pure (.some hv)

theorem lessThan_sim {a a' b b' : Value} (ha : ValueRel w a a') (hb : ValueRel w b b') :
    C.Sim c w Same (r.lessThan a b) (r'.lessThan a' b') :=
  hr.order ha hb

theorem block_sim (hx : C.executes) : ∀ {w : World} {ss : List Stmt},
    Every C.phrase (blockParts ss) → (∀ n ∈ blockLines ss, C.line c n) →
    C.Sim c w FlowRel (r.block ss) (r'.block ss)
  | _, [], _, _ => .pure .normal
  | w, s :: ss, hs, hl => by
    rw [blockParts, every_append] at hs
    rw [blockLines, List.forall_mem_append] at hl
    refine (hr.exec hx hs.1 hl.1).bind fun w₁ f f' h₁ hf => ?_
    have same := hf
    cases hf with
    | normal => exact block_sim hx hs.2 hl.2
    | _ => exact .pure same

end

variable [hC : C.Lawful]

/-! ### Failing -/

theorem fail_sim {f f' : Fault} (h : FaultRel w f f') : C.Sim c w A (fail f) (fail f') :=
  fun _ _ hm => .error le_rfl ⟨h, (hC.near hm).pos⟩ hm

theorem typeName_sim {v v' : Value} (h : ValueRel w v v') :
    C.Sim c w Same (typeName v) (typeName v') :=
  .getHeap fun _ _ hm => .pure ((hC.near hm).heap.typeName h)

theorem failType_sim {v v' : Value} (f : String → TypeFault) (h : ValueRel w v v') :
    C.Sim c w A (failType f v) (failType f v') :=
  (typeName_sim h).bind fun _ _ _ _ h => fail_sim (h ▸ .plain rfl)

/-! ### Making objects -/

theorem make_sim {o o' : Object} (h : ObjectRel w o o') (ho : o.isData = true) :
    C.Sim c w ValueRel (make o) (make o') :=
  (hC.alloc h ho).bind fun _ _ _ _ ha => .pure (.ref ha)

theorem makeList_sim {vs vs' : List Value} (h : ValuesRel w vs vs') :
    C.Sim c w ValueRel (makeList vs) (makeList vs') :=
  make_sim (.list h) rfl

theorem makeTuple_sim {vs vs' : List Value} (h : ValuesRel w vs vs') :
    C.Sim c w ValueRel (makeTuple vs) (makeTuple vs') :=
  hC.tuple h

/-! ### Keys and tables -/

/-- A value may be filed under the key that it has. -/
theorem keyOf_filed {v v' : Value} (h : ValueRel w v v') :
    C.Sim c w (FiledRel v) (keyOf v) (keyOf v') := by
  intro m m' hm
  rw [keyOf, keyOf, getHeap_bind, getHeap_bind]
  obtain ⟨e, e'⟩ | ⟨k, k', e, e', hk⟩ := ((hC.near hm).heap.key? h).cases <;> simp only [e, e']
  · exact failType_sim _ h m m' hm
  · obtain ⟨w', hw, filed, hm'⟩ := hC.filed hm h e
    exact .ok hw ⟨up hw hk, filed⟩ hm'

theorem keyOf_sim {v v' : Value} (h : ValueRel w v v') :
    C.Sim c w KeyRel (keyOf v) (keyOf v') :=
  (keyOf_filed h).mono fun _ _ _ _ h => h.key

theorem tableOf_sim {es es' : List (Value × Value)}
    (h : ListRel (PairRel ValueRel ValueRel) w es es') :
    C.Sim c w TableRel (tableOf es) (tableOf es') :=
  .foldlM h TableRel.empty fun _ _ _ _ _ _ ht he =>
    (keyOf_filed he.fst).bind fun _ _ _ h₁ hk =>
      .pure (TableRel.insert (up h₁ ht) hk (up h₁ he.fst) (up h₁ he.snd))

theorem membersOf_sim {vs vs' : List Value} (h : ValuesRel w vs vs') :
    C.Sim c w TableRel (membersOf vs) (membersOf vs') :=
  .foldlM h TableRel.empty fun _ _ _ _ _ _ ht hv =>
    (keyOf_filed hv).bind fun _ _ _ h₁ hk => .pure (TableRel.add (up h₁ ht) hk (up h₁ hv))

theorem makeDict_sim {es es' : List (Value × Value)}
    (h : ListRel (PairRel ValueRel ValueRel) w es es') :
    C.Sim c w ValueRel (makeDict es) (makeDict es') :=
  (tableOf_sim h).bind fun _ _ _ _ ht => make_sim (.dict ht) rfl

theorem makeSet_sim {vs vs' : List Value} (h : ValuesRel w vs vs') :
    C.Sim c w ValueRel (makeSet vs) (makeSet vs') :=
  (membersOf_sim h).bind fun _ _ _ _ ht => make_sim (.set ht) rfl

/-! ### Changing objects -/

omit hC in
/-- Changes of the bindings of a scope. -/
theorem edit_scope {f f' : Namespace → Namespace}
    (hf : ∀ {n n'}, NamespaceRel w n n' → NamespaceRel w (f n) (f' n')) :
    Edit w
      (fun o => match o with
        | .scope s => .scope { s with vars := f s.vars }
        | o => o)
      (fun o => match o with
        | .scope s => .scope { s with vars := f' s.vars }
        | o => o) := by
  refine ⟨fun ho => ?_, fun o => ?_, fun o => ?_⟩
  · have same := ho
    cases ho with
    | scope h => exact .scope ⟨hf h.vars, h.parent⟩
    | _ => exact same
  all_goals
    cases o with
    | scope s => exact .scope rfl
    | _ => exact .refl _

theorem modifyScope_sim {a a' : Address} {f f' : Namespace → Namespace} (hc : C.changes)
    (free : ¬C.confined) (ha : w.place a a')
    (hf : ∀ {n n'}, NamespaceRel w n n' → NamespaceRel w (f n) (f' n')) :
    C.Sim c w Same (changeHeap (·.modifyScope a f)) (changeHeap (·.modifyScope a' f')) :=
  hC.edit hc ha (edit_scope hf) (fun h => absurd h free) (.inr fun _ _ _ => rfl)

theorem modifyList_sim {a a' : Address} {f f' : Array Value → Array Value} (hc : C.changes)
    (ha : w.addr a a') (hf : ∀ {is is' : Array Value}, ValuesRel w is.toList is'.toList →
      ValuesRel w (f is).toList (f' is').toList) :
    C.Sim c w Same (changeHeap (·.modifyList a f)) (changeHeap (·.modifyList a' f')) := by
  refine hC.edit hc ha.1 ⟨fun ho => ?_, fun o => ?_, fun o => ?_⟩ (fun _ _ => rfl)
    (.inr fun _ _ _ => rfl)
  · have same := ho
    cases ho with
    | list h => exact .list (hf h)
    | _ => exact same
  all_goals
    cases o with
    | list is => exact .list ..
    | _ => exact .refl _

theorem modifyTable_sim {a a' : Address} {f f' : Table → Table} (hc : C.changes)
    (ha : w.addr a a') (hf : ∀ {t t'}, TableRel w t t' → TableRel w (f t) (f' t')) :
    C.Sim c w Same (changeHeap (·.modifyTable a f)) (changeHeap (·.modifyTable a' f')) := by
  refine hC.edit hc ha.1 ⟨fun ho => ?_, fun o => ?_, fun o => ?_⟩ (fun _ _ => rfl)
    (.inr fun _ _ _ => rfl)
  · have same := ho
    cases ho with
    | dict h => exact .dict (hf h)
    | set h => exact .set (hf h)
    | _ => exact same
  all_goals
    cases o with
    | dict t => exact .dict ..
    | set t => exact .set ..
    | _ => exact .refl _

theorem modifyInstance_sim {a a' : Address} {f f' : Instance → Instance} (hc : C.changes)
    (ha : w.addr a a') (hf : ∀ {i i'}, InstanceRel w i i' → InstanceRel w (f i) (f' i'))
    (hl : ∀ i, (f i).cls = i.cls) (hr : ∀ i, (f' i).cls = i.cls) :
    C.Sim c w Same (changeHeap (·.modifyInstance a f)) (changeHeap (·.modifyInstance a' f')) := by
  refine hC.edit hc ha.1 ⟨fun ho => ?_, fun o => ?_, fun o => ?_⟩ (fun _ _ => rfl)
    (.inr fun _ _ _ => rfl)
  · have same := ho
    cases ho with
    | inst h => exact .inst (hf h)
    | _ => exact same
  · cases o with
    | inst i => exact .inst (hl i).symm
    | _ => exact .refl _
  · cases o with
    | inst i => exact .inst (hr i).symm
    | _ => exact .refl _

theorem modifyClass_sim {a a' : Address} {f f' : Namespace → Namespace} (hc : C.changes)
    (ha : w.addr a a') (hf : ∀ {n n'}, NamespaceRel w n n' → NamespaceRel w (f n) (f' n'))
    (spares : C.own a ∨ f .empty = .empty) :
    C.Sim c w Same (changeHeap (·.modifyClass a fun c => { c with attrs := f c.attrs }))
      (changeHeap (·.modifyClass a' fun c => { c with attrs := f' c.attrs })) := by
  refine hC.edit hc ha.1 ⟨fun ho => ?_, fun o => ?_, fun o => ?_⟩ (fun _ _ => rfl)
    (spares.imp_right fun same k _ bare => ?_)
  · have same := ho
    cases ho with
    | cls h => exact .cls { h with attrs := hf h.attrs }
    | _ => exact same
  · cases o with
    | cls c => exact .cls rfl rfl rfl rfl
    | _ => exact .refl _
  · cases o with
    | cls c => exact .cls rfl rfl rfl rfl
    | _ => exact .refl _
  · show Object.cls { k with attrs := f k.attrs } = .cls k
    rw [bare, same, ← bare]

/-- A class with other attributes, unless it is built in. -/
def Class.withAttributes (f : Namespace → Namespace) (c : Class) : Class :=
  if c.builtin then c else { c with attrs := f c.attrs }

omit hC in
theorem modifyClass_eq {a : Address} {f : Namespace → Namespace} {m : Machine σ} {k : Class}
    (found : m.heap.get? a = some (.cls k)) (made : k.builtin = false) :
    changeHeap (·.modifyClass a fun c => { c with attrs := f c.attrs }) m =
      changeHeap (·.modifyClass a (Class.withAttributes f)) m := by
  have same : m.heap.modifyClass a (fun c => { c with attrs := f c.attrs }) =
      m.heap.modifyClass a (Class.withAttributes f) := m.heap.modify_congr fun o ho => by
    rw [found] at ho
    obtain rfl := Option.some.inj ho
    simp [Class.withAttributes, made]
  exact congrArg (fun h => EStateM.Result.ok () { m with heap := h }) same

/-- Changes of the attributes of a class that is not built in. -/
theorem modifyClass_agree {a a' : Address} {f f' : Namespace → Namespace} {m : Machine σ}
    {m' : Machine τ} {k k' : Class} (hc : C.changes) (hm : C.Holds c w m m') (ha : w.addr a a')
    (hf : ∀ {n n'}, NamespaceRel w n n' → NamespaceRel w (f n) (f' n'))
    (found : m.heap.get? a = some (.cls k)) (found' : m'.heap.get? a' = some (.cls k'))
    (made : k.builtin = false) (made' : k'.builtin = false) :
    Agree C c w Same (changeHeap (·.modifyClass a fun c => { c with attrs := f c.attrs }) m)
      (changeHeap (·.modifyClass a' fun c => { c with attrs := f' c.attrs }) m') := by
  have like (f : Namespace → Namespace) (c : Class) :
      Like (.cls c) (.cls (c.withAttributes f)) := by
    unfold Class.withAttributes
    split
    · exact .refl _
    · exact .cls rfl rfl rfl rfl
  rw [modifyClass_eq found made, modifyClass_eq found' made']
  refine hC.edit hc ha.1 ⟨fun ho => ?_, fun o => ?_, fun o => ?_⟩ (fun _ _ => rfl)
    (.inr fun k builtin _ => ?_) m m' hm
  · have same := ho
    cases ho with
    | @cls k k' h =>
      show ObjectRel w (.cls (k.withAttributes f)) (.cls (k'.withAttributes f'))
      unfold Class.withAttributes
      by_cases built : k.builtin = true
      · rw [if_pos built, if_pos (h.builtin ▸ built)]
        exact same
      · rw [if_neg built, if_neg (h.builtin ▸ built)]
        exact .cls { h with attrs := hf h.attrs }
    | _ => exact same
  · cases o with
    | cls c => exact like f c
    | _ => exact .refl _
  · cases o with
    | cls c => exact like f' c
    | _ => exact .refl _
  · show Object.cls (k.withAttributes f) = .cls k
    rw [Class.withAttributes, if_pos builtin]

/-- A new class is where it may be changed. -/
theorem newClass_sim (name : String) {bases bases' : List Address} (hx : C.executes)
    (hb : ListRel AddrRel w bases bases') :
    C.Sim c w (fun w a a' => AddrRel w a a' ∧ C.own a) (allocClass name bases)
      (allocClass name bases') := by
  intro m m' hm
  have own := hC.owns hm
  have run : allocClass name bases m = .ok m.heap.next { m with
    heap := (m.heap.allocClass name bases false).2 } := rfl
  have alike := hC.allocClass (c := c) name hx hb m m' hm
  rw [run] at alike ⊢
  cases alike with
  | ok hw ha hm => exact .ok hw ⟨ha, own⟩ hm

/-! ### Names -/

theorem frame?_sim : C.Sim c w (OptionRel FrameRel) frame? frame? :=
  .get fun _ _ hm => .pure (hC.near hm).frame

theorem lookupName_sim (name : String) :
    C.Sim c w ValueRel (lookupName name) (lookupName name) := by
  refine .get fun m m' hm => ?_
  obtain ⟨e, e'⟩ | ⟨v, v', e, e', hv⟩ := ((hC.near hm).lookup? name).cases <;> simp only [e, e']
  · exact fail_sim (.plain rfl)
  · exact .pure hv

theorem targetScope_sim (name : String) :
    C.Sim c w PlaceRel (targetScope name) (targetScope name) := by
  refine .get fun m m' hm => ?_
  obtain ⟨e, e'⟩ | ⟨a, a', e, e', ha⟩ := ((hC.near hm).targetScope? name).cases <;>
    simp only [e, e']
  · exact fail_sim (.plain rfl)
  · exact .pure ha

theorem assignName_sim {v v' : Value} (hc : C.changes) {name : String} (hb : C.binds c name)
    (hv : ValueRel w v v') : C.Sim c w Same (assignName name v) (assignName name v') := by
  by_cases confined : C.confined
  · exact hC.assign confined hb hv
  · exact (targetScope_sim name).bind fun _ _ _ h₁ ha =>
      modifyScope_sim hc confined ha fun hn => hn.set rfl (up h₁ hv)

theorem deleteName_sim (hx : C.executes) (name : String) :
    C.Sim c w Same (deleteName name) (deleteName name) := by
  refine (targetScope_sim name).bind fun w₁ a a' h₁ ha => .getHeap fun m m' hm => ?_
  obtain ⟨e, e'⟩ | ⟨s, s', e, e', hs⟩ := ((hC.near hm).heap.scope? ha).cases <;>
    simp only [e, e']
  · exact fail_sim (.plain rfl)
  · refine .ite (by rw [OrderedRel.contains hs.vars rfl]) (fun _ => ?_) fun _ => ?_
    · exact modifyScope_sim (hC.changes hx) (hC.roams hx) ha fun hn => hn.erase rfl
    · exact fail_sim (.plain rfl)

theorem capture_amends : Amends ({ · with captured := true }) :=
  ⟨fun h => { h with captured := rfl }, fun _ _ => rfl, fun _ => rfl, fun _ => rfl, fun _ => rfl⟩

/-! ### Arguments of built-in functions -/

section

variable {args args' : List Value} {v v' : Value}

theorem arity_sim (name : String) (h : ValuesRel w args args') (min max : Nat) :
    C.Sim c w Same (arity name args min max) (arity name args' min max) := by
  simp only [arity, h.length]
  refine .ite .rfl (fun _ => .pure rfl) fun _ => ?_
  refine .ite .rfl (fun _ => fail_sim (.plain rfl)) fun _ => ?_
  refine .ite .rfl (fun _ => fail_sim (.plain rfl)) fun _ => ?_
  exact .ite .rfl (fun _ => fail_sim (.plain rfl)) fun _ => fail_sim (.plain rfl)

theorem oneArgument_sim (name : String) (h : ValuesRel w args args') :
    C.Sim c w ValueRel (oneArgument name args) (oneArgument name args') := by
  have len := h.length
  rcases h with _ | ⟨ha, _ | ⟨hb, ht⟩⟩
  · exact fail_sim (.plain rfl)
  · exact .pure ha
  · simp only [oneArgument, len]
    exact fail_sim (.plain rfl)

theorem twoArguments_sim (name : String) (h : ValuesRel w args args') :
    C.Sim c w (PairRel ValueRel ValueRel) (twoArguments name args) (twoArguments name args') := by
  have len := h.length
  rcases h with _ | ⟨ha, _ | ⟨hb, _ | ⟨hc, ht⟩⟩⟩
  · exact fail_sim (.plain rfl)
  · exact fail_sim (.plain rfl)
  · exact .pure ⟨ha, hb⟩
  · simp only [twoArguments, len]
    exact fail_sim (.plain rfl)

theorem threeArguments_sim (name : String) (h : ValuesRel w args args') :
    C.Sim c w (PairRel ValueRel (PairRel ValueRel ValueRel)) (threeArguments name args)
      (threeArguments name args') := by
  have len := h.length
  rcases h with _ | ⟨ha, _ | ⟨hb, _ | ⟨hd, _ | ⟨he, ht⟩⟩⟩⟩
  · exact fail_sim (.plain rfl)
  · exact fail_sim (.plain rfl)
  · exact fail_sim (.plain rfl)
  · exact .pure ⟨ha, hb, hd⟩
  · simp only [threeArguments, len]
    exact fail_sim (.plain rfl)

theorem optionalArgument_sim (name : String) (h : ValuesRel w args args') :
    C.Sim c w (OptionRel ValueRel) (optionalArgument name args) (optionalArgument name args') := by
  have len := h.length
  rcases h with _ | ⟨ha, _ | ⟨hb, ht⟩⟩
  · exact .pure .none
  · exact .pure (.some ha)
  · simp only [optionalArgument, len]
    exact fail_sim (.plain rfl)

theorem firstArgument_sim (name : String) (h : ValuesRel w args args') :
    C.Sim c w (PairRel ValueRel ValuesRel) (firstArgument name args)
      (firstArgument name args') := by
  cases h with
  | nil => exact fail_sim (.plain rfl)
  | cons ha ht => exact .pure ⟨ha, ht⟩

theorem argument_rel (h : ValuesRel w args args') (n : Nat) :
    ValueRel w (argument args n) (argument args' n) := by
  simpa only [argument, List.getD_eq_getElem?_getD] using (h.get? n).getD .none

theorem indexValue_sim (h : ValueRel w v v') :
    C.Sim c w Same (indexValue v) (indexValue v') := by
  unfold indexValue
  rw [h.asInt?]
  cases v'.asInt? with
  | some n => exact .pure rfl
  | none => exact failType_sim _ h

theorem realValue_sim (h : ValueRel w v v') : C.Sim c w Same (realValue v) (realValue v') := by
  unfold realValue
  rw [h.asFloat?]
  cases v'.asFloat? with
  | some x => exact .pure rfl
  | none => exact failType_sim _ h

theorem strArgument_sim (method : String) (h : ValueRel w v v') :
    C.Sim c w Same (strArgument method v) (strArgument method v') := by
  have same := h
  cases h with
  | str s => exact .pure rfl
  | _ => exact failType_sim _ same

theorem attributeName_sim (h : ValueRel w v v') :
    C.Sim c w Same (attributeName v) (attributeName v') := by
  have same := h
  cases h with
  | str s => exact .pure rfl
  | _ => exact failType_sim _ same

end

end Stepwise
