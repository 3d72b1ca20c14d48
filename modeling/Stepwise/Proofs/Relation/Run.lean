import Stepwise.Eval.Run
import Stepwise.Proofs.Relation.Stmt

/-!
# Coupled runs

Ties the knot: if what two runners do at events and before they show an address goes alike
(`TellRel`), then so does every task, by induction on the fuel (`runner_rel`).
-/

namespace Stepwise

open Script Coupling

variable {σ τ : Type}

/-- Ways to tell an observer of events, and to get ready to show an address, that go alike. -/
structure TellRel (C : Coupling σ τ) (tell : Nat → Moment → M σ Unit) (reveal : M σ Unit)
    (tell' : Nat → Moment → M τ Unit) (reveal' : M τ Unit) : Prop where
  exact : ∀ {c w}, C.Sim c w (fun w _ _ => w.Exact) reveal reveal'
  reveals : C.lopsided → ∀ m, Lost (reveal m) ∨ reveal m = .ok () m
  mark : ∀ {c w line force condition} fuel, C.executes → C.line c line →
    (∃ n, C.phrase n ∧ n.line? = some line) →
    C.Sim c w Same (markLine (runner tell reveal fuel) line force condition)
      (markLine (runner tell' reveal' fuel) line force condition)
  enter : ∀ {c w d vars vars' scope scope' owner owner' receiver receiver'} fuel, C.executes →
    C.phrase (.function d) → NamespaceRel w vars vars' → OptionRel KeptRel w scope scope' →
    OptionRel AddrRel w owner owner' → OptionRel ValueRel w receiver receiver' →
    (∀ c' w', w ≤ w' → (∀ n ∈ blockLines d.body, C.line c' n) →
      C.Sim c' w' FlowRel ((runner tell reveal fuel).block d.body)
        ((runner tell' reveal' fuel).block d.body)) →
    C.Sim c w ValueRel (enterFunction (runner tell reveal fuel) d vars scope owner receiver)
      (enterFunction (runner tell' reveal' fuel) d vars' scope' owner' receiver')
  confine : ∀ {c w d vars vars' scope scope' owner owner' receiver receiver'} fuel,
    C.confined → NamespaceRel w vars vars' → OptionRel KeptRel w scope scope' →
    C.Sim c w ValueRel (enterFunction (runner tell reveal fuel) d vars scope owner receiver)
      (enterFunction (runner tell' reveal' fuel) d vars' scope' owner' receiver') := by
        exact fun _ h => h.elim
  classBody : ∀ {c w d cls cls' parent parent'} fuel, C.executes → C.phrase (.cls d) →
    w.addr cls cls' → OptionRel KeptRel w parent parent' →
    (∀ c' w', w ≤ w' → (∀ n ∈ blockLines d.body, C.line c' n) →
      C.Sim c' w' FlowRel ((runner tell reveal fuel).block d.body)
        ((runner tell' reveal' fuel).block d.body)) →
    C.Sim c w NamespaceRel (runClassBody (runner tell reveal fuel) cls parent d)
      (runClassBody (runner tell' reveal' fuel) cls' parent' d)

variable {C : Coupling σ τ}

/-- Without fuel no task is done. -/
theorem TasksRel.stop : TasksRel C (fun _ => throw .outOfFuel) (fun _ => throw .outOfFuel) where
  eval _ := .stop
  name _ := .stop
  exec _ _ _ := .stop
  call _ _ _ _ := .stop
  equals _ _ := .stop
  order _ _ := .stop
  repr _ := .stop
  str _ := .stop
  iterate _ := .stop
  assign _ _ _ _ := .stop
  delete _ _ := .stop

/-- Without fuel on the left no task is done there. -/
theorem TasksRel.left {run' : {α : Type} → Task α → M τ α} (h : C.Left) :
    TasksRel C (fun _ => throw .outOfFuel) run' where
  eval _ := .left h
  name _ := .left h
  exec _ _ _ := .left h
  call _ _ _ _ := .left h
  equals _ _ := .left h
  order _ _ := .left h
  repr _ := .left h
  str _ := .left h
  iterate _ := .left h
  assign _ _ _ _ := .left h
  delete _ _ := .left h

variable [hC : C.Lawful]

/-- Names of harmless functions stand for pure built-ins. -/
theorem harmlessName_sim {c : C.Ctx} {w : World} {x : String} (hx : C.harmless x) :
    C.Sim c w (fun _ v v' => ∃ b, v = .builtin b ∧ v' = .builtin b ∧ b.isPure = true)
      (lookupName x) (lookupName x) := by
  refine .get fun m m' hm => ?_
  obtain ⟨b, e, hb⟩ := hC.harmless hm hx
  have H := (hC.near hm).lookup? x
  rw [e] at H ⊢
  revert H
  generalize m'.lookup? x = o
  intro H
  cases H with
  | some h =>
    cases h
    exact .pure ⟨b, rfl, rfl, hb⟩

/-- A task goes alike if the tasks that it consists of do. -/
theorem step_rel {r : Runner σ} {r' : Runner τ} (hr : RunnerRel C r r') :
    TasksRel C (step r) (step r') where
  eval he := evalExpr_sim hr he
  name hx := harmlessName_sim hx
  exec hx hs hl := execStmt_sim hr hx hs hl
  call ht hf hargs hks := callValue_sim hr ht hf hargs hks
  equals ha hb := equalValues_sim hr ha hb
  order ha hb := orderValues_sim hr _ ha hb
  repr hv := reprOf_sim hr hv
  str hv := strOf_sim hr hv
  iterate hv := itemsOf_sim hr hv
  assign hc he hb hv := assignTarget_sim hr hc he hb hv
  delete hx he := deleteTarget_sim hr hx he

variable {tell : Nat → Moment → M σ Unit} {reveal : M σ Unit} {tell' : Nat → Moment → M τ Unit}
  {reveal' : M τ Unit}

omit hC in
/-- If tasks and events go alike, then runners do. -/
theorem TellRel.runner (h : TellRel C tell reveal tell' reveal') {fuel : Nat}
    (tasks : TasksRel C (runWith tell reveal fuel) (runWith tell' reveal' fuel)) :
    RunnerRel C (runner tell reveal fuel) (Stepwise.runner tell' reveal' fuel) where
  toTasksRel := tasks
  bounds := .inl rfl
  reveal := h.exact
  reveals := h.reveals
  mark := h.mark fuel
  enter := h.enter fuel
  confine := h.confine fuel
  classBody := h.classBody fuel

/-- If events go alike, then so does every task. -/
theorem runner_rel (h : TellRel C tell reveal tell' reveal') :
    ∀ fuel, RunnerRel C (runner tell reveal fuel) (runner tell' reveal' fuel)
  | 0 => h.runner .stop
  | fuel + 1 => h.runner (step_rel (runner_rel h fuel))

end Stepwise
