import Stepwise.Proofs.Relation.Run

/-!
# Couplings on one level

Most couplings hold on to no scopes, so that these come and go freely (`Level`). In these, functions
and class bodies are entered alike if frames run alike (`TellRel.ofFrame`). Frames in turn run alike
if events go alike, in couplings that say nothing of the open frames (`Unframed`).
-/

namespace Stepwise

open Script Coupling

variable {σ τ : Type}

/-- A frame that is about to run a part of the program, on the line of that part. -/
inductive Opens (p : Phrase → Prop) (f : Frame) (body : List Stmt) : Prop
  | function (d : FunctionDef) (hd : p (.function d)) (name : f.name = d.name)
    (kind : f.kind = .function) (line : f.line = d.pos.line) (reported : f.reported = none)
    (body : body = d.body)
  | cls (d : ClassDef) (hd : p (.cls d)) (name : f.name = d.name) (kind : f.kind = .class_)
    (line : f.line = d.pos.line) (reported : f.reported = none) (body : body = d.body)

/-- Couplings in which scopes come and go, and functions of the script are entered. -/
class Coupling.Level (C : Coupling σ τ) : Prop where
  roams : ¬C.confined := by exact id
  scope : ∀ {c w s s'}, ScopeRel w s s' →
    C.Sim c w PlaceRel (alloc (.scope s)) (alloc (.scope s'))
  free : ∀ {c w a a'}, C.executes → w.place a a' →
    C.Sim c w Same (changeHeap (·.free a)) (changeHeap (·.free a'))

variable {C : Coupling σ τ} {c : C.Ctx} {w : World}

/-- Where all places are alike, functions and classes take any scope along. -/
theorem capturedScope_sim (near : ∀ {w m m'}, C.Holds c w m m' → Near w m m' ∧ w.Flat)
    (amend : ∀ {w}, C.Sim c w Same (changeFrame ({ · with captured := true }))
      (changeFrame ({ · with captured := true }))) :
    C.Sim c w (OptionRel KeptRel) capturedScope capturedScope := by
  have frame : C.Sim c w (OptionRel FrameRel) frame? frame? := fun m m' hm =>
    .ok le_rfl (near hm).1.frame hm
  refine frame.bind fun w₁ f f' h₁ hf => ?_
  cases hf with
  | none => exact .pure .none
  | @some f f' hf =>
    dsimp only
    rw [hf.kind]
    cases f'.kind with
    | module => exact .pure .none
    | function =>
      refine amend.bind fun w₂ _ _ h₂ _ m m' hm => ?_
      exact .ok le_rfl (.some ⟨h₂.place hf.locals, ((near hm).2 _).2⟩) hm
    | class_ =>
      refine .getHeap fun m m' hm => .pure ?_
      exact ((near hm).1.heap.scope? hf.locals).bind fun hs => hs.parent

variable [hC : C.Lawful] [hL : C.Level]

omit hC in
theorem enterFunction_sim {r : Runner σ} {r' : Runner τ} {d : FunctionDef}
    {vars vars' : Namespace} {scope scope' owner owner' : Option Address}
    {receiver receiver' : Option Value} (hd : C.phrase (.function d))
    (hv : NamespaceRel w vars vars') (hs : OptionRel KeptRel w scope scope')
    (ho : OptionRel AddrRel w owner owner') (hr : OptionRel ValueRel w receiver receiver')
    (frame : ∀ {w' f f'}, w ≤ w' → FrameRel w' f f' → Opens C.phrase f d.body →
      C.Sim c w' ValueRel (runFrame r f d.body) (runFrame r' f' d.body)) :
    C.Sim c w ValueRel (enterFunction r d vars scope owner receiver)
      (enterFunction r' d vars' scope' owner' receiver') :=
  (hL.scope ⟨hv, hs⟩).bind fun _ _ _ h₁ hl => frame h₁
    ⟨rfl, rfl, hl, up h₁ ho, up h₁ hr, rfl, rfl, fun _ => rfl, fun _ => rfl, rfl⟩
    (.function d hd rfl rfl rfl rfl rfl)

theorem runClassBody_sim {r : Runner σ} {r' : Runner τ} {d : ClassDef} {a a' : Address}
    {o o' : Option Address} (hx : C.executes) (hd : C.phrase (.cls d)) (ha : w.addr a a')
    (ho : OptionRel KeptRel w o o')
    (frame : ∀ {w' f f'}, w ≤ w' → FrameRel w' f f' → Opens C.phrase f d.body →
      C.Sim c w' ValueRel (runFrame r f d.body) (runFrame r' f' d.body)) :
    C.Sim c w NamespaceRel (runClassBody r a o d) (runClassBody r' a' o' d) := by
  have hvars : NamespaceRel w
      (.ofList [("__module__", .str "__main__"), ("__qualname__", .str d.name)])
      (.ofList [("__module__", .str "__main__"), ("__qualname__", .str d.name)]) :=
    OrderedRel.ofList (.cons ⟨rfl, .str _⟩ (.cons ⟨rfl, .str _⟩ .nil))
  refine (hL.scope ⟨hvars, ho⟩).bind fun w₁ l l' h₁ hl => ?_
  have start : FrameRel w₁ { Frame.start d.name .class_ l d.pos.line with owner := some a }
      { Frame.start d.name .class_ l' d.pos.line with owner := some a' } :=
    ⟨rfl, rfl, hl, .some (h₁.addr ha), .none, rfl, rfl, fun _ => rfl, fun _ => rfl, rfl⟩
  refine ((frame h₁ start (.cls d hd rfl rfl rfl rfl rfl)).attempt
    (hC.upright (hC.changes hx))).bind fun w₂ x y h₂ hxy => ?_
  refine .getHeap fun m m' hm => ?_
  have attrs : NamespaceRel w₂ (((m.heap.scope? l).map Scope.vars).getD .empty)
      (((m'.heap.scope? l').map Scope.vars).getD .empty) :=
    OptionRel.getD (A := NamespaceRel)
      (((hC.near hm).heap.scope? (h₂.place hl)).map fun h => h.vars) OrderedRel.empty
  refine (hL.free hx (h₂.place hl)).bind fun w₃ _ _ h₃ _ => ?_
  cases hxy with
  | ok _ => exact .pure (up h₃ attrs)
  | error he => exact .rethrow (up h₃ he)

/-- Events go alike if lines are marked alike, and what runs in a frame does. -/
theorem TellRel.ofFrame {tell : Nat → Moment → M σ Unit} {reveal : M σ Unit}
    {tell' : Nat → Moment → M τ Unit} {reveal' : M τ Unit}
    (exact : ∀ {c w}, C.Sim c w (fun w _ _ => w.Exact) reveal reveal')
    (upright : ¬C.lopsided)
    (mark : ∀ {c w line force condition} fuel, C.executes → C.line c line →
      (∃ n, C.phrase n ∧ n.line? = some line) →
      C.Sim c w Same (markLine (Stepwise.runner tell reveal fuel) line force condition)
        (markLine (Stepwise.runner tell' reveal' fuel) line force condition))
    (frame : ∀ {c w f f' body} fuel, C.executes → FrameRel w f f' → Opens C.phrase f body →
      (∀ c' w', w ≤ w' → (∀ n ∈ blockLines body, C.line c' n) →
        C.Sim c' w' FlowRel ((Stepwise.runner tell reveal fuel).block body)
          ((Stepwise.runner tell' reveal' fuel).block body)) →
      C.Sim c w ValueRel (runFrame (Stepwise.runner tell reveal fuel) f body)
        (runFrame (Stepwise.runner tell' reveal' fuel) f' body)) :
    TellRel C tell reveal tell' reveal' where
  exact := exact
  reveals h := absurd h upright
  mark := mark
  enter fuel hx hd hv hs ho hr body := enterFunction_sim hd hv hs ho hr fun hw hf hopen =>
    frame fuel hx hf hopen fun c' w' hw' => body c' w' (hw.trans hw')
  confine _ confined := absurd confined hL.roams
  classBody fuel hx hd ha ho body := runClassBody_sim hx hd ha ho fun hw hf hopen =>
    frame fuel hx hf hopen fun c' w' hw' => body c' w' (hw.trans hw')

/-! ### Frames -/

/-- Couplings that let frames open, close and move on. -/
class Coupling.Unframed (C : Coupling σ τ) : Prop extends C.Level where
  push : ∀ {c w f f'}, FrameRel w f f' → C.Sim c w Same (pushFrame f) (pushFrame f')
  pop : ∀ {c w}, C.Sim c w (OptionRel FrameRel) popFrame popFrame
  move : ∀ {c w g}, (∀ {w f f'}, FrameRel w f f' → FrameRel w (g f) (g f')) →
    C.Sim c w Same (changeFrame g) (changeFrame g)

section

variable {r : Runner σ} {r' : Runner τ} {f f' : Frame}

variable [hU : C.Unframed]

omit hL hU in
theorem markLine_sim {line : Nat} {force : Bool} {condition : Option Expr}
    (located : ∀ {w m m'}, C.Holds c w m m' → w.located)
    (move : ∀ {w} (reported : Option Nat → Option Nat), C.Sim c w Same
      (changeFrame fun f => { f with line, reported := reported f.reported })
      (changeFrame fun f => { f with line, reported := reported f.reported }))
    (hn : ∀ {w} moment, C.Sim c w Same (r.notify moment) (r'.notify moment)) :
    C.Sim c w Same (markLine r line force condition) (markLine r' line force condition) := by
  refine frame?_sim.bind fun w₁ f f' _ hf => ?_
  cases hf with
  | none => exact .pure rfl
  | some hf =>
    intro m m' hm
    refine Sim.ite ?_ (fun _ => move id) (fun _ => ?_) m m' hm
    · rw [hf.reported (located hm)]
    · exact (move fun _ => some line).bind fun _ _ _ _ _ => hn _

omit hC hL in
/-- A frame moves to another line. -/
theorem moveLine_sim {line : Nat} (reported : Option Nat → Option Nat) :
    C.Sim c w Same (changeFrame fun f => { f with line, reported := reported f.reported })
      (changeFrame fun f => { f with line, reported := reported f.reported }) :=
  hU.move fun h => { h with
    line := fun _ => rfl, reported := fun located => congrArg reported (h.reported located) }

omit hC hL in
theorem releaseScope_sim (hx : C.executes) (hf : FrameRel w f f') :
    C.Sim c w Same (releaseScope f) (releaseScope f') := by
  unfold releaseScope
  refine .ite (by rw [hf.kind, hf.captured]) (fun _ => ?_) fun _ => .pure rfl
  exact hU.free hx hf.locals

omit hC hL in
theorem closeFrame_sim (hx : C.executes) : C.Sim c w Same closeFrame closeFrame := by
  refine hU.pop.bind fun w₁ f f' _ hf => ?_
  cases hf with
  | none => exact .pure rfl
  | some hf => exact releaseScope_sim hx hf

omit hL hU in
/-- How a frame ends, once it is closed. -/
theorem afterFrame_sim {x y : Except RuntimeError Flow} {pos pos' : Pos} (hx : C.executes)
    (same : w.located → pos = pos') : AttemptRel FlowRel w x y → C.Sim c w ValueRel
      (match x with
        | .error e => rethrow e
        | .ok flow => do
          goTo pos
          match flow with
          | .return_ v => return v
          | _ => return .none)
      (match y with
        | .error e => rethrow e
        | .ok flow => do
          goTo pos'
          match flow with
          | .return_ v => return v
          | _ => return .none) := by
  intro hxy
  cases hxy with
  | error he => exact .rethrow he
  | ok hflow =>
    refine (hC.goTo hx same).bind fun w₁ _ _ h₁ _ => ?_
    cases up h₁ hflow with
    | return_ hv => exact .pure hv
    | _ => exact .pure .none

omit hL in
theorem runFrame_sim {body : List Stmt} (hx : C.executes)
    (hn : ∀ {w} moment, C.Sim c w Same (r.notify moment) (r'.notify moment))
    (hf : FrameRel w f f')
    (hb : ∀ w', w ≤ w' → C.Sim c w' FlowRel (r.block body) (r'.block body)) :
    C.Sim c w ValueRel (runFrame r f body) (runFrame r' f' body) := by
  refine .get fun m m' hm => ?_
  refine .ite (by rw [(hC.near hm).stack.length]) (fun _ => ?_) fun _ => ?_
  · exact (releaseScope_sim hx hf).bind fun _ _ _ _ _ => fail_sim (.plain rfl)
  refine (hU.push hf).bind fun w₁ _ _ h₁ _ => (hn _).bind fun w₂ _ _ h₂ _ => ?_
  refine ((hb w₂ (h₁.trans h₂)).attempt (hC.upright (hC.changes hx))).bind fun w₃ x y h₃ hxy => ?_
  refine (hn _).bind fun w₄ _ _ h₄ _ => (closeFrame_sim hx).bind fun w₅ _ _ h₅ _ => ?_
  have grown := h₁.trans (h₂.trans (h₃.trans (h₄.trans h₅)))
  exact afterFrame_sim hx (fun located => (hC.near hm).pos (grown.located ▸ located))
    (up (h₄.trans h₅) hxy)

omit hL in
/-- Runners go alike if their tasks do, and what is done at events. -/
theorem RunnerRel.ofNotify (tasks : TasksRel C r.run r'.run) (bounds : Bounds C r r')
    (exact : ∀ {c w}, C.Sim c w (fun w _ _ => w.Exact) r.reveal r'.reveal) (upright : ¬C.lopsided)
    (lines : ∀ c n, C.line c n)
    (mark : ∀ {c w line force condition},
      C.Sim c w Same (markLine r line force condition) (markLine r' line force condition))
    (notify : ∀ {c w} moment, C.Sim c w Same (r.notify moment) (r'.notify moment)) :
    RunnerRel C r r' where
  toTasksRel := tasks
  bounds := bounds
  reveal := exact
  reveals h := absurd h upright
  mark _ _ _ := mark
  enter hx hd hv hs ho hr body := enterFunction_sim hd hv hs ho hr fun hw hf _ =>
    runFrame_sim hx notify hf fun w' hw' => body _ w' (hw.trans hw') fun _ _ => lines _ _
  confine confined := absurd confined hU.roams
  classBody hx hd ha ho body := runClassBody_sim hx hd ha ho fun hw hf _ =>
    runFrame_sim hx notify hf fun w' hw' => body _ w' (hw.trans hw') fun _ _ => lines _ _

omit hL in
/-- Events go alike if what is done at events does. -/
theorem TellRel.ofNotify {tell : Nat → Moment → M σ Unit} {reveal : M σ Unit}
    {tell' : Nat → Moment → M τ Unit} {reveal' : M τ Unit}
    (exact : ∀ {c w}, C.Sim c w (fun w _ _ => w.Exact) reveal reveal') (upright : ¬C.lopsided)
    (lines : ∀ c n, C.line c n) (located : ∀ {c w m m'}, C.Holds c w m m' → w.located)
    (notify : ∀ {c w} fuel moment, C.Sim c w Same (tell fuel moment) (tell' fuel moment)) :
    TellRel C tell reveal tell' reveal' :=
  .ofFrame exact upright (fun fuel _ _ _ => markLine_sim located moveLine_sim (notify fuel))
    fun fuel hx hf _ hb =>
      runFrame_sim hx (notify fuel) hf fun w' hw => hb _ w' hw fun _ _ => lines _ _

end

end Stepwise
