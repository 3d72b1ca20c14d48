import Stepwise.Proofs.Live
import Stepwise.Proofs.Inquiry

/-!
# Trails

A run that leaves a trail notes its state at each event, and before and after each task it does,
down to the tasks that an observer's questions are made of (`trailing`). Otherwise it is the run that
it follows (`trailing_runs`), so what holds all along the trail holds of the states that a run comes
through.
-/

namespace Stepwise

open Script Coupling

variable {σ α β : Type}

/-! ### Leaving a trail -/

/-- A state that a run comes through. -/
structure Visit (σ : Type) where
  /-- The machine. -/
  machine : Machine σ
  /-- The values in hand: what a task is given, or what has come of it. -/
  inHand : List Value

/-- What is remembered of a run that leaves a trail. -/
structure Trailed (σ : Type) where
  /-- What the observer remembers. -/
  log : σ
  /-- The states so far, the last one first. -/
  visits : List (Visit σ)

/-- A machine without its trail. -/
def Machine.plain (m : Machine (Trailed σ)) : Machine σ := { m with log := m.log.log }

/-- A machine at the start of a trail. -/
def Machine.trailed (m : Machine σ) : Machine (Trailed σ) := { m with log := ⟨m.log, []⟩ }

/-- The values that a task is given. -/
def Task.inHand : {α : Type} → Task α → List Value
  | _, .call f args keywords => f :: args ++ keywords.map (·.2)
  | _, .equals a b | _, .order _ a b => [a, b]
  | _, .repr v | _, .str v | _, .iterate v | _, .assign _ v => [v]
  | _, .eval _ | _, .exec _ | _, .delete _ => []

/-- The values that come of a task. -/
def Task.given : {α : Type} → Task α → α → List Value
  | _, .eval _, v | _, .call _ _ _, v => [v]
  | _, .exec _, flow => flow.held
  | _, .iterate _, vs => vs
  | _, .equals _ _, _ | _, .order _ _ _, _ | _, .repr _, _ | _, .str _, _ | _, .assign _ _, _
  | _, .delete _, _ => []

/-- The machine with one more state on its trail: the one it is in. -/
def Machine.visited (m : Machine (Trailed σ)) (inHand : List Value) : Machine (Trailed σ) :=
  { m with log := { m.log with visits := ⟨m.plain, inHand⟩ :: m.log.visits } }

/-- Notes the state. -/
def visit (inHand : List Value) : M (Trailed σ) Unit := modify (·.visited inHand)

/-- Notes the state before and after a task. -/
def visiting (t : Task α) (x : M (Trailed σ) α) : M (Trailed σ) α := do
  visit t.inHand
  match ← attempt x with
  | .ok a => do
    visit (t.given a)
    return a
  | .error e => do
    visit e.fault.held
    rethrow e

theorem visiting_eq (t : Task α) (x : M (Trailed σ) α) (m : Machine (Trailed σ)) :
    visiting t x m = match x (m.visited t.inHand) with
      | .ok a m' => .ok a (m'.visited (t.given a))
      | .error (.error e) m' => .error (.error e) (m'.visited e.fault.held)
      | .error .outOfFuel m' => .error .outOfFuel m' := by
  show EStateM.bind (attempt x) _ (m.visited t.inHand) = _
  unfold EStateM.bind attempt
  cases x (m.visited t.inHand) with
  | ok a m' => rfl
  | error e m' => cases e <;> rfl

/-- Does tasks at most `fuel` levels deep, leaving a trail. -/
def trailWith (tell : Nat → Moment → M (Trailed σ) Unit) :
    (fuel : Nat) → {α : Type} → Task α → M (Trailed σ) α
  | 0, _, _ => throw .outOfFuel
  | fuel + 1, _, t =>
    visiting t (step ⟨trailWith tell fuel, tell fuel, pure (), fuel⟩ t)

/-- The runner that does tasks at most `fuel` levels deep and leaves a trail. -/
def trailer (tell : Nat → Moment → M (Trailed σ) Unit) (fuel : Nat) : Runner (Trailed σ) :=
  ⟨trailWith tell fuel, tell fuel, pure (), fuel⟩

/-- A runner that nobody watches. -/
def trailQuiet (fuel : Nat) : Runner (Trailed σ) := trailer (fun _ _ => pure ()) fuel

/-- Carries out an inquiry of an observer who does not see the trail. -/
def inquireTrailed (r : Runner (Trailed σ)) : Inquiry σ → M (Trailed σ) Unit
  | .note log => modify fun m => { m with log := { m.log with log } }
  | .eval e next => do
    let result ← evalInFrame r e
    inquireTrailed r (next (← get).plain result)
  | .test e next => do
    let result ← testInFrame r e
    inquireTrailed r (next (← get).plain result)

/-- Writes down an event and notes the state. -/
def reportTrailed (kind : EventKind) : M (Trailed σ) Unit := do
  report kind
  visit []

/-- Writes down an event and asks an observer about it. -/
def askTrailed (observe : Observer σ) (fuel : Nat) (moment : Moment) : M (Trailed σ) Unit := do
  reportTrailed moment.kind
  inquireTrailed (trailQuiet fuel) (observe moment (← get).plain)

/-- A runner that an observer watches. -/
def trailing (observe : Observer σ) (fuel : Nat) : Runner (Trailed σ) :=
  trailer (askTrailed observe) fuel

/-- What comes of a run, without its trail. -/
def plainly : EStateM.Result Failure (Machine (Trailed σ)) α → EStateM.Result Failure (Machine σ) α
  | .ok a m => .ok a m.plain
  | .error e m => .error e m.plain

/-- The machine that a run leaves, whether it comes to an end or not. -/
def machineOf : EStateM.Result Failure (Machine σ) α → Machine σ
  | .ok _ m | .error _ m => m

/-! ### The run that is followed -/

/-- Couplings of a run that leaves a trail with the same run without one. Nothing that is done to
leave the trail, or to ask an observer, gets in the way of what they say. -/
class Coupling.Follows (C : Coupling (Trailed σ) σ) : Prop where
  left : ¬C.Left
  right : ¬C.Right
  steady : ¬C.lopsided
  acts : C.executes
  phrases : ∀ n, C.phrase n
  lines : ∀ c n, C.line c n
  plain : ∀ {m m'}, C.Stops m m' → m' = m.plain
  sharp : ∀ {c w m m'}, C.Holds c w m m' → w.Sharp
  visited : ∀ {c w m m'} inHand, C.Holds c w m m' → C.Holds c w (m.visited inHand) m'
  noted : ∀ {c w m m'} log, C.Holds c w m m' →
    C.Holds c w { m with log := { m.log with log } } { m' with log }
  looked : ∀ {c w m m'} inspecting pos, C.Holds c w m m' →
    C.Holds c w { m with inspecting, pos } { m' with inspecting, pos }
  told : ∀ {c w m m'} history, C.Holds c w m m' →
    C.Holds c w { m with history } { m' with history }

namespace Coupling.Follows

variable {C : Coupling (Trailed σ) σ} {c : C.Ctx} {w : World} {A : Rel α β} [hF : C.Follows]

theorem plain_of_holds {m : Machine (Trailed σ)} {m' : Machine σ} (h : C.Holds c w m m') :
    m' = m.plain := hF.plain (C.stops h)

/-- Runs that agree come to the same. -/
theorem plainly_eq {A : Rel α α} [Discrete A]
    {x : EStateM.Result Failure (Machine (Trailed σ)) α}
    {y : EStateM.Result Failure (Machine σ) α} (h : Agree C c w A x y) : plainly x = y := by
  cases h with
  | left h => exact absurd h hF.left
  | right h => exact absurd h hF.right
  | lost h => exact absurd h hF.steady
  | stop h => rw [plainly, ← hF.plain h]
  | ok _ h hm =>
    obtain rfl := Discrete.eq (hF.sharp hm) h
    rw [plainly, ← plain_of_holds hm]
  | error _ h hm =>
    obtain rfl := Discrete.eq (hF.sharp hm) h
    rw [plainly, ← plain_of_holds hm]

/-! ### Tasks -/

/-- Noting states does not show. -/
theorem visiting_sim {t : Task α} {A : Rel α α} {x : M (Trailed σ) α} {y : M σ α}
    (h : C.Sim c w A x y) : C.Sim c w A (visiting t x) y := by
  intro m m' hm
  have inside := h (m.visited t.inHand) m' (hF.visited _ hm)
  rw [visiting_eq]
  revert inside
  generalize x _ = rx, y m' = ry
  intro inside
  cases inside with
  | left h => exact absurd h hF.left
  | right h => exact absurd h hF.right
  | lost h => exact absurd h hF.steady
  | stop h => exact .stop h
  | ok hw h hm => exact .ok hw h (hF.visited _ hm)
  | error hw h hm => exact .error hw h (hF.visited _ hm)

theorem visiting_tasks {run : {α : Type} → Task α → M (Trailed σ) α}
    {run' : {α : Type} → Task α → M σ α} (h : TasksRel C run run') :
    TasksRel C (fun t => visiting t (run t)) run' where
  eval he := visiting_sim (h.eval he)
  name hx := visiting_sim (h.name hx)
  exec hx hs hl := visiting_sim (h.exec hx hs hl)
  call ht hf hargs hks := visiting_sim (h.call ht hf hargs hks)
  equals ha hb := visiting_sim (h.equals ha hb)
  order ha hb := visiting_sim (h.order ha hb)
  repr hv := visiting_sim (h.repr hv)
  str hv := visiting_sim (h.str hv)
  iterate hv := visiting_sim (h.iterate hv)
  assign hc he hb hv := visiting_sim (h.assign hc he hb hv)
  delete hc he := visiting_sim (h.delete hc he)

section

variable [C.Lawful] [C.Unframed]

/-- Runners that leave a trail go with those that do not, if events do. -/
theorem trailer_rel {tell : Nat → Moment → M (Trailed σ) Unit} {tell' : Nat → Moment → M σ Unit}
    (notify : ∀ {c w} fuel moment, C.Sim c w Same (tell fuel moment) (tell' fuel moment)) :
    ∀ fuel, RunnerRel C (trailer tell fuel) (runner tell' (pure ()) fuel) := by
  have runner_of {fuel : Nat}
      (tasks : TasksRel C (trailWith tell fuel) (runWith tell' (pure ()) fuel)) :
      RunnerRel C (trailer tell fuel) (runner tell' (pure ()) fuel) :=
    .ofNotify tasks (.inl rfl) (fun _ _ hm => .ok le_rfl (hF.sharp hm).exact hm) hF.steady hF.lines
      (markLine_sim (fun hm => (hF.sharp hm).located) moveLine_sim (notify fuel)) (notify fuel)
  intro fuel
  induction fuel with
  | zero => exact runner_of .stop
  | succ fuel ih => exact runner_of (visiting_tasks (step_rel ih))

theorem trailQuiet_rel (fuel : Nat) : RunnerRel C (trailQuiet fuel) (quiet fuel) :=
  trailer_rel (fun _ _ => .pure rfl) fuel

end

/-! ### Events -/

/-- Looking at a machine goes alike. -/
theorem inspect_sim {A : Rel α β} {x : M (Trailed σ) α} {y : M σ β} (h : C.Sim c w A x y) :
    C.Sim c w (AttemptRel A) (inspect x) (inspect y) := by
  intro m m' hm
  obtain rfl := plain_of_holds hm
  have inside := h { m with inspecting := true } { m.plain with inspecting := true }
    (hF.looked true m.pos hm)
  rw [inspect_eq, inspect_eq]
  revert inside
  generalize x _ = rx, y _ = ry
  intro inside
  cases inside with
  | left h => exact absurd h hF.left
  | right h => exact absurd h hF.right
  | lost h => exact absurd h hF.steady
  | stop h => exact .stop h
  | ok hw h hm' => exact .ok hw (.ok h) (hF.looked m.inspecting m.pos hm')
  | error hw h hm' => exact .ok hw (.error h) (hF.looked m.inspecting m.pos hm')

/-- What an inquiry goes on with, given an answer. -/
theorem answer_sim {γ : Type} {A : Rel γ γ} [Discrete A] {r : Runner (Trailed σ)} {r' : Runner σ}
    {next : Machine σ → Except RuntimeError γ → Inquiry σ}
    (ih : ∀ m answer {w}, C.Sim c w Same (inquireTrailed r (next m answer))
      (inquire r' (next m answer)))
    {x : M (Trailed σ) γ} {y : M σ γ} (h : C.Sim c w A x y) :
    C.Sim c w Same
      (do let result ← inspect x; inquireTrailed r (next (← get).plain result))
      (do let result ← inspect y; inquire r' (next (← get) result)) := by
  refine (inspect_sim h).bind fun w₁ v v' h₁ hv => .get fun m m' hm => ?_
  obtain rfl := Discrete.eq (hF.sharp hm) hv
  rw [plain_of_holds hm]
  exact ih _ _

section

variable [hC : C.Lawful]

theorem inquire_sim {r : Runner (Trailed σ)} {r' : Runner σ} (hr : RunnerRel C r r')
    (q : Inquiry σ) : ∀ {w}, C.Sim c w Same (inquireTrailed r q) (inquire r' q) := by
  have known {ps : List Phrase} : Every C.phrase ps := every_of hF.phrases ps
  induction q with
  | note log => exact fun m m' hm => .ok le_rfl rfl (hF.noted log hm)
  | eval e next ih => exact answer_sim (A := ValueRel) ih (hr.eval known)
  | test e next ih =>
    exact answer_sim (A := Same) ih ((hr.eval known).bind fun _ _ _ _ hv => truthy_sim hr hv)

omit hC in
theorem report_sim (kind : EventKind) : C.Sim c w Same (reportTrailed kind) (report kind) := by
  have reported : C.Sim c w Same (report kind) (report kind) := by
    intro m m' hm
    obtain rfl := plain_of_holds hm
    cases hs : m.stack with
    | nil =>
      rw [report_nil hs, report_nil (m := m.plain) hs]
      exact .ok le_rfl rfl hm
    | cons f fs =>
      rw [report_eq hs, report_eq (m := m.plain) hs]
      exact .ok le_rfl rfl (hF.told _ hm)
  have noted := reported.bind fun w₁ _ _ _ _ =>
    (fun m m' hm => .ok le_rfl rfl (hF.visited [] hm) : C.Sim c w₁ Same (visit []) (pure ()))
  exact noted

variable [hU : C.Unframed]

theorem ask_sim (observe : Observer σ) (fuel : Nat) (moment : Moment) :
    C.Sim c w Same (askTrailed observe fuel moment) (askObserver observe fuel moment) := by
  refine (report_sim moment.kind).bind fun w₁ _ _ _ _ => .get fun m m' hm => ?_
  rw [plain_of_holds hm]
  exact inquire_sim (trailQuiet_rel fuel) _

theorem trailing_rel (observe : Observer σ) (fuel : Nat) :
    RunnerRel C (trailing observe fuel) (watched observe fuel) :=
  trailer_rel (ask_sim observe) fuel

/-- A program that leaves a trail goes with the same program without one. -/
theorem runProgram_sim (observe : Observer σ) (fuel : Nat) (p : Program) :
    C.Sim c w Same (runProgram (trailing observe fuel) p)
      (runProgram (watched observe fuel) p) := by
  refine .get fun m m' hm => ?_
  have frame : FrameRel w (Frame.start moduleName .module m.globals 0)
      (Frame.start moduleName .module m'.globals 0) :=
    ⟨rfl, rfl, (hC.near hm).globals, .none, .none, rfl, rfl, fun _ => rfl, fun _ => rfl, rfl⟩
  refine (runFrame_sim hF.acts (fun moment => ask_sim observe fuel moment) frame
    fun w' _ => ?_).bind fun _ _ _ _ _ => .pure rfl
  exact block_sim (trailing_rel observe fuel) hF.acts (every_of hF.phrases _)
    fun _ _ => hF.lines _ _

end

end Coupling.Follows

/-! ### Without a trail -/

/-- A run that leaves a trail beside the same run without one. -/
def beside (σ : Type) : Coupling (Trailed σ) σ where
  Ctx := Unit
  Holds _ w m m' := w = World.diagonal (fun _ => True) ∧ m' = m.plain
  phrase _ := True
  line _ _ := True
  changes := True
  executes := True
  harmless _ := False
  Tame _ := True
  lopsided := False
  Left := False
  Right := False
  Stops m m' := m' = m.plain
  stops h := h.2
  slack := False.elim

namespace Beside

variable {c : (beside σ).Ctx} {w : World} {A : Rel α β}

/-- Computations that do the same one thing on both sides. -/
theorem sim_of {x : M (Trailed σ) α} {y : M σ β}
    (h : ∀ m, w = World.diagonal (fun _ => True) →
      ∃ a b m', x m = .ok a m' ∧ y m.plain = .ok b m'.plain ∧ A w a b) :
    (beside σ).Sim c w A x y := by
  rintro m _ ⟨hw, rfl⟩
  obtain ⟨a, b, m', hx, hy, ha⟩ := h m hw
  rw [hx, hy]
  exact .ok le_rfl ha ⟨hw, rfl⟩

theorem near_of_holds {m : Machine (Trailed σ)} {m' : Machine σ}
    (h : (beside σ).Holds c w m m') : Near w m m' ∧ w.Flat := by
  obtain ⟨rfl, rfl⟩ := h
  have near : Near (World.diagonal fun _ => True) m m := .refl_diagonal (knows_all _)
  exact ⟨{ near with }, World.diagonal_flat⟩

/-- Steps that change both machines in the same way. -/
theorem step_sim {f : Machine (Trailed σ) → Machine (Trailed σ)} {g : Machine σ → Machine σ}
    (h : ∀ m, (f m).plain = g m.plain) : (beside σ).Sim c w Same (modify f) (modify g) :=
  sim_of fun m _ => ⟨(), (), f m, rfl, by rw [h]; rfl, rfl⟩

theorem amend_sim {g : Frame → Frame} :
    (beside σ).Sim c w Same (changeFrame g) (changeFrame g) := step_sim fun _ => rfl

instance : (beside σ).Lawful where
  near h := (near_of_holds h).1
  phrase _ h := h.1 ▸ rfl
  knows _ h _ := h.1 ▸ trivial
  changes _ := trivial
  calm := .inl trivial
  harmless _ := False.elim
  executes _ _ := .inl trivial
  tame _ _ := trivial
  special _ _ _ := trivial
  inert _ _ := .inl trivial
  upright _ := id
  inspecting h := .inl (h.2 ▸ rfl)
  filed {c w m m' v v' k} h _ _ := ⟨w, le_rfl, h.1 ▸ trivial, h⟩
  alloc h _ := sim_of fun m hw => by
    subst hw
    obtain rfl := Discrete.eq World.diagonal_sharp h
    exact ⟨_, _, _, rfl, rfl, Diagonal.refl _⟩
  allocClass name _ h := sim_of fun m hw => by
    subst hw
    obtain rfl := Discrete.eq World.diagonal_sharp h
    exact ⟨_, _, _, rfl, rfl, Diagonal.refl _⟩
  tuple h := sim_of fun m hw => by
    subst hw
    obtain rfl := Discrete.eq (A := ValuesRel) World.diagonal_sharp h
    exact ⟨_, _, _, rfl, rfl, Diagonal.refl _⟩
  edit {c w a a' f f'} _ ha he _ _ := sim_of fun m hw => by
    subst hw
    obtain rfl : a = a' := ha
    have same : m.heap.modify a f = m.heap.modify a f' := m.heap.modify_congr fun o ho =>
      Discrete.eq World.diagonal_sharp (he.rel (.refl_diagonal (knows_all _ a o ho)))
    exact ⟨(), (), { m with heap := m.heap.modify a f }, rfl, by rw [same]; rfl, rfl⟩
  emit _ _ := step_sim fun _ => rfl
  goTo _ same := sim_of fun m hw => by
    subst hw
    obtain rfl := same trivial
    exact ⟨_, _, _, rfl, rfl, rfl⟩
  amend _ _ _ := amend_sim
  capture _ := capturedScope_sim near_of_holds amend_sim
  enlist name _ ha := sim_of fun m hw => by
    subst hw
    obtain rfl := Discrete.eq (A := AddrRel) World.diagonal_sharp ha
    exact ⟨_, _, _, rfl, rfl, rfl⟩
  writing {c w a a' m m'} _ _ A x y hm _ ha h := by
    obtain rfl : a = a' := by
      have := hm.1
      subst this
      exact ha.1
    exact Sim.whileWriting (C := beside σ)
      ⟨(), ⟨hm.1, hm.2 ▸ rfl⟩, fun _ H => ⟨H.1, H.2 ▸ rfl⟩⟩ fun c' => h c' w le_rfl fun _ h => h
  handling {c w e e'} _ _ A x y _ he h m m' hm := by
    obtain rfl : e = e' := by
      have := hm.1
      subst this
      exact Discrete.eq World.diagonal_sharp he
    exact Sim.whileHandling (C := beside σ)
      (fun H => ⟨(), ⟨H.1, H.2 ▸ rfl⟩, fun _ H => ⟨H.1, H.2 ▸ rfl⟩⟩) id
      (fun c' => h c' w le_rfl fun _ h => h) m m' hm

instance : (beside σ).Unframed where
  scope hs := sim_of fun m hw => by
    subst hw
    rw [Discrete.eq World.diagonal_sharp (ObjectRel.scope hs)]
    exact ⟨_, _, _, rfl, rfl, rfl⟩
  free _ ha := sim_of fun m hw => by
    subst hw
    obtain rfl := Discrete.eq (A := PlaceRel) World.diagonal_sharp ha
    exact ⟨_, _, _, rfl, rfl, rfl⟩
  push hf := sim_of fun m hw => by
    subst hw
    obtain rfl := Discrete.eq World.diagonal_sharp hf
    exact ⟨_, _, _, rfl, rfl, rfl⟩
  pop := sim_of fun m hw => by
    subst hw
    exact ⟨_, _, _, rfl, rfl, Diagonal.refl _⟩
  move _ := amend_sim

instance : (beside σ).Follows where
  left := id
  right := id
  steady := id
  acts := trivial
  phrases _ := trivial
  lines _ _ := trivial
  plain := id
  sharp h := h.1 ▸ World.diagonal_sharp
  visited _ h := h
  noted _ h := ⟨h.1, h.2 ▸ rfl⟩
  looked _ _ h := ⟨h.1, h.2 ▸ rfl⟩
  told _ h := ⟨h.1, h.2 ▸ rfl⟩

end Beside

/-- A program that leaves a trail runs as it does without one. -/
theorem trailing_runs (observe : Observer σ) (fuel : Nat) (p : Program)
    (m : Machine (Trailed σ)) :
    plainly (runProgram (trailing observe fuel) p m) =
      runProgram (watched observe fuel) p m.plain := by
  have same := Coupling.Follows.runProgram_sim (C := beside σ) (c := ()) observe fuel p m m.plain
    ⟨rfl, rfl⟩
  exact Coupling.Follows.plainly_eq same

/-- Whether all machines that a run from a machine on comes through are of some kind: those on the
trail of the same run, whether it ends or not. -/
def Machine.Always (m : Machine σ) (observe : Observer σ) (P : Machine σ → Prop) : Prop :=
  ∀ fuel p,
    plainly (runProgram (trailing observe fuel) p m.trailed) =
        runProgram (watched observe fuel) p m ∧
      ∀ v ∈ (machineOf (runProgram (trailing observe fuel) p m.trailed)).log.visits, P v.machine

theorem Machine.Always.mono {m : Machine σ} {observe : Observer σ} {P Q : Machine σ → Prop}
    (H : m.Always observe P) (hPQ : ∀ m, P m → Q m) : m.Always observe Q := fun fuel p =>
  ⟨(H fuel p).1, fun v hv => hPQ _ ((H fuel p).2 v hv)⟩

end Stepwise
