import Stepwise.Proofs.Watch

/-!
# Balance

What a machine sets up while something is under way, it takes down again on every way out: frames
are closed, errors are done with, containers are written to their end. Every task leaves the machine
in the posture in which it found it, whether it comes to a result or fails (`posture_kept`).

## The model

Jumps are no part of a machine. A statement gives the jump that it ends with as its result, and an
error has no result, so that no jump is under way where an error is caught.
-/

namespace Stepwise

open Script Coupling

variable {σ α : Type}

/-! ### Postures -/

/-- What runs in a frame, in which scope and on which object. -/
structure Role where
  /-- The name of what runs. -/
  name : String
  /-- What runs. -/
  kind : FrameKind
  /-- The scope of its bindings. -/
  locals : Address
  /-- The class that the function belongs to, or whose body runs. -/
  owner : Option Address
  /-- The object that a method was called on. -/
  receiver : Option Value

/-- What runs in a frame. -/
def Frame.role (f : Frame) : Role := ⟨f.name, f.kind, f.locals, f.owner, f.receiver⟩

/-- What a machine is in the middle of. -/
structure Posture where
  /-- The open frames, innermost first. -/
  frames : List Role
  /-- The errors whose handlers are running, innermost first. -/
  handled : List RuntimeError
  /-- The containers that are being turned into text. -/
  writing : List Address
  /-- Whether the run is only being looked at. -/
  inspecting : Bool

/-- What a machine is in the middle of. -/
def Machine.posture (m : Machine σ) : Posture :=
  ⟨m.stack.map Frame.role, m.handled, m.writing, m.inspecting⟩

/-- A posture with one more frame. -/
def Posture.opened (c : Posture) (f : Frame) : Posture := { c with frames := f.role :: c.frames }

theorem roles_modifyHead {g : Frame → Frame} (hg : ∀ f, (g f).role = f.role) (fs : List Frame) :
    (fs.modifyHead g).map Frame.role = fs.map Frame.role := by
  cases fs with
  | nil => rfl
  | cons f fs => simp only [List.modifyHead_cons, List.map_cons, hg]

theorem Amends.role {g : Frame → Frame} (hg : Amends g) (f : Frame) : (g f).role = f.role := by
  have event := Event.mk.inj (hg.event f .line)
  simp only [Frame.role, Role.mk.injEq]
  exact ⟨event.2.1, event.2.2.1, event.2.2.2.1, hg.owner f, hg.receiver f⟩

/-- Changing a frame but for its role keeps the posture. -/
theorem posture_changeFrame (g : Frame → Frame) (hg : ∀ f, (g f).role = f.role) (m : Machine σ) :
    ({ m with stack := m.stack.modifyHead g } : Machine σ).posture = m.posture := by
  simp only [Machine.posture, roles_modifyHead hg]

/-- The account of a run that keeps its posture. -/
def balance : Account σ where
  Ctx := Posture
  Fits c m := m.posture = c
  phrase _ := True
  known _ := True
  changes := True
  executes := True
  harmless _ := False
  Tame _ := True

instance : (balance : Account σ).Lawful where
  phrase _ := rfl
  changes _ := trivial
  calm := .inl trivial
  harmless _ := False.elim
  executes _ _ := trivial
  tame _ _ := trivial
  special _ _ _ := trivial
  inert _ _ := .inl trivial
  alloc hf _ := hf
  tuple _ hf := hf
  heap _ _ hf := hf
  output _ _ hf := hf
  frame _ hg hf := (posture_changeFrame _ hg.role _).trans hf
  pos _ _ hf := hf
  modules _ _ hf := hf
  handled {c m} e _ hf := by
    refine ⟨{ c with handled := e :: c.handled }, ?_, fun m' h => ?_, fun _ h => h⟩
    · exact congrArg (fun p : Posture => { p with handled := e :: p.handled }) hf
    · exact congrArg (fun p : Posture => { p with handled := p.handled.tail }) h
  writing {c m} a hf := by
    refine ⟨{ c with writing := a :: c.writing }, ?_, fun m' h => ?_, fun _ h => h⟩
    · exact congrArg (fun p : Posture => { p with writing := a :: p.writing }) hf
    · exact congrArg (fun p : Posture => { p with writing := p.writing.tail }) h

/-! ### Frames -/

/-- Ways to tell an observer of events that come back in the same posture. -/
def Steady (tell : Nat → Moment → M σ Unit) : Prop :=
  ∀ fuel moment m, Settles (fun _ m' => m'.posture = m.posture) (tell fuel moment m)

variable {tell : Nat → Moment → M σ Unit} {reveal : M σ Unit} {c : Posture} {w : World}

/-- Coming to a line keeps the posture. -/
theorem markLine_balanced (ht : Steady tell) (fuel : Nat) {line : Nat} {force : Bool}
    {condition : Option Expr} :
    balance.coupling.Sim c w Same (markLine (runner tell reveal fuel) line force condition)
      (markLine (runner tell reveal fuel) line force condition) := by
  refine Account.sim_of_leaves fun m _ hc => Leaves.mono (P := fun m' => m'.posture = c) ?_
    fun _ h => ⟨knows_all _, h⟩
  refine Settles.leaves (P := fun _ m' => m'.posture = c) (.ok hc) ?_
  rintro (_ | f) m hc
  · exact .ok hc
  dsimp only
  split
  case isTrue => exact .ok ((posture_changeFrame ({ · with line }) (fun _ => rfl) m).trans hc)
  case isFalse =>
    refine Settles.leaves (P := fun _ m' => m'.posture = c)
      (.ok ((posture_changeFrame ({ · with line, reported := some line }) (fun _ => rfl) m).trans
        hc)) ?_
    rintro _ m hc
    exact ((ht fuel _ m).mono fun h => h.trans hc).toLeaves

/-- Opening a frame adds it to the posture. -/
theorem openFrame_balanced (ht : Steady tell) (fuel : Nat) (f : Frame) (m : Machine σ) :
    Settles (fun _ m' => m'.posture = m.posture.opened f)
      ((do pushFrame f; (runner tell reveal fuel).notify ⟨.call, none⟩) m) :=
  Settles.bind (P := fun _ m' => m'.posture = m.posture.opened f) (.ok rfl)
    fun {_ m'} hm' => (ht fuel _ m').mono fun h => h.trans hm'

theorem releaseScope_balanced (f : Frame) (m : Machine σ) :
    Settles (fun _ m' => m'.posture = m.posture) (releaseScope f m) := by
  unfold releaseScope
  split <;> exact .ok rfl

/-- Closing a frame takes it from the posture. -/
theorem closeFrame_balanced (ht : Steady tell) (fuel : Nat) {f : Frame} {m : Machine σ}
    (hm : m.posture = c.opened f) :
    Settles (fun _ m' => m'.posture = c)
      ((do (runner tell reveal fuel).notify ⟨.return_, none⟩; closeFrame) m) := by
  refine Settles.bind (ht fuel _ m) fun {_ m'} hm' => ?_
  have popped : ({ m' with stack := m'.stack.tail } : Machine σ).posture = c := by
    have := congrArg (fun p : Posture => { p with frames := p.frames.tail }) (hm'.trans hm)
    simpa only [Machine.posture, Posture.opened, List.map_tail, List.tail_cons] using this
  unfold closeFrame
  refine Settles.bind (P := fun _ m' => m'.posture = c) (.ok popped) ?_
  rintro (_ | f) m'' hm''
  · exact .ok hm''
  · exact (releaseScope_balanced f m'').mono fun h => h.trans hm''

/-- A run of a frame keeps the posture if its body does. -/
theorem runFrame_balanced (ht : Steady tell) (fuel : Nat) {f f' : Frame} {body : List Stmt}
    (hf : FrameRel w f f')
    (hb : ∀ c, balance.coupling.Sim c w FlowRel ((runner tell reveal fuel).block body)
      ((runner tell reveal fuel).block body)) :
    balance.coupling.Sim c w ValueRel (runFrame (runner tell reveal fuel) f body)
      (runFrame (runner tell reveal fuel) f' body) := by
  intro m m' hm
  obtain ⟨rfl, -⟩ := id hm
  obtain rfl := Discrete.eq World.diagonal_sharp hf
  refine Account.sim_of_leaves (fun m _ hc => Leaves.mono (P := fun m' => m'.posture = c) ?_
    fun _ h => ⟨knows_all _, h⟩) m m' hm
  by_cases limit : m.stack.length < recursionLimit
  · rw [runFrame_eq _ _ _ limit]
    refine (openFrame_balanced ht fuel f m).leaves ?_
    rintro _ m₁ h₁
    refine (Account.leaves_of_sim (T := balance) (hb _) (knows_all _) h₁).attempt.leaves ?_
    rintro result m₂ ⟨-, h₂⟩
    refine (closeFrame_balanced ht fuel h₂).leaves ?_
    rintro _ m₃ h₃
    have h₃ : m₃.posture = c := h₃.trans hc
    cases result with
    | error e => exact .error h₃
    | ok flow => cases flow <;> exact .ok h₃
  · have refused : runFrame (runner tell reveal fuel) f body m =
        (do releaseScope f; fail .recursion) m := by
      show (if m.stack.length ≥ recursionLimit then _ else _ : M σ Value) m = _
      rw [if_pos (Nat.not_lt.1 limit)]
    rw [refused]
    exact (releaseScope_balanced f m).leaves fun h => .error (h.trans hc)

/-! ### Tasks and inquiries -/

theorem tell_balanced (ht : Steady tell) :
    TellRel balance.coupling tell (pure ()) tell (pure ()) :=
  .ofFrame Account.reveal_sim id (fun fuel _ _ _ => markLine_balanced ht fuel) fun fuel _ hf _ hb =>
    runFrame_balanced ht fuel hf fun c => hb c _ le_rfl fun _ _ => trivial

/-- A task keeps the posture if events do. -/
theorem task_balanced (ht : Steady tell) (fuel : Nat) (t : Task α) (m : Machine σ) :
    Leaves (fun m' => m'.posture = m.posture) ((runner tell (pure ()) fuel).run t m) := by
  have hr := runner_rel (tell_balanced ht) fuel
  have known {ps : List Phrase} : Every (fun _ => True) ps := every_of (fun _ => trivial) ps
  have keeps {A : Rel α α} (h : balance.coupling.Sim m.posture (World.diagonal fun _ => True) A
      ((runner tell (pure ()) fuel).run t) ((runner tell (pure ()) fuel).run t)) :
      Leaves (fun m' => m'.posture = m.posture) ((runner tell (pure ()) fuel).run t m) :=
    (Account.leaves_of_sim (T := balance) h (knows_all _) rfl).mono fun _ h => h.2
  cases t with
  | eval e => exact keeps (hr.eval known)
  | exec s => exact keeps (hr.exec trivial known fun _ _ => trivial)
  | call callee args keywords =>
    exact keeps (hr.call trivial (Diagonal.refl _) (Diagonal.refl _) (Diagonal.refl _))
  | equals a b => exact keeps (hr.equals (Diagonal.refl _) (Diagonal.refl _))
  | order op a b => exact keeps (hr.order (Diagonal.refl _) (Diagonal.refl _))
  | repr v => exact keeps (hr.repr (Diagonal.refl _))
  | str v => exact keeps (hr.str (Diagonal.refl _))
  | iterate v => exact keeps (hr.iterate (Diagonal.refl _))
  | assign target v => exact keeps (hr.assign trivial known (fun _ _ => trivial) (Diagonal.refl _))
  | delete target => exact keeps (hr.delete trivial known)

theorem quiet_steady : Steady (fun _ _ => pure () : Nat → Moment → M σ Unit) :=
  fun _ _ _ => .ok rfl

/-- Looking at a machine keeps the posture: it is looked at no longer than before. -/
theorem inspect_balanced {x : M σ α} {m : Machine σ}
    (h : ∀ m, Leaves (fun m' => m'.posture = m.posture) (x m)) :
    Settles (fun _ m' => m'.posture = m.posture) (inspect x m) := by
  have inside := h { m with inspecting := true }
  have back {m' : Machine σ}
      (hm' : m'.posture = ({ m with inspecting := true } : Machine σ).posture) :
      ({ m' with inspecting := m.inspecting, pos := m.pos } : Machine σ).posture = m.posture :=
    congrArg (fun p : Posture => { p with inspecting := m.inspecting }) hm'
  rw [inspect_eq]
  revert inside
  generalize x { m with inspecting := true } = rx
  intro inside
  cases inside with
  | ok h => exact .ok (back h)
  | error h => exact .ok (back h)
  | outOfFuel => exact .outOfFuel

theorem testInFrame_balanced (fuel : Nat) (e : Expr) (m : Machine σ) :
    Settles (fun _ m' => m'.posture = m.posture) (testInFrame (quiet fuel) e m) := by
  refine inspect_balanced fun m => ?_
  have hr := runner_rel (tell_balanced quiet_steady) fuel (σ := σ)
  have test := (hr.eval (e := e) (every_of (fun _ => trivial) _)).bind (c := m.posture)
    (w := World.diagonal fun _ => True) fun _ _ _ _ hv => truthy_sim hr hv
  exact (Account.leaves_of_sim (T := balance) test (knows_all _) rfl).mono fun _ h => h.2

/-- An inquiry keeps the posture. -/
theorem inquire_balanced (fuel : Nat) (q : Inquiry σ) :
    ∀ m, Settles (fun _ m' => m'.posture = m.posture) (inquire (quiet fuel) q m) := by
  induction q with
  | note log => exact fun m => .ok rfl
  | eval e next ih =>
    intro m
    have looked : Settles (fun _ m' => m'.posture = m.posture) (evalInFrame (quiet fuel) e m) :=
      inspect_balanced fun m => task_balanced quiet_steady fuel (.eval e) m
    exact looked.bind fun {r m'} hm' => (ih m' r m').mono fun h => h.trans hm'
  | test e next ih =>
    intro m
    exact (testInFrame_balanced fuel e m).bind fun {r m'} hm' =>
      (ih m' r m').mono fun h => h.trans hm'

theorem askObserver_steady (observe : Observer σ) : Steady (askObserver observe) := by
  intro fuel moment m
  cases hs : m.stack with
  | nil =>
    rw [askObserver_eq (report_nil hs moment.kind)]
    exact inquire_balanced fuel _ m
  | cons f fs =>
    rw [askObserver_eq (report_eq hs moment.kind)]
    exact inquire_balanced fuel _ { m with history := f.event moment.kind :: m.history }

end Stepwise
