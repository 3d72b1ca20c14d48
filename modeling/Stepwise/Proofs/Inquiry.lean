import Stepwise.Proofs.Relation.Unary

/-!
# Inquiries

What an observer's questions leave behind. Evaluating an expression in the running frame may make
and change objects, but it reports no event, opens and closes no frame and moves no frame to another
line (`inquire_scene`).
-/

namespace Stepwise

open Script Coupling

variable {σ α : Type} {phrase : Phrase → Prop}

/-- Whether an inquiry evaluates only expressions that satisfy `E`, and remembers only what
satisfies `P`, whatever the answers. -/
inductive Inquiry.Within (E : Expr → Prop) (P : σ → Prop) : Inquiry σ → Prop
  | note {log} (h : P log) : Within E P (.note log)
  | eval {e next} (he : E e) (h : ∀ m answer, Within E P (next m answer)) :
    Within E P (.eval e next)
  | test {e next} (he : E e) (h : ∀ m answer, Within E P (next m answer)) :
    Within E P (.test e next)

theorem Inquiry.Within.mono {E F : Expr → Prop} {P Q : σ → Prop} {q : Inquiry σ}
    (h : q.Within E P) (hE : ∀ e, E e → F e) (hP : ∀ log, P log → Q log) : q.Within F Q := by
  induction h with
  | note h => exact .note (hP _ h)
  | eval he _ ih => exact .eval (hE _ he) ih
  | test he _ ih => exact .test (hE _ he) ih

/-- Whether an inquiry may come to evaluate an expression. -/
inductive Inquiry.Asks : Inquiry σ → Expr → Prop
  | eval {e next} : Asks (.eval e next) e
  | test {e next} : Asks (.test e next) e
  | afterEval {e e' next m answer} (h : Asks (next m answer) e') : Asks (.eval e next) e'
  | afterTest {e e' next m answer} (h : Asks (next m answer) e') : Asks (.test e next) e'

/-- An inquiry evaluates what it asks. -/
theorem Inquiry.within_of_asks {E : Expr → Prop} : ∀ {q : Inquiry σ}, (∀ e, q.Asks e → E e) →
    q.Within E (fun _ => True)
  | .note _, _ => .note trivial
  | .eval _ _, h => .eval (h _ .eval) fun _ _ => within_of_asks fun _ h' => h _ (.afterEval h')
  | .test _ _, h => .test (h _ .test) fun _ _ => within_of_asks fun _ h' => h _ (.afterTest h')

/-- The account of an inspection: the scene stays as it is. -/
def still (phrase : Phrase → Prop) : Account σ :=
  .ofScene (fun (c : { s : Scene σ // s.inspecting = true }) s => s = c.1) phrase False

instance : (still phrase : Account σ).Lawful :=
  Account.ofScene_lawful fun {c s} hs hi => by
    rw [hs, c.2] at hi
    cases hi

theorem inspect_eq (x : M σ α) (m : Machine σ) :
    inspect x m = match x { m with inspecting := true } with
      | .ok a m' => .ok (.ok a) { m' with inspecting := m.inspecting, pos := m.pos }
      | .error (.error e) m' => .ok (.error e) { m' with inspecting := m.inspecting, pos := m.pos }
      | .error .outOfFuel m' => .error .outOfFuel m' := by
  show EStateM.bind (attempt x)
    (fun r m' => .ok r { m' with inspecting := m.inspecting, pos := m.pos })
    { m with inspecting := true } = _
  unfold EStateM.bind attempt
  cases x { m with inspecting := true } with
  | ok a m' => rfl
  | error e m' => cases e <;> rfl

/-- Looking at a machine leaves its scene as it was. -/
theorem inspect_scene {A : Rel α α} {x : M σ α} {m : Machine σ} (hk : m.heap.Knows phrase)
    (hx : ∀ c, (still phrase).coupling.Sim c (World.diagonal phrase) A x x) :
    Settles (fun _ m' => m'.heap.Knows phrase ∧ m'.scene = m.scene) (inspect x m) := by
  let inside := { m with inspecting := true }
  have left :=
    Account.leaves_of_sim (T := still phrase) (m := inside) (hx ⟨inside.scene, rfl⟩) hk rfl
  have back {m' : Machine σ} (hs : m'.scene = inside.scene) :
      { m' with inspecting := m.inspecting, pos := m.pos : Machine σ }.scene = m.scene := by
    simp only [Machine.scene, Scene.mk.injEq] at hs ⊢
    exact ⟨hs.1, hs.2.1, hs.2.2.1, trivial⟩
  rw [inspect_eq]
  revert left
  generalize x inside = rx
  intro left
  cases left with
  | ok h => exact .ok ⟨h.1, back h.2⟩
  | error h => exact .ok ⟨h.1, back h.2⟩
  | outOfFuel => exact .outOfFuel

/-- A quiet runner does every task alike while a machine is looked at. -/
theorem quiet_still (fuel : Nat) :
    RunnerRel (still phrase : Account σ).coupling (quiet fuel) (quiet fuel) :=
  runner_rel (Account.tell_quiet id) fuel

theorem evalInFrame_scene {e : Expr} (fuel : Nat) {m : Machine σ} (hk : m.heap.Knows phrase)
    (he : Every phrase e.parts) :
    Settles (fun _ m' => m'.heap.Knows phrase ∧ m'.scene = m.scene)
      (evalInFrame (quiet fuel) e m) :=
  inspect_scene hk fun _ => (quiet_still fuel).eval he

theorem testInFrame_scene {e : Expr} (fuel : Nat) {m : Machine σ} (hk : m.heap.Knows phrase)
    (he : Every phrase e.parts) :
    Settles (fun _ m' => m'.heap.Knows phrase ∧ m'.scene = m.scene)
      (testInFrame (quiet fuel) e m) :=
  inspect_scene hk fun _ =>
    ((quiet_still fuel).eval he).bind fun _ _ _ _ hv => truthy_sim (quiet_still fuel) hv

/-- An inquiry changes nothing in the scene but what the observer remembers. -/
theorem inquire_scene {P : σ → Prop} (fuel : Nat) {q : Inquiry σ}
    (hq : q.Within (fun e => Every phrase e.parts) P) : ∀ {m : Machine σ}, m.heap.Knows phrase →
    Settles (fun _ m' => m'.heap.Knows phrase ∧ ∃ log, P log ∧ m'.scene = { m.scene with log })
      (inquire (quiet fuel) q m) := by
  induction hq with
  | @note log h => exact fun {m} hk => .ok ⟨hk, log, h, rfl⟩
  | eval he _ ih =>
    intro m hk
    refine (evalInFrame_scene fuel hk he).bind fun {r m'} hm => ?_
    exact (ih m' r hm.1).mono fun h => hm.2 ▸ h
  | test he _ ih =>
    intro m hk
    refine (testInFrame_scene fuel hk he).bind fun {r m'} hm => ?_
    exact (ih m' r hm.1).mono fun h => hm.2 ▸ h

/-! ### Asking an observer -/

theorem report_eq {m : Machine σ} {f : Frame} {fs : List Frame} (hs : m.stack = f :: fs)
    (kind : EventKind) :
    report kind m = .ok () { m with history := f.event kind :: m.history } := by
  obtain ⟨heap, stack⟩ := m
  obtain rfl : stack = f :: fs := hs
  rfl

theorem report_nil {m : Machine σ} (hs : m.stack = []) (kind : EventKind) :
    report kind m = .ok () m := by
  obtain ⟨heap, stack⟩ := m
  obtain rfl : stack = [] := hs
  rfl

/-- An observer is asked in the machine that has the event in its history. -/
theorem askObserver_eq {observe : Observer σ} {moment : Moment} {m m' : Machine σ}
    (h : report moment.kind m = .ok () m') (fuel : Nat) :
    askObserver observe fuel moment m = inquire (quiet fuel) (observe moment m') m' := by
  show EStateM.bind (report moment.kind)
    (fun _ m => inquire (quiet fuel) (observe moment m) m) m = _
  unfold EStateM.bind
  rw [h]

/-- An inquiry adds no event to the history. -/
theorem inquire_history (fuel : Nat) (q : Inquiry σ) (m : Machine σ) :
    Settles (fun _ m' => m'.history = m.history) (inquire (quiet fuel) q m) := by
  refine (inquire_scene fuel (Inquiry.within_of_asks fun e _ => every_of (fun _ => trivial) _)
    (knows_all _)).mono ?_
  rintro _ m' ⟨-, log, -, hm'⟩
  exact congrArg Scene.history hm'

end Stepwise
