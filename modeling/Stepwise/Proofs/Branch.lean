import Stepwise.Proofs.Discreet
import Stepwise.Proofs.Sound

/-!
# Recorded outcomes

What a trace says of the condition of an `if` is true (`branch_told`): if an outcome was recorded,
the condition comes to it when it is evaluated right after, and the run goes on with the part that
it decides for. That needs the condition to pass no key function and no class to have a built-in
among its special methods, or else the first evaluation may leave something behind that the second
one sees; and it needs the condition not to look at addresses.

## The model

An inspection of an expression tells what its evaluation will come to: it is coupled with the
evaluation that follows it, on a heap with what the inspection has made (`preview`). Where the
evaluation would run a function of the script, the inspection gives up; as long as it comes to a
result, both come to the same. Addresses are what the two do not have in common, so the inspection is
done by a runner that stops where one becomes a number or part of a text (`bare`).
-/

namespace Stepwise

open Script Coupling

/-! ### Previews -/

section

variable {σ τ : Type} {w w' : World} {m : Machine σ} {m' : Machine τ}

/-- A machine that is being looked at, and one that holds the same and perhaps more. -/
structure Previews (T : Account σ) (uneven : Prop) (c : T.Ctx) (w : World) (m : Machine σ)
    (m' : Machine τ) : Prop where
  near : Near w m m'
  grown : Grown w m.heap m'.heap
  fits : T.Fits c m
  left : m.inspecting = true
  right : uneven ∨ m'.inspecting = true

/-- An inspection, of which there is an account, and another evaluation that may do more if they are
`uneven`. -/
def preview (T : Account σ) (τ : Type) (uneven : Prop) : Coupling σ τ where
  Ctx := T.Ctx
  Holds := Previews T uneven
  phrase := T.phrase
  line _ _ := True
  changes := False
  executes := False
  harmless := T.harmless
  Tame := T.Tame
  lopsided := uneven
  Left := True
  Right := False
  Stops _ _ := True
  stops _ := trivial
  slack _ := trivial

namespace Preview

variable {T : Account σ} {uneven : Prop} {c : T.Ctx}

theorem withHeap (H : Previews T uneven c w m m') (hw : w ≤ w') {h h' : Heap}
    (grown : Grown w' h h') (fits : T.Fits c { m with heap := h }) :
    Previews T uneven c w' { m with heap := h } { m' with heap := h' } :=
  ⟨H.near.withHeap hw grown.heapRel, grown, fits, H.left, H.right⟩

/-- What there is an account of that allows no changes can be previewed. -/
theorem lawful (hT : T.Lawful) (hc : ¬T.changes) : (preview T τ uneven).Lawful where
  near h := h.near
  phrase := False.elim
  knows := False.elim
  changes := False.elim
  calm := .inr (hT.calm.resolve_left hc)
  harmless h := hT.harmless h.fits
  executes {c w m m'} h awake := by
    rw [h.left] at awake
    cases awake
  tame := False.elim
  special h := hT.special h.fits
  inert h ht := .inr ((hT.inert h.fits ht).resolve_left hc)
  upright := False.elim
  inspecting {c w m m'} h := h.right.elim (fun hu => .inr ⟨hu, h.left⟩)
    fun hr => .inl (h.left.trans hr.symm)
  filed h _ _ := ⟨_, World.le_file, World.file_filed,
    withHeap h World.le_file (h.grown.file _ _) h.fits⟩
  alloc {c w o o'} ho data m m' H := .ok World.le_meet ⟨.inr ⟨rfl, rfl⟩, .inr ⟨rfl, trivial⟩⟩
    (withHeap H World.le_meet (H.grown.allocRel ho : Grown (H.grown.world True True) _ _)
      (hT.alloc H.fits fun cls e => by
        rw [e] at data
        cases data))
  allocClass _ := False.elim
  tuple {c w items items'} hi m m' H := by
    refine .ok World.le_meetMarks ?_
      (withHeap H World.le_meetMarks (H.grown.tuple items items') (hT.tuple items H.fits))
    exact .tuple (.inr ⟨rfl, rfl⟩) (up (A := ValuesRel) World.le_meetMarks hi)
  edit := False.elim
  emit _ := False.elim
  goTo := False.elim
  amend := False.elim
  capture := False.elim
  enlist _ := False.elim
  writing {c w a a' m m'} _ _ A x y H _ ha h := by
    refine Sim.whileWriting ?_ fun c' => h c' w le_rfl fun _ h => h
    obtain ⟨c', enter, leave, -⟩ := hT.writing a H.fits
    refine ⟨c', { H with
      near := { H.near with writing := .cons ha H.near.writing }, fits := enter }, ?_⟩
    exact fun _ H' => { H' with
      near := { H'.near with writing := ListRel.tail H'.near.writing }, fits := leave _ H'.fits }
  handling := False.elim

/-- Ways to tell of events do not matter, and an inspection stops where an address shows. -/
theorem tell_rel (tell : Nat → Moment → M τ Unit) : TellRel (preview T τ uneven)
    (fun _ _ => pure ()) (throw .outOfFuel) tell (pure ()) where
  exact := fun _ _ _ => .left trivial
  reveals _ _ := .inl .outOfFuel
  mark _ := False.elim
  enter _ := False.elim
  classBody _ := False.elim

end Preview

/-- A runner that nobody watches, and that stops where an address becomes a number or part of a
text. -/
def bare (fuel : Nat) : Runner σ := runner (fun _ _ => pure ()) (throw .outOfFuel) fuel

/-- Whether an expression is true. -/
def test (r : Runner σ) (e : Expr) : M σ Bool := do truthy r (← r.eval e)

/-- An inspection that shows no address and the evaluation come to the same, if the inspection comes
to something. -/
theorem test_agree {T : Account σ} (hT : T.Lawful) (hc : ¬T.changes) {uneven : Prop} {c : T.Ctx}
    (H : Previews T uneven c w m m') {e : Expr} (he : Every T.phrase e.parts)
    (tell : Nat → Moment → M τ Unit) (fuel : Nat) :
    Agree (preview T τ uneven) c w Same (test (bare fuel) e m)
      (test (runner tell (pure ()) fuel) e m') := by
  have : (preview T τ uneven).Lawful := Preview.lawful hT hc
  have runners := runner_rel (C := preview T τ uneven) (Preview.tell_rel tell) fuel
  exact ((runners.eval he).bind fun _ _ _ _ hv => truthy_sim runners hv) m m' H

end

variable {σ : Type}

/-! ### Coming to a line -/

/-- Comes to the line of a statement. -/
def arrive (r : Runner σ) (s : Stmt) : M σ Unit := do
  goTo s.pos
  markLine r s.line false (branchCondition s.action)

theorem execStmt_eq (r : Runner σ) (s : Stmt) :
    execStmt r s = (do arrive r s; execAction r s.action s.pos) := by
  rw [execStmt, arrive, bind_assoc]

/-- The machine at the line event of a statement. -/
def Machine.atLine (m : Machine σ) (s : Stmt) : Machine σ :=
  match m.stack with
  | [] => m
  | f :: fs =>
    let f := { f with line := s.line, reported := some s.line }
    { m with pos := s.pos, stack := f :: fs, history := f.event .line :: m.history }

/-- Coming to a line either is an event, at which an observer is asked, or the observer remembers
nothing new. -/
theorem arrive_cases {observe : Observer σ} {n : Nat} {s : Stmt} {m m' : Machine σ}
    (h : arrive (watched observe n) s m = .ok () m') :
    m'.log = m.log ∨ ∃ f fs, m.stack = f :: fs ∧
      inquire (quiet n) (observe ⟨.line, branchCondition s.action⟩ (m.atLine s)) (m.atLine s) =
        .ok () m' := by
  cases hs : m.stack with
  | nil =>
    have same : arrive (watched observe n) s m = .ok () { m with pos := s.pos } := by
      obtain ⟨heap, stack⟩ := m
      obtain rfl : stack = [] := hs
      rfl
    rw [same] at h
    cases h
    exact .inl rfl
  | cons f fs =>
    have same : arrive (watched observe n) s m = (if !false && f.reported = some s.line then
        changeFrame ({ · with line := s.line })
      else do
        changeFrame ({ · with line := s.line, reported := some s.line })
        askObserver observe n ⟨.line, branchCondition s.action⟩ : M σ Unit)
          { m with pos := s.pos } := by
      obtain ⟨heap, stack⟩ := m
      obtain rfl : stack = f :: fs := hs
      rfl
    rw [same] at h
    split at h
    · cases h
      exact .inl rfl
    · refine .inr ⟨f, fs, rfl, ?_⟩
      have there : m.atLine s = { m with
          pos := s.pos
          stack := { f with line := s.line, reported := some s.line } :: fs
          history := ({ f with line := s.line, reported := some s.line } : Frame).event .line ::
            m.history } := by
        rw [Machine.atLine, hs]
      obtain ⟨heap, stack⟩ := m
      obtain rfl : stack = f :: fs := hs
      rw [there]
      exact h

/-! ### What the recorder says -/

namespace Recorder

/-- What the one new entry of a recorder says of a condition. -/
def told (r r' : Recorder) : Option Bool :=
  if r'.entries.size = r.entries.size + 1 then
    (r'.entries.back?.bind Entry.snapshot?).bind (·.branch)
  else none

theorem told_self (r : Recorder) : r.told r = none := by
  simp [told]

theorem told_count (r : Recorder) (kind : EventKind) (recorded : Bool) :
    r.told (r.count kind recorded) = none := by
  simp [told, count_entries]

theorem told_push (r : Recorder) (kind : EventKind) (recorded : Bool) (snap : Snapshot) :
    r.told { r.count kind recorded with
      entries := (r.count kind recorded).entries.push (.step kind snap) } = snap.branch := by
  simp [told, count_entries, Entry.snapshot?]

/-- The recorder only says of a condition what it came to when it was tested. -/
theorem observe_told {s : Listing} {m m' : Machine Recorder} {f : Frame} {fs : List Frame}
    {e : Expr} {b : Bool} {n : Nat} (hs : m.stack = f :: fs)
    (h : inquire (quiet n) (observe s ⟨.line, some e⟩ m) m = .ok () m')
    (told : m.log.told m'.log = some b) :
    e.isPure (isHarmless m) = true ∧
      ∃ m₁ log, testInFrame (quiet n) e m = .ok (.ok b) m₁ ∧ m' = { m₁ with log } := by
  rw [observe_cons hs] at h
  split at h
  case isFalse =>
    cases h
    rw [told_count] at told
    cases told
  unfold record at h
  dsimp only at h
  split at h
  case isFalse =>
    cases h
    rw [told_push] at told
    cases told
  unfold askBranch at h
  simp only [question?] at h
  split at h
  case isFalse =>
    cases h
    rw [told_push] at told
    cases told
  next pure =>
  refine ⟨pure, ?_⟩
  revert h
  show EStateM.bind (testInFrame (quiet n) e) _ m = _ → _
  unfold EStateM.bind
  cases testInFrame (quiet n) e m with
  | error => nofun
  | ok answer m₁ =>
    intro h
    cases h
    rw [told_push] at told
    cases answer with
    | error => cases told
    | ok b' =>
      cases told
      exact ⟨m₁, _, rfl, rfl⟩

end Recorder

/-! ### Evaluating once more -/

theorem inspect_ok {α : Type} {x : M σ α} {a : α} {m m' : Machine σ}
    (h : inspect x m = .ok (.ok a) m') : ∃ m₁, x { m with inspecting := true } = .ok a m₁ := by
  rw [inspect_eq] at h
  revert h
  cases x { m with inspecting := true } with
  | ok a' m₁ =>
    intro h
    cases h
    exact ⟨m₁, rfl⟩
  | error e => cases e <;> nofun

theorem inspect_stop {α : Type} {x : M σ α} {m m₁ : Machine σ}
    (h : x { m with inspecting := true } = .error .outOfFuel m₁) :
    (outcome (inspect x) m).1 = .outOfFuel := by
  rw [outcome, inspect_eq, h]

variable {τ : Type} {w : World} {m : Machine σ} {m' : Machine τ} {e : Expr} {b : Bool} {n : Nat}

/-- What an inspection of a calm condition comes to, the evaluation of the condition comes to
afterwards, unless the inspection looks at an address. -/
theorem test_told (H : Alike w m m) (H' : Alike w m m') (ho : m.heap.isOrderly = true)
    (hp : e.isPure (Recorder.isHarmless m) = true) (hk : e.isKeyless = true)
    (hides : (outcome (testInFrame (bare n) e) m).1 ≠ .outOfFuel) {m₁ : Machine σ}
    (told : testInFrame (quiet n) e m = .ok (.ok b) m₁) (tell : Nat → Moment → M τ Unit) :
    ∃ m₂, test (runner tell (pure ()) n) e m' = .ok b m₂ := by
  have lawful := glance_lawful H ho
  have parts : Every (glance w m m).phrase e.parts := calm_of_pure hp (List.all_eq_true.1 hk)
  have inside {ρ : Type} {r : Machine ρ} (uneven : Prop) (near : Near w m r)
      (grown : Grown w m.heap r.heap) (right : uneven ∨ r.inspecting = true) :
      Previews (glance w m m) uneven m.writing w { m with inspecting := true } r :=
    ⟨{ near with }, grown, ⟨H.grown, rfl⟩, rfl, right⟩
  -- the same inspection, stopping where an address shows, comes to the same
  obtain ⟨m₃, quietly⟩ := inspect_ok told
  have bare_ : ∃ m₄, test (bare n) e { m with inspecting := true } = .ok b m₄ := by
    have agree := test_agree lawful id
      (inside (r := { m with inspecting := true }) False { H.near with } H.grown (.inr rfl)) parts
      (fun _ _ => pure ()) n
    rw [show test (runner (fun _ _ => pure ()) (pure ()) n) e _ = _ from quietly] at agree
    revert agree
    generalize glimpsed : test (bare n) e { m with inspecting := true } = result
    intro agree
    cases agree with
    | left => exact absurd (inspect_stop glimpsed) hides
    | lost h => exact h.elim
    | ok _ h _ =>
      cases h
      exact ⟨_, rfl⟩
  -- and so does the evaluation
  obtain ⟨m₄, bare_⟩ := bare_
  have agree := test_agree lawful id (inside True H'.near H'.grown (.inl trivial)) parts tell n
  rw [bare_] at agree
  revert agree
  generalize test (runner tell (pure ()) n) e m' = result
  intro agree
  cases agree with
  | right h => exact h.elim
  | ok _ h _ =>
    cases h
    exact ⟨_, rfl⟩

/-! ### Recorded runs -/

/-- The world in which all places are alike. -/
def World.flatten (w : World) : World := { w with object := fun _ => True, kept := fun _ => True }

theorem World.le_flatten (w : World) : w ≤ w.flatten :=
  ⟨id, fun _ => trivial, fun _ => trivial, id, id, rfl, rfl⟩

/-- A machine whose references are live does the same as itself, with all places alike. -/
theorem Grounded.alike (H : Grounded w m) : Alike w.flatten m m := by
  have grown : Grown w.flatten m.heap m.heap :=
    { H.tidy.grown with get := fun hb => up w.le_flatten (H.tidy.grown.get hb) }
  exact ⟨H.near.withHeap w.le_flatten grown.heapRel, grown, fun _ => ⟨trivial, trivial⟩,
    H.tidy.phrase, H.tidy.sharp.located, rfl, rfl⟩

theorem Machine.heap_atLine (m : Machine σ) (s : Stmt) : (m.atLine s).heap = m.heap := by
  unfold atLine
  split <;> rfl

theorem Machine.log_atLine (m : Machine σ) (s : Stmt) : (m.atLine s).log = m.log := by
  unfold atLine
  split <;> rfl

theorem Machine.stack_atLine {m : Machine σ} {f : Frame} {fs : List Frame} (hs : m.stack = f :: fs)
    (s : Stmt) : (m.atLine s).stack = { f with line := s.line, reported := some s.line } :: fs := by
  rw [atLine, hs]

theorem Alike.atLine (H : Alike w m m) (s : Stmt) : Alike w (m.atLine s) (m.atLine s) := by
  cases hs : m.stack with
  | nil =>
    rw [Machine.atLine, hs]
    exact H
  | cons f fs =>
    have stack := H.near.stack
    rw [hs] at stack
    rw [Machine.atLine, hs]
    cases stack with
    | cons hf hfs =>
    exact { H with
      near := { H.near with
        stack := .cons { hf with line := fun _ => rfl, reported := fun _ => rfl } hfs
        pos := fun _ => rfl } }

/-- The part of an `if` that an outcome decides for. -/
def Script.Action.part (a : Action) (b : Bool) : List Stmt :=
  match a with
  | .if_ _ body orelse => if b then body else orelse
  | _ => []

/-- After an `if` has come to its line, the outcome of its condition decides. -/
theorem execStmt_if {r : Runner σ} {s : Stmt} {m₁ m₂ : Machine σ}
    (he : branchCondition s.action = some e) (event : arrive r s m = .ok () m₁)
    (tested : test r e m₁ = .ok b m₂) : execStmt r s m = r.block (s.action.part b) m₂ := by
  have action : execAction r s.action s.pos =
      (do if ← test r e then r.block (s.action.part true) else r.block (s.action.part false)) := by
    cases ha : s.action with
    | if_ e' body orelse =>
      rw [ha] at he
      obtain rfl := Option.some.inj he
      simp only [execAction, execIf, test, Script.Action.part, bind_assoc]
      rfl
    | _ =>
      rw [ha] at he
      cases he
  rw [execStmt_eq, action]
  show EStateM.bind (arrive r s) _ m = _
  unfold EStateM.bind
  rw [event]
  show EStateM.bind (test r e) _ m₁ = _
  unfold EStateM.bind
  rw [tested]
  cases b <;> rfl

/-- The outcome that a recorder tells of a condition at its line is true, in any state that a
recorded run comes through: the condition comes to it when it is evaluated right after, and the `if`
goes on with the part that it decides for. -/
theorem branch_told (s : Listing) (fuel : Nat) (p : Program) {v : Visit Recorder}
    (hv : v ∈ (machineOf (runProgram (trailing (Recorder.observe s) fuel) p
      (Machine.forTrace s).trailed)).log.visits)
    {stmt : Stmt} {e : Expr} (he : branchCondition stmt.action = some e) {n : Nat}
    {m : Machine Recorder}
    (event : arrive (watched (Recorder.observe s) n) stmt v.machine = .ok () m) {b : Bool}
    (told : v.machine.log.told m.log = some b) (keyless : e.isKeyless = true)
    (orderly : v.machine.heap.isOrderly = true)
    (hides : (outcome (testInFrame (bare n) e) (v.machine.atLine stmt)).1 ≠ .outOfFuel) :
    ∃ m', test (watched (Recorder.observe s) n) e m = .ok b m' ∧
      execStmt (watched (Recorder.observe s) n) stmt v.machine =
        (watched (Recorder.observe s) n).block (stmt.action.part b) m' := by
  obtain ⟨w, stands⟩ := Sound.forTrace_stands s
  have grounded := Sound.runProgram_grounded (Recorder.observe s) fuel p stands
  obtain ⟨w, ground, -⟩ := grounded.visits v hv
  have H := ground.alike.atLine stmt
  obtain same | ⟨f, fs, stack, asked⟩ := arrive_cases event
  · rw [same, Recorder.told_self] at told
    cases told
  rw [he] at asked
  rw [← v.machine.log_atLine stmt] at told
  rw [← v.machine.heap_atLine stmt] at orderly
  obtain ⟨pure, m₁, log, tested, rfl⟩ :=
    Recorder.observe_told (Machine.stack_atLine stack stmt) asked told
  have after := testInFrame_alike H orderly pure keyless n
  rw [tested] at after
  cases after with
  | ok H₁ =>
  have H' : Alike _ (v.machine.atLine stmt) { m₁ with log } := { H₁ with near := { H₁.near with } }
  obtain ⟨m', evaluated⟩ := test_told H H' orderly pure keyless hides tested
    (askObserver (Recorder.observe s))
  exact ⟨m', evaluated, execStmt_if he event evaluated⟩

/-- The statement `if x: y = 1`, else `y = 2`. -/
def decision : Stmt :=
  .mk (.if_ (.name "x") [.mk (.assign [.name "y"] (.int 1)) ⟨3, 5⟩ 3]
    [.mk (.assign [.name "y"] (.int 2)) ⟨5, 5⟩ 5]) ⟨2, 1⟩ 5

/-- `x = 1` and then `decision`. -/
def deciding : Program := [.mk (.assign [.name "x"] (.int 1)) ⟨1, 1⟩ 1, decision]

/-- The lines of `deciding`. -/
def decidingLines : Listing :=
  ⟨#["x = 1", "if x:", "    y = 1", "else:", "    y = 2"], [1, 2, 3, 4, 5]⟩

/-- The states that a run of `deciding` comes through, the last one first. -/
def decidingVisits : List (Visit Recorder) :=
  (machineOf (runProgram (trailing (Recorder.observe decidingLines) 9) deciding
    (Machine.forTrace decidingLines).trailed)).log.visits

/-- Before its `if` the run of `deciding` is told that the body will run, and it does. -/
theorem branch_told_deciding :
    ∃ v ∈ decidingVisits, ∃ m m',
      arrive (watched (Recorder.observe decidingLines) 9) decision v.machine = .ok () m ∧
        v.machine.log.told m.log = some true ∧
        test (watched (Recorder.observe decidingLines) 9) (.name "x") m = .ok true m' ∧
        execStmt (watched (Recorder.observe decidingLines) 9) decision v.machine =
          (watched (Recorder.observe decidingLines) 9).block
            [.mk (.assign [.name "y"] (.int 1)) ⟨3, 5⟩ 3] m' := by
  let v := decidingVisits.get ⟨14, by decide +kernel⟩
  have told : (match arrive (watched (Recorder.observe decidingLines) 9) decision v.machine with
      | .ok _ m => v.machine.log.told m.log
      | .error _ _ => none) = some true := by decide +kernel
  have hides : (outcome (testInFrame (bare 9) (.name "x")) (v.machine.atLine decision)).1 ≠
      .outOfFuel := by decide +kernel
  have orderly : v.machine.heap.isOrderly = true := by decide +kernel
  have hv : v ∈ decidingVisits := List.get_mem _ _
  clear_value v
  cases event : arrive (watched (Recorder.observe decidingLines) 9) decision v.machine with
  | error e m =>
    rw [event] at told
    cases told
  | ok u m =>
    rw [event] at told
    obtain ⟨m', tested, ran⟩ := branch_told decidingLines 9 deciding hv rfl event told
      (by decide) orderly hides
    exact ⟨v, hv, m, m', event, told, tested, ran⟩

end Stepwise
