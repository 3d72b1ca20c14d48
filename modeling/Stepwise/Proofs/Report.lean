import Stepwise.Proofs.Jump

/-!
# What a frame reports

Whatever is done in a frame, the frame reports only lines of the statements that are run in it. The
frames that are opened meanwhile are closed again, and leave the line alone that it has reported
last (`reports_of_gives`). So the evaluation of an expression reports nothing (`silent_of_gives`).

## The model

The history of a run mixes the events of many frames. `frameLines` picks out the lines that one
frame reports in a stretch of the history; `Reports` is the grammar of such a stretch, in which the
frames inside are opened and closed in turn. A stretch of a run takes one scene to another
(`Scene.Advances`), and stretches add up.
-/

namespace Stepwise

open Script Coupling

variable {σ α β : Type}

/-! ### The lines of a frame -/

/-- The lines that a frame has reported itself in some events, the last one first. The events are
read backwards, from `depth` frames inside of it. -/
def frameLines : (depth : Nat) → List Event → List Nat
  | _, [] => []
  | depth, e :: es =>
    match e.kind with
    | .return_ => frameLines (depth + 1) es
    | .call => frameLines (depth - 1) es
    | .line => if depth = 0 then e.line :: frameLines depth es else frameLines depth es

/-- The events that happen while a frame is open, the last one first, and the lines among them that
the frame reports itself. -/
inductive Reports : List Event → List Nat → Prop
  | none : Reports [] []
  | line {es ls e} (h : Reports es ls) (line : e.kind = .line) : Reports (e :: es) (e.line :: ls)
  /-- Another frame is opened and closed. -/
  | call {es ls es' ls' e e'} (h : Reports es ls) (call : e.kind = .call) (inner : Reports es' ls')
    (closed : e'.kind = .return_) : Reports (e' :: (es' ++ e :: es)) ls

namespace Reports

variable {es es' : List Event} {ls ls' : List Nat}

theorem append (h : Reports es ls) (h' : Reports es' ls') : Reports (es' ++ es) (ls' ++ ls) := by
  induction h' with
  | none => exact h
  | line _ line ih => exact ih.line line
  | call _ call inner closed ih =>
    have := ih.call call inner closed
    simpa only [List.cons_append, List.append_assoc] using this

/-- The lines are those that are picked out of the events. -/
theorem frameLines_append (h : Reports es ls) : ∀ (depth : Nat) (rest : List Event),
    frameLines depth (es ++ rest) = (if depth = 0 then ls else []) ++ frameLines depth rest := by
  induction h with
  | none => simp
  | line _ line ih =>
    intro depth rest
    rw [List.cons_append, frameLines, line]
    by_cases own : depth = 0 <;> simp [own, ih]
  | call _ call _ closed ih ih' =>
    intro depth rest
    simp [frameLines, closed, call, ih, ih']

theorem frameLines_eq (h : Reports es ls) : frameLines 0 es = ls := by
  simpa [frameLines] using h.frameLines_append 0 []

end Reports

/-! ### Stretches of a run -/

/-- The line that the innermost frame has reported last. -/
def Scene.reported? (s : Scene σ) : Option Nat := s.frames.head?.bind (·.2)

/-- What happens from one scene to another while a frame is open that reports the lines `ls`, the
last one first. -/
structure Scene.Advances (ls : List Nat) (s s' : Scene σ) : Prop where
  history : ∃ es, s'.history = es ++ s.history ∧ Reports es ls
  outer : s'.frames.tail = s.frames.tail
  length : s'.frames.length = s.frames.length
  reported : s'.reported? = ls.head?.or s.reported?

namespace Scene.Advances

variable {ls ls' : List Nat} {s s' s'' : Scene σ}

theorem refl (s : Scene σ) : s.Advances [] s := ⟨⟨[], rfl, .none⟩, rfl, rfl, rfl⟩

theorem trans (h : s.Advances ls s') (h' : s'.Advances ls' s'') : s.Advances (ls' ++ ls) s'' where
  history := by
    obtain ⟨es, e, reports⟩ := h.history
    obtain ⟨es', e', reports'⟩ := h'.history
    exact ⟨es' ++ es, by rw [e', e, List.append_assoc], reports.append reports'⟩
  outer := h'.outer.trans h.outer
  length := h'.length.trans h.length
  reported := by
    rw [h'.reported, h.reported]
    cases ls' <;> rfl

/-- What is not reported at the end of a stretch was reported before it. -/
theorem reported_of_nil (h : s.Advances [] s') : s'.reported? = s.reported? := h.reported

end Scene.Advances

/-- What happens from one machine to another while a frame is open. -/
abbrev Machine.Advances (m : Machine σ) (ls : List Nat) (m' : Machine σ) : Prop :=
  m.scene.Advances ls m'.scene

/-- The line that the innermost frame has reported last. -/
abbrev Machine.reported? (m : Machine σ) : Option Nat := m.scene.reported?

theorem Machine.reported?_eq (m : Machine σ) :
    m.reported? = m.stack.head?.bind Frame.reported := by
  cases h : m.stack <;> simp [Machine.reported?, Machine.scene, Scene.reported?, h, Frame.view]

/-! ### Events -/

section

variable (observe : Observer σ) (fuel : Nat)

/-- At an event the history grows by the event, and the frames stay as they are. -/
theorem askObserver_frames (moment : Moment) {m : Machine σ} {f : Frame} {fs : List Frame}
    (hs : m.stack = f :: fs) : Settles (fun _ m' =>
      m'.scene.history = f.event moment.kind :: m.scene.history ∧ m'.scene.frames = m.scene.frames)
      (askObserver observe fuel moment m) := by
  rw [askObserver_eq (report_eq hs moment.kind)]
  refine (inquire_scene (m := { m with history := f.event moment.kind :: m.history }) fuel
    (Inquiry.within_of_asks fun e _ => every_of (fun _ => trivial) _) (knows_all _)).mono ?_
  rintro _ m' ⟨-, log, -, hm'⟩
  rw [hm']
  exact ⟨rfl, rfl⟩

/-- Where no frame is open, no line is reported. -/
theorem markLine_closed {r : Runner σ} {line : Nat} {force : Bool} {condition : Option Expr}
    {m : Machine σ} (closed : m.stack = []) : markLine r line force condition m = .ok () m := by
  obtain ⟨heap, stack⟩ := m
  obtain rfl : stack = [] := closed
  rfl

/-- Coming to a line reports it, unless it was the last one that was reported. -/
theorem markLine_advances {line : Nat} {force : Bool} {condition : Option Expr} {m : Machine σ}
    (isOpen : m.stack ≠ []) : Settles
      (fun _ => m.Advances (if force = false ∧ m.reported? = some line then [] else [line]))
      (markLine (watched observe fuel) line force condition m) := by
  obtain ⟨f, fs, hs⟩ := List.exists_cons_of_ne_nil isOpen
  have reported : m.reported? = f.reported := by rw [Machine.reported?_eq, hs]; rfl
  unfold markLine
  refine Settles.bind (P := fun o m' => o = some f ∧ m' = m) ?_ ?_
  · show Settles _ (.ok m.stack.head? m)
    rw [hs]
    exact .ok ⟨rfl, rfl⟩
  rintro _ m ⟨rfl, rfl⟩
  dsimp only
  have suppressed : (!force && decide (f.reported = some line)) = true ↔
      force = false ∧ m.reported? = some line := by simp [reported]
  by_cases same : force = false ∧ m.reported? = some line
  · rw [if_pos (suppressed.2 same), if_pos same, changeFrame_eq hs]
    refine .ok ⟨⟨[], rfl, .none⟩, ?_, ?_, ?_⟩ <;>
      simp [Machine.scene, hs, Scene.reported?, Frame.view]
  · rw [if_neg fun h => same (suppressed.1 h), if_neg same]
    let g : Frame := { f with line, reported := some line }
    refine Settles.bind (P := fun _ m' => m' = { m with stack := g :: fs }) ?_ ?_
    · rw [changeFrame_eq hs]
      exact .ok rfl
    rintro _ _ rfl
    refine (askObserver_frames observe fuel ⟨.line, condition⟩
      (m := { m with stack := g :: fs }) rfl).mono fun {_ m'} h => ?_
    obtain ⟨history, frames⟩ := h
    refine ⟨⟨[g.event .line], history, .line .none rfl⟩, ?_, ?_, ?_⟩
    · rw [frames]; simp [Machine.scene, hs]
    · rw [frames]; simp [Machine.scene, hs]
    · rw [Scene.reported?, frames]; rfl

end

/-! ### Frames -/

/-- A stretch of a run: where it starts, and which lines the frame may report. -/
structure Stretch (σ : Type) where
  /-- The scene at its start. -/
  start : Scene σ
  /-- The lines that may be reported. -/
  lines : Nat → Prop

/-- What is said of a stretch of a run while it goes on. -/
def Stretch.Covers (c : Stretch σ) (s : Scene σ) : Prop :=
  ∃ ls, (∀ l ∈ ls, c.lines l) ∧ c.start.Advances ls s

theorem Stretch.Covers.trans {c : Stretch σ} {s s' : Scene σ} {ls : List Nat} (h : c.Covers s)
    (further : s.Advances ls s') (lines : ∀ l ∈ ls, c.lines l) : c.Covers s' := by
  obtain ⟨done, within, advances⟩ := h
  exact ⟨ls ++ done, List.forall_mem_append.2 ⟨lines, within⟩, advances.trans further⟩

/-- The account of what a frame reports. -/
def reporting : Account σ := .ofScene Stretch.Covers (fun _ => True) True Stretch.lines

instance : (reporting : Account σ).Lawful := Account.ofScene_lawful fun _ _ => trivial

variable {observe : Observer σ} {fuel : Nat} {c : Stretch σ} {w : World}

theorem markLine_covered {line : Nat} {force : Bool} {condition : Option Expr}
    (hl : c.lines line) : reporting.coupling.Sim c w Same
      (markLine (watched observe fuel) line force condition)
      (markLine (watched observe fuel) line force condition) := by
  refine Account.sim_of_leaves fun m _ hc => ?_
  cases hs : m.stack with
  | nil =>
    rw [markLine_closed hs]
    exact .ok ⟨knows_all _, hc⟩
  | cons f fs =>
    refine Leaves.mono ((markLine_advances observe fuel (by simp [hs])).toLeaves) fun m' h => ?_
    refine ⟨knows_all _, Stretch.Covers.trans hc h ?_⟩
    split <;> simp [hl]

/-- A machine in which a frame has just been opened. -/
structure Machine.Opened (m : Machine σ) (f : Frame) (m' : Machine σ) : Prop where
  history : m'.scene.history = f.event .call :: m.scene.history
  frames : m'.scene.frames = f.view :: m.scene.frames

theorem openFrame_opened (f : Frame) (m : Machine σ) :
    Settles (fun _ m' => m.Opened f m') (openFrame (watched observe fuel) f m) := by
  refine Settles.bind (P := fun _ m' => m' = { m with stack := f :: m.stack }) (.ok rfl) ?_
  rintro _ _ rfl
  exact (askObserver_frames observe fuel ⟨.call, none⟩
    (m := { m with stack := f :: m.stack }) rfl).mono fun h => ⟨h.1, h.2⟩

/-- A frame that has been opened and is closed is one part of the stretch. -/
theorem leaveFrame_advances {m m₁ m₂ : Machine σ} {f : Frame} {ls : List Nat}
    (opened : m.Opened f m₁) (inside : m₁.Advances ls m₂) :
    Settles (fun _ => m.Advances []) (leaveFrame (watched observe fuel) m₂) := by
  obtain ⟨g, gs, hs⟩ : ∃ g gs, m₂.stack = g :: gs := by
    refine List.exists_cons_of_ne_nil fun none => ?_
    have := inside.length
    rw [opened.frames] at this
    simp [Machine.scene, none] at this
  have outer : gs.map Frame.view = m.scene.frames := by
    have := inside.outer
    rw [opened.frames] at this
    simpa [Machine.scene, hs] using this
  refine Settles.bind (askObserver_frames observe fuel ⟨.return_, none⟩ hs) ?_
  rintro _ m₃ ⟨returned, frames⟩
  have left : (m₃.stack.tail).map Frame.view = m.scene.frames := by
    rw [List.map_tail]
    exact (congrArg List.tail frames).trans (by simpa [Machine.scene, hs] using outer)
  have closed : m.Advances [] ({ m₃ with stack := m₃.stack.tail } : Machine σ) := by
    obtain ⟨es, grown, reports⟩ := inside.history
    refine ⟨⟨g.event .return_ :: (es ++ [f.event .call]), ?_, .call .none rfl reports rfl⟩,
      congrArg List.tail left, congrArg List.length left,
      congrArg (fun fs : List (Event × Option Nat) => fs.head?.bind (·.2)) left⟩
    show m₃.scene.history = _
    simp [returned, grown, opened.history]
  unfold closeFrame
  refine Settles.bind (P := fun _ m₄ => m.Advances [] m₄) (.ok closed) ?_
  rintro (_ | h) m₄ h₄
  · exact .ok h₄
  · show Settles _ (releaseScope h m₄)
    unfold releaseScope
    split <;> exact .ok h₄

/-- What runs in a frame of its own is one part of the stretch. -/
theorem runFrame_covered {f f' : Frame} {body : List Stmt} (hf : FrameRel w f f')
    (hb : ∀ c : Stretch σ, (∀ n ∈ blockLines body, c.lines n) →
      reporting.coupling.Sim c w FlowRel ((watched observe fuel).block body)
        ((watched observe fuel).block body)) :
    reporting.coupling.Sim c w ValueRel (runFrame (watched observe fuel) f body)
      (runFrame (watched observe fuel) f' body) := by
  intro m m' hm
  obtain ⟨rfl, -⟩ := id hm
  obtain rfl := Discrete.eq World.diagonal_sharp hf
  refine Account.sim_of_leaves (fun m _ hc => Leaves.mono (P := fun m' => c.Covers m'.scene) ?_
    fun _ h => ⟨knows_all _, h⟩) m m' hm
  by_cases limit : m.stack.length < recursionLimit
  · rw [runFrame_eq _ _ _ limit]
    refine (openFrame_opened f m).leaves ?_
    rintro _ m₁ opened
    have ran := Account.leaves_of_sim (T := reporting)
      (hb ⟨m₁.scene, fun _ => True⟩ fun _ _ => trivial) (knows_all _) ⟨[], by simp, .refl _⟩
    refine ran.attempt.leaves ?_
    rintro result m₂ ⟨-, ls, -, inside⟩
    refine (leaveFrame_advances opened inside).leaves ?_
    rintro _ m₃ h₃
    have covered : c.Covers m₃.scene := Stretch.Covers.trans hc h₃ (by simp)
    cases result with
    | error e => exact .error covered
    | ok flow => cases flow <;> exact .ok covered
  · have refused : runFrame (watched observe fuel) f body m =
        (do releaseScope f; fail .recursion) m := by
      show (if m.stack.length ≥ recursionLimit then _ else _ : M σ Value) m = _
      rw [if_pos (Nat.not_lt.1 limit)]
    rw [refused]
    refine Settles.leaves (P := fun _ m' => c.Covers m'.scene) ?_ fun h => .error h
    unfold releaseScope
    split <;> exact .ok hc

/-- Every task keeps within the lines of the statements that it runs. -/
theorem runner_covered (observe : Observer σ) (fuel : Nat) :
    RunnerRel reporting.coupling (watched observe fuel) (watched observe fuel) :=
  runner_rel (.ofFrame Account.reveal_sim id (fun _ _ hl _ => markLine_covered hl)
    fun _ _ hf _ hb => runFrame_covered hf fun c hl => hb c _ le_rfl hl) fuel

/-! ### What computations report -/

variable {x : M σ α} {m m' : Machine σ} {out : Except RuntimeError α} {A : Rel α α}

theorem Gives.of_leaves {P : Machine σ → Prop} (gives : Gives x m out m') (h : Leaves P (x m)) :
    P m' := by
  cases out with
  | ok a =>
    rw [Gives.ok_iff.1 gives] at h
    cases h with | ok h => exact h
  | error e =>
    rw [Gives.error_iff.1 gives] at h
    cases h with | error h => exact h

theorem Gives.of_settles {P : α → Machine σ → Prop} (gives : Gives x m out m')
    (h : Settles P (x m)) : ∃ a, out = .ok a ∧ P a m' := by
  cases out with
  | ok a =>
    rw [Gives.ok_iff.1 gives] at h
    cases h with | ok h => exact ⟨a, rfl, h⟩
  | error e =>
    rw [Gives.error_iff.1 gives] at h
    cases h

/-- What is done in a frame reports only lines that it may. -/
theorem reports_of_gives {lines : Nat → Prop} (gives : Gives x m out m')
    (h : ∀ c : Stretch σ, (∀ n, lines n → c.lines n) →
      reporting.coupling.Sim c (World.diagonal fun _ => True) A x x) :
    ∃ ls, (∀ l ∈ ls, lines l) ∧ m.Advances ls m' := by
  have left := Account.leaves_of_sim (T := reporting) (c := ⟨m.scene, lines⟩) (h _ fun _ hn => hn)
    (knows_all _) ⟨[], by simp, .refl m.scene⟩
  exact (gives.of_leaves left).2

/-- What runs no statement in the frame reports nothing. -/
theorem silent_of_gives (gives : Gives x m out m')
    (h : ∀ c : Stretch σ, reporting.coupling.Sim c (World.diagonal fun _ => True) A x x) :
    m.Advances [] m' := by
  have reports : ∃ ls, (∀ l ∈ ls, False) ∧ m.Advances ls m' :=
    reports_of_gives gives fun c _ => h c
  obtain ⟨ls, none, advances⟩ := reports
  rwa [List.eq_nil_iff_forall_not_mem.2 none] at advances

end Stepwise
