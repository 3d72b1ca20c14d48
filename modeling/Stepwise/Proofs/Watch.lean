import Stepwise.Eval.Run
import Stepwise.Proofs.Inquiry
import Stepwise.Proofs.Syntax

/-!
# Watched runs

What an observer sees of a run: the history of its events is well nested, and what the observer
remembers fits the history.

## The model

In a history as it should be calls and returns nest, and every event belongs to the innermost open
frame (`Inside`). The recursion of this grammar is that of the evaluator: while a frame is open it
reports lines, and it opens frames that are closed again before it goes on.
-/

namespace Stepwise

open Script Coupling

/-! ### Nested events -/

/-- Whether an event is the call of a function or class that is a part of a program: it bears its
name and its line. -/
def Script.Phrase.IsCalledBy : Phrase → Event → Prop
  | .function d, e => e.kind = .call ∧ e.frame = .function ∧ e.name = d.name ∧ e.line = d.pos.line
  | .cls d, e => e.kind = .call ∧ e.frame = .class_ ∧ e.name = d.name ∧ e.line = d.pos.line
  | _, _ => False

/-- An event of the same frame on another line. -/
def Event.atLine (e : Event) (line : Nat) : Event := { e with kind := .line, line }

/-- The return of the same frame on the same line. -/
def Event.closing (e : Event) : Event := { e with kind := .return_ }

/-- The events in a frame that is open: it is the `d`-th open frame, it was opened by the event
`call`, `es` has happened since, and `last` is its own last event. Frames inside of it are opened by
parts that satisfy `phrase`. -/
inductive Inside (phrase : Phrase → Prop) : (d : Nat) → (call : Event) → (es : List Event) →
    (last : Event) → Prop
  /-- Nothing has happened in the frame. -/
  | start {d call} : Inside phrase d call [] call
  /-- The frame has come to a line. -/
  | line {d call es last} (h : Inside phrase d call es last) (n : Nat) :
    Inside phrase d call (es ++ [last.atLine n]) (last.atLine n)
  /-- Another frame has been opened and closed. -/
  | call {d call es last call' es' last'} (h : Inside phrase d call es last)
    (limit : d < recursionLimit) (part : ∃ n, phrase n ∧ n.IsCalledBy call')
    (inner : Inside phrase (d + 1) call' es' last') :
    Inside phrase d call (es ++ (call' :: es' ++ [last'.closing])) last

namespace Inside

variable {phrase : Phrase → Prop} {d : Nat} {call last : Event} {es : List Event}

/-- The last event of a frame is in the frame that was called. -/
theorem same_frame (h : Inside phrase d call es last) :
    last.name = call.name ∧ last.frame = call.frame ∧ last.locals = call.locals := by
  induction h with
  | start => exact ⟨rfl, rfl, rfl⟩
  | line _ n ih => exact ih
  | call _ _ _ _ ih _ => exact ih

end Inside

/-- The events of a whole run: those of the frame of a module, which is called on line 0. -/
def WellNested (phrase : Phrase → Prop) (es : List Event) : Prop :=
  ∃ globals inner last,
    es = ⟨.call, moduleName, .module, globals, 0⟩ :: inner ++ [last.closing] ∧
      Inside phrase 1 ⟨.call, moduleName, .module, globals, 0⟩ inner last

/-! ### Replaying a history -/

/-- What one event does to the open frames, each known by its own last event: a call opens a frame
unless too many are open, a line is one of the innermost frame, and a return closes that frame on
the line it has come to. -/
def replay (open_ : List Event) (e : Event) : Option (List Event) :=
  match e.kind, open_ with
  | .call, fs => if fs.length < recursionLimit then some (e :: fs) else none
  | .line, f :: fs => if e = f.atLine e.line then some (e :: fs) else none
  | .return_, f :: fs => if e = f.closing then some fs else none
  | _, [] => none

theorem replay_call {e : Event} {fs : List Event} (hk : e.kind = .call)
    (limit : fs.length < recursionLimit) : replay fs e = some (e :: fs) := by
  simp only [replay, hk, if_pos limit]

theorem replay_line (e : Event) (fs : List Event) (n : Nat) :
    replay (e :: fs) (e.atLine n) = some (e.atLine n :: fs) :=
  if_pos rfl

theorem replay_return (e : Event) (fs : List Event) : replay (e :: fs) e.closing = some fs :=
  if_pos rfl

theorem Script.Phrase.IsCalledBy.kind {n : Phrase} {e : Event} (h : n.IsCalledBy e) :
    e.kind = .call := by
  cases n with
  | function | cls => exact h.1
  | _ => cases h

/-- The events in a frame leave the frames around it open. -/
theorem Inside.replays {phrase : Phrase → Prop} {d : Nat} {call last : Event} {es : List Event}
    (h : Inside phrase d call es last) : ∀ fs : List Event, fs.length + 1 = d →
    es.foldlM replay (call :: fs) = some (last :: fs) := by
  induction h with
  | start => exact fun _ _ => rfl
  | line _ n ih =>
    intro fs hfs
    simp [ih fs hfs, replay_line]
  | @call _ _ _ last call' _ _ _ limit part _ ih ih' =>
    intro fs hfs
    obtain ⟨n, -, hn⟩ := part
    have called : replay (last :: fs) call' = some (call' :: last :: fs) :=
      replay_call hn.kind (by rw [List.length_cons, hfs]; exact limit)
    have inside := ih' (last :: fs) (congrArg (· + 1) hfs)
    simp [ih fs hfs, called, inside, replay_return]

/-- A well nested history can be replayed: its events open and close frames in order, there are
never too many of them, and none is left open. -/
theorem WellNested.replays {phrase : Phrase → Prop} {es : List Event} (h : WellNested phrase es) :
    es.foldlM replay [] = some [] := by
  obtain ⟨globals, inner, last, rfl, inside⟩ := h
  have called : replay [] ⟨.call, moduleName, .module, globals, 0⟩ =
      some [⟨.call, moduleName, .module, globals, 0⟩] := replay_call rfl (by decide)
  simp [called, inside.replays [] rfl, replay_return]

/-! ### Keeping an account of the history -/

variable {σ : Type}

/-- Whether an event is on the line of a part of the program, or on the line 0 on which a module is
called. A module returns on that line only if it is `bare`. -/
def Reported (bare : Prop) (phrase : Phrase → Prop) (e : Event) : Prop :=
  (e.frame = .module ∧ e.line = 0 ∧ (e.kind = .call ∨ e.kind = .return_ ∧ bare)) ∨
    ∃ n, phrase n ∧ n.line? = some e.line

/-- What an observer remembers of a history, and that it only asks for expressions with certain
parts. -/
structure Keeps (observe : Observer σ) (bare : Prop) (phrase : Phrase → Prop)
    (J : σ → List Event → Prop) : Prop where
  keeps : ∀ {moment m f fs h}, m.stack = f :: fs → Reported bare phrase (f.event moment.kind) →
    m.history = f.event moment.kind :: h → J m.log h →
    (observe moment m).Within (fun e => Every phrase e.parts) (J · m.history)

/-- What stays fixed while a frame is open: the events before it, the event that opened it, and the
frames around it. -/
structure Setting where
  /-- The events before the frame, the last one first. -/
  before : List Event
  /-- The call of the frame. -/
  call : Event
  /-- The frames around. -/
  outer : List (Event × Option Nat)

/-- The history of a run in an open frame. All open frames may return where they are. -/
structure Setting.Fits (bare : Prop) (phrase : Phrase → Prop) (J : σ → List Event → Prop)
    (c : Setting) (s : Scene σ) : Prop where
  awake : s.inspecting = false
  log : J s.log s.history
  lines : ∀ v ∈ s.frames, Reported bare phrase v.1.closing
  inside : ∃ es last reported, Inside phrase (c.outer.length + 1) c.call es last ∧
    s.history = es.reverse ++ c.call :: c.before ∧
    s.frames = (last.atLine last.line, reported) :: c.outer ∧
    ∀ line, reported = some line → last.line = line

/-- The account of a watched run. -/
def watching (bare : Prop) (phrase : Phrase → Prop) (J : σ → List Event → Prop) : Account σ :=
  .ofScene (Setting.Fits bare phrase J) phrase True

instance {bare : Prop} {phrase : Phrase → Prop} {J : σ → List Event → Prop} :
    (watching bare phrase J).Lawful :=
  Account.ofScene_lawful fun _ _ => trivial

variable {observe : Observer σ} {bare : Prop} {phrase : Phrase → Prop} {J : σ → List Event → Prop}

/-- At an event the history grows by the event, and the observer remembers it. -/
theorem askObserver_scene (ho : Keeps observe bare phrase J) (fuel : Nat) (moment : Moment)
    {m : Machine σ} {f : Frame} {fs : List Frame} (hs : m.stack = f :: fs)
    (hl : Reported bare phrase (f.event moment.kind)) (hk : m.heap.Knows phrase)
    (hJ : J m.log m.history) :
    Settles (fun _ m' => m'.heap.Knows phrase ∧ ∃ log, J log (f.event moment.kind :: m.history) ∧
        m'.scene = ⟨f.event moment.kind :: m.history, m.stack.map Frame.view, log, m.inspecting⟩)
      (askObserver observe fuel moment m) := by
  rw [askObserver_eq (report_eq hs moment.kind)]
  exact inquire_scene (m := { m with history := f.event moment.kind :: m.history }) fuel
    (ho.keeps (m := { m with history := f.event moment.kind :: m.history }) hs hl rfl hJ) hk

/-- The running frame belongs to the last event of its history. -/
theorem Setting.Fits.frame {c : Setting} {m : Machine σ} (h : c.Fits bare phrase J m.scene) :
    ∃ es last f fs, Inside phrase (c.outer.length + 1) c.call es last ∧
      m.history = es.reverse ++ c.call :: c.before ∧ m.stack = f :: fs ∧
      f.event .line = last.atLine last.line ∧ fs.map Frame.view = c.outer ∧
      ∀ line, f.reported = some line → last.line = line := by
  obtain ⟨-, -, -, es, last, reported, inside, history, frames, hline⟩ := h
  cases e : m.stack with
  | nil => simp [Machine.scene, e] at frames
  | cons f fs =>
    obtain ⟨⟨hev, rfl⟩, houter⟩ : (f.event .line = last.atLine last.line ∧ f.reported = reported) ∧
        fs.map Frame.view = c.outer := by
      simpa [Machine.scene, e, Frame.view] using frames
    exact ⟨es, last, f, fs, inside, history, rfl, hev, houter, hline⟩

/-- Changing the running frame. -/
theorem changeFrame_eq {m : Machine σ} {f : Frame} {fs : List Frame} (hs : m.stack = f :: fs)
    (g : Frame → Frame) : changeFrame g m = .ok () { m with stack := g f :: fs } := by
  show EStateM.Result.ok () { m with stack := m.stack.modifyHead g } = _
  rw [hs]
  rfl

/-- An event on the line of a part of the program. -/
theorem Reported.of_line {e : Event} (h : ∃ n, phrase n ∧ n.line? = some e.line) :
    Reported bare phrase e := .inr h

/-- Reporting a line in the running frame. -/
theorem reportLine_watching (ho : Keeps observe bare phrase J) (fuel : Nat) {c : Setting} {line : Nat}
    {condition : Option Expr} (hl : ∃ n, phrase n ∧ n.line? = some line) {m : Machine σ} {f : Frame}
    {fs : List Frame} {es : List Event} {last : Event} (hk : m.heap.Knows phrase)
    (awake : m.inspecting = false) (hJ : J m.log m.history) (hs : m.stack = f :: fs)
    (inside : Inside phrase (c.outer.length + 1) c.call es last)
    (history : m.history = es.reverse ++ c.call :: c.before)
    (hev : f.event .line = last.atLine last.line) (houter : fs.map Frame.view = c.outer)
    (lines : ∀ v ∈ c.outer, Reported bare phrase v.1.closing) :
    Leaves (fun m' => m'.heap.Knows phrase ∧ c.Fits bare phrase J m'.scene)
      ((do
        changeFrame ({ · with line, reported := some line })
        (watched observe fuel).notify ⟨.line, condition⟩) m) := by
  refine Settles.leaves (P := fun _ m' => m' = { m with
    stack := { f with line, reported := some line } :: fs }) ?_ ?_
  · rw [changeFrame_eq hs]
    exact .ok rfl
  rintro _ _ rfl
  have event : ({ f with line, reported := some line } : Frame).event .line = last.atLine line :=
    congrArg (Event.atLine · line) hev
  refine (askObserver_scene ho fuel _ rfl (.of_line hl) hk hJ
    (m := { m with stack := { f with line, reported := some line } :: fs })).mono ?_ |>.toLeaves
  rintro _ m' ⟨hk', log, hJ, hm'⟩
  rw [event] at hJ hm'
  refine ⟨hk', ?_⟩
  rw [hm']
  refine ⟨awake, hJ, List.forall_mem_cons.2 ⟨.of_line hl, houter ▸ lines⟩, _, _, some line,
    inside.line line, ?_, ?_, by rintro _ ⟨⟩; rfl⟩
  · simp [history]
  · rw [List.map_cons, houter, Frame.view, event]
    rfl

/-- Coming to a line keeps the history well nested. -/
theorem markLine_watching (ho : Keeps observe bare phrase J) (fuel : Nat) {c : Setting} {w : World}
    {line : Nat} {force : Bool} {condition : Option Expr}
    (hl : ∃ n, phrase n ∧ n.line? = some line) :
    (watching bare phrase J).coupling.Sim c w Same
      (markLine (watched observe fuel) line force condition)
      (markLine (watched observe fuel) line force condition) := by
  refine Account.sim_of_leaves fun m hk hf => ?_
  obtain ⟨es, last, f, fs, inside, history, hs, hev, houter, hline⟩ := hf.frame
  unfold markLine
  refine Settles.leaves (P := fun o m' => o = some f ∧ m' = m) ?_ ?_
  · show Settles _ (.ok m.stack.head? m)
    rw [hs]
    exact .ok ⟨rfl, rfl⟩
  rintro _ m ⟨rfl, rfl⟩
  dsimp only
  split
  case isTrue h =>
    -- the line was the last one reported, so the frame is on it already
    have there : f.line = line := by
      have : f.reported = some line := by simp_all
      exact (congrArg Event.line hev).trans (hline line this)
    rw [changeFrame_eq hs, ← there]
    refine .ok ⟨hk, ?_⟩
    have same : ({ m with stack := { f with line := f.line } :: fs } : Machine σ) = m := by
      rw [← hs]
    exact same ▸ hf
  case isFalse =>
    have lines : ∀ v ∈ c.outer, Reported bare phrase v.1.closing := fun v hv => by
      refine hf.lines v ?_
      rw [Machine.scene, hs, List.map_cons, houter]
      exact List.mem_cons_of_mem _ hv
    exact reportLine_watching ho fuel hl hk hf.awake hf.log hs inside history hev houter lines

/-- A frame that has just been opened: nothing has happened in it. -/
structure Setting.Opened (J : σ → List Event → Prop) (c : Setting) (s : Scene σ) : Prop where
  awake : s.inspecting = false
  log : J s.log s.history
  history : s.history = c.call :: c.before
  frames : s.frames = (c.call.atLine c.call.line, none) :: c.outer

theorem Setting.Opened.fits {c : Setting} {s : Scene σ} (h : c.Opened J s)
    (call : Reported bare phrase c.call.closing)
    (outer : ∀ v ∈ c.outer, Reported bare phrase v.1.closing) : c.Fits bare phrase J s :=
  ⟨h.awake, h.log, h.frames ▸ List.forall_mem_cons.2 ⟨call, outer⟩, [], _, none, .start, h.history,
    h.frames, nofun⟩

/-- Opening a frame starts its history. -/
theorem openFrame_watching (ho : Keeps observe bare phrase J) (fuel : Nat) {m : Machine σ}
    {f : Frame} (hk : m.heap.Knows phrase) (awake : m.inspecting = false) (hJ : J m.log m.history)
    (hl : Reported bare phrase (f.event .call)) (hf : f.reported = none) :
    Settles (fun _ m' => m'.heap.Knows phrase ∧
        Setting.Opened J ⟨m.history, f.event .call, m.stack.map Frame.view⟩ m'.scene)
      ((do pushFrame f; (watched observe fuel).notify ⟨.call, none⟩) m) := by
  refine Settles.bind (P := fun _ m' => m' = { m with stack := f :: m.stack }) (.ok rfl) ?_
  rintro _ _ rfl
  refine
    (askObserver_scene (m := { m with stack := f :: m.stack }) ho fuel _ rfl hl hk hJ).mono ?_
  rintro _ m' ⟨hk', log, hJ', hm'⟩
  refine ⟨hk', hm' ▸ ⟨awake, hJ', rfl, ?_⟩⟩
  rw [List.map_cons, Frame.view, hf]
  rfl

/-- A frame that has just been opened comes to its first line. -/
theorem markLine_opened (ho : Keeps observe bare phrase J) (fuel : Nat) {c : Setting} {line : Nat}
    {condition : Option Expr} (hl : ∃ n, phrase n ∧ n.line? = some line) {m : Machine σ}
    (hk : m.heap.Knows phrase) (h : c.Opened J m.scene)
    (outer : ∀ v ∈ c.outer, Reported bare phrase v.1.closing) :
    Leaves (fun m' => m'.heap.Knows phrase ∧ c.Fits bare phrase J m'.scene)
      (markLine (watched observe fuel) line false condition m) := by
  cases hs : m.stack with
  | nil => simpa [Machine.scene, hs] using h.frames
  | cons f fs =>
    obtain ⟨⟨hev, hreported⟩, houter⟩ : (f.event .line = c.call.atLine c.call.line ∧
        f.reported = none) ∧ fs.map Frame.view = c.outer := by
      simpa [Machine.scene, hs, Frame.view] using h.frames
    unfold markLine
    refine Settles.leaves (P := fun o m' => o = some f ∧ m' = m) ?_ ?_
    · show Settles _ (.ok m.stack.head? m)
      rw [hs]
      exact .ok ⟨rfl, rfl⟩
    rintro _ m ⟨rfl, rfl⟩
    dsimp only
    rw [if_neg (by simp [hreported])]
    exact reportLine_watching ho fuel hl hk h.awake h.log hs .start h.history hev houter outer

/-- Giving up the scope of a frame. -/
theorem releaseScope_scene {m : Machine σ} (f : Frame) (hk : m.heap.Knows phrase) :
    Settles (fun _ m' => m'.heap.Knows phrase ∧ m'.scene = m.scene) (releaseScope f m) := by
  unfold releaseScope
  split
  · exact .ok ⟨hk.free, rfl⟩
  · exact .ok ⟨hk, rfl⟩

theorem closeFrame_scene {m : Machine σ} (hk : m.heap.Knows phrase) :
    Settles (fun _ m' => m'.heap.Knows phrase ∧ m'.scene = { m.scene with
      frames := m.stack.tail.map Frame.view }) (closeFrame m) := by
  unfold closeFrame
  refine Settles.bind (P := fun _ m' => m' = { m with stack := m.stack.tail }) (.ok rfl) ?_
  rintro o _ rfl
  cases o with
  | none => exact .ok ⟨hk, rfl⟩
  | some f => exact releaseScope_scene (m := { m with stack := m.stack.tail }) f hk

/-- Closing a frame completes its history. -/
theorem closeFrame_watching (ho : Keeps observe bare phrase J) (fuel : Nat) {c : Setting} {m : Machine σ}
    (hk : m.heap.Knows phrase) (hf : c.Fits bare phrase J m.scene) :
    Settles (fun _ m' => m'.heap.Knows phrase ∧ ∃ es last log,
        Inside phrase (c.outer.length + 1) c.call es last ∧
        J log (last.closing :: (es.reverse ++ c.call :: c.before)) ∧
        m'.scene = ⟨last.closing :: (es.reverse ++ c.call :: c.before), c.outer, log, false⟩)
      ((do (watched observe fuel).notify ⟨.return_, none⟩; closeFrame) m) := by
  obtain ⟨es, last, f, fs, inside, history, hs, hev, houter, hline⟩ := hf.frame
  have event : f.event .return_ = last.closing := congrArg Event.closing hev
  have here : Reported bare phrase (f.event .return_) :=
    hf.lines f.view (by rw [Machine.scene, hs]; exact List.mem_cons_self ..)
  refine (askObserver_scene ho fuel _ hs here hk hf.log).bind ?_
  rintro _ m' ⟨hk', log, hJ, hm'⟩
  rw [event, history] at hJ hm'
  refine (closeFrame_scene hk').mono ?_
  rintro _ m'' ⟨hk'', hm''⟩
  refine ⟨hk'', es, last, log, inside, hJ, hm''.trans ?_⟩
  have frames : m'.stack.map Frame.view = m.stack.map Frame.view := congrArg Scene.frames hm'
  have awake : m.inspecting = false := hf.awake
  rw [hm', ← houter, List.map_tail, frames, hs, awake]
  rfl

/-- A run of a frame: it is opened, its body runs, it is closed, and then its result comes out. -/
theorem runFrame_eq (r : Runner σ) (f : Frame) (body : List Stmt) {m : Machine σ}
    (limit : m.stack.length < recursionLimit) :
    runFrame r f body m = ((do pushFrame f; r.notify ⟨.call, none⟩) >>= fun _ =>
      attempt (r.block body) >>= fun result =>
      (do r.notify ⟨.return_, none⟩; closeFrame) >>= fun _ =>
      match result with
      | .error e => rethrow e
      | .ok flow => do
        goTo m.pos
        match flow with
        | .return_ v => return v
        | _ => return .none) m := by
  have grouped {α β : Type} (a b d e : M σ Unit) (c : M σ α) (next : α → M σ β) :
      (do a; b; let result ← c; d; e; next result) =
        (do a; b) >>= fun _ => c >>= fun result => (do d; e) >>= fun _ => next result := by
    simp only [bind_assoc]
  show (if m.stack.length ≥ recursionLimit then _ else _ : M σ Value) m = _
  rw [if_neg (Nat.not_le.2 limit)]
  exact congrFun (grouped ..) m

/-- Running a body in a frame adds the history of the frame. -/
theorem runFrame_watching (ho : Keeps observe bare phrase J) (fuel : Nat) {m : Machine σ} {f : Frame}
    {body : List Stmt} (hk : m.heap.Knows phrase) (awake : m.inspecting = false)
    (hJ : J m.log m.history) (hl : Reported bare phrase (f.event .call)) (hf : f.reported = none)
    (limit : m.stack.length < recursionLimit)
    (hb : ∀ m₁, m₁.heap.Knows phrase →
      Setting.Opened J ⟨m.history, f.event .call, m.stack.map Frame.view⟩ m₁.scene →
      Leaves (fun m' => m'.heap.Knows phrase ∧ Setting.Fits bare phrase J
          ⟨m.history, f.event .call, m.stack.map Frame.view⟩ m'.scene)
        ((watched observe fuel).block body m₁)) :
    Leaves (fun m' => m'.heap.Knows phrase ∧ ∃ es last log,
        Inside phrase (m.stack.length + 1) (f.event .call) es last ∧
        J log (last.closing :: (es.reverse ++ f.event .call :: m.history)) ∧
        m'.scene = ⟨last.closing :: (es.reverse ++ f.event .call :: m.history),
          m.stack.map Frame.view, log, false⟩)
      (runFrame (watched observe fuel) f body m) := by
  rw [runFrame_eq _ _ _ limit]
  refine (openFrame_watching ho fuel hk awake hJ hl hf).leaves ?_
  rintro _ m₁ ⟨hk₁, opened⟩
  refine (hb m₁ hk₁ opened).attempt.leaves ?_
  rintro result m₂ ⟨hk₂, hf₂⟩
  refine (closeFrame_watching ho fuel hk₂ hf₂).leaves ?_
  rintro _ m₃ ⟨hk₃, h₃⟩
  rw [List.length_map] at h₃
  cases result with
  | error e => exact .error ⟨hk₃, h₃⟩
  | ok flow => cases flow <;> exact .ok ⟨hk₃, h₃⟩

theorem Opens.reported {f : Frame} {body : List Stmt} (h : Opens phrase f body) :
    f.reported = none := by
  cases h with
  | function _ _ _ _ _ reported => exact reported
  | cls _ _ _ _ _ reported => exact reported

theorem Opens.line {f : Frame} {body : List Stmt} (h : Opens phrase f body) :
    ∃ n, phrase n ∧ n.line? = some f.line := by
  cases h with
  | function d hd _ _ line => exact ⟨_, hd, congrArg some line.symm⟩
  | cls d hd _ _ line => exact ⟨_, hd, congrArg some line.symm⟩

/-- The call of a frame that runs a part of the program. -/
theorem Opens.calls {f : Frame} {body : List Stmt} (h : Opens phrase f body) :
    ∃ n, phrase n ∧ n.IsCalledBy (f.event .call) := by
  cases h with
  | function d hd name kind line => exact ⟨_, hd, rfl, kind, name, line⟩
  | cls d hd name kind line => exact ⟨_, hd, rfl, kind, name, line⟩

/-- A run of a part of the program inside of a frame keeps the history of that frame well nested. -/
theorem runFrame_inside (ho : Keeps observe bare phrase J) (fuel : Nat) {c : Setting} {w : World}
    {f f' : Frame} {body : List Stmt} (hf : FrameRel w f f') (hopen : Opens phrase f body)
    (hb : ∀ c, (watching bare phrase J).coupling.Sim c w FlowRel
      ((watched observe fuel).block body) ((watched observe fuel).block body)) :
    (watching bare phrase J).coupling.Sim c w ValueRel (runFrame (watched observe fuel) f body)
      (runFrame (watched observe fuel) f' body) := by
  intro m m' hm
  obtain ⟨rfl, -⟩ := id hm
  obtain rfl := Discrete.eq World.diagonal_sharp hf
  refine Account.sim_of_leaves (fun m hk hc => ?_) m m' hm
  obtain ⟨awake, log, lines, es, last, reported, inside, history, frames, hline⟩ := id hc
  have depth : m.stack.length = c.outer.length + 1 := by
    simpa [Machine.scene] using congrArg List.length frames
  by_cases limit : m.stack.length < recursionLimit
  · have body {m₁ : Machine σ} (hk₁ : m₁.heap.Knows phrase) (opened : Setting.Opened J
        ⟨m.history, f.event .call, m.stack.map Frame.view⟩ m₁.scene) := Account.leaves_of_sim
      (T := watching bare phrase J) (hb _) hk₁ (opened.fits (.of_line hopen.line) lines)
    refine (runFrame_watching ho fuel hk awake log (.of_line hopen.line) hopen.reported limit
      fun _ hk₁ opened => body hk₁ opened).mono ?_
    rintro m' ⟨hk', es', last', log', inside', hJ, hm'⟩
    rw [depth] at inside' limit
    refine ⟨hk', ?_⟩
    show c.Fits bare phrase J m'.scene
    rw [hm']
    refine ⟨rfl, hJ, lines, _, last, reported, inside.call limit hopen.calls inside', ?_, frames,
      hline⟩
    have history : m.history = es.reverse ++ c.call :: c.before := history
    simp [history]
  · have refused : runFrame (watched observe fuel) f body m =
        (do releaseScope f; fail .recursion) m := by
      show (if m.stack.length ≥ recursionLimit then _ else _ : M σ Value) m = _
      rw [if_pos (Nat.not_lt.1 limit)]
    rw [refused]
    refine (releaseScope_scene f hk).leaves ?_
    rintro _ m' ⟨hk', hm'⟩
    exact .error ⟨hk', (hm' ▸ hc : c.Fits bare phrase J m'.scene)⟩

/-- A watched run keeps its history well nested. -/
theorem tell_watching (ho : Keeps observe bare phrase J) :
    TellRel (watching bare phrase J).coupling (askObserver observe) (pure ()) (askObserver observe)
      (pure ()) :=
  .ofFrame Account.reveal_sim id (fun fuel _ _ hl => markLine_watching ho fuel hl)
    fun fuel _ hf hopen hb =>
      runFrame_inside ho fuel hf hopen fun c => hb c _ le_rfl fun _ _ => trivial

/-! ### Whole runs -/

/-- A machine that has run nothing yet. -/
structure Machine.Fresh (phrase : Phrase → Prop) (m : Machine σ) : Prop where
  knows : m.heap.Knows phrase
  stack : m.stack = []
  history : m.history = []
  awake : m.inspecting = false

theorem exceptionClasses_knows {h : Heap} (H : h.Knows phrase) :
    (exceptionClasses h).2.Knows phrase :=
  List.foldlRecOn (motive := fun s : List (String × Address) × Heap => s.2.Knows phrase)
    exceptionHierarchy _ H fun _ hs _ _ => hs.alloc trivial

/-- A machine at its start has run nothing yet. -/
theorem Machine.start_fresh (log : σ) : (Machine.start log).Fresh phrase where
  knows := by
    have empty : Heap.empty.Knows phrase := fun a o h => by
      simp [Heap.empty, Heap.get?] at h
    exact exceptionClasses_knows (empty.alloc trivial)
  stack := rfl
  history := rfl
  awake := rfl

/-- The statements of a module come to a line before anything else happens. -/
theorem block_watching {p : Program} (ho : Keeps observe (p = []) phrase J)
    (hp : Every phrase (blockParts p)) (fuel : Nat) {c : Setting} (outer : c.outer = [])
    (call : c.call.frame = .module ∧ c.call.line = 0) {m : Machine σ} (hk : m.heap.Knows phrase)
    (opened : c.Opened J m.scene) :
    Leaves (fun m' => m'.heap.Knows phrase ∧ c.Fits (p = []) phrase J m'.scene)
      ((watched observe fuel).block p m) := by
  have outer : ∀ v ∈ c.outer, Reported (p = []) phrase v.1.closing := by simp [outer]
  cases p with
  | nil => exact .ok ⟨hk, opened.fits (.inl ⟨call.1, call.2, .inr ⟨rfl, rfl⟩⟩) outer⟩
  | cons s ss =>
    cases fuel with
    | zero => exact .outOfFuel
    | succ fuel =>
      obtain ⟨here, rest⟩ : Every phrase s.parts ∧ Every phrase (blockParts ss) := by
        rwa [blockParts, every_append] at hp
      obtain ⟨action, pos, stop⟩ := s
      rw [Stmt.parts, every_cons] at here
      have line : ∃ n, phrase n ∧ n.line? = some pos.line := ⟨_, here.1, rfl⟩
      show Leaves _ ((execStmt (watched observe fuel) _ >>= _) m)
      rw [execStmt, bind_assoc]
      show Leaves _ (((markLine _ _ _ _ >>= fun _ => execAction _ action pos) >>= _) { m with pos })
      rw [bind_assoc]
      refine Leaves.bind
        (markLine_opened ho fuel line (m := { m with pos }) hk opened outer) ?_ fun _ fits => fits
      rintro _ m₁ ⟨hk₁, fits⟩
      have hr := fun fuel => runner_rel (tell_watching ho) fuel
      refine Account.leaves_of_sim (T := watching _ phrase J) (A := FlowRel) ?_ hk₁ fits
      refine (execAction_sim (hr fuel) trivial here.2 (fun _ _ => trivial) trivial line).bind ?_
      intro w₁ f f' _ hf
      have same := hf
      cases hf with
      | normal => exact block_sim (hr (fuel + 1)) trivial rest fun _ _ => trivial
      | _ => exact .pure same

/-- A watched run of a program adds the well nested history of its module. -/
theorem runProgram_watching {p : Program} (ho : Keeps observe (p = []) phrase J)
    (hp : Every phrase (blockParts p)) (fuel : Nat) {m : Machine σ} (hm : m.Fresh phrase)
    (hJ : J m.log []) :
    Leaves (fun m' => WellNested phrase m'.history.reverse ∧ J m'.log m'.history)
      (runProgram (watched observe fuel) p m) := by
  have outer : m.stack.map Frame.view = [] := by rw [hm.stack, List.map_nil]
  have body : Leaves _
      (runFrame (watched observe fuel) (Frame.start moduleName .module m.globals 0) p m) :=
    runFrame_watching ho fuel hm.knows hm.awake (hm.history ▸ hJ) (.inl ⟨rfl, rfl, .inl rfl⟩) rfl
      (by rw [hm.stack]; decide) fun _ hk opened =>
        block_watching ho hp fuel outer ⟨rfl, rfl⟩ hk opened
  have whole := body.mono (Q := fun m' => WellNested phrase m'.history.reverse ∧
    J m'.log m'.history) ?_
  · exact whole.bind (f := fun _ => pure ()) (fun h => .ok h) fun _ h => h
  rintro m' ⟨-, es, last, log, inside, hJ', hm'⟩
  obtain ⟨history, -, same, -⟩ := Scene.mk.inj hm'
  rw [hm.history] at history hJ'
  rw [hm.stack] at inside
  rw [same, history]
  refine ⟨⟨m.globals, es, last, ?_, inside⟩, hJ'⟩
  simp [Frame.start, Frame.event]

/-- The parts of a program and of the expressions that an observer may ask about. -/
def seenParts (observe : Observer σ) (p : Program) (n : Phrase) : Prop :=
  n ∈ blockParts p ∨ ∃ moment m e, (observe moment m).Asks e ∧ n ∈ e.parts

/-- The events of a run are well nested, whatever the observer asks. Its inquiries add no event. -/
theorem history_wellNested (observe : Observer σ) (p : Program) (fuel : Nat) (log : σ) :
    Leaves (fun m => WellNested (seenParts observe p) m.history.reverse)
      (runProgram (watched observe fuel) p (Machine.start log)) ∧
    ∀ n (q : Inquiry σ) m,
      Settles (fun _ m' => m'.history = m.history) (inquire (quiet n) q m) := by
  have asked : Keeps observe (p = []) (seenParts observe p) fun _ _ => True :=
    ⟨fun {moment m} _ _ _ _ _ _ _ => Inquiry.within_of_asks fun e he n hn =>
      .inr ⟨moment, m, e, he, hn⟩⟩
  refine ⟨?_, inquire_history⟩
  exact (runProgram_watching asked (fun n hn => .inl hn) fuel (Machine.start_fresh log)
    trivial).mono fun _ h => h.1

end Stepwise
