import Stepwise.Proofs.Relation.Diagonal

/-!
# Accounts of single runs

What can be said of one run at a time. An `Account` says what fits a machine while a part of a run
goes on; if everything that the evaluator does to a machine keeps it fitting (`Account.Lawful`),
then the run, coupled with itself, keeps it fitting throughout.

## The model

Most accounts speak of nothing but the `Scene`: the history of events, the open frames as an
observer sees them, and what the observer remembers. Objects, output and positions may change then
in any way (`Account.ofScene`).
-/

namespace Stepwise

open Script Coupling

variable {σ α : Type}

/-- What is said of the machine of a run. -/
structure Account (σ : Type) where
  /-- What stays fixed while a part of the run goes on. -/
  Ctx : Type
  /-- What is said. -/
  Fits : Ctx → Machine σ → Prop
  /-- The parts of programs that are evaluated. -/
  phrase : Phrase → Prop
  /-- The lines that the running frame reports itself. -/
  line : Ctx → Nat → Prop := fun _ _ => True
  /-- The parts of the functions on the heap. -/
  known : Phrase → Prop
  /-- Whether objects may be changed. -/
  changes : Prop
  /-- Whether statements may run. -/
  executes : Prop
  /-- Names that stand for harmless functions. -/
  harmless : String → Prop
  /-- Values that may be called. -/
  Tame : Value → Prop

namespace Account

/-- What fits a machine still fits after each thing that the evaluator does to it. -/
class Lawful (T : Account σ) : Prop where
  phrase : T.changes → T.known = T.phrase
  changes : T.executes → T.changes
  calm : T.changes ∨ ∀ e, T.phrase (.expr e) → e.Calm T.harmless
  harmless : ∀ {c m x}, T.Fits c m → T.harmless x →
    ∃ b, m.lookup? x = some (.builtin b) ∧ b.isPure = true
  executes : ∀ {c m}, T.Fits c m → m.inspecting = false → T.executes
  tame : T.changes → ∀ v, T.Tame v
  special : ∀ {c m a name v}, T.Fits c m → name ∈ specialMethods →
    m.heap.classLookup? a name = some v → T.Tame v.1
  inert : ∀ {c m v}, T.Fits c m → T.Tame v → T.changes ∨ Inert m.heap v
  alloc : ∀ {c m o}, T.Fits c m → (∀ cls, o ≠ .cls cls) →
    T.Fits c { m with heap := (m.heap.alloc o).2 }
  tuple : ∀ {c m} items, T.Fits c m → T.Fits c { m with heap := (m.heap.tuple items).2 }
  heap : ∀ {c m} h, T.changes → T.Fits c m → T.Fits c { m with heap := h }
  output : ∀ {c m} text, T.changes → T.Fits c m → T.Fits c { m with output := text }
  frame : ∀ {c m g}, T.changes → Amends g → T.Fits c m →
    T.Fits c { m with stack := m.stack.modifyHead g }
  pos : ∀ {c m} pos, T.executes → T.Fits c m → T.Fits c { m with pos }
  modules : ∀ {c m} modules, T.executes → T.Fits c m → T.Fits c { m with modules }
  handled : ∀ {c m} e, T.executes → T.Fits c m → ∃ c',
    T.Fits c' { m with handled := e :: m.handled } ∧
      (∀ m', T.Fits c' m' → T.Fits c { m' with handled := m'.handled.tail }) ∧
      ∀ n, T.line c n → T.line c' n
  writing : ∀ {c m} a, T.Fits c m → ∃ c', T.Fits c' { m with writing := a :: m.writing } ∧
    (∀ m', T.Fits c' m' → T.Fits c { m' with writing := m'.writing.tail }) ∧
    ∀ n, T.line c n → T.line c' n

/-- The machines of a run coupled with itself. -/
structure Holds (T : Account σ) (c : T.Ctx) (w : World) (m m' : Machine σ) : Prop where
  world : w = World.diagonal T.known
  eq : m = m'
  knows : m.heap.Knows T.known
  fits : T.Fits c m

/-- A run coupled with itself. If the two are `uneven`, the left one may run out of fuel alone. -/
def beside (T : Account σ) (uneven : Prop) : Coupling σ σ where
  Ctx := T.Ctx
  Holds := T.Holds
  phrase := T.phrase
  line := T.line
  changes := T.changes
  executes := T.executes
  harmless := T.harmless
  Tame := T.Tame
  lopsided := False
  Left := uneven
  Right := False
  Stops _ _ := True
  stops _ := trivial
  slack := False.elim

/-- A run coupled with itself, step by step. -/
abbrev coupling (T : Account σ) : Coupling σ σ := T.beside False

variable {T : Account σ} {uneven : Prop} {c : T.Ctx} {w : World} {β : Type} {A : Rel α β}

/-- Computations that do the same one thing to a machine that fits. -/
theorem sim_of {x : M σ α} {y : M σ β}
    (h : ∀ m, w = World.diagonal T.known → m.heap.Knows T.known → T.Fits c m →
      ∃ a b m', x m = .ok a m' ∧ y m = .ok b m' ∧ A w a b ∧ m'.heap.Knows T.known ∧ T.Fits c m') :
    (T.beside uneven).Sim c w A x y := by
  rintro m _ ⟨hw, rfl, hk, hf⟩
  obtain ⟨a, b, m', hx, hy, ha, hk', hf'⟩ := h m hw hk hf
  rw [hx, hy]
  exact .ok le_rfl ha ⟨hw, rfl, hk', hf'⟩

/-! ### The coupling is lawful -/

variable [hT : T.Lawful]

theorem alloc_sim {o o' : Object} (h : ObjectRel w o o') (ho : ∀ cls, o ≠ .cls cls) :
    (T.beside uneven).Sim c w AddrRel (alloc o) (alloc o') :=
  sim_of fun m hw hk hf => by
    subst hw
    obtain rfl := Discrete.eq World.diagonal_sharp h
    exact ⟨_, _, _, rfl, rfl, Diagonal.refl _, hk.alloc h.known, hT.alloc hf ho⟩

theorem tuple_sim {vs vs' : List Value} (h : ValuesRel w vs vs') :
    (T.beside uneven).Sim c w ValueRel (makeTuple vs) (makeTuple vs') :=
  sim_of fun m hw hk hf => by
    subst hw
    obtain rfl := Discrete.eq (A := ValuesRel) World.diagonal_sharp h
    exact ⟨_, _, _, rfl, rfl, Diagonal.refl _, hk, hT.tuple vs hf⟩

theorem allocClass_sim (name : String) {bases bases' : List Address} (hx : T.executes)
    (h : ListRel AddrRel w bases bases') :
    (T.beside uneven).Sim c w AddrRel (allocClass name bases) (allocClass name bases') :=
  sim_of fun m hw hk hf => by
    subst hw
    obtain rfl := Discrete.eq World.diagonal_sharp h
    exact ⟨_, _, _, rfl, rfl, Diagonal.refl _, hk.alloc trivial, hT.heap _ (hT.changes hx) hf⟩

theorem edit_sim {a a' : Address} {f f' : Object → Object} (hc : T.changes) (ha : w.place a a')
    (he : Edit w f f') : (T.beside uneven).Sim c w Same (changeHeap (·.modify a f))
      (changeHeap (·.modify a' f')) :=
  sim_of fun m hw hk hf => by
    subst hw
    obtain rfl : a = a' := ha
    have same : m.heap.modify a f = m.heap.modify a f' := m.heap.modify_congr fun o ho =>
      Discrete.eq World.diagonal_sharp (he.rel (.refl_diagonal (hk a o ho)))
    refine ⟨(), (), _, rfl, ?_, rfl, hk.modify fun o ho => ?_, hT.heap _ hc hf⟩
    · exact congrArg (fun h => EStateM.Result.ok () { m with heap := h }) same.symm
    · exact (he.rel (.refl_diagonal (hk a o ho))).known

omit hT in
theorem near_of_holds {m m' : Machine σ} (h : (T.beside uneven).Holds c w m m') :
    Near w m m' ∧ w.Flat := by
  obtain ⟨rfl, rfl, hk, -⟩ := h
  exact ⟨.refl_diagonal hk, World.diagonal_flat⟩

theorem amend_sim {g : Frame → Frame} (hc : T.changes) (hg : Amends g) :
    (T.beside uneven).Sim c w Same (changeFrame g) (changeFrame g) :=
  sim_of fun _ _ hk hf => ⟨_, _, _, rfl, rfl, rfl, hk, hT.frame hc hg hf⟩

instance : (T.beside uneven).Lawful where
  near h := (near_of_holds h).1
  phrase hx h := h.world ▸ hT.phrase (hT.changes hx)
  knows {c w m m' n} hc h hn := by
    rw [h.world]
    exact (congrFun (hT.phrase hc) n).mpr hn
  changes := hT.changes
  calm := hT.calm
  harmless h hx := hT.harmless h.fits hx
  executes h awake := .inl (hT.executes h.fits awake)
  tame := hT.tame
  special h := hT.special h.fits
  inert h := hT.inert h.fits
  upright _ := id
  inspecting h := .inl (congrArg Machine.inspecting h.eq)
  filed {c w m m' v v' k} h _ _ := ⟨w, le_rfl, h.world ▸ trivial, h⟩
  alloc h ho := alloc_sim h fun cls e => by
    rw [e] at ho
    cases ho
  allocClass name := allocClass_sim name
  tuple := tuple_sim
  edit hc ha he _ _ := edit_sim hc ha he
  emit text hc := sim_of fun m _ hk hf => ⟨_, _, _, rfl, rfl, rfl, hk, hT.output _ hc hf⟩
  goTo hx same := sim_of fun m hw hk hf => by
    subst hw
    obtain rfl := same trivial
    exact ⟨_, _, _, rfl, rfl, rfl, hk, hT.pos _ hx hf⟩
  amend hx hg _ := amend_sim (hT.changes hx) hg
  capture hc := capturedScope_sim near_of_holds (amend_sim hc capture_amends)
  enlist name hx ha := sim_of fun m hw hk hf => by
    subst hw
    obtain rfl := Discrete.eq (A := AddrRel) World.diagonal_sharp ha
    exact ⟨_, _, _, rfl, rfl, rfl, hk, hT.modules _ hx hf⟩
  writing {c w a a' m m'} _ _ A x y hm _ ha h := by
    obtain ⟨rfl, rfl, hk, hf⟩ := hm
    obtain rfl : a = a' := ha.1
    obtain ⟨c', enter, leave, keep⟩ := hT.writing a hf
    refine Sim.whileWriting_within ⟨rfl, rfl, hk, enter⟩ ?_ (h c' _ le_rfl keep)
    rintro w' m _ - ⟨hw, rfl, hk, hf⟩
    exact ⟨hw, rfl, hk, leave m hf⟩
  handling {c w e e'} _ _ A x y hx he h := by
    refine Sim.whileHandling_within (fun {m m'} hm => ?_) id
    obtain ⟨rfl, rfl, hk, hf⟩ := hm
    obtain rfl := Discrete.eq World.diagonal_sharp he
    obtain ⟨c', enter, leave, keep⟩ := hT.handled e hx hf
    refine ⟨c', ⟨rfl, rfl, hk, enter⟩, ?_, h c' _ le_rfl keep⟩
    rintro w' m _ - ⟨hw, rfl, hk, hf⟩
    exact ⟨hw, rfl, hk, leave m hf⟩

instance : (T.beside uneven).Level where
  scope hs := (alloc_sim (.scope hs) nofun).mono fun _ _ _ _ h => h.1
  free hx ha := sim_of fun m hw hk hf => by
    subst hw
    obtain rfl := Discrete.eq (A := PlaceRel) World.diagonal_sharp ha
    exact ⟨_, _, _, rfl, rfl, rfl, hk.free, hT.heap _ (hT.changes hx) hf⟩

omit hT in
/-- Revealing an address by doing nothing. -/
theorem reveal_sim : (T.beside uneven).Sim c w (fun w _ _ => w.Exact) (pure ()) (pure ()) :=
  fun _ _ hm => .ok le_rfl (hm.world ▸ World.diagonal_exact) hm

/-- The quiet runner goes alike with itself where no statement runs. -/
theorem tell_quiet (hx : ¬T.executes) :
    TellRel T.coupling (fun _ _ => pure ()) (pure ()) (fun _ _ => pure ()) (pure ()) :=
  .ofFrame reveal_sim id (fun _ h => absurd h hx) fun _ h => absurd h hx

end Account

/-! ### Scenes -/

/-- A frame as an observer sees it: what a line event in it would tell, and the line reported
last. -/
def Frame.view (f : Frame) : Event × Option Nat := (f.event .line, f.reported)

/-- What an observer sees of a run, its data apart. -/
structure Scene (σ : Type) where
  /-- The events so far, the last one first. -/
  history : List Event
  /-- The open frames, innermost first. -/
  frames : List (Event × Option Nat)
  /-- What the observer remembers. -/
  log : σ
  /-- Whether the run is only being looked at. -/
  inspecting : Bool

/-- The scene of a machine. -/
def Machine.scene (m : Machine σ) : Scene σ :=
  ⟨m.history, m.stack.map Frame.view, m.log, m.inspecting⟩

theorem Amends.views {g : Frame → Frame} (hg : Amends g) (fs : List Frame) :
    (fs.modifyHead g).map Frame.view = fs.map Frame.view := by
  cases fs with
  | nil => rfl
  | cons f fs =>
    simp only [List.modifyHead_cons, List.map_cons, Frame.view, hg.event, hg.reported]

namespace Account

variable {Ctx : Type} {Fits : Ctx → Scene σ → Prop} {phrase : Phrase → Prop} {executes : Prop}
  {line : Ctx → Nat → Prop}

/-- What is said of the scenes of a run. -/
def ofScene (Fits : Ctx → Scene σ → Prop) (phrase : Phrase → Prop) (executes : Prop)
    (line : Ctx → Nat → Prop := fun _ _ => True) : Account σ where
  Ctx := Ctx
  Fits c m := Fits c m.scene
  phrase := phrase
  line := line
  known := phrase
  changes := True
  executes := executes
  harmless _ := False
  Tame _ := True

/-- What is said of scenes is kept by all that the evaluator does to a machine. -/
theorem ofScene_lawful (awake : ∀ {c s}, Fits c s → s.inspecting = false → executes) :
    (ofScene Fits phrase executes line).Lawful where
  phrase _ := rfl
  changes _ := trivial
  calm := .inl trivial
  harmless _ := False.elim
  executes := awake
  tame _ _ := trivial
  special _ _ _ := trivial
  inert _ _ := .inl trivial
  alloc hf _ := hf
  tuple _ hf := hf
  heap _ _ hf := hf
  output _ _ hf := hf
  frame {c m g} _ hg hf := by
    show Fits c ⟨m.history, (m.stack.modifyHead g).map Frame.view, m.log, m.inspecting⟩
    rw [hg.views]
    exact hf
  pos _ _ hf := hf
  modules _ _ hf := hf
  handled _ _ hf := ⟨_, hf, fun _ h => h, fun _ h => h⟩
  writing _ hf := ⟨_, hf, fun _ h => h, fun _ h => h⟩

end Account

end Stepwise
