import Stepwise.Proofs.Heap
import Stepwise.Proofs.Relation.Diagonal

/-!
# Adrift

Two runs may be at different places of the script and compute the same: nothing that a run does
depends on where it is, but the positions that its errors carry and the events that an observer is
told of. So a runner that nobody watches does every task as another one does that is elsewhere, and
has more fuel (`quiet_rel`).
-/

namespace Stepwise

open Script Coupling

variable {σ : Type}

/-- The world in which everything belongs together with itself, and positions do not count. -/
def World.adrift : World := diagonal (fun _ => True) False

/-- Machines that differ in positions and in the history of events only. -/
structure Adrift (w : World) (m m' : Machine σ) : Prop where
  world : w = .adrift
  near : Near w m m'
  heap : m.heap = m'.heap
  output : m.output = m'.output
  inspecting : m.inspecting = m'.inspecting
  log : m.log = m'.log

/-- Two runs that are at different places. The left one may run out of fuel alone. -/
def drift (σ : Type) : Coupling σ σ where
  Ctx := Unit
  Holds _ := Adrift
  phrase _ := True
  line _ _ := True
  changes := True
  executes := True
  harmless _ := False
  Tame _ := True
  lopsided := False
  Left := True
  Right := False
  Stops _ _ := True
  stops _ := trivial
  slack := False.elim

namespace Adrift

variable {w : World} {m m' : Machine σ} {c : (drift σ).Ctx}

theorem rigid (H : Adrift w m m') : w.Rigid := H.world ▸ World.diagonal_rigid

theorem flat (H : Adrift w m m') : w.Flat := H.world ▸ World.diagonal_flat

theorem refl (m : Machine σ) : Adrift .adrift m m :=
  ⟨rfl, .refl_diagonal (knows_all _), rfl, rfl, rfl, rfl⟩

/-- Any heap goes with itself. -/
theorem withHeap (H : Adrift w m m') (h : Heap) :
    Adrift w { m with heap := h } { m' with heap := h } where
  world := H.world
  near := H.near.withHeap le_rfl (H.world ▸ .refl_diagonal (knows_all h))
  heap := rfl
  output := H.output
  inspecting := H.inspecting
  log := H.log

/-- Names stand for the same on both sides. -/
theorem lookup? (H : Adrift w m m') (name : String) : m.lookup? name = m'.lookup? name :=
  Rigid.eq H.rigid (H.near.lookup? name)

/-! ### The coupling is lawful -/

theorem step_sim {f g : Machine σ → Machine σ} (h : ∀ m m', Adrift w m m' → Adrift w (f m) (g m')) :
    (drift σ).Sim c w Same (modify f) (modify g) :=
  fun m m' hm => .ok le_rfl rfl (h m m' hm)

theorem heap_sim {f g : Heap → Heap} (h : w.Rigid → ∀ heap, f heap = g heap) :
    (drift σ).Sim c w Same (changeHeap f) (changeHeap g) :=
  step_sim fun m m' H => by
    rw [← H.heap, ← h H.rigid]
    exact H.withHeap _

theorem alloc_sim {o o' : Object} (ho : ObjectRel w o o') :
    (drift σ).Sim c w AddrRel (alloc o) (alloc o') := by
  intro m m' H
  obtain rfl := Rigid.eq H.rigid ho
  refine .ok (a := (m.heap.alloc o).1) (b := (m'.heap.alloc o).1) le_rfl ?_ ?_
  · exact H.heap ▸ H.world ▸ Diagonal.refl _
  · exact H.heap ▸ H.withHeap _

theorem tuple_sim {vs vs' : List Value} (h : ValuesRel w vs vs') :
    (drift σ).Sim c w ValueRel (makeTuple vs) (makeTuple vs') := by
  intro m m' H
  obtain rfl := Rigid.eq (A := ValuesRel) H.rigid h
  refine .ok (a := (m.heap.tuple vs).1) (b := (m'.heap.tuple vs).1) le_rfl ?_ ?_
  · exact H.heap ▸ H.world ▸ Diagonal.refl _
  · exact H.heap ▸ H.withHeap _

theorem allocClass_sim (name : String) {bases bases' : List Address}
    (h : ListRel AddrRel w bases bases') :
    (drift σ).Sim c w AddrRel (allocClass name bases) (allocClass name bases') := by
  intro m m' H
  obtain rfl := Rigid.eq H.rigid h
  refine .ok (a := (m.heap.allocClass name bases false).1)
    (b := (m'.heap.allocClass name bases false).1) le_rfl ?_ ?_
  · exact H.heap ▸ H.world ▸ Diagonal.refl _
  · exact H.heap ▸ H.withHeap _

theorem edit_sim {a a' : Address} {f f' : Object → Object} (ha : w.place a a') (he : Edit w f f') :
    (drift σ).Sim c w Same (changeHeap (·.modify a f)) (changeHeap (·.modify a' f')) := by
  intro m m' H
  obtain rfl := H.rigid.place ha
  refine heap_sim (fun hw h => ?_) m m' H
  refine h.modify_congr fun o ho => Rigid.eq hw (he.rel ?_)
  exact H.world ▸ .refl_diagonal (knows_all h a o ho)

theorem changeFrame_sim {g : Frame → Frame}
    (hg : ∀ {w f f'}, FrameRel w f f' → FrameRel w (g f) (g f')) :
    (drift σ).Sim c w Same (changeFrame g) (changeFrame g) :=
  step_sim fun _ _ H => { H with near := { H.near with stack := H.near.stack.modifyHead hg } }

instance : (drift σ).Lawful where
  near h := h.near
  phrase _ h := h.world ▸ rfl
  knows _ h _ := h.world ▸ trivial
  changes _ := trivial
  calm := .inl trivial
  harmless _ := False.elim
  executes _ _ := .inl trivial
  tame _ _ := trivial
  special _ _ _ := trivial
  inert _ _ := .inl trivial
  upright _ := id
  inspecting h := .inl h.inspecting
  filed h _ _ := ⟨_, le_rfl, h.world ▸ trivial, h⟩
  alloc ho _ := alloc_sim ho
  allocClass name _ := allocClass_sim name
  tuple := tuple_sim
  edit _ ha he _ _ := edit_sim ha he
  emit text _ := step_sim fun _ _ H => { H with
    near := { H.near with }, output := congrArg (· ++ text) H.output }
  goTo _ same := step_sim fun _ _ H => { H with near := { H.near with pos := same } }
  amend _ hg _ := changeFrame_sim hg.rel
  capture _ := capturedScope_sim (fun h => ⟨h.near, h.flat⟩) (changeFrame_sim capture_amends.rel)
  enlist _ _ ha := step_sim fun _ _ H => { H with
    near := { H.near with modules := .cons ⟨rfl, ha⟩ H.near.modules } }
  writing H _ ha h := Sim.whileWriting
    ⟨(), { H with near := { H.near with writing := .cons ha H.near.writing } },
      fun _ H => { H with near := { H.near with writing := ListRel.tail H.near.writing } }⟩
    fun c' => h c' _ le_rfl fun _ h => h
  handling _ he h := .whileHandling
    (fun H => ⟨(), { H with near := { H.near with handled := .cons he H.near.handled } },
      fun _ H => { H with near := { H.near with handled := ListRel.tail H.near.handled } }⟩)
    id fun c' => h c' _ le_rfl fun _ h => h

instance : (drift σ).Unframed where
  scope hs := (alloc_sim (.scope hs)).mono fun _ _ _ _ h => h.1
  free _ ha := heap_sim fun hw h => by rw [hw.place ha]
  push hf := step_sim fun _ _ H => { H with
    near := { H.near with stack := .cons hf H.near.stack } }
  pop _ _ hm := .ok le_rfl hm.near.frame { hm with
    near := { hm.near with stack := ListRel.tail hm.near.stack } }
  move hg := changeFrame_sim hg

/-! ### Positions -/

theorem nowhere (H : Adrift w m m') : ¬w.located := H.world ▸ id

/-- To go somewhere else on the right makes no difference. -/
theorem goTo (H : Adrift w m m') (pos : Pos) : Adrift w m { m' with pos } :=
  { H with near := { H.near with pos := (absurd · H.nowhere) } }

/-- To come to another line on the right makes no difference. -/
theorem toLine (H : Adrift w m m') (line : Nat) :
    Adrift w m { m' with
      stack := m'.stack.modifyHead fun f => { f with line, reported := some line } } := by
  refine { H with near := { H.near with stack := ?_ } }
  obtain ⟨hs, hs'⟩ | ⟨f, f', fs, fs', hs, hs', hf⟩ := H.near.stack_cases
  · rw [hs, hs']
    exact .nil
  · have both := H.near.stack
    rw [hs, hs'] at both ⊢
    refine .cons { hf with line := ?_, reported := ?_ } both.tail <;> exact (absurd · H.nowhere)

end Adrift

/-- Where nobody watches, to mark a line is to say that it has been reported. -/
theorem markLine_quiet (fuel line : Nat) (force : Bool) (condition : Option Expr) :
    (markLine (quiet fuel) line force condition : M σ Unit) =
      changeFrame ({ · with line, reported := some line }) := by
  funext ⟨heap, stack, globals, exceptions, modules, output, pos, handled, writing, inspecting, log,
    history⟩
  cases stack with
  | nil => rfl
  | cons f fs =>
    refine (M.bind_ok (x := frame?) rfl).trans ?_
    dsimp only [List.head?_cons]
    split
    case isTrue there =>
      have reported : some line = f.reported := by simp_all
      rw [reported]
      rfl
    case isFalse => rfl

/-! ### Runners -/

/-- A runner that nobody watches does every task as another one does with more fuel, at any place
of the script. -/
theorem quiet_rel : ∀ {n n' : Nat}, n ≤ n' → RunnerRel (drift σ) (quiet n) (quiet n') := by
  have runner_of {n n' : Nat} (le : n ≤ n')
      (tasks : TasksRel (drift σ) (quiet n).run (quiet n').run) :
      RunnerRel (drift σ) (quiet n) (quiet n') :=
    .ofNotify tasks (.inr ⟨trivial, le, rfl, rfl⟩)
      (fun _ _ H => .ok le_rfl (fun ha => H.rigid.place ha.1) H) id (fun _ _ => trivial)
      (fun {c w line force condition} => by
        rw [markLine_quiet, markLine_quiet]
        exact Adrift.changeFrame_sim fun h =>
          { h with line := fun _ => rfl, reported := fun _ => rfl })
      fun _ => .pure rfl
  intro n n' le
  induction n generalizing n' with
  | zero => exact runner_of le (.left trivial)
  | succ n ih =>
    obtain ⟨n', rfl⟩ := Nat.exists_eq_add_of_le' (Nat.le_trans (Nat.le_add_left 1 n) le)
    exact runner_of le (step_rel (ih (Nat.le_of_succ_le_succ le)))

end Stepwise
