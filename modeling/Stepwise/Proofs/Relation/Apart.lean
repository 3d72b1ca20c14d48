import Stepwise.Proofs.Relation.Grown
import Stepwise.Proofs.Relation.Level

/-!
# Runs apart

Two runs of one program, one of which makes objects that the other does not make. All they compute
with is related, they print the same, and their errors are related; nothing in a run can tell
whether there are more objects, unless it looks at an address.
-/

namespace Stepwise

open Script Coupling

variable {σ τ : Type} {w w' : World} {m : Machine σ} {m' : Machine τ}

/-- Machines that do the same, where the second one may hold more objects. -/
structure Alike (w : World) (m : Machine σ) (m' : Machine τ) : Prop where
  near : Near w m m'
  grown : Grown w m.heap m'.heap
  flat : w.Flat
  phrase : w.phrase = fun _ => True
  located : w.located
  output : m.output = m'.output
  inspecting : m.inspecting = m'.inspecting

theorem Alike.withHeap (H : Alike w m m') (hw : w ≤ w') {h h' : Heap} (hh : Grown w' h h') :
    Alike w' { m with heap := h } { m' with heap := h' } :=
  ⟨H.near.withHeap hw hh.heapRel, hh, H.flat.mono hw, hw.phrase.trans H.phrase,
    hw.located ▸ H.located, H.output, H.inspecting⟩

/-- Two runs of which the second one may make more objects. If they are `uneven`, one of them may
run out of fuel alone. -/
def apart (σ τ : Type) (uneven : Prop) : Coupling σ τ where
  Ctx := Unit
  Holds _ := Alike
  phrase _ := True
  line _ _ := True
  changes := True
  executes := True
  harmless _ := False
  Tame _ := True
  lopsided := False
  Left := uneven
  Right := uneven
  Stops _ _ := True
  stops _ := trivial
  slack := False.elim

namespace Apart

variable {uneven : Prop} {c : (apart σ τ uneven).Ctx} {α β : Type} {A : Rel α β}

theorem alloc_sim {o o' : Object} (ho : ObjectRel w o o') :
    (apart σ τ uneven).Sim c w AddrRel (alloc o) (alloc o') :=
  fun _ _ hm => .ok World.le_meet ⟨.inr ⟨rfl, rfl⟩, .inr ⟨rfl, trivial⟩⟩
    (hm.withHeap World.le_meet (hm.grown.allocRel ho : Grown (hm.grown.world True True) _ _))

theorem allocClass_sim (name : String) {bases bases' : List Address}
    (hb : ListRel AddrRel w bases bases') :
    (apart σ τ uneven).Sim c w AddrRel (allocClass name bases) (allocClass name bases') :=
  fun _ _ hm => .ok World.le_meet ⟨.inr ⟨rfl, rfl⟩, .inr ⟨rfl, trivial⟩⟩
    (hm.withHeap World.le_meet
      (hm.grown.allocClass name false hb : Grown (hm.grown.world True True) _ _))

theorem tuple_sim {vs vs' : List Value} (h : ValuesRel w vs vs') :
    (apart σ τ uneven).Sim c w ValueRel (makeTuple vs) (makeTuple vs') := by
  intro m m' hm
  refine .ok World.le_meetMarks ?_ (hm.withHeap World.le_meetMarks (hm.grown.tuple vs vs'))
  exact .tuple (.inr ⟨rfl, rfl⟩) (up (A := ValuesRel) World.le_meetMarks h)

/-- Steps that leave the heaps related in the same world. -/
theorem step_sim {f : Machine σ → Machine σ} {g : Machine τ → Machine τ}
    (h : ∀ m m', Alike w m m' → Alike w (f m) (g m')) :
    (apart σ τ uneven).Sim c w Same (modify f) (modify g) :=
  fun m m' hm => .ok le_rfl rfl (h m m' hm)

theorem changeFrame_sim {g : Frame → Frame}
    (hg : ∀ {w f f'}, FrameRel w f f' → FrameRel w (g f) (g f')) :
    (apart σ τ uneven).Sim c w Same (changeFrame g) (changeFrame g) :=
  step_sim fun _ _ H => { H with near := { H.near with stack := H.near.stack.modifyHead hg } }

instance : (apart σ τ uneven).Lawful where
  near h := h.near
  phrase _ h := h.phrase
  knows _ h _ := h.phrase ▸ trivial
  changes _ := trivial
  calm := .inl trivial
  harmless _ := False.elim
  executes _ _ := .inl trivial
  tame _ _ := trivial
  special _ _ _ := trivial
  inert _ _ := .inl trivial
  upright _ := id
  inspecting h := .inl h.inspecting
  filed h _ _ := ⟨_, World.le_file, World.file_filed,
    h.withHeap World.le_file (h.grown.file _ _)⟩
  alloc ho _ := alloc_sim ho
  allocClass name _ := allocClass_sim name
  tuple := tuple_sim
  edit _ ha he _ _ := step_sim fun _ _ H => H.withHeap le_rfl (H.grown.modify ha he)
  emit text _ := step_sim fun _ _ H => { H with
    near := { H.near with }, output := congrArg (· ++ text) H.output }
  goTo _ same := step_sim fun _ _ H => { H with near := { H.near with pos := same } }
  amend _ hg _ := changeFrame_sim hg.rel
  capture _ := capturedScope_sim (fun h => ⟨h.near, h.flat⟩) (changeFrame_sim capture_amends.rel)
  enlist _ _ ha := step_sim fun _ _ H => { H with
    near := { H.near with modules := .cons ⟨rfl, ha⟩ H.near.modules } }
  writing H _ ha h := Sim.whileWriting
    ⟨(), { H with near := { H.near with writing := .cons ha H.near.writing } },
      fun _ H => { H with near := { H.near with writing := ListRel.tail H.near.writing } }⟩
    fun c' => h c' _ le_rfl fun _ h => h
  handling _ he h := .whileHandling
    (fun H => ⟨(), { H with near := { H.near with handled := .cons he H.near.handled } },
      fun _ H => { H with near := { H.near with handled := ListRel.tail H.near.handled } }⟩)
    id fun c' => h c' _ le_rfl fun _ h => h

instance : (apart σ τ uneven).Unframed where
  scope hs := (alloc_sim (.scope hs)).mono fun _ _ _ _ h => h.1
  free _ ha := step_sim fun _ _ H => H.withHeap le_rfl (H.grown.free ha)
  push hf := step_sim fun _ _ H => { H with
    near := { H.near with stack := .cons hf H.near.stack } }
  pop _ _ hm := .ok le_rfl hm.near.frame { hm with
    near := { hm.near with stack := ListRel.tail hm.near.stack } }
  move := changeFrame_sim

variable {tell : Nat → Moment → M σ Unit} {tell' : Nat → Moment → M τ Unit}

/-- Runs apart do every task alike if their observers keep them apart. -/
theorem tell_apart (hn : ∀ {c w} fuel moment,
    (apart σ τ True).Sim c w Same (tell fuel moment) (tell' fuel moment)) :
    TellRel (apart σ τ True) tell (throw .outOfFuel) tell' (pure ()) :=
  .ofNotify (fun _ _ _ => .left trivial) id (fun _ _ => trivial) (fun hm => hm.located) hn

end Apart

end Stepwise
