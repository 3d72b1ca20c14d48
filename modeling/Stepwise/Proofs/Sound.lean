import Stepwise.Proofs.Footing
import Stepwise.Proofs.Recording
import Stepwise.Proofs.Walk

/-!
# References stay live

Wherever a run comes, all that it refers to is there (`references_live`). A run that leaves a trail
keeps its references live from one state to the next, so every state on the trail is sound. Nor is
a chain drawn with an error: the recorder draws it with its own tag (`traceProgram_unbroken`).

## The model

The run is coupled with itself (`sound`), the scopes in use being what stays fixed while a part of
it goes on. What opens and closes frames changes them, so it is followed step by step: until a frame
is closed nothing fails, since the error of its body has been caught (`Passes`).
-/

namespace Stepwise

open Script Coupling

variable {σ α β : Type}

/-- A run coupled with itself that keeps its references live. -/
def sound (σ : Type) : Coupling (Trailed σ) (Trailed σ) where
  Ctx := Footing
  Holds c w m m' := m = m' ∧ Stands c w m
  phrase _ := True
  line _ _ := True
  changes := True
  executes := True
  harmless _ := False
  Tame _ := True
  lopsided := False
  Left := False
  Right := False
  Stops m m' := m = m' ∧ m.log.Grounded
  stops h := ⟨h.1, h.2.trail⟩
  slack := False.elim

namespace Sound

variable {c c' : Footing} {w w' : World} {A : Rel α β} {m : Machine (Trailed σ)}

/-- The same machine on both sides. -/
theorem ok {a : α} {b : β} (hw : w ≤ w') (h : A w' a b) (H : Stands c w' m) :
    Agree (sound σ) c w A (.ok a m) (.ok b m) := .ok hw h ⟨rfl, H⟩

/-- Computations that do the same one thing on both sides. -/
theorem sim_of {x : M (Trailed σ) α} {y : M (Trailed σ) β}
    (h : ∀ m, Stands c w m → ∃ a b w' m', x m = .ok a m' ∧ y m = .ok b m' ∧ w ≤ w' ∧ A w' a b ∧
      Stands c w' m') : (sound σ).Sim c w A x y := by
  rintro m _ ⟨rfl, H⟩
  obtain ⟨a, b, w', m', hx, hy, hw, ha, H'⟩ := h m H
  rw [hx, hy]
  exact ok hw ha H'

/-- Steps that change nothing but the machine. -/
theorem step_sim {f : Machine (Trailed σ) → Machine (Trailed σ)}
    (h : ∀ m, Stands c w m → Stands c w (f m)) : (sound σ).Sim c w Same (modify f) (modify f) :=
  sim_of fun m H => ⟨(), (), w, f m, rfl, rfl, le_rfl, rfl, h m H⟩

/-- In a run that is coupled with itself, nothing is related but what is equal. -/
theorem sharply {x : M (Trailed σ) α} {y : M (Trailed σ) β}
    (h : w.Sharp → (sound σ).Sim c w A x y) : (sound σ).Sim c w A x y :=
  fun m m' hm => h hm.2.tidy.sharp m m' hm

/-! ### Laws -/

theorem alloc_sim {o o' : Object} (h : ObjectRel w o o') (ho : o.isScope = false) :
    (sound σ).Sim c w AddrRel (alloc o) (alloc o') :=
  sim_of fun m H => by
    obtain rfl := Discrete.eq H.tidy.sharp h
    exact ⟨_, _, _, _, rfl, rfl, World.le_meet, ⟨.inr ⟨rfl, rfl⟩, .inr ⟨rfl, trivial⟩⟩,
      H.alloc (iff_of_true trivial ho) (H.tidy.grown.allocRel h)⟩

theorem allocClass_sim (name : String) {bases bases' : List Address}
    (h : ListRel AddrRel w bases bases') :
    (sound σ).Sim c w AddrRel (allocClass name bases) (allocClass name bases') :=
  sim_of fun m H => by
    obtain rfl := Discrete.eq H.tidy.sharp h
    exact ⟨_, _, _, _, rfl, rfl, World.le_meet, ⟨.inr ⟨rfl, rfl⟩, .inr ⟨rfl, trivial⟩⟩,
      H.alloc (iff_of_true trivial rfl) (H.tidy.grown.allocClass name false h)⟩

theorem tuple_sim {vs vs' : List Value} (h : ValuesRel w vs vs') :
    (sound σ).Sim c w ValueRel (makeTuple vs) (makeTuple vs') :=
  sim_of fun m H => by
    obtain rfl := Discrete.eq (A := ValuesRel) H.tidy.sharp h
    exact ⟨_, _, _, _, rfl, rfl, World.le_meetMarks,
      .tuple (.inr ⟨rfl, rfl⟩) (up (A := ValuesRel) World.le_meetMarks h), H.tuple vs⟩

theorem edit_sim {a a' : Address} {f f' : Object → Object} (ha : w.place a a') (he : Edit w f f') :
    (sound σ).Sim c w Same (changeHeap (·.modify a f)) (changeHeap (·.modify a' f')) :=
  sim_of fun m H => by
    obtain rfl := H.tidy.sharp.place ha
    refine ⟨(), (), w, _, rfl, ?_, le_rfl, rfl, H.edit ha he⟩
    exact congrArg (fun h => EStateM.Result.ok () { m with heap := h }) (H.tidy.modify_eq he a).symm

/-- The scope that is taken along, by the kind of the running frame. -/
theorem capturedScope_eq (m : Machine σ) : capturedScope m = match m.stack with
    | [] => .ok none m
    | f :: fs => match f.kind with
      | .module => .ok none m
      | .function => .ok (some f.locals) { m with stack := { f with captured := true } :: fs }
      | .class_ => .ok ((m.heap.scope? f.locals).bind (·.parent)) m := by
  obtain ⟨heap, stack⟩ := m
  cases stack with
  | nil => rfl
  | cons f fs =>
    obtain ⟨name, kind⟩ := f
    cases kind <;> rfl

theorem capture_sim : (sound σ).Sim c w (OptionRel KeptRel) capturedScope capturedScope := by
  rintro m _ ⟨rfl, H⟩
  rw [capturedScope_eq]
  cases hs : m.stack with
  | nil => exact ok le_rfl .none H
  | cons f fs =>
    have rel := H.grounded.frame (f := f) (hs ▸ List.mem_cons_self)
    cases hk : f.kind <;> simp only [hk]
    case module => exact ok le_rfl .none H
    case function =>
      exact ok w.le_keep (.some ⟨w.le_keep.place rel.locals, .inr rfl⟩) (hk ▸ H.capture hs hk)
    case class_ =>
      refine ok le_rfl ?_ H
      exact (H.near.heap.scope? rel.locals).bind fun hs => hs.parent

theorem move_sim {g : Frame → Frame}
    (rel : ∀ {w f f'}, FrameRel w f f' → FrameRel w (g f) (g f'))
    (foot : ∀ f, (g f).foot = f.foot) (captured : ∀ f, (g f).captured = f.captured) :
    (sound σ).Sim c w Same (changeFrame g) (changeFrame g) :=
  step_sim fun _ H => H.move rel foot captured

instance : (sound σ).Lawful where
  near h := h.1 ▸ h.2.near
  phrase _ h := h.2.tidy.phrase
  knows _ h _ := h.2.tidy.phrase ▸ trivial
  changes _ := trivial
  calm := .inl trivial
  harmless _ := False.elim
  executes _ _ := .inl trivial
  tame _ _ := trivial
  special _ _ _ := trivial
  inert _ _ := .inl trivial
  upright _ := id
  inspecting h := .inl (congrArg Machine.inspecting h.1)
  filed h hv key := ⟨_, World.le_file, World.file_filed, h.1, h.2.file hv key⟩
  alloc {c w o o'} h ho := alloc_sim h (by
    cases o with
    | scope => cases ho
    | _ => rfl)
  allocClass name _ := allocClass_sim name
  tuple := tuple_sim
  edit _ ha he _ _ := edit_sim ha he
  emit _ _ := step_sim fun _ H => { H with near := { H.near with } }
  goTo _ same := sim_of fun m H => by
    obtain rfl := same H.tidy.sharp.located
    exact ⟨(), (), _, _, rfl, rfl, le_rfl, rfl,
      { H with near := { H.near with pos := fun _ => rfl } }⟩
  amend _ hg hc := move_sim hg.rel
    (fun f => congrArg (fun e : Event => (e.frame, e.locals)) (hg.event f .line)) hc
  capture _ := capture_sim
  enlist name _ ha := sim_of fun m H => by
    obtain rfl := Discrete.eq (A := AddrRel) H.tidy.sharp ha
    exact ⟨(), (), _, _, rfl, rfl, le_rfl, rfl,
      { H with near := { H.near with modules := .cons ⟨rfl, ha⟩ H.near.modules } }⟩
  writing {c w a a' m m'} _ _ A x y hm _ ha h := by
    obtain rfl := Discrete.eq (A := AddrRel) hm.2.tidy.sharp ha
    refine Sim.whileWriting ⟨c, ?_, fun {w' m m'} _ hm => ?_⟩ fun c' => h c' w le_rfl fun _ h => h
    · obtain ⟨rfl, H⟩ := hm
      exact ⟨rfl, { H with near := { H.near with writing := .cons ha H.near.writing } }⟩
    · obtain ⟨rfl, H⟩ := hm
      exact ⟨rfl, { H with near := { H.near with writing := ListRel.tail H.near.writing } }⟩
  handling {c w e e'} _ _ A x y _ he h := sharply fun hw => by
    obtain rfl := Discrete.eq hw he
    refine Sim.whileHandling (fun {m m'} hm => ⟨c, ?_, fun {w' m m'} _ hm => ?_⟩) id
      fun c' => h c' w le_rfl fun _ h => h
    · obtain ⟨rfl, H⟩ := hm
      exact ⟨rfl, { H with near := { H.near with handled := .cons he H.near.handled } }⟩
    · obtain ⟨rfl, H⟩ := hm
      exact ⟨rfl, { H with near := { H.near with handled := ListRel.tail H.near.handled } }⟩

/-! ### Parts that nothing makes fail -/

/-- What comes of a part of a run that nothing makes fail: a result, unless it is out of fuel. -/
inductive Passes (c : Footing) (w : World) (P : World → α → Prop) :
    EStateM.Result Failure (Machine (Trailed σ)) α → Prop
  | ok {w' : World} {a : α} {m' : Machine (Trailed σ)} (hw : w ≤ w') (h : P w' a)
    (H : Stands c w' m') : Passes c w P (.ok a m')
  | stop {m' : Machine (Trailed σ)} (h : m'.log.Grounded) : Passes c w P (.error .outOfFuel m')

/-- What comes of steps whose result does not matter. -/
abbrev Steps (c : Footing) (w : World) :
    EStateM.Result Failure (Machine (Trailed σ)) α → Prop := Passes c w fun _ _ => True

namespace Passes

variable {γ : Type} {P : World → α → Prop} {Q : World → β → Prop} {x : M (Trailed σ) α}

theorem bind {f : α → M (Trailed σ) β} (hx : Passes c w P (x m))
    (hf : ∀ {w' a m}, w ≤ w' → P w' a → Stands c w' m → Passes c' w' Q (f a m)) :
    Passes c' w Q ((x >>= f) m) := by
  show Passes c' w Q (EStateM.bind x f m)
  unfold EStateM.bind
  revert hx
  generalize x m = rx
  intro hx
  cases hx with
  | stop h => exact .stop h
  | ok hw h H =>
    have next := hf hw h H
    revert next
    dsimp only
    generalize f _ _ = ry
    intro next
    cases next with
    | stop h => exact .stop h
    | ok hw' h H => exact .ok (hw.trans hw') h H

/-- What is done next may fail. -/
theorem bind_agree {A : Rel β γ} {f : α → M (Trailed σ) β} {g : α → M (Trailed σ) γ}
    (hx : Passes c w P (x m)) (hf : ∀ {w' a m}, w ≤ w' → P w' a → Stands c w' m →
      Agree (sound σ) c' w' A (f a m) (g a m)) :
    Agree (sound σ) c' w A ((x >>= f) m) ((x >>= g) m) := by
  show Agree (sound σ) c' w A (EStateM.bind x f m) (EStateM.bind x g m)
  unfold EStateM.bind
  revert hx
  generalize x m = rx
  intro hx
  cases hx with
  | stop h => exact .stop ⟨rfl, h⟩
  | ok hw h H => exact (hf hw h H).grow hw

/-- An attempt does not fail. -/
theorem attempt {A : Rel α α} [Discrete A] {y : M (Trailed σ) α}
    (h : Agree (sound σ) c w A (x m) (y m)) :
    Passes c w (fun w r => AttemptRel A w r r) (attempt x m) := by
  unfold Stepwise.attempt
  revert h
  generalize x m = rx, y m = ry
  intro h
  cases h with
  | left h | right h | lost h => exact h.elim
  | stop h => exact .stop h.2
  | ok hw h hm =>
    obtain ⟨rfl, H⟩ := hm
    obtain rfl := Discrete.eq H.tidy.sharp h
    exact .ok hw (.ok h) H
  | error hw h hm =>
    obtain ⟨rfl, H⟩ := hm
    obtain rfl := Discrete.eq H.tidy.sharp h
    exact .ok hw (.error h) H

/-- What neither fails nor gives anything. -/
theorem sim {x : M (Trailed σ) Unit} (h : ∀ {w m}, Stands c w m → Steps c w (x m)) :
    (sound σ).Sim c w Same x x := by
  rintro m _ ⟨rfl, H⟩
  have h := h H
  revert h
  generalize x m = rx
  intro h
  cases h with
  | stop h => exact .stop ⟨rfl, h⟩
  | ok hw _ H => exact Sound.ok hw rfl H

end Passes

/-! ### Frames -/

theorem allocScope_passes {s : Scope} (H : Stands c w m) (hs : ScopeRel w s s) :
    Passes (c.loosen m.heap.next) w (fun w a => a = m.heap.next ∧ w.place a a)
      (alloc (.scope s) m) :=
  .ok World.le_meet ⟨rfl, .inr ⟨rfl, rfl⟩⟩ (H.loosen hs)

theorem releaseScope_eq (f : Frame) (m : Machine σ) : releaseScope f m =
    .ok () (if f.kind = .function && !f.captured then
      { m with heap := m.heap.free f.locals } else m) := by
  unfold releaseScope
  split <;> rfl

/-- A frame that does not open gives up its scope. -/
theorem releaseScope_steps {f : Frame} (hf : f.captured = false)
    (H : Stands (c.before f.kind f.locals) w m) :
    Steps (c.after f.kind f.locals) w (releaseScope f m) := by
  rw [releaseScope_eq, hf]
  cases hk : f.kind <;> rw [hk] at H
  case module => exact .ok le_rfl trivial H
  case function => exact .ok le_rfl trivial H.free
  case class_ => exact .ok le_rfl trivial H

theorem closeFrame_steps {kind : FrameKind} {a : Address} (H : Stands (c.enter kind a) w m) :
    Steps (c.after kind a) w (closeFrame m) := by
  obtain ⟨f, fs, hs, rfl, rfl, -⟩ := H.head
  have closed : closeFrame m = releaseScope f { m with stack := m.stack.tail } := by
    obtain ⟨heap, stack⟩ := m
    obtain rfl : stack = f :: fs := hs
    rfl
  rw [closed, releaseScope_eq]
  cases hk : f.kind <;> rw [hk] at H
  case module => exact .ok le_rfl trivial H.leave
  case class_ => exact .ok le_rfl trivial (H.loose_of_leave nofun nofun)
  case function =>
    cases hc : f.captured
    case true => exact .ok le_rfl trivial H.leave
    case false =>
      refine .ok le_rfl trivial (H.loose_of_leave nofun fun _ g hg => ?_).free
      rw [hs] at hg
      obtain rfl := Option.some.inj hg
      exact hc

theorem get_agree {A : Rel α β} {f : Machine (Trailed σ) → M (Trailed σ) α}
    {g : Machine (Trailed σ) → M (Trailed σ) β} (h : Agree (sound σ) c w A (f m m) (g m m)) :
    Agree (sound σ) c w A ((get >>= f) m) ((get >>= g) m) := h

theorem getHeap_agree {A : Rel α β} {f : Heap → M (Trailed σ) α} {g : Heap → M (Trailed σ) β}
    (h : Agree (sound σ) c w A (f m.heap m) (g m.heap m)) :
    Agree (sound σ) c w A ((getHeap >>= f) m) ((getHeap >>= g) m) := h

variable {r : Runner (Trailed σ)}

theorem runFrame_agree {f : Frame} {body : List Stmt}
    (hn : ∀ {c w m} moment, Stands c w m → Steps c w (r.notify moment m))
    (hf : FrameRel w f f) (start : f.captured = false)
    (module : f.kind = .module → f.locals = m.globals)
    (hb : ∀ w', w ≤ w' →
      (sound σ).Sim (c.enter f.kind f.locals) w' FlowRel (r.block body) (r.block body))
    (H : Stands (c.before f.kind f.locals) w m) :
    Agree (sound σ) (c.after f.kind f.locals) w ValueRel (runFrame r f body m)
      (runFrame r f body m) := by
  have opened := H.enter hf module
  refine get_agree ?_
  split
  · exact (releaseScope_steps start H).bind_agree fun _ _ H =>
      fail_sim (C := sound σ) (.plain rfl) _ _ ⟨rfl, H⟩
  refine (Passes.ok le_rfl trivial opened : Steps _ w (pushFrame f m)).bind_agree
    fun h₁ _ H₁ => (hn _ H₁).bind_agree fun h₂ _ H₂ => ?_
  refine (Passes.attempt (hb _ (h₁.trans h₂) _ _ ⟨rfl, H₂⟩)).bind_agree fun h₃ hxy H₃ => ?_
  refine (hn _ H₃).bind_agree fun h₄ _ H₄ => (closeFrame_steps H₄).bind_agree fun h₅ _ H₅ => ?_
  exact afterFrame_sim trivial (fun _ => rfl) (up (h₄.trans h₅) hxy) _ _ ⟨rfl, H₅⟩

theorem enterFunction_agree {d : FunctionDef} {vars : Namespace} {scope owner : Option Address}
    {receiver : Option Value}
    (hn : ∀ {c w m} moment, Stands c w m → Steps c w (r.notify moment m))
    (hv : NamespaceRel w vars vars) (hs : OptionRel KeptRel w scope scope)
    (ho : OptionRel AddrRel w owner owner) (hr : OptionRel ValueRel w receiver receiver)
    (hb : ∀ c' w', w ≤ w' → (sound σ).Sim c' w' FlowRel (r.block d.body) (r.block d.body))
    (H : Stands c w m) :
    Agree (sound σ) c w ValueRel (enterFunction r d vars scope owner receiver m)
      (enterFunction r d vars scope owner receiver m) := by
  refine (allocScope_passes H ⟨hv, hs⟩).bind_agree fun {w₁ a m₁} h₁ ha H₁ => ?_
  obtain ⟨rfl, place⟩ := ha
  let f := { Frame.start d.name .function m.heap.next d.pos.line with owner, receiver }
  have frame : FrameRel w₁ f f :=
    ⟨rfl, rfl, place, up h₁ ho, up h₁ hr, rfl, rfl, fun _ => rfl, fun _ => rfl, rfl⟩
  exact runFrame_agree (c := c) hn frame rfl nofun (fun w' hw => hb _ w' (h₁.trans hw)) H₁

theorem runClassBody_agree {d : ClassDef} {cls : Address} {parent : Option Address}
    (hn : ∀ {c w m} moment, Stands c w m → Steps c w (r.notify moment m))
    (ha : w.addr cls cls) (ho : OptionRel KeptRel w parent parent)
    (hb : ∀ c' w', w ≤ w' → (sound σ).Sim c' w' FlowRel (r.block d.body) (r.block d.body))
    (H : Stands c w m) : Agree (sound σ) c w NamespaceRel (runClassBody r cls parent d m)
      (runClassBody r cls parent d m) := by
  have hvars : NamespaceRel w
      (.ofList [("__module__", .str "__main__"), ("__qualname__", .str d.name)])
      (.ofList [("__module__", .str "__main__"), ("__qualname__", .str d.name)]) :=
    OrderedRel.ofList (.cons ⟨rfl, .str _⟩ (.cons ⟨rfl, .str _⟩ .nil))
  refine (allocScope_passes H ⟨hvars, ho⟩).bind_agree fun {w₁ a m₁} h₁ hl H₁ => ?_
  obtain ⟨rfl, place⟩ := hl
  let f := { Frame.start d.name .class_ m.heap.next d.pos.line with owner := some cls }
  have frame : FrameRel w₁ f f :=
    ⟨rfl, rfl, place, .some (h₁.addr ha), .none, rfl, rfl, fun _ => rfl, fun _ => rfl, rfl⟩
  have run := runFrame_agree (c := c) hn frame rfl nofun (fun w' hw => hb _ w' (h₁.trans hw)) H₁
  refine (Passes.attempt run).bind_agree fun {w₂ x m₂} h₂ hx H₂ => ?_
  refine getHeap_agree ?_
  have attrs : NamespaceRel w₂ (((m₂.heap.scope? m.heap.next).map Scope.vars).getD .empty)
      (((m₂.heap.scope? m.heap.next).map Scope.vars).getD .empty) :=
    OptionRel.getD (A := NamespaceRel)
      ((H₂.near.heap.scope? (h₂.place place)).map fun h => h.vars) OrderedRel.empty
  have freed : Steps c w₂ (changeHeap (·.free m.heap.next) m₂) := .ok le_rfl trivial H₂.free
  refine freed.bind_agree fun {w₃ _ m₃} h₃ _ H₃ => ?_
  cases hx with
  | ok _ => exact ok le_rfl (up h₃ attrs) H₃
  | error he => exact .error le_rfl (up h₃ he) ⟨rfl, H₃⟩

/-- Runners keep references live if their tasks do, and what is done at events does not fail. -/
theorem runner_of (tasks : TasksRel (sound σ) r.run r.run) (hr : r.reveal = pure ())
    (hn : ∀ {c w m} moment, Stands c w m → Steps c w (r.notify moment m)) :
    RunnerRel (sound σ) r r where
  toTasksRel := tasks
  bounds := .inl rfl
  reveal := by
    rw [hr]
    exact fun m m' hm => .ok le_rfl hm.2.tidy.sharp.exact hm
  reveals h := h.elim
  mark _ _ _ := markLine_sim (fun hm => hm.2.tidy.sharp.located)
    (fun reported => move_sim
      (fun h => { h with
        line := fun _ => rfl, reported := fun located => congrArg reported (h.reported located) })
      (fun _ => rfl) fun _ => rfl)
    fun moment => Passes.sim (hn moment)
  enter _ _ hv hs ho hr hb := sharply fun hw => by
    obtain rfl := Discrete.eq (A := NamespaceRel) hw hv
    obtain rfl := Discrete.eq hw hs
    obtain rfl := Discrete.eq hw ho
    obtain rfl := Discrete.eq hw hr
    rintro m _ ⟨rfl, H⟩
    exact enterFunction_agree hn hv hs ho hr (fun c' w' hw => hb c' w' hw fun _ _ => trivial) H
  classBody _ _ ha ho hb := sharply fun hw => by
    obtain rfl := Discrete.eq (A := AddrRel) hw ha
    obtain rfl := Discrete.eq hw ho
    rintro m _ ⟨rfl, H⟩
    exact runClassBody_agree hn ha ho (fun c' w' hw => hb c' w' hw fun _ _ => trivial) H

/-! ### The trail -/

end Sound

/-- The state that is noted is sound. -/
theorem Stands.visited {c : Footing} {w : World} {m : Machine (Trailed σ)} (H : Stands c w m)
    {inHand : List Value} (hv : ∀ x ∈ inHand, w.Refers x) : Stands c w (m.visited inHand) :=
  { H with
    near := { H.near with }
    trail :=
      { visits := List.forall_mem_cons.2 ⟨⟨w, H.grounded, hv⟩, H.trail.visits⟩
        since := List.pairwise_cons.2 ⟨H.since, H.trail.since⟩ }
    since := List.forall_mem_cons.2 ⟨.refl _, H.since⟩ }

namespace Sound

variable {c : Footing} {w : World} {m : Machine (Trailed σ)}
  {t : Task α} {A : Rel α α}

/-- Noting states keeps references live, if what a task is given is, and what comes of it. -/
theorem visiting_sim [Discrete A] {x : M (Trailed σ) α} (inHand : ∀ v ∈ t.inHand, w.Refers v)
    (given : ∀ {w' a}, A w' a a → ∀ v ∈ t.given a, w'.Refers v) (h : (sound σ).Sim c w A x x) :
    (sound σ).Sim c w A (visiting t x) (visiting t x) := by
  rintro m _ ⟨rfl, H⟩
  have inside := h _ _ ⟨rfl, H.visited inHand⟩
  rw [visiting_eq]
  revert inside
  generalize x _ = rx
  generalize hry : rx = ry
  intro inside
  cases inside with
  | left h | right h | lost h => exact h.elim
  | stop h =>
    cases hry
    exact .stop h
  | ok hw h hm =>
    cases hry
    exact ok hw h (hm.2.visited (given h))
  | error hw h hm =>
    cases hry
    exact .error hw h ⟨rfl, hm.2.visited h.fault.refers⟩

theorem visiting_tasks {run : {α : Type} → Task α → M (Trailed σ) α}
    (h : TasksRel (sound σ) run run) :
    TasksRel (sound σ) (fun t => visiting t (run t)) fun t => visiting t (run t) where
  eval he := visiting_sim (A := ValueRel) refers_nil refers_one (h.eval he)
  name hx := hx.elim
  exec hx hs hl := visiting_sim (A := FlowRel) refers_nil FlowRel.refers (h.exec hx hs hl)
  call ht hf hargs hks := sharply fun hw => by
    obtain rfl := Discrete.eq hw hf
    obtain rfl := Discrete.eq (A := ValuesRel) hw hargs
    obtain rfl := Discrete.eq (A := KeywordsRel) hw hks
    refine visiting_sim (A := ValueRel) ?_ refers_one (h.call ht hf hargs hks)
    exact List.forall_mem_cons.2 ⟨⟨_, hf⟩,
      List.forall_mem_append.2 ⟨ListRel.refers hargs, ListRel.refers (hks.map fun h => h.snd)⟩⟩
  equals ha hb := sharply fun hw => by
    obtain rfl := Discrete.eq hw ha
    obtain rfl := Discrete.eq hw hb
    exact visiting_sim (A := Same) (refers_two ha hb) (fun _ => refers_nil) (h.equals ha hb)
  order ha hb := sharply fun hw => by
    obtain rfl := Discrete.eq hw ha
    obtain rfl := Discrete.eq hw hb
    exact visiting_sim (A := Same) (refers_two ha hb) (fun _ => refers_nil) (h.order ha hb)
  repr hv := sharply fun hw => by
    obtain rfl := Discrete.eq hw hv
    exact visiting_sim (A := Same) (refers_one hv) (fun _ => refers_nil) (h.repr hv)
  str hv := sharply fun hw => by
    obtain rfl := Discrete.eq hw hv
    exact visiting_sim (A := Same) (refers_one hv) (fun _ => refers_nil) (h.str hv)
  iterate hv := sharply fun hw => by
    obtain rfl := Discrete.eq hw hv
    exact visiting_sim (A := ValuesRel) (refers_one hv) ListRel.refers (h.iterate hv)
  assign hc he hb hv := sharply fun hw => by
    obtain rfl := Discrete.eq hw hv
    exact visiting_sim (A := Same) (refers_one hv) (fun _ => refers_nil) (h.assign hc he hb hv)
  delete hc he := visiting_sim (A := Same) refers_nil (fun _ => refers_nil) (h.delete hc he)

/-- Runners that leave a trail keep references live, if what is done at events does not fail. -/
theorem trailer_rel {tell : Nat → Moment → M (Trailed σ) Unit}
    (hn : ∀ {c w m} fuel moment, Stands c w m → Steps c w (tell fuel moment m)) :
    ∀ fuel, RunnerRel (sound σ) (trailer tell fuel) (trailer tell fuel)
  | 0 => runner_of .stop rfl (hn 0)
  | fuel + 1 => runner_of (visiting_tasks (step_rel (trailer_rel hn fuel))) rfl (hn (fuel + 1))

/-! ### Events -/

theorem inspect_passes [Discrete A] {x : M (Trailed σ) α}
    (h : ∀ {c w}, (sound σ).Sim c w A x x) (H : Stands c w m) :
    Passes c w (fun w r => AttemptRel A w r r) (inspect x m) := by
  have inside := Passes.attempt
    (h _ _ ⟨rfl, (({ H with near := { H.near with } }) :
      Stands c w { m with inspecting := true })⟩)
  have looked : Passes c w (fun w r => AttemptRel A w r r)
      ((attempt x >>= fun result => do
        modify fun m' => { m' with inspecting := m.inspecting, pos := m.pos }
        return result) { m with inspecting := true }) :=
    inside.bind fun _ hr H => .ok le_rfl hr { H with near := { H.near with pos := fun _ => rfl } }
  exact looked

/-- What an inquiry goes on with, given an answer. -/
theorem answer_steps {γ : Type} {A : Rel γ γ} [Discrete A] {r : Runner (Trailed σ)}
    {next : Machine σ → Except RuntimeError γ → Inquiry σ} {x : M (Trailed σ) γ}
    (ih : ∀ m answer {w m'}, Stands c w m' → Steps c w (inquireTrailed r (next m answer) m'))
    (hx : ∀ {c w}, (sound σ).Sim c w A x x) (H : Stands c w m) :
    Steps c w ((do let result ← inspect x; inquireTrailed r (next (← get).plain result) :
      M (Trailed σ) Unit) m) :=
  (inspect_passes hx H).bind fun {_ result m'} _ _ H' => ih m'.plain result H'

theorem inquire_steps {r : Runner (Trailed σ)} (hr : RunnerRel (sound σ) r r) (q : Inquiry σ) :
    ∀ {w m}, Stands c w m → Steps c w (inquireTrailed r q m) := by
  have known {ps : List Phrase} : Every (sound σ).phrase ps := every_of (fun _ => trivial) ps
  induction q with
  | note log =>
    intro w m H
    exact .ok le_rfl trivial { H with
      near := { H.near with }
      trail := ⟨H.trail.visits, H.trail.since⟩ }
  | eval e next ih => exact answer_steps (A := ValueRel) ih (hr.eval known)
  | test e next ih =>
    exact answer_steps (A := Same) ih ((hr.eval known).bind fun _ _ _ _ hv => truthy_sim hr hv)

theorem report_steps (kind : EventKind) (H : Stands c w m) :
    Steps c w (reportTrailed kind m) := by
  have reported : Steps c w (report kind m) := by
    cases hs : m.stack with
    | nil =>
      rw [report_nil hs]
      exact .ok le_rfl trivial H
    | cons f fs =>
      rw [report_eq hs]
      exact .ok le_rfl trivial { H with near := { H.near with } }
  exact reported.bind fun _ _ H' => .ok le_rfl trivial (H'.visited refers_nil)

theorem ask_steps (observe : Observer σ) (fuel : Nat) (moment : Moment) (H : Stands c w m) :
    Steps c w (askTrailed observe fuel moment m) :=
  (report_steps moment.kind H).bind fun _ _ H' =>
    inquire_steps (trailer_rel (fun _ _ H => .ok le_rfl trivial H) fuel) _ H'

theorem trailing_rel (observe : Observer σ) (fuel : Nat) :
    RunnerRel (sound σ) (trailing observe fuel) (trailing observe fuel) :=
  trailer_rel (ask_steps observe) fuel

/-! ### Whole runs -/

/-- However a run ends, the references in the states that it came through are live. -/
theorem log_grounded {A : Rel α β} {x y} (h : Agree (sound σ) c w A x y) :
    (machineOf x).log.Grounded := by
  cases h with
  | left h | right h | lost h => exact h.elim
  | stop h => exact h.2
  | ok _ _ hm | error _ _ hm => exact hm.2.trail

theorem machineOf_discard (x : M σ α) (m : Machine σ) :
    machineOf ((do let _ ← x : M σ Unit) m) = machineOf (x m) := by
  show machineOf (EStateM.bind x (fun _ => pure ()) m) = _
  unfold EStateM.bind
  cases x m <;> rfl

theorem runProgram_grounded (observe : Observer σ) (fuel : Nat) (p : Program)
    (H : Stands ⟨[], []⟩ w m) :
    (machineOf (runProgram (trailing observe fuel) p m)).log.Grounded := by
  have frame : FrameRel w (Frame.start moduleName .module m.globals 0)
      (Frame.start moduleName .module m.globals 0) :=
    ⟨rfl, rfl, H.near.globals, .none, .none, rfl, rfl, fun _ => rfl, fun _ => rfl, rfl⟩
  have body {w' : World} : (sound σ).Sim ⟨[(.module, m.globals)], []⟩ w' FlowRel
      ((trailing observe fuel).block p) ((trailing observe fuel).block p) :=
    block_sim (trailing_rel observe fuel) trivial (every_of (fun _ => trivial) _)
      fun _ _ => trivial
  have run := runFrame_agree (c := ⟨[], []⟩) (ask_steps observe fuel) frame rfl (fun _ => rfl)
    (fun _ _ => body) H
  have same : machineOf (runProgram (trailing observe fuel) p m) = machineOf _ :=
    machineOf_discard (runFrame (trailing observe fuel) _ p) m
  rw [same]
  exact log_grounded run

/-! ### The start -/

theorem get?_empty (a : Address) : Heap.empty.get? a = none := by
  simp [Heap.get?, Heap.empty]

theorem empty_tidy : Tidy (World.nothing False False) Heap.empty where
  grown := grown_empty
  phrase := rfl
  sharp := ⟨False.elim, False.elim, trivial⟩
  place ho := by
    rw [get?_empty] at ho
    cases ho
  seen ho := by
    rw [get?_empty] at ho
    cases ho
  object := False.elim
  kept := False.elim
  filed := False.elim

/-- The scope of the module, and that it is there. -/
theorem scope_tidy (vars : Namespace) (hv : ∀ w, NamespaceRel w vars vars) :
    ∃ w, Tidy w (Heap.empty.alloc (.scope ⟨vars, none⟩)).2 ∧
      (Heap.empty.alloc (.scope ⟨vars, none⟩)).2.HasScope Heap.empty.next := by
  have grown : Grown (empty_tidy.grown.world False False)
      (Heap.empty.alloc (.scope ⟨vars, none⟩)).2 (Heap.empty.alloc (.scope ⟨vars, none⟩)).2 :=
    empty_tidy.grown.allocRel (.scope ⟨hv _, .none⟩)
  refine ⟨_, empty_tidy.alloc (by simp [Object.isScope]) grown, ⟨vars, none⟩, ?_⟩
  rw [Heap.scope?_eq_some, Heap.get?_alloc, if_pos rfl]

theorem start_stands (log : σ) : ∃ w, Stands ⟨[], []⟩ w (Machine.start log).trailed := by
  obtain ⟨w₀, tidy, scope⟩ := scope_tidy (.ofList [("__name__", .str "__main__")])
    fun _ => .ofList (.cons ⟨rfl, .str _⟩ .nil)
  obtain ⟨w, -, ⟨-, tidy, scope⟩, known⟩ := exceptionClasses_rel
    (P := fun w h h' => h = h' ∧ Tidy w h ∧ h.HasScope Heap.empty.next)
    (fun {w h h'} name {bases bases'} H hb => by
      obtain ⟨rfl, tidy, scope⟩ := H
      obtain rfl := Discrete.eq (A := ListRel AddrRel) tidy.sharp hb
      exact ⟨_, World.le_meet, ⟨.inr ⟨rfl, rfl⟩, .inr ⟨rfl, trivial⟩⟩, rfl,
        tidy.alloc (iff_of_true trivial rfl) (tidy.grown.allocClass name true hb), scope.alloc _⟩)
    ⟨rfl, tidy, scope⟩
  exact ⟨w, {
    near := ⟨tidy.grown.heapRel, .nil, tidy.place (Heap.scope?_eq_some.1 scope.choose_spec), known,
      .nil, fun _ => rfl, .nil, .nil⟩
    tidy := tidy
    frames := rfl
    globals := scope
    modules := nofun
    own := nofun
    apart := List.nodup_cons.2 ⟨List.not_mem_nil, .nil⟩
    loose := nofun
    unkept := nofun
    trail := ⟨nofun, .nil⟩
    since := nofun }⟩

/-- A list that the module has a name for. -/
theorem listed_stands {m : Machine σ} (H : Stands c w m.trailed) {items : Array Value}
    (hi : ValuesRel w items.toList items.toList) (name : String) :
    ∃ w', Stands c w' ({ m with heap := (m.heap.alloc (.list items)).2 }.setGlobal name
      (.ref (m.heap.alloc (.list items)).1)).trailed := by
  have grown : Grown (H.tidy.grown.world True False) (m.heap.alloc (.list items)).2
      (m.heap.alloc (.list items)).2 := H.tidy.grown.allocRel (.list hi)
  have listed := H.alloc (iff_of_true trivial rfl) grown
  have new : (H.tidy.grown.world True False).addr m.heap.next m.heap.next :=
    ⟨.inr ⟨rfl, rfl⟩, .inr ⟨rfl, trivial⟩⟩
  exact ⟨_, listed.edit listed.near.globals (edit_scope fun hn => hn.set rfl (.ref new))⟩

/-- The lines of a script are there before a recorded run. -/
theorem forTrace_stands (s : Listing) : ∃ w, Stands ⟨[], []⟩ w (Machine.forTrace s).trailed := by
  obtain ⟨w, H⟩ := start_stands Recorder.start
  refine listed_stands (m := Machine.start Recorder.start) H ?_ Recorder.linesName
  rw [Array.toList_map]
  exact ListRel.map (A := Same) (List.forall₂_same.2 fun _ _ => rfl) fun h => h ▸ .str _

end Sound

/-! ### Chains are unbroken -/

/-- Whether a shown value is no chain with an error. -/
def Shown.Unbroken : Shown → Prop
  | .chain c => c.error = none
  | .plain _ => True

/-- Whether an entry shows no chain with an error. -/
def Entry.Unbroken (e : Entry) : Prop :=
  ∀ s ∈ e.snapshot?, ∀ b ∈ s.locals.entries, b.2.Unbroken

namespace Recorder

theorem describe_unbroken (h : Heap) (v : Value) : (describe h v).2.Unbroken := by
  unfold describe
  dsimp only
  split
  · exact Heap.chainOf_unbroken h v
  · split <;> trivial

theorem snapshot_unbroken (kind : EventKind) (m : Machine Recorder) (f : Frame)
    (scope : Option LineScope) (depth : Nat) (branch : Option Bool) :
    (Entry.step kind (snapshot m f scope depth branch)).Unbroken := by
  rintro s ⟨⟩
  exact snapshot_locals describe_unbroken m f scope depth branch

end Recorder

theorem Entry.unbroken_of_isStep {e : Entry} (h : e.isStep = false) : e.Unbroken := by
  cases e with
  | step => cases h
  | _ => nofun

/-- No trace shows a chain with an error. -/
theorem traceProgram_unbroken (source : String) (p : Program) :
    (recordedRun ample (Listing.of source p) p).1 = .outOfFuel ∨
      ∀ e ∈ traceProgram source p, e.Unbroken := by
  have phrases : Every (fun _ : Phrase => True) (blockParts p) := every_of (fun _ => trivial) _
  have kept := recordedRun_keeps ample (Listing.of source p) (P := Entry.Unbroken) phrases
    (fun _ => trivial)
    fun kind m f scope depth branch _ _ => Recorder.snapshot_unbroken kind m f scope depth branch
  exact forall_mem_traceProgram (kept.imp_right fun h => h.2.2) fun _ => Entry.unbroken_of_isStep

/-! ### The trail of a run -/

/-- Whether every run from a machine on comes through nothing but sound states: those on the trail
of the same run, whether it ends or not. -/
def Machine.StaysSound (m : Machine σ) (observe : Observer σ) : Prop :=
  ∀ fuel p,
    plainly (runProgram (trailing observe fuel) p m.trailed) =
        runProgram (watched observe fuel) p m ∧
      (machineOf (runProgram (trailing observe fuel) p m.trailed)).log.Sound

theorem Stands.staysSound {w : World} {m : Machine σ} (H : Stands ⟨[], []⟩ w m.trailed)
    (observe : Observer σ) : m.StaysSound observe := fun fuel p =>
  ⟨trailing_runs observe fuel p m.trailed, (Sound.runProgram_grounded observe fuel p H).sound⟩

theorem start_always_sound (observe : Observer σ) (log : σ) :
    (Machine.start log).Always observe Machine.Sound := by
  obtain ⟨w, H⟩ := Sound.start_stands log
  intro fuel p
  have stays := Stands.staysSound (m := Machine.start log) H observe fuel p
  exact ⟨stays.1, stays.2.machines⟩

theorem forTrace_always_sound (s : Listing) :
    (Machine.forTrace s).Always (Recorder.observe s) Machine.Sound := by
  obtain ⟨w, H⟩ := Sound.forTrace_stands s
  intro fuel p
  have stays := Stands.staysSound (m := Machine.forTrace s) H (Recorder.observe s) fuel p
  exact ⟨stays.1, stays.2.machines⟩

/-- References stay live: all that a run refers to in any state it comes through is there, whoever
watches it, and no address is given out twice. So no chain in a trace has an error. -/
theorem references_live :
    (∀ {σ : Type} (observe : Observer σ) (log : σ), (Machine.start log).StaysSound observe) ∧
      (∀ s, (Machine.forTrace s).StaysSound (Recorder.observe s)) ∧
      ∀ source p, (recordedRun ample (Listing.of source p) p).1 = .outOfFuel ∨
        ∀ e ∈ traceProgram source p, e.Unbroken := by
  refine ⟨fun observe log => ?_, fun s => ?_, traceProgram_unbroken⟩
  · obtain ⟨w, H⟩ := Sound.start_stands log
    exact Stands.staysSound (m := Machine.start log) H observe
  · obtain ⟨w, H⟩ := Sound.forTrace_stands s
    exact Stands.staysSound (m := Machine.forTrace s) H (Recorder.observe s)

end Stepwise
