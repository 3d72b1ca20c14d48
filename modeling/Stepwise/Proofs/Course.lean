import Stepwise.Proofs.Sound

/-!
# What becomes of a heap

Wherever a run comes, its heap has come out of the heap at any state before by making objects,
changing them and giving them up (`start_always_evolved`). An address is not given out twice and an
object keeps its kind, so what is still there is the object that was there (`Evolves.like`), and a
built-in class without attributes is as it was (`Evolves.class?_builtin`).

## The model

The run that leaves a trail goes beside the run that it follows (`evolving`). What may be changed in
any way are the classes that a script has made (`made`); a built-in class without attributes gets
none. Only containers are marked while they are being written.
-/

namespace Stepwise

open Script Coupling

variable {σ α β : Type}

/-! ### Steps of a heap -/

theorem Like.trans {o o' o'' : Object} (first : Like o o') (second : Like o' o'') : Like o o'' := by
  cases first with
  | refl => exact second
  | list => cases second <;> exact .list ..
  | dict => cases second <;> exact .dict ..
  | set => cases second <;> exact .set ..
  | inst cls =>
    cases second with
    | refl => exact .inst cls
    | inst cls' => exact .inst (cls.trans cls')
  | cls name bases mro builtin =>
    cases second with
    | refl => exact .cls name bases mro builtin
    | cls name' bases' mro' builtin' =>
      exact .cls (name.trans name') (bases.trans bases') (mro.trans mro') (builtin.trans builtin')
  | scope parent =>
    cases second with
    | refl => exact .scope parent
    | scope parent' => exact .scope (parent.trans parent')

theorem Like.isContainer {o o' : Object} (h : Like o o') : o'.isContainer = o.isContainer := by
  cases h <;> rfl

namespace Heap

variable {own : Address → Prop} {h h' : Heap} {a b : Address} {o o' : Object} {k : Class}

/-- What becomes of a heap, step by step. Where the script may not change classes in any way, a
built-in class without attributes stays as it is. -/
inductive Evolves (own : Address → Prop) (h : Heap) : Heap → Prop
  | start : Evolves own h h
  | alloc {h' : Heap} (o : Object) (data : ∀ c, o ≠ .cls c) :
    Evolves own h h' → Evolves own h (h'.alloc o).2
  | create {h' : Heap} (name : String) {bases : List Address} (older : ∀ b ∈ bases, b < h'.next) :
    Evolves own h h' → Evolves own h (h'.allocClass name bases false).2
  | tuple {h' : Heap} (items : List Value) : Evolves own h h' → Evolves own h (h'.tuple items).2
  | modify {h' : Heap} {a : Address} {f : Object → Object} (like : ∀ o, Like o (f o))
    (spares : own a ∨ SparesBuiltins f) : Evolves own h h' → Evolves own h (h'.modify a f)
  | free {h' : Heap} (a : Address) : Evolves own h h' → Evolves own h (h'.free a)

namespace Evolves

theorem next_le (t : h.Evolves own h') : h.next ≤ h'.next := by
  induction t with
  | start => exact Nat.le_refl _
  | tuple _ _ ih => exact ih
  | alloc o _ _ ih => exact (next_alloc _ o).symm ▸ Nat.le_succ_of_le ih
  | create _ _ _ ih => exact (next_alloc _ _).symm ▸ Nat.le_succ_of_le ih
  | modify _ _ _ ih => rwa [next_modify]
  | free _ _ ih => rwa [next_free]

/-- What is known of an object that was there is still known of it, if changes keep it. -/
theorem keeps {P : Object → Prop} (t : h.Evolves own h') (low : a < h.next)
    (changed : ∀ {f o}, (∀ o, Like o (f o)) → own a ∨ SparesBuiltins f → P o → P (f o))
    (now : ∀ o, h.get? a = some o → P o) : ∀ o, h'.get? a = some o → P o := by
  have old {h' : Heap} (t : h.Evolves own h') : a ≠ h'.next :=
    Nat.ne_of_lt (Nat.lt_of_lt_of_le low t.next_le)
  induction t with
  | start => exact now
  | tuple _ _ ih => exact ih
  | alloc o _ t ih =>
    intro o' ho
    rw [get?_alloc, if_neg (old t)] at ho
    exact ih o' ho
  | create _ _ t ih =>
    intro o' ho
    rw [allocClass, get?_alloc, if_neg (old t)] at ho
    exact ih o' ho
  | modify like spares _ ih =>
    intro o' ho
    rw [get?_modify] at ho
    split at ho
    · next same =>
      subst same
      obtain ⟨o, found, rfl⟩ := Option.map_eq_some_iff.1 ho
      exact changed like spares (ih o found)
    · exact ih o' ho
  | free b _ ih =>
    intro o' ho
    rw [get?_free] at ho
    split at ho
    · cases ho
    · exact ih o' ho

/-- What is still there is the object that was there, and of the same kind. -/
theorem like (t : h.Evolves own h') (low : a < h.next) (ho : h'.get? a = some o') :
    ∃ o, h.get? a = some o ∧ Like o o' :=
  t.keeps (P := fun o' => ∃ o, h.get? a = some o ∧ Like o o') low
    (fun like _ ⟨o, ho, same⟩ => ⟨o, ho, same.trans (like _)⟩) (fun o ho => ⟨o, ho, .refl o⟩) o' ho

/-- A built-in class without attributes is still as it was. -/
theorem class?_builtin (t : h.Evolves own h') (hk : h.class? a = some k) (spared : ¬own a)
    (builtin : k.builtin = true) (bare : k.attrs = .empty) (ho : h'.get? a = some o) :
    h'.class? a = some k := by
  have found := class?_eq_some.1 hk
  have same : o = .cls k := t.keeps (P := (· = .cls k)) (lt_next found)
    (fun _ spares e => e ▸ spares.resolve_left spared k builtin bare)
    (fun o ho => Option.some.inj (ho.symm.trans found)) o ho
  exact class?_eq_some.2 (same ▸ ho)

end Evolves

end Heap

/-! ### What a run keeps -/

/-- The built-in exception classes at the start, and where they are. -/
def builtinExceptions : List (String × Address) := (Machine.start ()).exceptions

/-- Where a run makes objects: behind the built-in exception classes. -/
def made (a : Address) : Prop := (Machine.start ()).heap.next ≤ a

/-- Whether addresses have been given out, and what is still there of them are containers. -/
def Heap.MarksContainers (h : Heap) (as : List Address) : Prop :=
  ∀ a ∈ as, a < h.next ∧ ∀ o, h.get? a = some o → o.isContainer = true

/-- A machine that has come out of the start, and marks nothing but containers while they are being
written. -/
structure Machine.Evolved (m : Machine σ) : Prop where
  heap : (Machine.start ()).heap.Evolves made m.heap
  exceptions : m.exceptions = builtinExceptions
  writing : m.heap.MarksContainers m.writing

/-- The states of a trail have come out of each other. -/
structure Trailed.Evolved (t : Trailed σ) : Prop where
  machines : ∀ v ∈ t.visits, v.machine.Evolved
  course : t.visits.Pairwise fun later earlier =>
    earlier.machine.heap.Evolves made later.machine.heap

/-- A heap on which no address is in use that has not been given out. -/
structure Settled (w : World) (h : Heap) : Prop where
  grown : Grown w h h
  sharp : w.Sharp
  flat : w.Flat
  phrase : w.phrase = fun _ => True

namespace Settled

variable {w : World} {h h' : Heap}

/-- A heap with one more object. -/
theorem meet (H : Settled w h) (grown : Grown (H.grown.world True True) h' h') :
    Settled (H.grown.world True True) h' where
  grown := grown
  sharp := by
    refine ⟨?_, H.sharp.mark, H.sharp.located⟩
    rintro a b (h | ⟨rfl, rfl⟩)
    · exact H.sharp.place h
    · rfl
  flat := H.flat.mono World.le_meet
  phrase := H.phrase

/-- A heap with one more value under a key. -/
theorem file (H : Settled w h) (k : Key) (v : Value) : Settled (w.file k v) h where
  grown := H.grown.file k v
  sharp := ⟨H.sharp.place, H.sharp.mark, H.sharp.located⟩
  flat := H.flat.mono World.le_file
  phrase := H.phrase

/-- A heap with one more tuple. -/
theorem tuple (H : Settled w h) (items : List Value) :
    Settled H.grown.worldMarks (h.tuple items).2 where
  grown := H.grown.tuple items items
  sharp := by
    refine ⟨H.sharp.place, ?_, H.sharp.located⟩
    rintro j k (h | ⟨rfl, rfl⟩)
    · exact H.sharp.mark h
    · rfl
  flat := H.flat.mono World.le_meetMarks
  phrase := H.phrase

end Settled

/-- A machine on which no address is in use that has not been given out, and that has come out of all
states that it has been in. -/
structure Evolving (w : World) (m : Machine (Trailed σ)) : Prop where
  near : Near w m m
  settled : Settled w m.heap
  heap : (Machine.start ()).heap.Evolves made m.heap
  exceptions : m.exceptions = builtinExceptions
  writing : m.heap.MarksContainers m.writing
  since : ∀ v ∈ m.log.visits, v.machine.heap.Evolves made m.heap
  trail : m.log.Evolved

namespace Evolving

variable {w w' : World} {m : Machine (Trailed σ)} {h : Heap} {o : Object} {a : Address}

/-- Another heap, that comes out of the one before in one step. -/
theorem withHeap (H : Evolving w m) (hw : w ≤ w') (settled : Settled w' h)
    (step : ∀ {h₀ : Heap}, h₀.Evolves made m.heap → h₀.Evolves made h) :
    Evolving w' { m with heap := h } where
  near := H.near.withHeap hw settled.grown.heapRel
  settled := settled
  heap := step H.heap
  exceptions := H.exceptions
  writing := fun a ha => by
    obtain ⟨low, kind⟩ := H.writing a ha
    have t : m.heap.Evolves made h := step .start
    refine ⟨Nat.lt_of_lt_of_le low t.next_le, fun o' ho' => ?_⟩
    obtain ⟨o, ho, like⟩ := t.like low ho'
    exact like.isContainer.trans (kind o ho)
  since := fun v hv => step (H.since v hv)
  trail := H.trail

/-- A new object that is no class. -/
theorem alloc (H : Evolving w m) (ho : ObjectRel w o o) (data : ∀ c, o ≠ .cls c) :
    Evolving (H.settled.grown.world True True) { m with heap := (m.heap.alloc o).2 } :=
  H.withHeap World.le_meet (H.settled.meet (H.settled.grown.allocRel ho)) (.alloc o data)

/-- A new class. -/
theorem allocClass (H : Evolving w m) (name : String) {bases : List Address}
    (hb : ListRel AddrRel w bases bases) : Evolving (H.settled.grown.world True True)
      { m with heap := (m.heap.allocClass name bases false).2 } := by
  refine H.withHeap World.le_meet (H.settled.meet (H.settled.grown.allocClass name false hb))
    (.create name fun b hb' => ?_)
  obtain ⟨b', hb'⟩ := hb.partner b hb'
  exact (H.settled.grown.used hb'.1).1

theorem tuple (H : Evolving w m) (items : List Value) :
    Evolving H.settled.grown.worldMarks { m with heap := (m.heap.tuple items).2 } :=
  H.withHeap World.le_meetMarks (H.settled.tuple items) (.tuple items)

/-- Changes that do the same to related objects do the same to the heap. -/
theorem modify_eq (H : Evolving w m) {f f' : Object → Object} (ha : w.place a a)
    (he : Edit w f f') : m.heap.modify a f = m.heap.modify a f' :=
  m.heap.modify_congr fun o ho => by
    have same := H.settled.grown.get ha
    rw [ho] at same
    cases same with
    | some same => exact Discrete.eq H.settled.sharp (he.rel same)

theorem modify (H : Evolving w m) {f f' : Object → Object} (ha : w.place a a) (he : Edit w f f')
    (spares : made a ∨ SparesBuiltins f) : Evolving w { m with heap := m.heap.modify a f } := by
  have grown := H.settled.grown.modify ha he
  rw [← H.modify_eq ha he] at grown
  exact H.withHeap le_rfl { H.settled with grown } (.modify he.left spares)

theorem free (H : Evolving w m) (ha : w.place a a) :
    Evolving w { m with heap := m.heap.free a } :=
  H.withHeap le_rfl { H.settled with grown := H.settled.grown.free ha } (.free a)

/-- The state that is noted has come out of those before. -/
theorem visited (H : Evolving w m) (inHand : List Value) : Evolving w (m.visited inHand) :=
  { H with
    near := { H.near with }
    since := List.forall_mem_cons.2 ⟨.start, H.since⟩
    trail := {
      machines := List.forall_mem_cons.2 ⟨⟨H.heap, H.exceptions, H.writing⟩, H.trail.machines⟩
      course := List.pairwise_cons.2 ⟨H.since, H.trail.course⟩ } }

end Evolving

/-! ### A run beside itself -/

/-- A run that leaves a trail beside the same run without one. -/
def evolving (σ : Type) : Coupling (Trailed σ) σ where
  Ctx := Unit
  Holds _ w m m' := m' = m.plain ∧ Evolving w m
  phrase _ := True
  line _ _ := True
  changes := True
  executes := True
  harmless _ := False
  Tame _ := True
  own := made
  lopsided := False
  Left := False
  Right := False
  Stops m m' := m' = m.plain ∧ m.log.Evolved
  stops h := ⟨h.1, h.2.trail⟩
  slack := False.elim

namespace Course

variable {c : (evolving σ).Ctx} {w : World} {A : Rel α β}

/-- Computations that do the same one thing on both sides. -/
theorem sim_of {x : M (Trailed σ) α} {y : M σ β}
    (h : ∀ m, Evolving w m → ∃ a b w' m', x m = .ok a m' ∧ y m.plain = .ok b m'.plain ∧ w ≤ w' ∧
      A w' a b ∧ Evolving w' m') : (evolving σ).Sim c w A x y := by
  rintro m _ ⟨rfl, H⟩
  obtain ⟨a, b, w', m', hx, hy, hw, ha, H'⟩ := h m H
  rw [hx, hy]
  exact .ok hw ha ⟨rfl, H'⟩

/-- Steps that change both machines in the same way. -/
theorem step_sim {f : Machine (Trailed σ) → Machine (Trailed σ)} {g : Machine σ → Machine σ}
    (same : ∀ m, (f m).plain = g m.plain) (keeps : ∀ m, Evolving w m → Evolving w (f m)) :
    (evolving σ).Sim c w Same (modify f) (modify g) :=
  sim_of fun m H => ⟨(), (), w, f m, rfl, by rw [same]; rfl, le_rfl, rfl, keeps m H⟩

/-- Nothing is related but what is equal. -/
theorem sharply {x : M (Trailed σ) α} {y : M σ β} (h : w.Sharp → (evolving σ).Sim c w A x y) :
    (evolving σ).Sim c w A x y :=
  fun m m' hm => h hm.2.settled.sharp m m' hm

theorem near_of_holds {m : Machine (Trailed σ)} {m' : Machine σ}
    (h : (evolving σ).Holds c w m m') : Near w m m' ∧ w.Flat := by
  obtain ⟨rfl, H⟩ := h
  exact ⟨{ H.near with }, H.settled.flat⟩

theorem move_sim {g : Frame → Frame}
    (rel : ∀ {w f f'}, FrameRel w f f' → FrameRel w (g f) (g f')) :
    (evolving σ).Sim c w Same (changeFrame g) (changeFrame g) :=
  step_sim (fun _ => rfl) fun _ H =>
    { H with near := { H.near with stack := H.near.stack.modifyHead rel } }

theorem alloc_sim {o o' : Object} (h : ObjectRel w o o') (data : ∀ c, o ≠ .cls c) :
    (evolving σ).Sim c w AddrRel (alloc o) (alloc o') :=
  sim_of fun m H => by
    obtain rfl := Discrete.eq H.settled.sharp h
    exact ⟨_, _, _, _, rfl, rfl, World.le_meet, ⟨.inr ⟨rfl, rfl⟩, .inr ⟨rfl, trivial⟩⟩,
      H.alloc h data⟩

instance : (evolving σ).Lawful where
  near h := (near_of_holds h).1
  phrase _ h := h.2.settled.phrase
  knows _ h _ := h.2.settled.phrase ▸ trivial
  changes _ := trivial
  calm := .inl trivial
  harmless _ := False.elim
  executes _ _ := .inl trivial
  tame _ _ := trivial
  special _ _ _ := trivial
  inert _ _ := .inl trivial
  upright _ := id
  inspecting h := .inl (h.1 ▸ rfl)
  filed h _ _ := ⟨_, World.le_file, World.file_filed, h.1, h.2.withHeap World.le_file
    (h.2.settled.file _ _) id⟩
  alloc h data := alloc_sim h fun c e => by
    rw [e] at data
    cases data
  allocClass name _ h := sim_of fun m H => by
    obtain rfl := Discrete.eq H.settled.sharp h
    exact ⟨_, _, _, _, rfl, rfl, World.le_meet, ⟨.inr ⟨rfl, rfl⟩, .inr ⟨rfl, trivial⟩⟩,
      H.allocClass name h⟩
  tuple {c w items items'} h := sim_of fun m H => by
    obtain rfl := Discrete.eq (A := ValuesRel) H.settled.sharp h
    exact ⟨_, _, _, _, rfl, rfl, World.le_meetMarks,
      .tuple (.inr ⟨rfl, rfl⟩) (up (A := ValuesRel) World.le_meetMarks h), H.tuple items⟩
  edit {c w a a' f f'} _ ha he _ spares := sim_of fun m H => by
    obtain rfl := H.settled.sharp.place ha
    refine ⟨(), (), w, { m with heap := m.heap.modify a f }, rfl, ?_, le_rfl, rfl,
      H.modify ha he spares⟩
    rw [H.modify_eq ha he]
    rfl
  owns h := h.2.heap.next_le
  emit _ _ := step_sim (fun _ => rfl) fun _ H => { H with near := { H.near with } }
  goTo _ same := sim_of fun m H => by
    obtain rfl := same H.settled.sharp.located
    exact ⟨(), (), _, _, rfl, rfl, le_rfl, rfl,
      { H with near := { H.near with pos := fun _ => rfl } }⟩
  amend _ hg _ := move_sim hg.rel
  capture _ := capturedScope_sim near_of_holds (move_sim capture_amends.rel)
  enlist name _ ha := sim_of fun m H => by
    obtain rfl := Discrete.eq (A := AddrRel) H.settled.sharp ha
    exact ⟨(), (), _, _, rfl, rfl, le_rfl, rfl,
      { H with near := { H.near with modules := .cons ⟨rfl, ha⟩ H.near.modules } }⟩
  writing {c w a a' m m'} _ _ A x y hm container ha h := by
    obtain rfl := Discrete.eq (A := AddrRel) hm.2.settled.sharp ha
    refine Sim.whileWriting ⟨(), ?_, fun {w' m m'} _ hm => ?_⟩ fun c' => h c' w le_rfl fun _ h => h
    · obtain ⟨rfl, H⟩ := hm
      have marked : m.heap.MarksContainers (a :: m.writing) := by
        obtain ⟨o, ho, kind⟩ := (Option.any_eq_true ..).1 container
        refine List.forall_mem_cons.2 ⟨⟨Heap.lt_next ho, fun o' ho' => ?_⟩, H.writing⟩
        rwa [Option.some.inj (ho'.symm.trans ho)]
      exact ⟨rfl, { H with
        near := { H.near with writing := .cons ha H.near.writing }, writing := marked }⟩
    · obtain ⟨rfl, H⟩ := hm
      exact ⟨rfl, { H with
        near := { H.near with writing := ListRel.tail H.near.writing }
        writing := fun a ha => H.writing a (List.mem_of_mem_tail ha) }⟩
  handling {c w e e'} _ _ A x y _ he h := sharply fun hw => by
    obtain rfl := Discrete.eq hw he
    refine Sim.whileHandling (fun {m m'} hm => ⟨(), ?_, fun {w' m m'} _ hm => ?_⟩) id
      fun c' => h c' w le_rfl fun _ h => h
    · obtain ⟨rfl, H⟩ := hm
      exact ⟨rfl, { H with near := { H.near with handled := .cons he H.near.handled } }⟩
    · obtain ⟨rfl, H⟩ := hm
      exact ⟨rfl, { H with near := { H.near with handled := ListRel.tail H.near.handled } }⟩

instance : (evolving σ).Unframed where
  scope hs := (alloc_sim (.scope hs) nofun).mono fun _ _ _ _ h => h.1
  free _ ha := sim_of fun m H => by
    obtain rfl := H.settled.sharp.place ha
    exact ⟨(), (), _, _, rfl, rfl, le_rfl, rfl, H.free ha⟩
  push hf := sim_of fun m H => by
    obtain rfl := Discrete.eq H.settled.sharp hf
    exact ⟨(), (), _, _, rfl, rfl, le_rfl, rfl,
      { H with near := { H.near with stack := .cons hf H.near.stack } }⟩
  pop := sim_of fun m H => ⟨_, _, _, _, rfl, rfl, le_rfl, H.near.frame,
    { H with near := { H.near with stack := ListRel.tail H.near.stack } }⟩
  move := move_sim

instance : (evolving σ).Follows where
  left := id
  right := id
  steady := id
  acts := trivial
  phrases _ := trivial
  lines _ _ := trivial
  plain h := h.1
  sharp h := h.2.settled.sharp
  visited inHand h := ⟨h.1, h.2.visited inHand⟩
  noted _ h := ⟨h.1 ▸ rfl, { h.2 with
    near := { h.2.near with }, trail := ⟨h.2.trail.machines, h.2.trail.course⟩ }⟩
  looked _ _ h := ⟨h.1 ▸ rfl, { h.2 with near := { h.2.near with pos := fun _ => rfl } }⟩
  told _ h := ⟨h.1 ▸ rfl, { h.2 with near := { h.2.near with } }⟩

end Course

/-! ### The start -/

theorem scope_settled (vars : Namespace) (hv : ∀ w, NamespaceRel w vars vars) :
    ∃ w, Settled w (Heap.empty.alloc (.scope ⟨vars, none⟩)).2 ∧
      w.place Heap.empty.next Heap.empty.next := by
  have empty : Settled (World.nothing True True) Heap.empty :=
    ⟨grown_empty, ⟨False.elim, False.elim, trivial⟩, fun _ => ⟨trivial, trivial⟩, rfl⟩
  exact ⟨_, empty.meet (empty.grown.allocRel (.scope ⟨hv _, .none⟩)), .inr ⟨rfl, rfl⟩⟩

theorem start_evolving (log : σ) : ∃ w, Evolving w (Machine.start log).trailed := by
  obtain ⟨w₀, settled, globals⟩ := scope_settled (.ofList [("__name__", .str "__main__")])
    fun _ => .ofList (.cons ⟨rfl, .str _⟩ .nil)
  obtain ⟨w, hw, ⟨-, settled, globals⟩, known⟩ := exceptionClasses_rel
    (P := fun w h h' => h = h' ∧ Settled w h ∧ w.place Heap.empty.next Heap.empty.next)
    (fun {w h h'} name {bases bases'} H hb => by
      obtain ⟨rfl, settled, globals⟩ := H
      obtain rfl := Discrete.eq (A := ListRel AddrRel) settled.sharp hb
      exact ⟨_, World.le_meet, ⟨.inr ⟨rfl, rfl⟩, .inr ⟨rfl, trivial⟩⟩, rfl,
        settled.meet (settled.grown.allocClass name true hb), .inl globals⟩)
    ⟨rfl, settled, globals⟩
  exact ⟨w, {
    near := ⟨settled.grown.heapRel, .nil, globals, known, .nil, fun _ => rfl, .nil, .nil⟩
    settled := settled
    heap := .start
    exceptions := rfl
    writing := nofun
    since := nofun
    trail := ⟨nofun, .nil⟩ }⟩

/-- A list that the module has a name for. -/
theorem listed_evolving {m : Machine σ} {w : World} (H : Evolving w m.trailed)
    {items : Array Value} (hi : ValuesRel w items.toList items.toList) (name : String) :
    ∃ w', Evolving w' ({ m with heap := (m.heap.alloc (.list items)).2 }.setGlobal name
      (.ref (m.heap.alloc (.list items)).1)).trailed := by
  have listed := H.alloc (.list hi) nofun
  have new : (H.settled.grown.world True True).addr m.heap.next m.heap.next :=
    ⟨.inr ⟨rfl, rfl⟩, .inr ⟨rfl, trivial⟩⟩
  exact ⟨_, listed.modify listed.near.globals (edit_scope fun hn => hn.set rfl (.ref new))
    (.inr fun _ _ _ => rfl)⟩

/-- The lines of a script are there before a recorded run. -/
theorem forTrace_evolving (s : Listing) : ∃ w, Evolving w (Machine.forTrace s).trailed := by
  obtain ⟨w, H⟩ := start_evolving Recorder.start
  refine listed_evolving (m := Machine.start Recorder.start) H ?_ Recorder.linesName
  rw [Array.toList_map]
  exact ListRel.map (A := Same) (List.forall₂_same.2 fun _ _ => rfl) fun h => h ▸ .str _

/-! ### The trail of a run -/

/-- Runs that go alike come through states that have come out of each other. -/
theorem Evolving.log_evolved {c : (evolving σ).Ctx} {w : World} {A : Rel α β} {x y}
    (h : Agree (evolving σ) c w A x y) : (machineOf x).log.Evolved := by
  cases h with
  | left h | right h | lost h => exact h.elim
  | stop h => exact h.2
  | ok _ _ hm | error _ _ hm => exact hm.2.trail

theorem Evolving.trail_evolved {w : World} {m : Machine σ} (H : Evolving w m.trailed)
    (observe : Observer σ) (fuel : Nat) (p : Program) :
    (machineOf (runProgram (trailing observe fuel) p m.trailed)).log.Evolved :=
  log_evolved (Coupling.Follows.runProgram_sim (C := evolving σ) (c := ()) observe fuel p _ _
    ⟨rfl, H⟩)

/-- All states of a run refer only to what is there, and have come out of the start. -/
theorem Evolving.always_evolved {w w' : World} {m : Machine σ} (H : Evolving w m.trailed)
    (stands : Stands ⟨[], []⟩ w' m.trailed) (observe : Observer σ) :
    m.Always observe fun m => m.Sound ∧ m.Evolved := fun fuel p =>
  ⟨trailing_runs observe fuel p m.trailed, fun v hv =>
    ⟨((stands.staysSound observe fuel p).2).machines v hv,
      (H.trail_evolved observe fuel p).machines v hv⟩⟩

theorem start_always_evolved (observe : Observer σ) (log : σ) :
    (Machine.start log).Always observe fun m => m.Sound ∧ m.Evolved := by
  obtain ⟨w, H⟩ := start_evolving log
  obtain ⟨w', stands⟩ := Sound.start_stands log
  exact H.always_evolved stands observe

theorem forTrace_always_evolved (s : Listing) : (Machine.forTrace s).Always (Recorder.observe s)
    fun m => m.Sound ∧ m.Evolved := by
  obtain ⟨w, H⟩ := forTrace_evolving s
  obtain ⟨w', stands⟩ := Sound.forTrace_stands s
  exact H.always_evolved stands (Recorder.observe s)

end Stepwise
