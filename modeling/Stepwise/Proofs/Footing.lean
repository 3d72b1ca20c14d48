import Stepwise.Proofs.Tidy
import Stepwise.Proofs.Trail

/-!
# Where a run stands

What keeps the references of a run live (`Stands`). The heap is tidy, and besides the scopes that
functions have taken along, those of the open frames are there. Each of these belongs to one frame,
so that it may go when its frame does, unless it has been taken along.

## The model

`Footing` lists the scopes that are in use while a part of a run goes on. A scope is loose before
its frame opens, and that of a class body once more after its frame has closed. The frame of the
module shares its scope with functions that declare names global; that scope never goes.
-/

namespace Stepwise

open Script Coupling

variable {σ : Type} {w w' : World} {a : Address} {kind : FrameKind}

/-- What a frame runs, and the scope of its bindings. -/
def Frame.foot (f : Frame) : FrameKind × Address := (f.kind, f.locals)

/-- The scopes that are in use. -/
structure Footing where
  /-- Those of the open frames, innermost first. -/
  frames : List (FrameKind × Address)
  /-- Those without an open frame. -/
  loose : List Address

namespace Footing

variable (c : Footing)

/-- The scopes in use, but for that of the module. -/
def own : List Address := c.loose ++ (c.frames.filter (·.1 ≠ .module)).map (·.2)

/-- One more scope without a frame. -/
def loosen (a : Address) : Footing := { c with loose := a :: c.loose }

/-- One more frame. -/
def enter (kind : FrameKind) (a : Address) : Footing := { c with frames := (kind, a) :: c.frames }

/-- The scopes in use before a frame opens. The scope of a module is there from the start. -/
def before : FrameKind → Address → Footing
  | .module, _ => c
  | .function, a | .class_, a => c.loosen a

/-- The scopes in use after a frame has closed. That of a class body is needed a little longer. -/
def after : FrameKind → Address → Footing
  | .module, _ | .function, _ => c
  | .class_, a => c.loosen a

@[simp] theorem own_enter_module : (c.enter .module a).own = c.own := rfl

/-- A scope is in use once, with a frame as without one. -/
theorem own_enter (hk : kind ≠ .module) : (c.enter kind a).own.Perm (c.loosen a).own := by
  have : (c.enter kind a).own = c.loose ++ a :: (c.frames.filter (·.1 ≠ .module)).map (·.2) := by
    simp [own, enter, hk]
  rw [this]
  exact List.perm_middle

theorem own_subset_enter : c.own.Sublist (c.enter kind a).own := by
  unfold own enter
  refine .append (.refl _) (.map _ ?_)
  rw [List.filter_cons]
  split
  · exact List.sublist_cons_self ..
  · exact .refl _

end Footing

/-! ### All references are live -/

/-- A machine all of whose references are live. -/
structure Grounded (w : World) (m : Machine σ) : Prop where
  near : Near w m m
  tidy : Tidy w m.heap
  globals : m.heap.HasScope m.globals
  locals : ∀ f ∈ m.stack, m.heap.HasScope f.locals

namespace Grounded

variable {m : Machine σ} {a b : Address} {o : Object} {f : Frame}

theorem holds (H : Grounded w m) {v : Value} (hv : w.Refers v) : m.heap.Holds v := fun a ha =>
  H.tidy.object (hv.choose_spec.addresses a ha)

theorem objectRel (H : Grounded w m) (ho : m.heap.get? a = some o) : ObjectRel w o o := by
  have same := H.tidy.grown.get (H.tidy.place ho)
  rw [ho] at same
  cases same with
  | some same => exact same

theorem behind (H : Grounded w m) (ho : m.heap.get? a = some o) (hb : o.behind = some b) :
    m.heap.HasScope b :=
  H.tidy.kept ((H.objectRel ho).behind hb)

/-- Scopes are behind newer ones, so they come to an end. -/
theorem reachesEnd (H : Grounded w m) : ∀ (n : Nat) {a : Address}, m.heap.HasScope a →
    a < Heap.base + n → m.heap.reachesEnd n (some a) = true
  | 0, a, ⟨s, hs⟩, low => by
    have found := Heap.scope?_eq_some.1 hs
    rw [Heap.get?, if_pos (show a < Heap.base from low)] at found
    cases found
  | n + 1, a, ⟨s, hs⟩, low => by
    simp only [Heap.reachesEnd, hs]
    cases hb : s.parent with
    | none => rw [Heap.reachesEnd]
    | some b =>
      have older : b < a := H.tidy.grown.parents hs hb
      refine H.reachesEnd n ?_ (Nat.lt_of_lt_of_le older (Nat.le_of_lt_succ low))
      exact H.behind (Heap.scope?_eq_some.1 hs) hb

theorem heapSound (H : Grounded w m) : m.heap.Sound where
  held ho v hv := H.holds ((H.objectRel ho).refers v hv)
  behind := H.behind
  ends {a} ha := by
    obtain ⟨s, hs⟩ := id ha
    exact H.reachesEnd _ ha (H.tidy.grown.used (H.tidy.place (Heap.scope?_eq_some.1 hs))).1
  next ho := (H.tidy.grown.used (H.tidy.place ho)).1

theorem frame (H : Grounded w m) (hf : f ∈ m.stack) : FrameRel w f f := by
  obtain ⟨f', hf'⟩ := H.near.stack.partner f hf
  obtain rfl := Discrete.eq H.tidy.sharp hf'
  exact hf'

theorem sound (H : Grounded w m) : m.Sound where
  heap := H.heapSound
  globals := H.globals
  locals := H.locals
  frames f hf v hv := by
    have hf := H.frame hf
    refine H.holds ?_
    obtain hv | hv := List.mem_append.1 hv
    · exact hf.owner.refs v hv
    · exact hf.receiver.refers v hv
  handled e he v hv := by
    obtain ⟨e', he'⟩ := H.near.handled.partner e he
    exact H.holds (he'.fault.refers v hv)
  exceptions p hp := by
    obtain ⟨q, hq⟩ := H.near.exceptions.partner p hp
    exact H.tidy.object hq.snd.2
  modules p hp := by
    obtain ⟨q, hq⟩ := H.near.modules.partner p hp
    exact H.tidy.object hq.snd.2
  writing a ha := by
    obtain ⟨b, hb⟩ := H.near.writing.partner a ha
    exact H.tidy.object hb.2

end Grounded

/-! ### Trails -/

/-- The states of a trail are sound, and no address was given to two objects on the way. -/
structure Trailed.Sound (t : Trailed σ) : Prop where
  machines : ∀ v ∈ t.visits, v.machine.Sound
  inHand : ∀ v ∈ t.visits, ∀ x ∈ v.inHand, v.machine.heap.Holds x
  since : t.visits.Pairwise fun later earlier => earlier.machine.heap.Since later.machine.heap

/-- The references in the states of a trail are live. -/
structure Trailed.Grounded (t : Trailed σ) : Prop where
  visits : ∀ v ∈ t.visits, ∃ w, Stepwise.Grounded w v.machine ∧ ∀ x ∈ v.inHand, w.Refers x
  since : t.visits.Pairwise fun later earlier => earlier.machine.heap.Since later.machine.heap

theorem Trailed.Grounded.sound {t : Trailed σ} (H : t.Grounded) : t.Sound where
  machines v hv := by
    obtain ⟨w, hm, -⟩ := H.visits v hv
    exact hm.sound
  inHand v hv x hx := by
    obtain ⟨w, hm, hand⟩ := H.visits v hv
    exact hm.holds (hand x hx)
  since := H.since

/-- A machine all of whose references are live, and will be. -/
structure Stands (c : Footing) (w : World) (m : Machine (Trailed σ)) : Prop where
  near : Near w m m
  tidy : Tidy w m.heap
  frames : m.stack.map Frame.foot = c.frames
  globals : m.heap.HasScope m.globals
  modules : ∀ f ∈ m.stack, f.kind = .module → f.locals = m.globals
  own : ∀ a ∈ c.own, m.heap.HasScope a
  apart : (m.globals :: c.own).Nodup
  loose : ∀ a ∈ c.loose, ¬w.kept a
  unkept : ∀ f ∈ m.stack, f.kind ≠ .module → (f.kind = .function → f.captured = false) →
    ¬w.kept f.locals
  trail : m.log.Grounded
  since : ∀ v ∈ m.log.visits, v.machine.heap.Since m.heap

namespace Stands

variable {c : Footing} {m : Machine (Trailed σ)} {h : Heap} {f : Frame}

/-- The scope of an open frame is there. -/
theorem locals (H : Stands c w m) (hf : f ∈ m.stack) : m.heap.HasScope f.locals := by
  by_cases hk : f.kind = .module
  · rw [H.modules f hf hk]
    exact H.globals
  · refine H.own _ (List.mem_append_right _ (List.mem_map.2 ⟨f.foot, ?_, rfl⟩))
    rw [← H.frames, List.mem_filter]
    exact ⟨List.mem_map_of_mem hf, decide_eq_true hk⟩

theorem grounded (H : Stands c w m) : Grounded w m.plain :=
  ⟨{ H.near with }, H.tidy, H.globals, fun _ => H.locals⟩

/-! ### Changes of the heap -/

/-- Another heap on which the scopes are still there. -/
theorem withHeap (H : Stands c w m) (hw : w ≤ w') (tidy : Tidy w' h)
    (scopes : ∀ a, a = m.globals ∨ a ∈ c.own → m.heap.HasScope a → h.HasScope a)
    (kept : ∀ a, w'.kept a → w.kept a) (since : ∀ g : Heap, g.Since m.heap → g.Since h) :
    Stands c w' { m with heap := h } where
  near := H.near.withHeap hw tidy.grown.heapRel
  tidy := tidy
  frames := H.frames
  globals := scopes _ (.inl rfl) H.globals
  modules := H.modules
  own a ha := scopes a (.inr ha) (H.own a ha)
  apart := H.apart
  loose a ha := H.loose a ha ∘ kept a
  unkept f hf hk hc := H.unkept f hf hk hc ∘ kept _
  trail := H.trail
  since v hv := since _ (H.since v hv)

/-- A new object. -/
theorem alloc (H : Stands c w m) {o : Object} {object : Prop}
    (hobject : object ↔ o.isScope = false)
    (hg : Grown (H.tidy.grown.world object False) (m.heap.alloc o).2 (m.heap.alloc o).2) :
    Stands c (H.tidy.grown.world object False) { m with heap := (m.heap.alloc o).2 } :=
  H.withHeap World.le_meet (H.tidy.alloc hobject hg) (fun _ _ ha => ha.alloc o)
    (fun _ ha => ha.resolve_right fun h => h.2) fun _ hs => hs.alloc o

/-- A new scope, which no frame has yet. -/
theorem loosen (H : Stands c w m) {s : Scope} (hs : ScopeRel w s s) :
    Stands (c.loosen m.heap.next) (H.tidy.grown.world False False)
      { m with heap := (m.heap.alloc (.scope s)).2 } := by
  have grown : Grown (H.tidy.grown.world False False) (m.heap.alloc (.scope s)).2
      (m.heap.alloc (.scope s)).2 := H.tidy.grown.allocRel (.scope hs)
  have stands := H.alloc (by simp [Object.isScope]) grown
  have new {a : Address} (ha : m.heap.HasScope a) : a ≠ m.heap.next := by
    obtain ⟨s, hs⟩ := ha
    exact Heap.ne_next (Heap.scope?_eq_some.1 hs)
  have fresh : ¬(H.tidy.grown.world False False).kept m.heap.next := by
    rintro (hk | ⟨-, ⟨⟩⟩)
    exact new (H.tidy.kept hk) rfl
  refine { stands with
    own := List.forall_mem_cons.2 ⟨?_, stands.own⟩
    apart := ?_
    loose := List.forall_mem_cons.2 ⟨fresh, stands.loose⟩ }
  · exact ⟨s, by rw [Heap.scope?_eq_some, Heap.get?_alloc, if_pos rfl]⟩
  · obtain ⟨globals, own⟩ := List.nodup_cons.1 H.apart
    refine List.nodup_cons.2 ⟨List.not_mem_cons_of_ne_of_not_mem (new H.globals) globals, ?_⟩
    exact List.nodup_cons.2 ⟨fun h => new (H.own _ h) rfl, own⟩

theorem tuple (H : Stands c w m) (items : List Value) :
    Stands c H.tidy.grown.worldMarks { m with heap := (m.heap.tuple items).2 } :=
  H.withHeap World.le_meetMarks (H.tidy.tuple items) (fun _ _ => id) (fun _ => id)
    fun _ hs => hs.tuple items

theorem edit (H : Stands c w m) {f f' : Object → Object} (ha : w.place a a) (he : Edit w f f') :
    Stands c w { m with heap := m.heap.modify a f } :=
  H.withHeap le_rfl (H.tidy.modify ha he) (fun _ _ hs => hs.modify he.left) (fun _ => id)
    fun _ hs => hs.modify a f

/-- A value that is filed under its key. -/
theorem file (H : Stands c w m) {v v' : Value} {k : Key} (hv : ValueRel w v v')
    (key : m.heap.key? v = some k) : Stands c (w.file k v) m :=
  H.withHeap World.le_file (H.tidy.file hv key) (fun _ _ => id) (fun _ => id) fun _ => id

/-- A loose scope that goes. -/
theorem free (H : Stands (c.loosen a) w m) : Stands c w { m with heap := m.heap.free a } := by
  obtain ⟨globals, own⟩ := List.nodup_cons.1 H.apart
  have gone := List.nodup_cons.1 own
  have lost : Stands c w m := { H with
    own := fun b hb => H.own b (List.mem_cons_of_mem _ hb)
    apart := List.nodup_cons.2 ⟨fun h => globals (List.mem_cons_of_mem _ h), gone.2⟩
    loose := fun b hb => H.loose b (List.mem_cons_of_mem _ hb) }
  refine lost.withHeap le_rfl (H.tidy.free (H.own a List.mem_cons_self)
    (H.loose a List.mem_cons_self)) (fun b hb hs => hs.free ?_) (fun _ => id) fun _ hs => hs.free a
  rintro rfl
  obtain rfl | hb := hb
  · exact globals List.mem_cons_self
  · exact gone.1 hb

/-! ### Frames -/

/-- A frame opens. -/
theorem enter (H : Stands (c.before f.kind f.locals) w m) (hf : FrameRel w f f)
    (hm : f.kind = .module → f.locals = m.globals) :
    Stands (c.enter f.kind f.locals) w { m with stack := f :: m.stack } := by
  have near : Near w { m with stack := f :: m.stack } { m with stack := f :: m.stack } :=
    { H.near with stack := .cons hf H.near.stack }
  by_cases hk : f.kind = .module
  · rw [hk] at H
    have own : (c.enter f.kind f.locals).own = c.own := by rw [hk, Footing.own_enter_module]
    exact { H with
      near := near
      frames := congrArg (f.foot :: ·) H.frames
      modules := List.forall_mem_cons.2 ⟨hm, H.modules⟩
      own := own ▸ H.own
      apart := own ▸ H.apart
      unkept := List.forall_mem_cons.2 ⟨fun h => absurd hk h, H.unkept⟩ }
  · have loose : c.before f.kind f.locals = c.loosen f.locals := by
      revert hk
      cases f.kind <;> intro hk
      case module => exact absurd rfl hk
      all_goals rfl
    rw [loose] at H
    have own := c.own_enter (a := f.locals) hk
    exact { H with
      near := near
      frames := congrArg (f.foot :: ·) H.frames
      modules := List.forall_mem_cons.2 ⟨hm, H.modules⟩
      own := fun a ha => H.own a (own.subset ha)
      apart := (own.cons _).nodup_iff.2 H.apart
      loose := fun a ha => H.loose a (List.mem_cons_of_mem _ ha)
      unkept := List.forall_mem_cons.2
        ⟨fun _ _ => H.loose _ List.mem_cons_self, H.unkept⟩ }

/-- The running frame. -/
theorem head (H : Stands (c.enter kind a) w m) :
    ∃ f fs, m.stack = f :: fs ∧ f.kind = kind ∧ f.locals = a ∧
      fs.map Frame.foot = c.frames := by
  have frames := H.frames
  cases hs : m.stack with
  | nil =>
    rw [hs] at frames
    cases frames
  | cons f fs =>
    rw [hs] at frames
    obtain ⟨hf, hfs⟩ := List.cons_eq_cons.1 frames
    exact ⟨f, fs, rfl, congrArg Prod.fst hf, congrArg Prod.snd hf, hfs⟩

/-- The running frame closes, and its scope stays. -/
theorem leave (H : Stands (c.enter kind a) w m) : Stands c w { m with stack := m.stack.tail } := by
  obtain ⟨f, fs, hs, -, -, frames⟩ := H.head
  have own : c.own.Sublist (c.enter kind a).own := c.own_subset_enter
  exact { H with
    near := { H.near with stack := ListRel.tail H.near.stack }
    frames := by rw [hs]; exact frames
    modules := fun f hf => H.modules f (List.mem_of_mem_tail hf)
    own := fun b hb => H.own b (own.subset hb)
    apart := H.apart.sublist (own.cons_cons _)
    loose := H.loose
    unkept := fun f hf => H.unkept f (List.mem_of_mem_tail hf) }

/-- The running frame closes, and its scope is loose. -/
theorem loose_of_leave (H : Stands (c.enter kind a) w m) (hk : kind ≠ .module)
    (hc : kind = .function → ∀ f ∈ m.stack.head?, f.captured = false) :
    Stands (c.loosen a) w { m with stack := m.stack.tail } := by
  obtain ⟨f, fs, hs, rfl, rfl, frames⟩ := H.head
  have unkept := H.unkept f (by rw [hs]; exact List.mem_cons_self) hk
    fun h => hc h f (by rw [hs]; rfl)
  exact { H.leave with
    own := fun b hb => H.own b ((c.own_enter hk).symm.subset hb)
    apart := ((c.own_enter hk).cons _).nodup_iff.1 H.apart
    loose := List.forall_mem_cons.2 ⟨unkept, H.loose⟩ }

/-- The running frame moves on. -/
theorem move (H : Stands c w m) {g : Frame → Frame}
    (rel : ∀ {w f f'}, FrameRel w f f' → FrameRel w (g f) (g f'))
    (foot : ∀ f, (g f).foot = f.foot) (captured : ∀ f, (g f).captured = f.captured) :
    Stands c w { m with stack := m.stack.modifyHead g } := by
  have before : ∀ f ∈ m.stack.modifyHead g,
      ∃ f' ∈ m.stack, f.foot = f'.foot ∧ f.captured = f'.captured := by
    cases m.stack with
    | nil => exact fun _ h => absurd h List.not_mem_nil
    | cons f fs =>
      refine List.forall_mem_cons.2 ⟨⟨f, List.mem_cons_self, foot f, captured f⟩, fun f' hf' => ?_⟩
      exact ⟨f', List.mem_cons_of_mem _ hf', rfl, rfl⟩
  exact { H with
    near := { H.near with stack := H.near.stack.modifyHead rel }
    frames := by
      rw [← H.frames]
      cases m.stack with
      | nil => rfl
      | cons f fs => exact congrArg (· :: fs.map Frame.foot) (foot f)
    modules := fun f hf hk => by
      obtain ⟨f', hf', same, -⟩ := before f hf
      rw [show f.locals = f'.locals from congrArg Prod.snd same]
      exact H.modules f' hf' ((congrArg Prod.fst same).symm.trans hk)
    unkept := fun f hf hk hc => by
      obtain ⟨f', hf', same, flag⟩ := before f hf
      have kind : f.kind = f'.kind := congrArg Prod.fst same
      rw [show f.locals = f'.locals from congrArg Prod.snd same]
      exact H.unkept f' hf' (kind ▸ hk) fun h => flag ▸ hc (kind.trans h) }

/-- A function takes the scope of the running frame along. -/
theorem capture (H : Stands c w m) {fs : List Frame} (hs : m.stack = f :: fs)
    (hk : f.kind = .function) :
    Stands c (w.keep f.locals) { m with stack := { f with captured := true } :: fs } := by
  have foot : c.frames = f.foot :: fs.map Frame.foot := by rw [← H.frames, hs, List.map_cons]
  have own : c.own =
      c.loose ++ f.locals :: ((fs.map Frame.foot).filter (·.1 ≠ .module)).map (·.2) := by
    rw [Footing.own, foot]
    simp [Frame.foot, hk]
  have apart := (List.nodup_cons.1 H.apart).2
  rw [own] at apart
  have alone := (List.nodup_cons.1 (List.perm_middle.nodup_iff.1 apart)).1
  rw [List.mem_append, not_or] at alone
  have other {g : Frame} (hg : g ∈ fs) (h : g.kind ≠ .module) : g.locals ≠ f.locals := by
    intro e
    refine alone.2 (List.mem_map.2 ⟨g.foot, List.mem_filter.2 ⟨List.mem_map_of_mem hg, ?_⟩, e⟩)
    exact decide_eq_true h
  have tidy := H.tidy.keep (H.locals (hs ▸ List.mem_cons_self))
  have near := H.near.withHeap w.le_keep tidy.grown.heapRel
  have rel : ListRel FrameRel (w.keep f.locals) (f :: fs) (f :: fs) := hs ▸ near.stack
  have taken : ListRel FrameRel (w.keep f.locals) ({ f with captured := true } :: fs)
      ({ f with captured := true } :: fs) := by
    cases rel with
    | cons hf hfs => exact .cons { hf with captured := rfl } hfs
  exact {
    near := { near with stack := taken }
    tidy
    frames := foot.symm
    globals := H.globals
    modules := List.forall_mem_cons.2 ⟨H.modules f (hs ▸ List.mem_cons_self),
      fun g hg => H.modules g (hs ▸ List.mem_cons_of_mem _ hg)⟩
    own := H.own
    apart := H.apart
    loose := fun b hb => by
      rintro (h | rfl)
      · exact H.loose b hb h
      · exact alone.1 hb
    unkept := List.forall_mem_cons.2 ⟨fun _ h => Bool.noConfusion (h hk), fun g hg h hc => by
      rintro (hw | e)
      · exact H.unkept g (hs ▸ List.mem_cons_of_mem _ hg) h hc hw
      · exact other hg h e⟩
    trail := H.trail
    since := H.since }

end Stands

end Stepwise
