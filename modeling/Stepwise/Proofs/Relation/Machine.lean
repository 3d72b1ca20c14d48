import Stepwise.Eval.Raise
import Stepwise.Proofs.Relation.Text

/-!
# Related machines

Machines are near each other if all they compute with is related: heaps, frames, the scope of the
module, positions and the errors being handled. What has been printed, what an observer remembers
and the history of events are left open; nothing in a run looks at them. Whether the runs are only
being looked at is left open too.
-/

namespace Stepwise

open Script

variable {σ τ : Type} {w w' : World}

/-- Frames that run the same with related bindings, on the same line, if positions count. -/
structure FrameRel (w : World) (f f' : Frame) : Prop where
  name : f.name = f'.name
  kind : f.kind = f'.kind
  locals : w.place f.locals f'.locals
  owner : OptionRel AddrRel w f.owner f'.owner
  receiver : OptionRel ValueRel w f.receiver f'.receiver
  globals : f.globals = f'.globals
  nonlocals : f.nonlocals = f'.nonlocals
  line : w.located → f.line = f'.line
  reported : w.located → f.reported = f'.reported
  captured : f.captured = f'.captured

instance : Grows FrameRel where
  up hw h := { h with
    locals := hw.place h.locals
    owner := up hw h.owner
    receiver := up hw h.receiver
    line := fun located => h.line (hw.located ▸ located)
    reported := fun located => h.reported (hw.located ▸ located) }

/-- Machines that compute with related data. -/
structure Near (w : World) (m : Machine σ) (m' : Machine τ) : Prop where
  heap : HeapRel w m.heap m'.heap
  stack : ListRel FrameRel w m.stack m'.stack
  globals : w.place m.globals m'.globals
  exceptions : ListRel (PairRel Same AddrRel) w m.exceptions m'.exceptions
  modules : ListRel (PairRel Same AddrRel) w m.modules m'.modules
  pos : w.located → m.pos = m'.pos
  handled : ListRel ErrorRel w m.handled m'.handled
  writing : ListRel AddrRel w m.writing m'.writing

/-- Related machines with other heaps. -/
theorem Near.withHeap {m : Machine σ} {m' : Machine τ} (H : Near w m m') (hw : w ≤ w')
    {h h' : Heap} (hh : HeapRel w' h h') :
    Near w' { m with heap := h } { m' with heap := h' } where
  heap := hh
  stack := up hw H.stack
  globals := hw.place H.globals
  exceptions := up hw H.exceptions
  modules := up hw H.modules
  pos located := H.pos (hw.located ▸ located)
  handled := up hw H.handled
  writing := up hw H.writing

/-- A kept scope that may be missing is a place. -/
theorem OptionRel.place {o o' : Option Address} (h : OptionRel KeptRel w o o') :
    OptionRel PlaceRel w o o' := by
  cases h with
  | none => exact .none
  | some h => exact .some h.place

/-- What is found under one name. -/
theorem ListRel.lookup {α β : Type} {A : Rel α β} {as : List (String × α)} {bs : List (String × β)}
    (h : ListRel (PairRel Same A) w as bs) (name : String) :
    OptionRel A w (as.lookup name) (bs.lookup name) := by
  induction h with
  | nil => exact .none
  | @cons p q _ _ h _ ih =>
    obtain ⟨x, a⟩ := p
    obtain ⟨y, b⟩ := q
    obtain ⟨rfl : x = y, hab⟩ := h
    simp only [List.lookup_cons]
    split
    · exact .some hab
    · exact ih

theorem ListRel.modifyHead {α : Type} {A : Rel α α} {as bs : List α} {g : α → α}
    (h : ListRel A w as bs) (hg : ∀ {a b}, A w a b → A w (g a) (g b)) :
    ListRel A w (as.modifyHead g) (bs.modifyHead g) := by
  cases h with
  | nil => exact .nil
  | cons h t => exact .cons (hg h) t

namespace Near

variable {m : Machine σ} {m' : Machine τ} {v v' : Value} {e e' : RuntimeError}

theorem frame (H : Near w m m') : OptionRel FrameRel w m.stack.head? m'.stack.head? :=
  H.stack.head?

/-! ### Names -/

/-- The frames of related machines: none, or related ones. -/
theorem stack_cases (H : Near w m m') :
    (m.stack = [] ∧ m'.stack = []) ∨
      ∃ f f' fs fs', m.stack = f :: fs ∧ m'.stack = f' :: fs' ∧ FrameRel w f f' := by
  have h := H.stack
  revert h
  generalize m.stack = fs, m'.stack = fs'
  intro h
  cases h with
  | nil => exact .inl ⟨rfl, rfl⟩
  | cons hf _ => exact .inr ⟨_, _, _, _, rfl, rfl, hf⟩

theorem currentScope (H : Near w m m') : w.place m.currentScope m'.currentScope := by
  unfold Machine.currentScope
  obtain ⟨e, e'⟩ | ⟨f, f', fs, fs', e, e', hf⟩ := H.stack_cases <;> simp only [e, e']
  · exact H.globals
  · exact hf.locals

theorem isGlobal (H : Near w m m') (name : String) : m.isGlobal name = m'.isGlobal name := by
  unfold Machine.isGlobal
  obtain ⟨e, e'⟩ | ⟨f, f', fs, fs', e, e', hf⟩ := H.stack_cases <;> simp only [e, e']
  rw [hf.globals]

theorem isNonlocal (H : Near w m m') (name : String) :
    m.isNonlocal name = m'.isNonlocal name := by
  unfold Machine.isNonlocal
  obtain ⟨e, e'⟩ | ⟨f, f', fs, fs', e, e', hf⟩ := H.stack_cases <;> simp only [e, e']
  rw [hf.nonlocals]

theorem global? (H : Near w m m') (name : String) :
    OptionRel ValueRel w (m.global? name) (m'.global? name) :=
  (H.heap.scope? H.globals).bind fun hs => OrderedRel.get? hs.vars rfl

theorem builtin? (H : Near w m m') (name : String) :
    OptionRel ValueRel w (m.builtin? name) (m'.builtin? name) := by
  unfold Machine.builtin?
  cases Builtin.named? name with
  | some b => exact .some (.builtin b)
  | none => exact (H.exceptions.lookup name).map .ref

theorem lookup? (H : Near w m m') (name : String) :
    OptionRel ValueRel w (m.lookup? name) (m'.lookup? name) := by
  unfold Machine.lookup?
  refine .or ?_ ((H.global? name).or (H.builtin? name))
  rw [H.isGlobal]
  split
  · exact .none
  · exact H.heap.lookup name (.some H.currentScope)

theorem targetScope? (H : Near w m m') (name : String) :
    OptionRel PlaceRel w (m.targetScope? name) (m'.targetScope? name) := by
  unfold Machine.targetScope?
  rw [H.isGlobal, H.isNonlocal]
  split
  · exact .some H.globals
  · split
    · exact H.heap.binder name ((H.heap.scope? H.currentScope).bind fun hs => hs.parent.place)
    · exact .some H.currentScope

/-! ### Errors -/

theorem isKeyError (H : Near w m m') {a a' : Address} (ha : w.addr a a') :
    Stepwise.isKeyError m a = Stepwise.isKeyError m' a' :=
  (H.exceptions.lookup _).any fun hb => H.heap.isSubclass ha hb

theorem errorClass? (H : Near w m m') (he : ErrorRel w e e') :
    OptionRel AddrRel w (Stepwise.errorClass? m e) (Stepwise.errorClass? m' e') := by
  obtain ⟨f, p⟩ := e
  obtain ⟨f', p'⟩ := e'
  obtain ⟨hf, -⟩ := he
  cases hf with
  | @plain f h =>
    cases f with
    | raised x => cases h
    | _ => exact H.exceptions.lookup _
  | key s hv => exact H.exceptions.lookup _
  | raised n msg hc hv => exact .some hc

mutual

theorem catches? (H : Near w m m') (he : ErrorRel w e e') :
    ∀ {v v'}, ValueRel w v v' → Stepwise.catches? m e v = Stepwise.catches? m' e' v'
  | _, _, .tuple _ hs => H.catchesOne? he hs
  | _, _, .ref ha => by
    simp only [Stepwise.catches?, H.heap.isExceptionClass ha,
      (H.errorClass? he).any fun hc => H.heap.isSubclass hc ha]
  | _, _, .none | _, _, .bool _ | _, _, .int _ | _, _, .float _ | _, _, .str _
  | _, _, .range _ _ _ | _, _, .builtin _ => rfl

theorem catchesOne? (H : Near w m m') (he : ErrorRel w e e') :
    ∀ {vs vs'}, List.Forall₂ (ValueRel w) vs vs' →
      Stepwise.catchesOne? m e vs = Stepwise.catchesOne? m' e' vs'
  | _, _, .nil => rfl
  | _, _, .cons hv hvs => by
    simp only [Stepwise.catchesOne?, H.catches? he hv, H.catchesOne? he hvs]

end

end Near

end Stepwise
