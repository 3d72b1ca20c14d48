import Stepwise.Machine.Task
import Stepwise.Proofs.Heap

/-!
# Live references

What the data of a run refer to is there. A value refers to objects that are not scopes; functions,
scopes and frames refer to scopes (`Machine.Sound`).

## The model

The objects that something refers to by itself, such as the class of an instance, count among the
values that it holds.
-/

namespace Stepwise

open Script

variable {σ α : Type}

/-! ### What data refer to -/

mutual

/-- The addresses in a value. -/
def Value.addresses : Value → List Address
  | .ref a => [a]
  | .tuple _ items => Value.allAddresses items
  | _ => []

/-- The addresses in some values. -/
def Value.allAddresses : List Value → List Address
  | [] => []
  | v :: vs => v.addresses ++ Value.allAddresses vs

end

/-- The keys and values of a table. -/
def Table.held (t : Table) : List Value := t.pairs.flatMap fun e => [e.1, e.2]

namespace Object

/-- The values that an object holds. -/
def held : Object → List Value
  | .list items => items.toList
  | .dict t | .set t => t.held
  | .inst i => .ref i.cls :: i.attrs.values ++ i.args
  | .cls c => (c.bases ++ c.mro).map .ref ++ c.attrs.values
  | .func f => f.owner.toList.map .ref ++ f.defaults.filterMap id
  | .boundMethod v f => [v, .ref f]
  | .nativeMethod v _ => [v]
  | .super k v => [.ref k, v]
  | .module m => m.attrs.values
  | .scope s => s.vars.values

/-- The scope in which an object looks up names next. -/
def behind : Object → Option Address
  | .func f => f.scope
  | .scope s => s.parent
  | _ => none

/-- Whether an object is a scope. -/
def isScope : Object → Bool
  | .scope _ => true
  | _ => false

end Object

/-- The values that a fault holds. -/
def Fault.held : Fault → List Value
  | .key _ v => [v]
  | .raised x => [.ref x.cls, x.object]
  | _ => []

/-- The values that a frame holds, its bindings apart. -/
def Frame.held (f : Frame) : List Value := f.owner.toList.map .ref ++ f.receiver.toList

/-- The value that a statement ends with. -/
def Flow.held : Flow → List Value
  | .return_ v => [v]
  | _ => []

/-! ### What is there -/

namespace Heap

variable {h h' : Heap} {a : Address} {v : Value}

/-- Whether an object is there that is no scope. -/
def Live (h : Heap) (a : Address) : Prop := ∃ o, h.get? a = some o ∧ o.isScope = false

/-- Whether a scope is there. -/
def HasScope (h : Heap) (a : Address) : Prop := ∃ s, h.scope? a = some s

/-- Whether all that a value refers to is there. -/
def Holds (h : Heap) (v : Value) : Prop := ∀ a ∈ v.addresses, h.Live a

/-- Whether the scopes from one on are there one after the other, and come to an end after at most
`fuel` of them. -/
def reachesEnd (h : Heap) : (fuel : Nat) → Option Address → Bool
  | _, none => true
  | 0, some _ => false
  | fuel + 1, some a =>
    match h.scope? a with
    | none => false
    | some s => reachesEnd h fuel s.parent

/-- Whether the objects of a heap refer only to what is there. -/
structure Sound (h : Heap) : Prop where
  /-- What the objects hold is there. -/
  held : ∀ {a o}, h.get? a = some o → ∀ v ∈ o.held, h.Holds v
  /-- The scopes behind functions and scopes are there. -/
  behind : ∀ {a o b}, h.get? a = some o → o.behind = some b → h.HasScope b
  /-- The scopes from any scope on come to an end. -/
  ends : ∀ {a}, h.HasScope a → h.reachesEnd h.size (some a) = true
  /-- The next object will be a new one. -/
  next : ∀ {a o}, h.get? a = some o → a < h.next

/-- How a heap becomes another one, and the addresses that are given out on the way, the last one
first. -/
inductive Course (h : Heap) : List Address → Heap → Prop
  | start : Course h [] h
  | alloc {given h'} (o : Object) (t : Course h given h') :
    Course h ((h'.alloc o).1 :: given) (h'.alloc o).2
  | tuple {given h'} (items : List Value) (t : Course h given h') :
    Course h given (h'.tuple items).2
  | modify {given h'} (b : Address) (f : Object → Object) (t : Course h given h') :
    Course h given (h'.modify b f)
  | free {given h'} (b : Address) (t : Course h given h') : Course h given (h'.free b)

/-- Whether a heap is what another one has become, no address having been given out twice. -/
def Since (h h' : Heap) : Prop :=
  ∃ given : List Address, h.Course given h' ∧ given.Nodup ∧ ∀ a ∈ given, h.next ≤ a

variable {given : List Address}

/-- The addresses given out lie between the next one at the start and the next one at the end. -/
theorem Course.between (H : h.Course given h') :
    h.next ≤ h'.next ∧ ∀ a ∈ given, h.next ≤ a ∧ a < h'.next := by
  induction H with
  | start => exact ⟨Nat.le_refl _, nofun⟩
  | @alloc given h' o _ ih =>
    rw [next_alloc]
    refine ⟨Nat.le_succ_of_le ih.1, List.forall_mem_cons.2 ⟨⟨ih.1, Nat.lt_succ_self _⟩, ?_⟩⟩
    exact fun a ha => ⟨(ih.2 a ha).1, Nat.lt_succ_of_lt (ih.2 a ha).2⟩
  | tuple _ _ ih => exact ih
  | modify b f _ ih => rwa [next_modify]
  | free b _ ih => rwa [next_free]

theorem Course.nodup (H : h.Course given h') : given.Nodup := by
  induction H with
  | start => exact .nil
  | alloc o t ih =>
    exact List.nodup_cons.2 ⟨fun h => Nat.lt_irrefl _ (t.between.2 _ h).2, ih⟩
  | tuple _ _ ih | modify _ _ _ ih | free _ _ ih => exact ih

theorem Course.since (H : h.Course given h') : h.Since h' :=
  ⟨given, H, H.nodup, fun a ha => (H.between.2 a ha).1⟩

namespace Since

theorem refl (h : Heap) : Since h h := Course.start.since

theorem alloc (H : Since h h') (o : Object) : Since h (h'.alloc o).2 :=
  let ⟨_, course, _⟩ := H
  (course.alloc o).since

theorem tuple (H : Since h h') (items : List Value) : Since h (h'.tuple items).2 :=
  let ⟨_, course, _⟩ := H
  (course.tuple items).since

theorem modify (H : Since h h') (b : Address) (f : Object → Object) : Since h (h'.modify b f) :=
  let ⟨_, course, _⟩ := H
  (course.modify b f).since

theorem free (H : Since h h') (b : Address) : Since h (h'.free b) :=
  let ⟨_, course, _⟩ := H
  (course.free b).since

end Since

end Heap

/-- Whether all that a machine refers to is there. -/
structure Machine.Sound (m : Machine σ) : Prop where
  heap : m.heap.Sound
  globals : m.heap.HasScope m.globals
  /-- The bindings of the open frames are there. -/
  locals : ∀ f ∈ m.stack, m.heap.HasScope f.locals
  /-- The classes and receivers of the open frames are there. -/
  frames : ∀ f ∈ m.stack, ∀ v ∈ f.held, m.heap.Holds v
  /-- What the errors being handled hold is there. -/
  handled : ∀ e ∈ m.handled, ∀ v ∈ e.fault.held, m.heap.Holds v
  exceptions : ∀ p ∈ m.exceptions, m.heap.Live p.2
  modules : ∀ p ∈ m.modules, m.heap.Live p.2
  writing : ∀ a ∈ m.writing, m.heap.Live a

end Stepwise
