import Stepwise.Proofs.Heap
import Stepwise.Proofs.Ordered
import Stepwise.Proofs.Relation.Level

/-!
# A run beside itself

In the world in which everything belongs together with itself (`World.diagonal`), related data are
equal (`Discrete`), and data are related to themselves if all functions among them consist of known
parts.
-/

namespace Stepwise

open Script

variable {α β γ ε κ ν : Type} {p : Phrase → Prop} {l : Prop}

/-- Relations that hold between equal data only, if nothing else belongs together. -/
class Discrete (A : Rel α α) : Prop where
  eq : ∀ {w a b}, w.Sharp → A w a b → a = b

/-- Relations of data without positions: they hold between equal data only, if no other addresses
and marks belong together. -/
class Rigid (A : Rel α α) : Prop where
  eq : ∀ {w a b}, w.Rigid → A w a b → a = b

instance {A : Rel α α} [Rigid A] : Discrete A := ⟨fun hw => Rigid.eq hw.rigid⟩

/-- Relations that hold between all data and themselves, if everything belongs together with
itself. -/
class Diagonal (A : Rel α α) : Prop where
  refl : ∀ {p l} a, A (World.diagonal p l) a a

theorem World.diagonal_exact : (World.diagonal p l).Exact := fun h => h.1

/-! ### Related data are equal -/

instance : Rigid (Same : Rel α α) := ⟨fun _ h => h⟩

instance : Rigid AddrRel := ⟨fun hw h => hw.place h.1⟩

instance : Rigid PlaceRel := ⟨fun hw h => hw.place h⟩

instance : Rigid KeptRel := ⟨fun hw h => hw.place h.place⟩

theorem ListRel.eq_of {A : Rel α α} {w : World} (hA : ∀ {a b}, A w a b → a = b) {as bs : List α}
    (h : ListRel A w as bs) : as = bs := by
  induction h with
  | nil => rfl
  | cons h _ ih => rw [hA h, ih]

instance {A : Rel α α} [Rigid A] : Rigid (ListRel A) :=
  ⟨fun hw => ListRel.eq_of (Rigid.eq hw)⟩

instance {A : Rel α α} [Discrete A] : Discrete (ListRel A) :=
  ⟨fun hw => ListRel.eq_of (Discrete.eq hw)⟩

theorem OptionRel.eq_of {A : Rel α α} {w : World} (hA : ∀ {a b}, A w a b → a = b)
    {a b : Option α} (h : OptionRel A w a b) : a = b := by
  cases h with
  | none => rfl
  | some h => rw [hA h]

instance {A : Rel α α} [Rigid A] : Rigid (OptionRel A) := ⟨fun hw => OptionRel.eq_of (Rigid.eq hw)⟩

instance {A : Rel α α} [Discrete A] : Discrete (OptionRel A) :=
  ⟨fun hw => OptionRel.eq_of (Discrete.eq hw)⟩

instance {A : Rel α α} {B : Rel β β} [Rigid A] [Rigid B] : Rigid (PairRel A B) where
  eq hw h := Prod.ext (Rigid.eq hw h.fst) (Rigid.eq hw h.snd)

instance {K : Rel κ κ} {V : Rel ν ν} [Rigid K] [Rigid V] : Rigid (OrderedRel K V) where
  eq hw h := Ordered.ext (Rigid.eq (A := ListRel (PairRel K V)) hw h)

mutual

theorem ValueRel.eq_of_rigid {w : World} (hw : w.Rigid) : ∀ {v v'}, ValueRel w v v' → v = v'
  | _, _, .none | _, _, .bool _ | _, _, .int _ | _, _, .float _ | _, _, .str _
  | _, _, .range _ _ _ | _, _, .builtin _ => rfl
  | _, _, .tuple hm h => congrArg₂ Value.tuple (hw.mark hm) (ValueRel.eqs_of_rigid hw h)
  | _, _, .ref h => congrArg Value.ref (hw.place h.1)

theorem ValueRel.eqs_of_rigid {w : World} (hw : w.Rigid) :
    ∀ {vs vs'}, List.Forall₂ (ValueRel w) vs vs' → vs = vs'
  | _, _, .nil => rfl
  | _, _, .cons h t => List.cons_eq_cons.2 ⟨h.eq_of_rigid hw, ValueRel.eqs_of_rigid hw t⟩

end

instance : Rigid ValueRel := ⟨fun hw h => h.eq_of_rigid hw⟩

instance : Rigid KeyRel := ⟨fun hw => KeyRel.eq_of_exact fun ha => hw.place ha.1⟩

instance : Rigid TableRel :=
  ⟨fun hw h => Rigid.eq (A := OrderedRel KeyRel (PairRel ValueRel ValueRel)) hw h.ordered⟩

instance : Rigid FaultRel where
  eq hw h := by
    cases h with
    | plain _ => rfl
    | key s hv => rw [Rigid.eq hw hv]
    | raised n msg hc hv => rw [hw.place hc.1, Rigid.eq hw hv]

instance : Discrete ErrorRel where
  eq {w e e'} hw h := by
    obtain ⟨f, q⟩ := e
    obtain ⟨f', q'⟩ := e'
    obtain ⟨hf, hq⟩ := h
    exact congrArg₂ RuntimeError.mk (Discrete.eq hw hf) (hq hw.located)

instance {E : Rel ε ε} {A : Rel α α} [Discrete E] [Discrete A] : Discrete (ExceptRel E A) where
  eq hw h := by
    cases h with
    | ok h => rw [Discrete.eq hw h]
    | error h => rw [Discrete.eq hw h]

instance : Rigid FlowRel where
  eq hw h := by
    cases h with
    | return_ h => rw [Rigid.eq hw h]
    | _ => rfl

instance : Discrete FrameRel where
  eq {w f f'} hw h := by
    obtain ⟨name, kind, locals, owner, receiver, globals, nonlocals, line, reported, captured⟩ := h
    cases f
    cases f'
    dsimp only at *
    rw [name, kind, hw.place locals, Discrete.eq hw owner, Discrete.eq hw receiver, globals,
      nonlocals, line hw.located, reported hw.located, captured]

instance : Rigid ObjectRel where
  eq hw h := by
    cases h with
    | @list is is' h =>
      exact congrArg Object.list (Array.toList_inj.1 (Rigid.eq (A := ValuesRel) hw h))
    | dict h => rw [Rigid.eq hw h]
    | set h => rw [Rigid.eq hw h]
    | @inst i i' h =>
      obtain ⟨cls, attrs, args⟩ := h
      cases i
      cases i'
      dsimp only at *
      rw [hw.place cls.1, Rigid.eq hw attrs, Rigid.eq hw args]
    | @cls c c' h =>
      obtain ⟨name, bases, mro, attrs, builtin⟩ := h
      cases c
      cases c'
      dsimp only at *
      rw [name, Rigid.eq hw bases, Rigid.eq hw mro, Rigid.eq hw attrs, builtin]
    | @func f f' h =>
      obtain ⟨definition, -, defaults, scope, owner⟩ := h
      cases f
      cases f'
      dsimp only at *
      rw [definition, Rigid.eq hw defaults, Rigid.eq hw scope, Rigid.eq hw owner]
    | boundMethod h hf => rw [Rigid.eq hw h, hw.place hf.1]
    | nativeMethod h name => rw [Rigid.eq hw h]
    | super ha h => rw [hw.place ha.1, Rigid.eq hw h]
    | @module m m' h =>
      obtain ⟨name, attrs⟩ := h
      cases m
      cases m'
      dsimp only at *
      rw [name, Rigid.eq hw attrs]
    | @scope s s' h =>
      obtain ⟨vars, parent⟩ := h
      cases s
      cases s'
      dsimp only at *
      rw [Rigid.eq hw vars, Rigid.eq hw parent]

/-! ### Data are related to themselves -/

instance : Diagonal (Same : Rel α α) := ⟨fun _ => rfl⟩

instance : Diagonal AddrRel := ⟨fun _ => ⟨rfl, trivial⟩⟩

instance : Diagonal PlaceRel := ⟨fun _ => rfl⟩

instance : Diagonal KeptRel := ⟨fun _ => ⟨rfl, trivial⟩⟩

instance {A : Rel α α} [Diagonal A] : Diagonal (ListRel A) :=
  ⟨fun _ => List.forall₂_same.2 fun a _ => Diagonal.refl a⟩

instance {A : Rel α α} [Diagonal A] : Diagonal (OptionRel A) where
  refl
    | none => .none
    | some a => .some (Diagonal.refl a)

instance {A : Rel α α} {B : Rel β β} [Diagonal A] [Diagonal B] : Diagonal (PairRel A B) :=
  ⟨fun _ => ⟨Diagonal.refl _, Diagonal.refl _⟩⟩

instance {K : Rel κ κ} {V : Rel ν ν} [Diagonal K] [Diagonal V] : Diagonal (OrderedRel K V) :=
  ⟨fun m => Diagonal.refl (A := ListRel (PairRel K V)) m.entries⟩

mutual

theorem ValueRel.refl_diagonal : ∀ v, ValueRel (World.diagonal p l) v v
  | .none => .none
  | .bool b => .bool b
  | .int n => .int n
  | .float x => .float x
  | .str s => .str s
  | .tuple _ items => .tuple rfl (ValueRel.refls_diagonal items)
  | .range start stop step => .range start stop step
  | .builtin b => .builtin b
  | .ref _ => .ref ⟨rfl, trivial⟩

theorem ValueRel.refls_diagonal : ∀ vs, List.Forall₂ (ValueRel (World.diagonal p l)) vs vs
  | [] => .nil
  | v :: vs => .cons (ValueRel.refl_diagonal v) (ValueRel.refls_diagonal vs)

end

instance : Diagonal ValueRel := ⟨ValueRel.refl_diagonal⟩

mutual

theorem KeyRel.refl_diagonal : ∀ k, KeyRel (World.diagonal p l) k k
  | .none => .none
  | .int n => .int n
  | .float bits => .float bits
  | .str s => .str s
  | .tuple items => .tuple (KeyRel.refls_diagonal items)
  | .range start stop step => .range start stop step
  | .builtin b => .builtin b
  | .identity _ => .identity ⟨rfl, trivial⟩

theorem KeyRel.refls_diagonal : ∀ ks, List.Forall₂ (KeyRel (World.diagonal p l)) ks ks
  | [] => .nil
  | k :: ks => .cons (KeyRel.refl_diagonal k) (KeyRel.refls_diagonal ks)

end

instance : Diagonal KeyRel := ⟨KeyRel.refl_diagonal⟩

instance : Diagonal TableRel :=
  ⟨fun _ => List.forall₂_same.2 fun _ _ => ⟨Diagonal.refl _, Diagonal.refl _, trivial⟩⟩

instance : Diagonal FaultRel where
  refl f := by
    cases f with
    | key s v => exact .key s (Diagonal.refl v)
    | raised x => exact .raised x.className x.message ⟨rfl, trivial⟩ (Diagonal.refl x.object)
    | _ => exact .plain rfl

instance : Diagonal ErrorRel := ⟨fun _ => ⟨Diagonal.refl _, fun _ => rfl⟩⟩

instance : Diagonal FrameRel :=
  ⟨fun _ => ⟨rfl, rfl, rfl, Diagonal.refl _, Diagonal.refl _, rfl, rfl, fun _ => rfl, fun _ => rfl,
    rfl⟩⟩

/-- Objects with known parts are related to themselves. -/
theorem ObjectRel.refl_diagonal {o : Object} (h : o.Known p) :
    ObjectRel (World.diagonal p l) o o := by
  cases o with
  | list is => exact .list (Diagonal.refl (A := ValuesRel) _)
  | dict t => exact .dict (Diagonal.refl _)
  | set t => exact .set (Diagonal.refl _)
  | inst i => exact .inst ⟨⟨rfl, trivial⟩, Diagonal.refl _, Diagonal.refl _⟩
  | cls c => exact .cls ⟨rfl, Diagonal.refl _, Diagonal.refl _, Diagonal.refl _, rfl⟩
  | func f => exact .func ⟨rfl, h, Diagonal.refl _, Diagonal.refl _, Diagonal.refl _⟩
  | boundMethod v f => exact .boundMethod (Diagonal.refl v) ⟨rfl, trivial⟩
  | nativeMethod v name => exact .nativeMethod (Diagonal.refl v) name
  | super a v => exact .super ⟨rfl, trivial⟩ (Diagonal.refl v)
  | module m => exact .module ⟨rfl, Diagonal.refl _⟩
  | scope s => exact .scope ⟨Diagonal.refl _, Diagonal.refl _⟩

/-- The parts of a related object are known. -/
theorem ObjectRel.known {w : World} {o o' : Object} (h : ObjectRel w o o') : o.Known w.phrase := by
  cases h with
  | func h => exact h.parts
  | _ => trivial

/-- A heap with known parts is related to itself. -/
theorem HeapRel.refl_diagonal {h : Heap} (H : h.Knows p) : HeapRel (World.diagonal p l) h h where
  get {a a'} ha := by
    obtain rfl : a = a' := ha
    cases e : h.get? a with
    | none => exact .none
    | some o => exact .some (ObjectRel.refl_diagonal (H a o e))
  lookup name s s' hs := by
    rw [Rigid.eq World.diagonal_rigid hs]
    exact Diagonal.refl _
  binder name s s' hs := by
    rw [Rigid.eq World.diagonal_rigid hs]
    exact Diagonal.refl _

/-- A machine with known parts is near itself. -/
theorem Near.refl_diagonal {σ : Type} {m : Machine σ} (H : m.heap.Knows p) :
    Near (World.diagonal p l) m m where
  heap := .refl_diagonal H
  stack := Diagonal.refl _
  globals := rfl
  exceptions := Diagonal.refl _
  modules := Diagonal.refl _
  pos _ := rfl
  handled := Diagonal.refl _
  writing := Diagonal.refl _

end Stepwise
