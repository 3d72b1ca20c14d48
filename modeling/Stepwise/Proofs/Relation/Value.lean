import Stepwise.Heap.Repr
import Stepwise.Proofs.Relation.World

/-!
# Related values

Values, keys, errors and the results of tasks, related in a world: equal but for addresses and
tuple marks. What the machine can tell from a value without its heap is the same on both sides.
-/

namespace Stepwise

open Script

/-- Values that are equal but for related addresses and marks. -/
inductive ValueRel (w : World) : Value → Value → Prop
  | none : ValueRel w .none .none
  | bool (b : Bool) : ValueRel w (.bool b) (.bool b)
  | int (n : Int) : ValueRel w (.int n) (.int n)
  | float (x : Float) : ValueRel w (.float x) (.float x)
  | str (s : String) : ValueRel w (.str s) (.str s)
  | tuple {m m' items items'} (hm : w.mark m m') (h : List.Forall₂ (ValueRel w) items items') :
    ValueRel w (.tuple m items) (.tuple m' items')
  | range (start stop step : Int) : ValueRel w (.range start stop step) (.range start stop step)
  | builtin (b : Builtin) : ValueRel w (.builtin b) (.builtin b)
  | ref {a a'} (h : w.addr a a') : ValueRel w (.ref a) (.ref a')

/-- Keys that are equal but for related addresses. -/
inductive KeyRel (w : World) : Key → Key → Prop
  | none : KeyRel w .none .none
  | int (n : Int) : KeyRel w (.int n) (.int n)
  | float (bits : UInt64) : KeyRel w (.float bits) (.float bits)
  | str (s : String) : KeyRel w (.str s) (.str s)
  | tuple {items items'} (h : List.Forall₂ (KeyRel w) items items') :
    KeyRel w (.tuple items) (.tuple items')
  | range (start stop step : Int) : KeyRel w (.range start stop step) (.range start stop step)
  | builtin (b : Builtin) : KeyRel w (.builtin b) (.builtin b)
  | identity {a a'} (h : w.addr a a') : KeyRel w (.identity a) (.identity a')

variable {w w' : World}

/-! ### Growing worlds -/

mutual

theorem ValueRel.up (hw : w ≤ w') : ∀ {v v'}, ValueRel w v v' → ValueRel w' v v'
  | _, _, .none => .none
  | _, _, .bool b => .bool b
  | _, _, .int n => .int n
  | _, _, .float x => .float x
  | _, _, .str s => .str s
  | _, _, .tuple hm h => .tuple (hw.mark hm) (ValueRel.ups hw h)
  | _, _, .range start stop step => .range start stop step
  | _, _, .builtin b => .builtin b
  | _, _, .ref h => .ref (hw.addr h)

theorem ValueRel.ups (hw : w ≤ w') :
    ∀ {vs vs'}, List.Forall₂ (ValueRel w) vs vs' → List.Forall₂ (ValueRel w') vs vs'
  | _, _, .nil => .nil
  | _, _, .cons h t => .cons (h.up hw) (ValueRel.ups hw t)

end

mutual

theorem KeyRel.up (hw : w ≤ w') : ∀ {k k'}, KeyRel w k k' → KeyRel w' k k'
  | _, _, .none => .none
  | _, _, .int n => .int n
  | _, _, .float bits => .float bits
  | _, _, .str s => .str s
  | _, _, .tuple h => .tuple (KeyRel.ups hw h)
  | _, _, .range start stop step => .range start stop step
  | _, _, .builtin b => .builtin b
  | _, _, .identity h => .identity (hw.addr h)

theorem KeyRel.ups (hw : w ≤ w') :
    ∀ {ks ks'}, List.Forall₂ (KeyRel w) ks ks' → List.Forall₂ (KeyRel w') ks ks'
  | _, _, .nil => .nil
  | _, _, .cons h t => .cons (h.up hw) (KeyRel.ups hw t)

end

instance : Grows ValueRel := ⟨fun hw h => h.up hw⟩

instance : Grows KeyRel := ⟨fun hw h => h.up hw⟩

/-! ### Keys -/

mutual

theorem KeyRel.right_unique : ∀ {k a b}, KeyRel w k a → KeyRel w k b → a = b
  | _, _, _, .none, .none => rfl
  | _, _, _, .int _, .int _ => rfl
  | _, _, _, .float _, .float _ => rfl
  | _, _, _, .str _, .str _ => rfl
  | _, _, _, .tuple h, .tuple h' => congrArg Key.tuple (KeyRel.rights_unique h h')
  | _, _, _, .range _ _ _, .range _ _ _ => rfl
  | _, _, _, .builtin _, .builtin _ => rfl
  | _, _, _, .identity h, .identity h' => congrArg Key.identity (w.addr_right h h')

theorem KeyRel.rights_unique :
    ∀ {ks as bs}, List.Forall₂ (KeyRel w) ks as → List.Forall₂ (KeyRel w) ks bs → as = bs
  | _, _, _, .nil, .nil => rfl
  | _, _, _, .cons h t, .cons h' t' =>
    List.cons_eq_cons.2 ⟨h.right_unique h', KeyRel.rights_unique t t'⟩

end

mutual

theorem KeyRel.left_unique : ∀ {a b k}, KeyRel w a k → KeyRel w b k → a = b
  | _, _, _, .none, .none => rfl
  | _, _, _, .int _, .int _ => rfl
  | _, _, _, .float _, .float _ => rfl
  | _, _, _, .str _, .str _ => rfl
  | _, _, _, .tuple h, .tuple h' => congrArg Key.tuple (KeyRel.lefts_unique h h')
  | _, _, _, .range _ _ _, .range _ _ _ => rfl
  | _, _, _, .builtin _, .builtin _ => rfl
  | _, _, _, .identity h, .identity h' => congrArg Key.identity (w.addr_left h h')

theorem KeyRel.lefts_unique :
    ∀ {as bs ks}, List.Forall₂ (KeyRel w) as ks → List.Forall₂ (KeyRel w) bs ks → as = bs
  | _, _, _, .nil, .nil => rfl
  | _, _, _, .cons h t, .cons h' t' =>
    List.cons_eq_cons.2 ⟨h.left_unique h', KeyRel.lefts_unique t t'⟩

end

/-- Equal keys on one side are equal on the other. -/
theorem KeyRel.eq_iff {a a' b b' : Key} (h : KeyRel w a a') (h' : KeyRel w b b') :
    a = b ↔ a' = b' := by
  constructor
  · rintro rfl
    exact h.right_unique h'
  · rintro rfl
    exact h.left_unique h'

/-! ### What a value tells -/

namespace ValueRel

variable {a a' b b' : Value}

theorem asInt? (h : ValueRel w a a') : a.asInt? = a'.asInt? := by cases h <;> rfl

theorem asFloat? (h : ValueRel w a a') : a.asFloat? = a'.asFloat? := by cases h <;> rfl

theorem asStr? (h : ValueRel w a a') : a.asStr? = a'.asStr? := by cases h <;> rfl

theorem isNone (h : ValueRel w a a') : a.isNone = a'.isNone := by cases h <;> rfl

theorem inlineTypeName? (h : ValueRel w a a') : a.inlineTypeName? = a'.inlineTypeName? := by
  cases h <;> rfl

theorem address? (h : ValueRel w a a') : OptionRel AddrRel w a.address? a'.address? := by
  cases h with
  | ref h => exact .some h
  | _ => exact .none

/-- One object on one side is one object on the other. -/
theorem identical (h : ValueRel w a a') (k : ValueRel w b b') :
    a.identical b = a'.identical b' := by
  cases h with
  | tuple hm _ =>
    cases k with
    | tuple km _ => exact decide_eq_decide.2 (World.mark_eq_iff hm km)
    | _ => rfl
  | ref ha =>
    cases k with
    | ref kb => exact decide_eq_decide.2 (World.addr_eq_iff ha kb)
    | _ => rfl
  | _ => cases k <;> rfl

end ValueRel

/-! ### Errors -/

/-- Whether a fault holds no value. -/
def Fault.isPlain : Fault → Bool
  | key _ _ | raised _ => false
  | _ => true

/-- Faults that are equal but for related values. -/
inductive FaultRel (w : World) : Fault → Fault → Prop
  | plain {f} (h : f.isPlain = true) : FaultRel w f f
  | key (shown : String) {v v'} (h : ValueRel w v v') : FaultRel w (.key shown v) (.key shown v')
  | raised {cls cls'} (name : String) {v v'} (message : String) (hc : w.addr cls cls')
      (hv : ValueRel w v v') :
    FaultRel w (.raised ⟨cls, name, v, message⟩) (.raised ⟨cls', name, v', message⟩)

/-- Related faults at one position, if positions count. -/
structure ErrorRel (w : World) (e e' : RuntimeError) : Prop where
  fault : FaultRel w e.fault e'.fault
  pos : w.located → e.pos = e'.pos

instance : Grows FaultRel where
  up hw h := by
    cases h with
    | plain h => exact .plain h
    | key s h => exact .key s (up hw h)
    | raised n m hc hv => exact .raised n m (hw.addr hc) (up hw hv)

instance : Grows ErrorRel :=
  ⟨fun hw h => ⟨up hw h.fault, fun located => h.pos ((World.Le.of_le hw).located ▸ located)⟩⟩

theorem FaultRel.kind {f f' : Fault} (h : FaultRel w f f') : f.kind = f'.kind := by
  cases h <;> rfl

theorem FaultRel.message {f f' : Fault} (h : FaultRel w f f') : f.message = f'.message := by
  cases h <;> rfl

theorem FaultRel.isAttribute {f f' : Fault} (h : FaultRel w f f') :
    f.isAttribute = f'.isAttribute := by
  cases h <;> rfl

/-- Results of computations that may fail: both fail with related errors, or neither does. -/
inductive ExceptRel {ε ε' α β : Type} (E : Rel ε ε') (A : Rel α β) (w : World) :
    Except ε α → Except ε' β → Prop
  | ok {a b} (h : A w a b) : ExceptRel E A w (.ok a) (.ok b)
  | error {e e'} (h : E w e e') : ExceptRel E A w (.error e) (.error e')

instance {ε ε' α β : Type} {E : Rel ε ε'} {A : Rel α β} [Grows E] [Grows A] :
    Grows (ExceptRel E A) where
  up hw h := by
    cases h with
    | ok h => exact .ok (up hw h)
    | error h => exact .error (up hw h)

theorem ExceptRel.map {ε ε' α β γ δ : Type} {E : Rel ε ε'} {A : Rel α β} {B : Rel γ δ}
    {x : Except ε α} {y : Except ε' β} {f : α → γ} {g : β → δ} (h : ExceptRel E A w x y)
    (hf : ∀ {a b}, A w a b → B w (f a) (g b)) : ExceptRel E B w (x.map f) (y.map g) := by
  cases h with
  | ok h => exact .ok (hf h)
  | error h => exact .error h

/-- What an attempt gives. -/
abbrev AttemptRel {α β : Type} (A : Rel α β) :
    Rel (Except RuntimeError α) (Except RuntimeError β) :=
  ExceptRel ErrorRel A

/-! ### Results of tasks -/

/-- Lists of related values. -/
abbrev ValuesRel : Rel (List Value) (List Value) := ListRel ValueRel

/-- Related keyword arguments. -/
abbrev KeywordsRel : Rel Keywords Keywords := ListRel (PairRel Same ValueRel)

/-- Ways to end a statement, with related values. -/
inductive FlowRel (w : World) : Flow → Flow → Prop
  | normal : FlowRel w .normal .normal
  | break_ : FlowRel w .break_ .break_
  | continue_ : FlowRel w .continue_ .continue_
  | return_ {v v'} (h : ValueRel w v v') : FlowRel w (.return_ v) (.return_ v')

instance : Grows FlowRel where
  up hw h := by
    cases h with
    | return_ h => exact .return_ (up hw h)
    | normal => exact .normal
    | break_ => exact .break_
    | continue_ => exact .continue_

end Stepwise
