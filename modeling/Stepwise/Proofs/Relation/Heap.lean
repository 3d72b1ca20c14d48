import Stepwise.Eval.Attribute
import Stepwise.Eval.Compare
import Stepwise.Heap.Identity
import Stepwise.Proofs.Relation.Table

/-!
# Related heaps

Objects are related if they are of one kind and hold related values; heaps are related if related
addresses have related objects (`HeapRel`). Whatever the machine reads off its heap is then related:
types and classes, attributes, keys, and the texts of values, as long as these show no address.
-/

namespace Stepwise

open Script

/-! ### Objects -/

/-- Instances of related classes with related attributes. -/
structure InstanceRel (w : World) (i i' : Instance) : Prop where
  cls : w.addr i.cls i'.cls
  attrs : NamespaceRel w i.attrs i'.attrs
  args : ValuesRel w i.args i'.args

/-- Classes of one name with related bases and attributes. -/
structure ClassRel (w : World) (c c' : Class) : Prop where
  name : c.name = c'.name
  bases : ListRel AddrRel w c.bases c'.bases
  mro : ListRel AddrRel w c.mro c'.mro
  attrs : NamespaceRel w c.attrs c'.attrs
  builtin : c.builtin = c'.builtin

/-- Functions with one definition, all of whose parts are known. -/
structure ClosureRel (w : World) (f f' : Closure) : Prop where
  definition : f.definition = f'.definition
  parts : Every w.phrase f.definition.parts
  defaults : ListRel (OptionRel ValueRel) w f.defaults f'.defaults
  scope : OptionRel KeptRel w f.scope f'.scope
  owner : OptionRel AddrRel w f.owner f'.owner

/-- Scopes with related bindings behind related scopes. -/
structure ScopeRel (w : World) (s s' : Scope) : Prop where
  vars : NamespaceRel w s.vars s'.vars
  parent : OptionRel KeptRel w s.parent s'.parent

/-- Modules of one name with related attributes. -/
structure ModuleRel (w : World) (m m' : Module) : Prop where
  name : m.name = m'.name
  attrs : NamespaceRel w m.attrs m'.attrs

/-- Objects of one kind that hold related values. -/
inductive ObjectRel (w : World) : Object → Object → Prop
  | list {items items'} (h : ValuesRel w items.toList items'.toList) :
    ObjectRel w (.list items) (.list items')
  | dict {t t'} (h : TableRel w t t') : ObjectRel w (.dict t) (.dict t')
  | set {t t'} (h : TableRel w t t') : ObjectRel w (.set t) (.set t')
  | inst {i i'} (h : InstanceRel w i i') : ObjectRel w (.inst i) (.inst i')
  | cls {c c'} (h : ClassRel w c c') : ObjectRel w (.cls c) (.cls c')
  | func {f f'} (h : ClosureRel w f f') : ObjectRel w (.func f) (.func f')
  | boundMethod {v v' f f'} (h : ValueRel w v v') (hf : w.addr f f') :
    ObjectRel w (.boundMethod v f) (.boundMethod v' f')
  | nativeMethod {v v'} (h : ValueRel w v v') (name : String) :
    ObjectRel w (.nativeMethod v name) (.nativeMethod v' name)
  | super {a a' v v'} (ha : w.addr a a') (h : ValueRel w v v') :
    ObjectRel w (.super a v) (.super a' v')
  | module {m m'} (h : ModuleRel w m m') : ObjectRel w (.module m) (.module m')
  | scope {s s'} (h : ScopeRel w s s') : ObjectRel w (.scope s) (.scope s')

variable {w w' : World}

instance : Grows InstanceRel := ⟨fun hw h => ⟨hw.addr h.cls, up hw h.attrs, up hw h.args⟩⟩

instance : Grows ClassRel :=
  ⟨fun hw h => ⟨h.name, up hw h.bases, up hw h.mro, up hw h.attrs, h.builtin⟩⟩

instance : Grows ClosureRel :=
  ⟨fun hw h => ⟨h.definition, hw.phrase ▸ h.parts, up hw h.defaults, up hw h.scope, up hw h.owner⟩⟩

instance : Grows ScopeRel := ⟨fun hw h => ⟨up hw h.vars, up hw h.parent⟩⟩

instance : Grows ModuleRel := ⟨fun hw h => ⟨h.name, up hw h.attrs⟩⟩

instance : Grows ObjectRel where
  up hw h := by
    cases h with
    | list h => exact .list (up hw h)
    | dict h => exact .dict (up hw h)
    | set h => exact .set (up hw h)
    | inst h => exact .inst (up hw h)
    | cls h => exact .cls (up hw h)
    | func h => exact .func (up hw h)
    | boundMethod h hf => exact .boundMethod (up hw h) (hw.addr hf)
    | nativeMethod h name => exact .nativeMethod (up hw h) name
    | super ha h => exact .super (hw.addr ha) (up hw h)
    | module h => exact .module (up hw h)
    | scope h => exact .scope (up hw h)

/-! ### Heaps -/

/-- Heaps in which related addresses have related objects, and names are found at related places. -/
structure HeapRel (w : World) (h h' : Heap) : Prop where
  get : ∀ {a a'}, w.place a a' → OptionRel ObjectRel w (h.get? a) (h'.get? a')
  lookup : ∀ (name : String) {s s'}, OptionRel PlaceRel w s s' →
    OptionRel ValueRel w (h.lookup? name h.size s) (h'.lookup? name h'.size s')
  binder : ∀ (name : String) {s s'}, OptionRel PlaceRel w s s' →
    OptionRel PlaceRel w (h.binder? name h.size s) (h'.binder? name h'.size s')

namespace HeapRel

variable {h h' : Heap} {a a' b b' : Address} {v v' u u' : Value}

/-- The objects at related addresses: none, or related ones. -/
theorem object (H : HeapRel w h h') (ha : w.addr a a') :
    (h.get? a = none ∧ h'.get? a' = none) ∨
      ∃ o o', h.get? a = some o ∧ h'.get? a' = some o' ∧ ObjectRel w o o' :=
  (H.get ha.1).cases

theorem object? (H : HeapRel w h h') (hv : ValueRel w v v') :
    OptionRel ObjectRel w (h.object? v) (h'.object? v') :=
  hv.address?.bind fun ha => H.get ha.1

theorem list? (H : HeapRel w h h') (ha : w.addr a a') :
    OptionRel (fun w is is' => ValuesRel w is.toList is'.toList) w (h.list? a) (h'.list? a') := by
  unfold Heap.list?
  obtain ⟨e, e'⟩ | ⟨o, o', e, e', ho⟩ := H.object ha <;> simp only [e, e']
  · exact .none
  · cases ho with
    | list hi => exact .some hi
    | _ => exact .none

theorem dict? (H : HeapRel w h h') (ha : w.addr a a') :
    OptionRel TableRel w (h.dict? a) (h'.dict? a') := by
  unfold Heap.dict?
  obtain ⟨e, e'⟩ | ⟨o, o', e, e', ho⟩ := H.object ha <;> simp only [e, e']
  · exact .none
  · cases ho with
    | dict ht => exact .some ht
    | _ => exact .none

theorem set? (H : HeapRel w h h') (ha : w.addr a a') :
    OptionRel TableRel w (h.set? a) (h'.set? a') := by
  unfold Heap.set?
  obtain ⟨e, e'⟩ | ⟨o, o', e, e', ho⟩ := H.object ha <;> simp only [e, e']
  · exact .none
  · cases ho with
    | set ht => exact .some ht
    | _ => exact .none

theorem table? (H : HeapRel w h h') (ha : w.addr a a') :
    OptionRel TableRel w (h.table? a) (h'.table? a') := by
  unfold Heap.table?
  obtain ⟨e, e'⟩ | ⟨o, o', e, e', ho⟩ := H.object ha <;> simp only [e, e']
  · exact .none
  · cases ho with
    | dict ht | set ht => exact .some ht
    | _ => exact .none

theorem instance? (H : HeapRel w h h') (ha : w.addr a a') :
    OptionRel InstanceRel w (h.instance? a) (h'.instance? a') := by
  unfold Heap.instance?
  obtain ⟨e, e'⟩ | ⟨o, o', e, e', ho⟩ := H.object ha <;> simp only [e, e']
  · exact .none
  · cases ho with
    | inst hi => exact .some hi
    | _ => exact .none

theorem class? (H : HeapRel w h h') (ha : w.addr a a') :
    OptionRel ClassRel w (h.class? a) (h'.class? a') := by
  unfold Heap.class?
  obtain ⟨e, e'⟩ | ⟨o, o', e, e', ho⟩ := H.object ha <;> simp only [e, e']
  · exact .none
  · cases ho with
    | cls hc => exact .some hc
    | _ => exact .none

theorem closure? (H : HeapRel w h h') (ha : w.addr a a') :
    OptionRel ClosureRel w (h.closure? a) (h'.closure? a') := by
  unfold Heap.closure?
  obtain ⟨e, e'⟩ | ⟨o, o', e, e', ho⟩ := H.object ha <;> simp only [e, e']
  · exact .none
  · cases ho with
    | func hf => exact .some hf
    | _ => exact .none

theorem scope? (H : HeapRel w h h') (ha : w.place a a') :
    OptionRel ScopeRel w (h.scope? a) (h'.scope? a') := by
  unfold Heap.scope?
  obtain ⟨e, e'⟩ | ⟨o, o', e, e', ho⟩ := (H.get ha).cases <;> simp only [e, e']
  · exact .none
  · cases ho with
    | scope hs => exact .some hs
    | _ => exact .none

/-! ### Classes -/

theorem own? (H : HeapRel w h h') (name : String) (ha : w.addr a a') :
    OptionRel (PairRel ValueRel AddrRel) w (h.own? name a) (h'.own? name a') :=
  (H.class? ha).bind fun hc => (OrderedRel.get? hc.attrs rfl).bind fun hv => .some ⟨hv, ha⟩

theorem classLookup? (H : HeapRel w h h') (ha : w.addr a a') (name : String) :
    OptionRel (PairRel ValueRel AddrRel) w (h.classLookup? a name) (h'.classLookup? a' name) :=
  (H.class? ha).bind fun hc => hc.mro.findSome? fun hb => H.own? name hb

theorem behind (ha : w.addr a a') {as as' : List Address} (hs : ListRel AddrRel w as as') :
    ListRel AddrRel w (Heap.behind a as) (Heap.behind a' as') := by
  have key : ListRel AddrRel w (as.dropWhile (· ≠ a)) (as'.dropWhile (· ≠ a')) := by
    induction hs with
    | nil => exact .nil
    | cons hb t ih =>
      simp only [List.dropWhile_cons, ne_eq, World.addr_eq_iff hb ha]
      split
      · exact ih
      · exact .cons hb t
  unfold Heap.behind
  revert key
  generalize as.dropWhile (· ≠ a) = xs, as'.dropWhile (· ≠ a') = ys
  intro key
  cases key with
  | nil => exact hs
  | cons _ t => exact t

theorem classLookupAfter? (H : HeapRel w h h') (ha : w.addr a a') (hb : w.addr b b')
    (name : String) : OptionRel (PairRel ValueRel AddrRel) w (h.classLookupAfter? a b name)
      (h'.classLookupAfter? a' b' name) :=
  (H.class? ha).bind fun hc => (behind hb hc.mro).findSome? fun hb => H.own? name hb

theorem isSubclass (H : HeapRel w h h') (ha : w.addr a a') (hb : w.addr b b') :
    h.isSubclass a b = h'.isSubclass a' b' :=
  (H.class? ha).any fun hc => hc.mro.contains hb

theorem isExceptionClass (H : HeapRel w h h') (ha : w.addr a a') :
    h.isExceptionClass a = h'.isExceptionClass a' := by
  unfold Heap.isExceptionClass
  obtain ⟨e, e'⟩ | ⟨c, c', e, e', hc⟩ := (H.class? ha).cases <;> simp only [e, e']
  obtain ⟨e, e'⟩ | ⟨b, b', e, e', hb⟩ := hc.mro.getLast?.cases <;> simp only [e, e']
  exact (H.class? hb).any fun hc => hc.builtin

theorem classOf? (H : HeapRel w h h') (hv : ValueRel w v v') :
    OptionRel AddrRel w (h.classOf? v) (h'.classOf? v') :=
  hv.address?.bind fun ha => (H.instance? ha).bind fun hi => .some hi.cls

theorem className (H : HeapRel w h h') (ha : w.addr a a') : h.className a = h'.className a' := by
  unfold Heap.className
  obtain ⟨e, e'⟩ | ⟨c, c', e, e', hc⟩ := (H.class? ha).cases <;> simp only [e, e']
  exact hc.name

theorem typeName (H : HeapRel w h h') (hv : ValueRel w v v') : h.typeName v = h'.typeName v' := by
  unfold Heap.typeName
  rw [hv.inlineTypeName?]
  cases v'.inlineTypeName? with
  | some name => rfl
  | none =>
    obtain ⟨e, e'⟩ | ⟨o, o', e, e', ho⟩ := (H.object? hv).cases <;> simp only [e, e']
    cases ho with
    | inst hi => exact H.className hi.cls
    | _ => rfl

theorem isCallable (H : HeapRel w h h') (hv : ValueRel w v v') :
    h.isCallable v = h'.isCallable v' := by
  cases hv with
  | ref ha =>
    unfold Heap.isCallable
    obtain ⟨e, e'⟩ | ⟨o, o', e, e', ho⟩ := H.object ha <;> simp only [e, e']
    cases ho with
    | inst hi => exact (H.classLookup? hi.cls _).isSome
    | _ => rfl
  | _ => rfl

/-! ### Types -/

theorem typeOf (H : HeapRel w h h') (hv : ValueRel w v v') :
    ValueRel w (h.typeOf v) (h'.typeOf v') := by
  cases hv with
  | ref ha =>
    unfold Heap.typeOf
    obtain ⟨e, e'⟩ | ⟨o, o', e, e', ho⟩ := H.object ha <;> simp only [e, e']
    · exact .builtin _
    · cases ho with
      | inst hi => exact .ref hi.cls
      | _ => exact .builtin _
  | _ => exact .builtin _

theorem isTypeValue (H : HeapRel w h h') (hv : ValueRel w v v') :
    h.isTypeValue v = h'.isTypeValue v' := by
  cases hv with
  | ref ha => exact (H.class? ha).isSome
  | _ => rfl

theorem isOfBuiltin (H : HeapRel w h h') (hv : ValueRel w v v') (b : Builtin) :
    h.isOfBuiltin v b = h'.isOfBuiltin v' b := by
  have key := (H.typeOf hv).identical (.builtin b)
  cases b with
  | object => rfl
  | int => cases hv <;> rfl
  | type => exact H.isTypeValue hv
  | _ => exact key

mutual

theorem isOfType? (H : HeapRel w h h') (hv : ValueRel w v v') :
    ∀ {t t'}, ValueRel w t t' → h.isOfType? v t = h'.isOfType? v' t'
  | _, _, .tuple _ ht => H.isOfOneType? hv ht
  | _, _, .builtin b => by simp only [Heap.isOfType?, H.isOfBuiltin hv]
  | _, _, .ref ha => by
    simp only [Heap.isOfType?, (H.class? ha).isSome,
      (H.classOf? hv).any fun hc => H.isSubclass hc ha]
  | _, _, .none | _, _, .bool _ | _, _, .int _ | _, _, .float _ | _, _, .str _
  | _, _, .range _ _ _ => rfl

theorem isOfOneType? (H : HeapRel w h h') (hv : ValueRel w v v') :
    ∀ {ts ts'}, List.Forall₂ (ValueRel w) ts ts' → h.isOfOneType? v ts = h'.isOfOneType? v' ts'
  | _, _, .nil => rfl
  | _, _, .cons ht hts => by
    simp only [Heap.isOfOneType?, H.isOfType? hv ht, H.isOfOneType? hv hts]

end

/-! ### Keys -/

mutual

theorem key? (H : HeapRel w h h') :
    ∀ {v v'}, ValueRel w v v' → OptionRel KeyRel w (h.key? v) (h'.key? v')
  | _, _, .none => .some .none
  | _, _, .bool _ => .some (.int _)
  | _, _, .int _ => .some (.int _)
  | _, _, .float x => by
    simp only [Heap.key?, Heap.floatKey]
    split
    · exact .some (.int _)
    · exact .some (.float _)
  | _, _, .str _ => .some (.str _)
  | _, _, .tuple _ hs => (H.keys? hs).map .tuple
  | _, _, .range _ _ _ => .some (.range ..)
  | _, _, .builtin _ => .some (.builtin _)
  | _, _, .ref ha => by
    unfold Heap.key?
    obtain ⟨e, e'⟩ | ⟨o, o', e, e', ho⟩ := H.object ha <;> simp only [e, e']
    · exact .none
    · cases ho with
      | list _ | dict _ | set _ => exact .none
      | _ => exact .some (.identity ha)

theorem keys? (H : HeapRel w h h') :
    ∀ {vs vs'}, List.Forall₂ (ValueRel w) vs vs' →
      OptionRel (fun w => List.Forall₂ (KeyRel w)) w (h.keys? vs) (h'.keys? vs')
  | _, _, .nil => .some .nil
  | _, _, .cons hv hvs =>
    (H.key? hv).bind fun hk => (H.keys? hvs).bind fun hks => .some (.cons hk hks)

end

end HeapRel

end Stepwise
