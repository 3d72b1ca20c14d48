import Stepwise.Proofs.Live
import Stepwise.Proofs.Relation.Diagonal
import Stepwise.Proofs.Relation.Grown

/-!
# Tidy heaps

The world of a single run tells its places apart: values refer to objects, functions and scopes to
scopes that are kept. A heap is tidy if both are there, and nothing on it is left out of the world.
Making and changing objects keeps it tidy, and so does giving up a scope that is not kept.

A value that has a key keeps it, whatever else becomes of the heap: its key shows what it refers to
by the addresses, and whether there is a key at all depends on the kinds of these objects only, which
do not change (`Heap.Files`).
-/

namespace Stepwise

open Script

/-! ### Filed values -/

section

variable {h h' : Heap} {a b : Address} {o o' : Object} {k : Key} {v : Value}

/-- Whether an object has a key: its identity. -/
def Object.hasKey : Object → Bool
  | .list _ | .dict _ | .set _ => false
  | _ => true

theorem Like.isScope (h : Like o o') : o'.isScope = o.isScope := by
  cases h <;> rfl

theorem Like.hasKey (h : Like o o') : o'.hasKey = o.hasKey := by
  cases h <;> rfl

namespace Heap

/-- Whether there is an object at an address that has a key. -/
def hasKeyAt (h : Heap) (a : Address) : Bool := (h.get? a).any Object.hasKey

theorem key?_ref (h : Heap) (a : Address) :
    h.key? (.ref a) = if h.hasKeyAt a then some (.identity a) else none := by
  rw [key?, hasKeyAt]
  cases h.get? a with
  | none => rfl
  | some o => cases o <;> rfl

mutual

/-- The key of a value depends on the kinds of the objects that it refers to. -/
theorem key?_congr : ∀ v : Value, (∀ a ∈ v.addresses, h'.hasKeyAt a = h.hasKeyAt a) →
    h'.key? v = h.key? v
  | .ref a, same => by
    rw [key?_ref, key?_ref, same a (by simp [Value.addresses])]
  | .tuple _ items, same => by
    rw [Value.addresses] at same
    rw [key?, key?, keys?_congr items same]
  | .none, _ | .bool _, _ | .int _, _ | .float _, _ | .str _, _ | .range _ _ _, _
  | .builtin _, _ => by simp only [key?]

theorem keys?_congr : ∀ vs : List Value,
    (∀ a ∈ Value.allAddresses vs, h'.hasKeyAt a = h.hasKeyAt a) → h'.keys? vs = h.keys? vs
  | [], _ => rfl
  | v :: vs, same => by
    rw [Value.allAddresses, List.forall_mem_append] at same
    rw [keys?, keys?, key?_congr v same.1, keys?_congr vs same.2]

end

/-- Whether a value has the key `k`, and all that it refers to is there. -/
structure Files (h : Heap) (k : Key) (v : Value) : Prop where
  holds : h.Holds v
  key : h.key? v = some k

namespace Files

/-- A value keeps its key as long as what it refers to keeps its kind. -/
theorem keep (H : h.Files k v) (same : ∀ a ∈ v.addresses, ∀ o, h.get? a = some o →
    o.isScope = false → ∃ o', h'.get? a = some o' ∧ o'.isScope = false ∧ o'.hasKey = o.hasKey) :
    h'.Files k v where
  holds a ha := by
    obtain ⟨o, ho, scope⟩ := H.holds a ha
    obtain ⟨o', ho', scope', -⟩ := same a ha o ho scope
    exact ⟨o', ho', scope'⟩
  key := by
    refine (key?_congr v fun a ha => ?_).trans H.key
    obtain ⟨o, ho, scope⟩ := H.holds a ha
    obtain ⟨o', ho', -, kind⟩ := same a ha o ho scope
    rw [hasKeyAt, hasKeyAt, ho, ho', Option.any_some, Option.any_some, kind]

theorem alloc (H : h.Files k v) (o : Object) : (h.alloc o).2.Files k v :=
  H.keep fun a _ o' ho' scope => ⟨o', by rw [get?_alloc, if_neg (ne_next ho'), ho'], scope, rfl⟩

theorem tuple (H : h.Files k v) (items : List Value) : (h.tuple items).2.Files k v :=
  H.keep fun _ _ o ho scope => ⟨o, ho, scope, rfl⟩

theorem modify (H : h.Files k v) {f : Object → Object} (hf : ∀ o, Like o (f o)) :
    (h.modify b f).Files k v := by
  refine H.keep fun a _ o ho scope => ?_
  rw [get?_modify, ho]
  split
  · exact ⟨f o, rfl, (hf o).isScope.trans scope, (hf o).hasKey⟩
  · exact ⟨o, rfl, scope, rfl⟩

/-- Nothing refers to a scope, so one may go. -/
theorem free (H : h.Files k v) (hb : h.HasScope b) : (h.free b).Files k v := by
  refine H.keep fun a _ o ho scope => ⟨o, ?_, scope, rfl⟩
  rw [get?_free, if_neg, ho]
  rintro rfl
  obtain ⟨s, hs⟩ := hb
  rw [scope?_eq_some, ho] at hs
  cases hs
  cases scope

end Files

end Heap

end

/-! ### Worlds of a single run -/

variable {w w' : World} {h : Heap} {o o' : Object} {a b : Address}

/-- The world in which one more scope is kept. -/
def World.keep (w : World) (a : Address) : World := { w with kept b := w.kept b ∨ b = a }

theorem World.le_keep (w : World) : w ≤ w.keep a := ⟨id, id, .inl, id, id, rfl, rfl⟩

/-! ### Heaps -/

/-- A heap on which the objects and the kept scopes of a world are there, and nothing else but
scopes, and values have the keys that they are filed under. -/
structure Tidy (w : World) (h : Heap) : Prop where
  grown : Grown w h h
  phrase : w.phrase = fun _ => True
  sharp : w.Sharp
  place : ∀ {a o}, h.get? a = some o → w.place a a
  seen : ∀ {a o}, h.get? a = some o → o.isScope = false → w.object a
  object : ∀ {a}, w.object a → h.Live a
  kept : ∀ {a}, w.kept a → h.HasScope a
  filed : ∀ {k v}, w.filed k v → h.Files k v

namespace Heap

theorem hasScope_iff : h.HasScope a ↔ ∃ o, h.get? a = some o ∧ o.isScope = true := by
  constructor
  · rintro ⟨s, hs⟩
    exact ⟨_, scope?_eq_some.1 hs, rfl⟩
  · rintro ⟨o, ho, scope⟩
    cases o with
    | scope s => exact ⟨s, scope?_eq_some.2 ho⟩
    | _ => cases scope

theorem Live.alloc (ha : h.Live a) (o : Object) : (h.alloc o).2.Live a := by
  obtain ⟨o', ho', scope⟩ := ha
  exact ⟨o', by rw [get?_alloc, if_neg (ne_next ho'), ho'], scope⟩

theorem HasScope.alloc (ha : h.HasScope a) (o : Object) : (h.alloc o).2.HasScope a := by
  obtain ⟨s, hs⟩ := ha
  have found := scope?_eq_some.1 hs
  exact ⟨s, by rw [scope?_eq_some, get?_alloc, if_neg (ne_next found), found]⟩

theorem Live.modify (ha : h.Live a) {f : Object → Object} (hf : ∀ o, Like o (f o)) :
    (h.modify b f).Live a := by
  obtain ⟨o, ho, scope⟩ := ha
  rw [Live, get?_modify, ho]
  split
  · exact ⟨f o, rfl, (hf o).isScope.trans scope⟩
  · exact ⟨o, rfl, scope⟩

theorem HasScope.modify (ha : h.HasScope a) {f : Object → Object} (hf : ∀ o, Like o (f o)) :
    (h.modify b f).HasScope a := by
  obtain ⟨o, ho, scope⟩ := hasScope_iff.1 ha
  rw [hasScope_iff, get?_modify, ho]
  split
  · exact ⟨f o, rfl, (hf o).isScope.trans scope⟩
  · exact ⟨o, rfl, scope⟩

theorem Live.free (ha : h.Live a) (hb : b ≠ a) : (h.free b).Live a := by
  obtain ⟨o, ho, scope⟩ := ha
  exact ⟨o, by rw [get?_free, if_neg hb, ho], scope⟩

theorem HasScope.free (ha : h.HasScope a) (hb : b ≠ a) : (h.free b).HasScope a := by
  obtain ⟨s, hs⟩ := ha
  exact ⟨s, by rw [scope?_eq_some, get?_free, if_neg hb, scope?_eq_some.1 hs]⟩

/-- A scope is no other object. -/
theorem HasScope.not_live (ha : h.HasScope a) : ¬h.Live a := by
  rintro ⟨o, ho, scope⟩
  obtain ⟨o', ho', scope'⟩ := hasScope_iff.1 ha
  obtain rfl := Option.some.inj (ho.symm.trans ho')
  exact Bool.false_ne_true (scope.symm.trans scope')

end Heap

namespace Tidy

/-- A new object, or a new scope that is not kept so far. -/
theorem alloc (H : Tidy w h) {object : Prop} (hobject : object ↔ o.isScope = false)
    (hg : Grown (H.grown.world object False) (h.alloc o).2 (h.alloc o).2) :
    Tidy (H.grown.world object False) (h.alloc o).2 where
  grown := hg
  phrase := H.phrase
  sharp := by
    refine ⟨?_, H.sharp.mark, H.sharp.located⟩
    rintro a b (hab | ⟨rfl, rfl⟩)
    · exact H.sharp.place hab
    · rfl
  place {a o'} ho' := by
    rw [Heap.get?_alloc] at ho'
    split at ho'
    · next e => exact .inr ⟨e, e⟩
    · exact .inl (H.place ho')
  seen {a o'} ho' scope := by
    rw [Heap.get?_alloc] at ho'
    split at ho'
    · next e =>
      cases ho'
      exact .inr ⟨e, hobject.2 scope⟩
    · exact .inl (H.seen ho' scope)
  object := by
    rintro a (ha | ⟨rfl, ho⟩)
    · exact (H.object ha).alloc o
    · exact ⟨o, by rw [Heap.get?_alloc, if_pos rfl], hobject.1 ho⟩
  kept := by
    rintro a (ha | ⟨-, ⟨⟩⟩)
    exact (H.kept ha).alloc o
  filed hf := (H.filed hf).alloc o

theorem tuple (H : Tidy w h) (items : List Value) :
    Tidy H.grown.worldMarks (h.tuple items).2 where
  grown := H.grown.tuple items items
  phrase := H.phrase
  sharp := by
    refine ⟨H.sharp.place, ?_, H.sharp.located⟩
    rintro j k (hjk | ⟨rfl, rfl⟩)
    · exact H.sharp.mark hjk
    · rfl
  place := H.place
  seen := H.seen
  object := H.object
  kept := H.kept
  filed hf := (H.filed hf).tuple items

/-- Changes that do the same to related objects do the same to the heap. -/
theorem modify_eq (H : Tidy w h) {f f' : Object → Object} (he : Edit w f f') (a : Address) :
    h.modify a f = h.modify a f' :=
  h.modify_congr fun o ho => by
    have same := H.grown.get (H.place ho)
    rw [ho] at same
    cases same with
    | some same => exact Discrete.eq H.sharp (he.rel same)

theorem modify (H : Tidy w h) {f f' : Object → Object} (ha : w.place a a) (he : Edit w f f') :
    Tidy w (h.modify a f) where
  grown := by
    have grown := H.grown.modify ha he
    rwa [← H.modify_eq he] at grown
  phrase := H.phrase
  sharp := H.sharp
  place {b o} ho := by
    rw [Heap.get?_modify] at ho
    split at ho
    · obtain ⟨o', ho', -⟩ := Option.map_eq_some_iff.1 ho
      exact H.place ho'
    · exact H.place ho
  seen {b o} ho scope := by
    rw [Heap.get?_modify] at ho
    split at ho
    · obtain ⟨o', ho', rfl⟩ := Option.map_eq_some_iff.1 ho
      exact H.seen ho' ((he.left o').isScope.symm.trans scope)
    · exact H.seen ho scope
  object ha := (H.object ha).modify he.left
  kept ha := (H.kept ha).modify he.left
  filed hf := (H.filed hf).modify he.left

/-- A scope that nothing has taken along can go. -/
theorem free (H : Tidy w h) (ha : h.HasScope a) (hk : ¬w.kept a) : Tidy w (h.free a) where
  grown := by
    obtain ⟨o, ho, -⟩ := Heap.hasScope_iff.1 ha
    exact H.grown.free (H.place ho)
  phrase := H.phrase
  sharp := H.sharp
  place {b o} ho := by
    rw [Heap.get?_free] at ho
    split at ho
    · cases ho
    · exact H.place ho
  seen {b o} ho := by
    rw [Heap.get?_free] at ho
    split at ho
    · cases ho
    · exact H.seen ho
  object {b} hb := (H.object hb).free (by
    rintro rfl
    exact ha.not_live (H.object hb))
  kept {b} hb := (H.kept hb).free (by
    rintro rfl
    exact hk hb)
  filed hf := (H.filed hf).free ha

/-- A scope that is there can be kept. -/
theorem keep (H : Tidy w h) (ha : h.HasScope a) : Tidy (w.keep a) h where
  grown := { H.grown with get := fun hb => up w.le_keep (H.grown.get hb) }
  phrase := H.phrase
  sharp := ⟨H.sharp.place, H.sharp.mark, H.sharp.located⟩
  place := H.place
  seen := H.seen
  object := H.object
  kept := by
    rintro b (hb | rfl)
    · exact H.kept hb
    · exact ha
  filed := H.filed

end Tidy

/-! ### References -/

mutual

/-- Related values refer to objects. -/
theorem ValueRel.addresses : ∀ {v v'}, ValueRel w v v' → ∀ a ∈ v.addresses, w.object a
  | _, _, .ref h => by
    rw [Value.addresses]
    exact List.forall_mem_singleton.2 h.2
  | _, _, .tuple _ h => by
    rw [Value.addresses]
    exact ValueRel.allAddresses h
  | _, _, .none | _, _, .bool _ | _, _, .int _ | _, _, .float _ | _, _, .str _
  | _, _, .range _ _ _ | _, _, .builtin _ => fun a ha => by simp [Value.addresses] at ha

theorem ValueRel.allAddresses :
    ∀ {vs vs'}, List.Forall₂ (ValueRel w) vs vs' → ∀ a ∈ Value.allAddresses vs, w.object a
  | _, _, .nil => fun a ha => by simp [Value.allAddresses] at ha
  | _, _, .cons h t => by
    rw [Value.allAddresses]
    exact List.forall_mem_append.2 ⟨h.addresses, ValueRel.allAddresses t⟩

end

/-- A value may be filed under the key that it has. -/
theorem Tidy.file (H : Tidy w h) {v v' : Value} {k : Key} (hv : ValueRel w v v')
    (key : h.key? v = some k) : Tidy (w.file k v) h where
  grown := H.grown.file k v
  phrase := H.phrase
  sharp := ⟨H.sharp.place, H.sharp.mark, H.sharp.located⟩
  place := H.place
  seen := H.seen
  object := H.object
  kept := H.kept
  filed := by
    rintro k' v' (hf | ⟨rfl, rfl⟩)
    · exact H.filed hf
    · exact ⟨fun a ha => H.object (hv.addresses a ha), key⟩

/-- The values that are related to some values. -/
def World.Refers (w : World) (v : Value) : Prop := ∃ v', ValueRel w v v'

theorem refers_nil : ∀ v ∈ ([] : List Value), w.Refers v := fun _ h => absurd h List.not_mem_nil

theorem refers_one {v v' : Value} (h : ValueRel w v v') : ∀ x ∈ [v], w.Refers x :=
  List.forall_mem_singleton.2 ⟨_, h⟩

theorem refers_two {u u' v v' : Value} (h : ValueRel w u u') (h' : ValueRel w v v') :
    ∀ x ∈ [u, v], w.Refers x :=
  List.forall_mem_cons.2 ⟨⟨_, h⟩, refers_one h'⟩

theorem ListRel.partner {α β : Type} {A : Rel α β} {as : List α} {bs : List β}
    (h : ListRel A w as bs) : ∀ a ∈ as, ∃ b, A w a b := by
  induction h with
  | nil => exact fun _ h => absurd h List.not_mem_nil
  | cons h _ ih => exact List.forall_mem_cons.2 ⟨⟨_, h⟩, ih⟩

theorem ListRel.refers {vs vs' : List Value} (h : ValuesRel w vs vs') : ∀ v ∈ vs, w.Refers v :=
  h.partner

theorem AddrRel.refers {as as' : List Address} (h : ListRel AddrRel w as as') :
    ∀ v ∈ as.map Value.ref, w.Refers v :=
  ListRel.refers (h.map fun h => .ref h)

theorem NamespaceRel.refers {n n' : Namespace} (h : NamespaceRel w n n') :
    ∀ v ∈ n.values, w.Refers v :=
  ListRel.refers (ListRel.map (A := PairRel Same ValueRel) h fun h => h.snd)

theorem OptionRel.refers {o o' : Option Value} (h : OptionRel ValueRel w o o') :
    ∀ v ∈ o.toList, w.Refers v := by
  cases h with
  | none => exact refers_nil
  | some h => exact refers_one h

theorem OptionRel.refs {o o' : Option Address} (h : OptionRel AddrRel w o o') :
    ∀ v ∈ o.toList.map Value.ref, w.Refers v := by
  cases h with
  | none => exact refers_nil
  | some h => exact refers_one (.ref h)

theorem TableRel.refers {t t' : Table} (h : TableRel w t t') : ∀ v ∈ t.held, w.Refers v := by
  intro v hv
  obtain ⟨e, he, hv⟩ := List.mem_flatMap.1 hv
  obtain ⟨e', he⟩ := h.pairs.partner e he
  exact refers_two he.fst he.snd v hv

theorem FaultRel.refers {f f' : Fault} (h : FaultRel w f f') : ∀ v ∈ f.held, w.Refers v := by
  cases h with
  | @plain f h =>
    cases f with
    | key | raised => cases h
    | _ => exact refers_nil
  | key _ h => exact refers_one h
  | raised _ _ hc hv => exact refers_two (.ref hc) hv

theorem FlowRel.refers {f f' : Flow} (h : FlowRel w f f') : ∀ v ∈ f.held, w.Refers v := by
  cases h with
  | return_ h => exact refers_one h
  | _ => exact refers_nil

/-- What an object holds. -/
theorem ObjectRel.refers (h : ObjectRel w o o') : ∀ v ∈ o.held, w.Refers v := by
  cases h with
  | list h => exact ListRel.refers h
  | dict h => exact TableRel.refers h
  | set h => exact TableRel.refers h
  | inst h =>
    refine List.forall_mem_cons.2 ⟨⟨_, .ref h.cls⟩, ?_⟩
    exact List.forall_mem_append.2 ⟨NamespaceRel.refers h.attrs, ListRel.refers h.args⟩
  | cls h =>
    exact List.forall_mem_append.2
      ⟨AddrRel.refers (h.bases.append h.mro), NamespaceRel.refers h.attrs⟩
  | func h =>
    refine List.forall_mem_append.2 ⟨h.owner.refs, fun v hv => ?_⟩
    obtain ⟨o, ho, rfl : o = some v⟩ := List.mem_filterMap.1 hv
    obtain ⟨_, hv⟩ := h.defaults.partner _ ho
    obtain ⟨v', -, hv⟩ := hv.some_left
    exact ⟨v', hv⟩
  | boundMethod h hf => exact refers_two h (.ref hf)
  | nativeMethod h => exact refers_one h
  | super ha h => exact refers_two (.ref ha) h
  | module h => exact NamespaceRel.refers h.attrs
  | scope h => exact NamespaceRel.refers h.vars

theorem ObjectRel.behind (h : ObjectRel w o o') {b : Address} (hb : o.behind = some b) :
    w.kept b := by
  cases h with
  | @func f f' h =>
    have scope := h.scope
    rw [show f.scope = some b from hb] at scope
    obtain ⟨_, -, kept⟩ := scope.some_left
    exact kept.kept
  | @scope s s' h =>
    have parent := h.parent
    rw [show s.parent = some b from hb] at parent
    obtain ⟨_, -, kept⟩ := parent.some_left
    exact kept.kept
  | _ => cases hb

end Stepwise
