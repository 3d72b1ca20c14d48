import Stepwise.Machine.State
import Stepwise.Proofs.Syntax

/-!
# What a heap holds

What is found at an address after an object has been made, changed or given up (`get?_alloc`,
`get?_modify`, `get?_free`), and heaps all of whose functions consist of known parts (`Knows`).
-/

namespace Stepwise

open Script

/-- Whether an object is no function with unknown parts. -/
def Object.Known (p : Phrase → Prop) : Object → Prop
  | .func f => Every p f.definition.parts
  | _ => True

namespace Heap

variable {h : Heap} {a b : Address} {o : Object} {p : Phrase → Prop}

/-! ### What is found -/

/-- Places in the heap are as different as their addresses. -/
theorem place_inj {a b : Nat} (ha : ¬a < base) (hb : ¬b < base) : a - base = b - base ↔ a = b := by
  omega

theorem next_not_lt (h : Heap) : ¬h.next < base := Nat.not_lt.2 (Nat.le_add_right _ _)

theorem next_sub (h : Heap) : h.next - base = h.objects.size :=
  Nat.add_sub_cancel_left _ _

theorem get?_alloc (h : Heap) (o : Object) (a : Address) :
    (h.alloc o).2.get? a = if a = h.next then some o else h.get? a := by
  unfold get? alloc
  dsimp only
  by_cases low : a < base
  · rw [if_pos low, if_pos low, if_neg]
    rintro rfl
    exact next_not_lt h low
  · rw [if_neg low, if_neg low, Array.getElem?_push, ← next_sub]
    simp only [place_inj low (next_not_lt h)]
    split <;> rfl

theorem get?_next (h : Heap) : h.get? h.next = none := by
  simp [get?, next]

/-- What is there already is not where the next object comes to lie. -/
theorem ne_next (ha : h.get? a = some o) : a ≠ h.next := by
  rintro rfl
  rw [get?_next] at ha
  cases ha

/-- What is there has an address that has been given out. -/
theorem lt_next (ha : h.get? a = some o) : a < h.next := by
  unfold get? at ha
  split at ha
  · cases ha
  · next high =>
    obtain ⟨found, -⟩ := Array.getElem?_eq_some_iff.1 (Option.join_eq_some_iff.1 ha)
    exact (Nat.sub_lt_iff_lt_add' (Nat.not_lt.1 high)).1 found

/-- What a heap gives where one of its cells has changed. -/
theorem get?_changed (h : Heap) (low : ¬b < base) (f : Option Object → Option Object)
    (a : Address) :
    ({ h with objects := h.objects.modify (b - base) f } : Heap).get? a =
      if b = a then (h.objects[b - base]?.map f).join else h.get? a := by
  unfold get?
  dsimp only
  by_cases e : b = a
  · subst e
    rw [if_neg low, if_pos rfl, Array.getElem?_modify, if_pos rfl]
  rw [if_neg e]
  by_cases low' : a < base
  · rw [if_pos low', if_pos low']
  · rw [if_neg low', if_neg low', Array.getElem?_modify,
      if_neg fun h => e ((place_inj low low').1 h)]

theorem get?_modify (h : Heap) (b : Address) (f : Object → Object) (a : Address) :
    (h.modify b f).get? a = if b = a then (h.get? a).map f else h.get? a := by
  unfold modify
  split
  · next low =>
    split
    · next e => rw [← e, get?, if_pos low, Option.map_none]
    · rfl
  · next low =>
    rw [get?_changed h low]
    split
    · next e =>
      rw [← e, get?, if_neg low]
      cases h.objects[b - base]? <;> rfl
    · rfl

/-- Changes of an object that do the same to it do the same to the heap. -/
theorem modify_congr (h : Heap) {f g : Object → Object}
    (hfg : ∀ o, h.get? a = some o → f o = g o) : h.modify a f = h.modify a g := by
  unfold modify
  split
  · rfl
  · next low =>
    congr 1
    refine Array.ext_getElem? fun i => ?_
    rw [Array.getElem?_modify, Array.getElem?_modify]
    split
    · next e =>
      subst e
      have found : h.get? a = (h.objects[a - base]?).join := if_neg low
      cases e : h.objects[a - base]? with
      | none => rfl
      | some o =>
        cases o with
        | none => rfl
        | some o => exact congrArg (some ∘ some) (hfg o (by rw [found, e]; rfl))
    · rfl

theorem get?_free (h : Heap) (b a : Address) :
    (h.free b).get? a = if b = a then none else h.get? a := by
  unfold free
  split
  · next low =>
    split
    · next e => rw [← e, get?, if_pos low]
    · rfl
  · next low =>
    rw [get?_changed h low]
    split
    · cases h.objects[b - base]? <;> rfl
    · rfl

theorem list?_eq_some {items : Array Value} :
    h.list? a = some items ↔ h.get? a = some (.list items) := by
  unfold list?
  split
  · next e => simp [e]
  · next e => simpa using e items

theorem scope?_eq_some {s : Scope} : h.scope? a = some s ↔ h.get? a = some (.scope s) := by
  unfold scope?
  split
  · next e => simp [e]
  · next e => simpa using e s

theorem class?_eq_some {c : Class} : h.class? a = some c ↔ h.get? a = some (.cls c) := by
  unfold class?
  split
  · next e => simp [e]
  · next e => simpa using e c

theorem instance?_eq_some {i : Instance} : h.instance? a = some i ↔ h.get? a = some (.inst i) := by
  unfold instance?
  split
  · next e => simp [e]
  · next e => simpa using e i

theorem next_alloc (h : Heap) (o : Object) : (h.alloc o).2.next = h.next + 1 :=
  congrArg (base + ·) (Array.size_push ..)

theorem size_alloc (h : Heap) (o : Object) : (h.alloc o).2.size = h.size + 1 := Array.size_push ..

@[simp] theorem size_modify (h : Heap) (b : Address) (f : Object → Object) :
    (h.modify b f).size = h.size := by
  unfold modify size
  split
  · rfl
  · exact Array.size_modify ..

@[simp] theorem size_free (h : Heap) (b : Address) : (h.free b).size = h.size := by
  unfold free size
  split
  · rfl
  · exact Array.size_modify ..

@[simp] theorem next_modify (h : Heap) (b : Address) (f : Object → Object) :
    (h.modify b f).next = h.next := congrArg (base + ·) (h.size_modify b f)

@[simp] theorem next_free (h : Heap) (b : Address) : (h.free b).next = h.next :=
  congrArg (base + ·) (h.size_free b)

@[simp] theorem marks_modify (h : Heap) (b : Address) (f : Object → Object) :
    (h.modify b f).marks = h.marks := by
  unfold modify
  split <;> rfl

@[simp] theorem marks_free (h : Heap) (b : Address) : (h.free b).marks = h.marks := by
  unfold free
  split <;> rfl

/-! ### Known parts -/

/-- Whether all functions consist of known parts. -/
def Knows (p : Phrase → Prop) (h : Heap) : Prop := ∀ a o, h.get? a = some o → o.Known p

theorem Knows.alloc (H : h.Knows p) (ho : o.Known p) : (h.alloc o).2.Knows p := by
  intro a o' e
  rw [get?_alloc] at e
  split at e
  · cases e
    exact ho
  · exact H a o' e

theorem Knows.modify (H : h.Knows p) {f : Object → Object}
    (hf : ∀ o, h.get? b = some o → (f o).Known p) : (h.modify b f).Knows p := by
  intro a o e
  rw [get?_modify] at e
  split at e
  · next h =>
    subst h
    obtain ⟨o', ho', rfl⟩ := Option.map_eq_some_iff.1 e
    exact hf o' ho'
  · exact H a o e

theorem Knows.free (H : h.Knows p) : (h.free b).Knows p := by
  intro a o e
  rw [get?_free] at e
  split at e
  · cases e
  · exact H a o e

end Heap

theorem knows_all (h : Heap) : h.Knows fun _ => True := fun _ o _ => by
  cases o with
  | func => exact every_of (fun _ => trivial) _
  | _ => trivial

end Stepwise
