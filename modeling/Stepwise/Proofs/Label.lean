import Stepwise.Picture.Profile

/-!
# Tags by their names

A tag is written as its name. What a picture knows of has a tag with a name of its own; anything
else is tagged by the name of its type in lower case, and a script may call its classes what it
likes. So the name of a value's tag tells the tag, unless the value passes for something else by the
name of its type (`tagOf_told`).

## The model

Only an instance that can neither be called nor has a shape is tagged by a name that a script
chooses (`Heap.Nondescript`); a class that is not there any more, and an object that is not, is
called `object`. No built-in type that is tagged by its name is called like a tag.
-/

namespace Stepwise

namespace Tag

/-- The tags of what a picture knows of, which are all but the names of types. -/
def known : List Tag :=
  [primitive, array, object, function, constructing, linkedList, linkedListNode, doublyLinkedList,
    doublyLinkedNode]

theorem named_name {t : Tag} (h : t ∈ known) : named t.name = t := by
  revert t
  decide

theorem name_inj {t u : Tag} (ht : t ∈ known) (hu : u ∈ known) : t.name = u.name ↔ t = u := by
  refine ⟨fun h => ?_, congrArg name⟩
  rw [← named_name ht, ← named_name hu, h]

theorem other_notMem_known (n : String) : other n ∉ known := by
  simp [known]

theorem named_eq_other {n : String} (h : ∀ t ∈ known, n ≠ t.name) : named n = other n := by
  simp only [known, List.forall_mem_cons, name] at h
  unfold named
  split <;> simp_all

theorem known_or_other (t : Tag) : t ∈ known ∨ ∃ n, t = other n := by
  cases t with
  | other n => exact .inr ⟨n, rfl⟩
  | _ => exact .inl (by decide)

/-- A tag is read back from its name unless it is the name of a type that is the name of a tag. -/
theorem named_name_iff (t : Tag) : named t.name = t ↔ ∀ u ∈ known, t ≠ other u.name := by
  obtain ht | ⟨n, rfl⟩ := t.known_or_other
  · refine iff_of_true (named_name ht) ?_
    rintro u - rfl
    exact other_notMem_known _ ht
  · refine ⟨fun h u hu hn => ?_, fun h => named_eq_other fun u hu hn => h u hu (congrArg other hn)⟩
    rw [hn, name, named_name hu] at h
    exact other_notMem_known _ (h ▸ hu)

theorem name_eq_iff {t u : Tag} (hu : u ∈ known) :
    t.name = u.name ↔ t = u ∨ t = other u.name := by
  refine ⟨fun h => ?_, ?_⟩
  · obtain ht | ⟨n, rfl⟩ := t.known_or_other
    · exact .inl ((name_inj ht hu).1 h)
    · exact .inr (congrArg other h)
  · rintro (rfl | rfl) <;> rfl

end Tag

namespace Heap

/-- Whether nothing is to be told of a value but the name of its type: it is at an address without
an object, or an instance that cannot be called and is neither empty nor linked. -/
inductive Nondescript (h : Heap) : Value → Prop where
  | gone {a} : h.get? a = none → Nondescript h (.ref a)
  | shapeless {a i} : h.get? a = some (.inst i) → h.isCallable (.ref a) = false →
      h.objectTag? (.ref a) = none → Nondescript h (.ref a)

/-- Whether a value is tagged by the name of its type, and this is the name of a tag. -/
structure PassesFor (h : Heap) (v : Value) (t : Tag) : Prop where
  known : t ∈ Tag.known
  nondescript : h.Nondescript v
  name : Text.toLower (h.typeName v) = t.name

/-- The built-in types whose values are tagged by the name of their type. -/
def taggedTypes : List String := ["range", "set", "super", "module", "cell"]

variable {h : Heap} {v : Value} {t : Tag} {a : Address}

theorem object?_ref (h : Heap) (a : Address) : h.object? (.ref a) = h.get? a := rfl

theorem objectTag?_known (ht : h.objectTag? v = some t) : t ∈ Tag.known := by
  unfold objectTag? at ht
  dsimp only at ht
  repeat' split at ht
  all_goals cases ht
  all_goals decide

theorem objectTag?_none (hv : h.attributes? v = none) : h.objectTag? v = none := by
  rw [objectTag?, hv]

/-- An instance or a module is tagged by its shape, or else by the name of its type. -/
theorem getD_objectTag? (h : Heap) (v : Value) (n : String) :
    (h.objectTag? v).getD (.other n) ∈ Tag.known ∨
      h.objectTag? v = none ∧ (h.objectTag? v).getD (.other n) = .other n := by
  cases shape : h.objectTag? v with
  | none => exact .inr ⟨rfl, rfl⟩
  | some t => exact .inl (objectTag?_known shape)

theorem tagOf_nondescript (hv : h.Nondescript v) :
    h.tagOf v = .other (Text.toLower (h.typeName v)) := by
  cases hv with
  | @gone a none =>
    have shape : h.objectTag? (.ref a) = .none :=
      objectTag?_none (by simp [attributes?, attributesAt?, Value.address?, none])
    simp [tagOf, object?_ref, none, isCallable, shape]
  | shapeless inst fixed shape => simp [tagOf, object?_ref, inst, fixed, shape]

/-- A value is tagged as something known or by the name of a built-in type, unless there is nothing
to be told of it. -/
theorem tagOf_cases (h : Heap) (v : Value) :
    h.tagOf v ∈ Tag.known ∨ h.Nondescript v ∨ ∃ n ∈ taggedTypes, h.tagOf v = .other n := by
  have typed : ∀ n ∈ taggedTypes, Text.toLower n = n := by decide +kernel
  have primitive : Tag.primitive ∈ Tag.known := by decide
  have array : Tag.array ∈ Tag.known := by decide
  have object : Tag.object ∈ Tag.known := by decide
  have function : Tag.function ∈ Tag.known := by decide
  have byType : ∀ {u n}, h.typeName u = n → n ∈ taggedTypes → h.tagOf u = (h.objectTag? u).getD
      (.other (Text.toLower (h.typeName u))) → h.tagOf u ∈ Tag.known ∨
      ∃ n ∈ taggedTypes, h.tagOf u = .other n := by
    rintro u n rfl hn hu
    rw [hu, typed _ hn]
    exact (getD_objectTag? h u _).imp_right fun other => ⟨_, hn, other.2⟩
  cases v with
  | none | bool | int | float | str => exact .inl primitive
  | tuple => exact .inl array
  | builtin => exact .inl function
  | range => exact (byType (n := "range") rfl (by decide) rfl).imp_right .inr
  | ref a =>
    have name : ∀ {o}, h.get? a = some o → h.typeName (.ref a) = h.objectTypeName o := by
      intro o ho
      simp [typeName, Value.inlineTypeName?, object?_ref, ho]
    cases ho : h.get? a with
    | none => exact .inr (.inl (.gone ho))
    | some o =>
      cases o with
      | list =>
        have tag : h.tagOf (.ref a) = .array := by simp only [tagOf, object?_ref, ho]
        exact .inl (tag ▸ array)
      | dict =>
        have tag : h.tagOf (.ref a) = .object := by simp only [tagOf, object?_ref, ho]
        exact .inl (tag ▸ object)
      | cls | func | boundMethod | nativeMethod =>
        have callable : h.isCallable (.ref a) = true := by simp [isCallable, ho]
        have tag : h.tagOf (.ref a) = .function := by simp [tagOf, object?_ref, ho, callable]
        exact .inl (tag ▸ function)
      | inst i =>
        cases callable : h.isCallable (.ref a) with
        | true =>
          have tag : h.tagOf (.ref a) = .function := by simp [tagOf, object?_ref, ho, callable]
          exact .inl (tag ▸ function)
        | false =>
          have tag : h.tagOf (.ref a) = (h.objectTag? (.ref a)).getD
              (.other (Text.toLower (h.typeName (.ref a)))) := by
            simp [tagOf, object?_ref, ho, callable]
          refine (getD_objectTag? h (.ref a) _).imp (tag ▸ ·) fun shape => ?_
          exact .inl (.shapeless ho callable shape.1)
      | set | super | module | scope =>
        have fixed : h.isCallable (.ref a) = false := by simp [isCallable, ho]
        refine (byType (name ho) (by simp [objectTypeName, taggedTypes]) ?_).imp_right .inr
        simp [tagOf, object?_ref, ho, fixed]

/-- A value passes for something known if it is tagged by the name of that. -/
theorem passesFor_iff : h.PassesFor v t ↔ t ∈ Tag.known ∧ h.tagOf v = .other t.name := by
  refine ⟨fun p => ⟨p.known, by rw [tagOf_nondescript p.nondescript, p.name]⟩, ?_⟩
  rintro ⟨ht, other⟩
  obtain known | plain | ⟨n, hn, typed⟩ := tagOf_cases h v
  · exact absurd (other ▸ known) (Tag.other_notMem_known _)
  · rw [tagOf_nondescript plain] at other
    exact ⟨ht, plain, Tag.other.inj other⟩
  · have apart : ∀ t ∈ Tag.known, ∀ n ∈ taggedTypes, n ≠ t.name := by decide
    exact absurd (Tag.other.inj (typed.symm.trans other)) (apart t ht n hn)

end Heap

/-- The name of a value's tag tells the tag, unless the value passes for something else by the name
of its type; and the name of a tag is that of the values with this tag and of those that pass for
such a value. -/
theorem tagOf_told (h : Heap) (v : Value) :
    (Tag.named (h.tagOf v).name = h.tagOf v ↔ ∀ t, ¬ h.PassesFor v t) ∧
      ∀ t ∈ Tag.known, (h.tagOf v).name = t.name ↔ h.tagOf v = t ∨ h.PassesFor v t := by
  refine ⟨?_, fun t ht => ?_⟩
  · rw [Tag.named_name_iff]
    simp only [Heap.passesFor_iff, not_and, ne_eq]
  · rw [Tag.name_eq_iff ht, Heap.passesFor_iff, and_iff_right ht]

/-- A heap with an instance of a class of the given name that has two attributes and no links. -/
def Heap.ofPair (cls : String) : Heap where
  objects := #[some (.cls ⟨cls, [], [base], .empty, false⟩),
    some (.inst ⟨base, .ofList [("a", .int 1), ("b", .int 2)], []⟩)]
  marks := 0

/-- An instance of a class that is called like lists that are linked is taken for such a list. -/
theorem tagOf_told_lookalike :
    let h := Heap.ofPair "Linked_List"
    let v := Value.ref (Heap.base + 1)
    Tag.linkedList ∈ Tag.known ∧ h.objectTag? v = none ∧ h.PassesFor v .linkedList ∧
      (h.tagOf v).name = Tag.linkedList.name ∧ Tag.named (h.tagOf v).name ≠ h.tagOf v := by
  intro h v
  have known : Tag.linkedList ∈ Tag.known := by decide
  have shape : h.objectTag? v = none := by decide +kernel
  have passes : h.PassesFor v .linkedList :=
    ⟨known, .shapeless rfl (by decide +kernel) shape, by decide +kernel⟩
  obtain ⟨told, named⟩ := tagOf_told h v
  exact ⟨known, shape, passes, (named _ known).2 (.inr passes), fun e => told.1 e _ passes⟩

end Stepwise
