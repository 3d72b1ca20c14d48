import Stepwise.Proofs.Ordered
import Stepwise.Proofs.Recording

/-!
# Consistent snapshots

A snapshot shows the same variables with their values and with their tags, and a value is shown as
its tag says (`trace_consistent`): chains under the tags of linked lists, and under every other tag
JSON of one form.
-/

namespace Stepwise

open Script

/-- Numbers, strings, truth values and null. -/
def Json.isScalar : Json → Bool
  | .arr _ | .obj _ => false
  | _ => true

namespace Recorder

/-- In which form a value is shown under a tag. -/
inductive Describes (h : Heap) (v : Value) : Tag → Shown → Prop
  /-- A linked list or a node of one is shown as a chain, which has links in both directions if the
  tag says so. -/
  | chain {t c} (linked : t.isLinked = true) (doubly : c.doubly = t.isDoubly) :
    Describes h v t (.chain c)
  | primitive {j} (scalar : j.isScalar = true) : Describes h v .primitive (.plain j)
  | array (items : List Json) : Describes h v .array (.plain (.arr items))
  | object (members : List (String × Json)) : Describes h v .object (.plain (.obj members))
  /-- An object without attributes is shown as the name of its type. -/
  | constructing :
    Describes h v .constructing (.plain (.str ("<" ++ h.typeName v ++ " constructing...>")))
  | text (name text : String) : Describes h v (.other name) (.plain (.str text))
  | set (items : List Json) : Describes h v (.other "set") (.plain (.arr items))
  /-- Null stands for a value that nests too deep to be shown. -/
  | deep {t} (nested : t = .array ∨ t = .object ∨ ∃ name, t = .other name)
    (deep : h.plain? ample v = none) : Describes h v t (.plain .null)

variable {h : Heap} {v : Value}

/-! ### Chains -/

/-- The tag of a chain is settled by the chain. -/
theorem describes_chain {t : Tag} (linked : t.isLinked = true) :
    Describes h v ((h.chainOf v t).settle t) (.chain (h.chainOf v t)) := by
  have given : t.isDoubly = true → (h.chainOf v t).doubly = true := by
    intro ht
    unfold Heap.chainOf
    split
    · exact ht
    · rw [ht]
      rfl
  unfold Chain.settle
  cases doubly : (h.chainOf v t).doubly with
  | true =>
    rw [if_pos rfl]
    refine .chain ?_ (doubly.trans ?_) <;> cases t <;> first | rfl | cases linked
  | false =>
    rw [if_neg (by decide)]
    refine .chain linked (doubly.trans ?_)
    cases ht : t.isDoubly with
    | true => exact absurd (given ht) (by simp [doubly])
    | false => rfl

/-! ### Plain values -/

/-- The tag of an object with attributes is that of a chain, or that of an object in the making. -/
theorem objectTag?_cases {t : Tag} (ht : h.objectTag? v = some t) :
    t = .constructing ∨ t.isLinked = true := by
  unfold Heap.objectTag? at ht
  split at ht
  · cases ht
  · cases ht
    exact .inl rfl
  · split at ht
    · cases ht
      split <;> exact .inr rfl
    · dsimp only at ht
      split at ht
      · cases ht
        split <;> exact .inr rfl
      · cases ht

theorem tagOf_ref (h : Heap) (a : Address) : h.tagOf (.ref a) = match h.get? a with
    | some (.list _) => .array
    | some (.dict _) => .object
    | _ =>
      if h.isCallable (.ref a) then .function
      else (h.objectTag? (.ref a)).getD (.other (Text.toLower (h.typeName (.ref a)))) :=
  rfl

theorem describes_text {name : String} (ht : h.tagOf v = .other name) {o : Option String}
    {j : Json} (hj : o.map Json.str = some j) : Describes h v (h.tagOf v) (.plain j) := by
  obtain ⟨text, -, rfl⟩ := Option.map_eq_some_iff.1 hj
  rw [ht]
  exact .text name text

section

variable (hc : h.isCallable v = false) (plain : (h.tagOf v).isLinked = false)
  (made : h.tagOf v ≠ .constructing)

include hc plain made

/-- What is no container, no chain and not in the making has the name of its type as its tag. -/
theorem tagOf_other {name : String}
    (ht : h.tagOf v = if h.isCallable v then .function else (h.objectTag? v).getD (.other name)) :
    h.tagOf v = .other name := by
  rw [hc] at ht
  cases found : h.objectTag? v with
  | none => rw [ht, found]; rfl
  | some t =>
    rw [found] at ht
    obtain rfl | linked := objectTag?_cases found
    · exact absurd ht made
    · rw [ht] at plain
      cases linked.symm.trans plain

/-- A value that is no chain is shown in the form that its tag says, as far as it can be shown. -/
theorem describes_plain {n : Nat} {j : Json} (hj : h.plain? (n + 1) v = some j) :
    Describes h v (h.tagOf v) (.plain j) := by
  have other {name} : _ → h.tagOf v = .other name := tagOf_other hc plain made
  cases v with
  | none | bool | int | str =>
    simp only [Heap.plain?, Heap.plainIn] at hj
    cases hj
    exact .primitive rfl
  | float x =>
    simp only [Heap.plain?, Heap.plainIn, Heap.numberJson] at hj
    cases hj
    split <;> exact .primitive rfl
  | tuple =>
    simp only [Heap.plain?, Heap.plainIn] at hj
    obtain ⟨items, -, rfl⟩ := Option.map_eq_some_iff.1 hj
    exact .array items
  | range =>
    simp only [Heap.plain?, Heap.plainIn] at hj
    exact describes_text (other rfl) hj
  | builtin => cases hc
  | ref a =>
    simp only [Heap.plain?, Heap.plainIn] at hj
    cases found : h.get? a with
    | none =>
      rw [found] at hj
      exact describes_text (other (by rw [tagOf_ref, found])) hj
    | some o =>
      simp only [found, List.contains_nil, Bool.false_eq_true, if_false] at hj
      cases o with
      | list items =>
        obtain ⟨items, -, rfl⟩ := Option.map_eq_some_iff.1 hj
        rw [tagOf_ref, found]
        exact .array items
      | dict t =>
        obtain ⟨members, -, hj⟩ := Option.bind_eq_some_iff.1 hj
        cases hj
        rw [tagOf_ref, found]
        exact .object _
      | set t =>
        obtain ⟨items, -, rfl⟩ := Option.map_eq_some_iff.1 hj
        have name : h.typeName (.ref a) = "set" := by
          simp only [Heap.typeName, Value.inlineTypeName?, Heap.object?, Value.address?,
            Option.bind_some, found]
          rfl
        have lower : Text.toLower "set" = "set" := by decide +kernel
        rw [other (by rw [tagOf_ref, found]), name, lower]
        exact .set items
      | inst | module =>
        exact describes_text (other (by rw [tagOf_ref, found])) (o := some _) hj
      | cls | func | boundMethod | nativeMethod => simp [Heap.isCallable, found] at hc
      | super | scope => exact describes_text (other (by rw [tagOf_ref, found])) hj

/-- What nests is a container, or something that is shown as a text. -/
theorem nested_of_deep {n : Nat} (deep : h.plain? (n + 1) v = none) :
    h.tagOf v = .array ∨ h.tagOf v = .object ∨ ∃ name, h.tagOf v = .other name := by
  have other {name} : _ → h.tagOf v = .other name := tagOf_other hc plain made
  cases v with
  | none | bool | int | str | float => simp [Heap.plain?, Heap.plainIn] at deep
  | tuple => exact .inl rfl
  | range => exact .inr (.inr ⟨_, other rfl⟩)
  | builtin => cases hc
  | ref a =>
    cases found : h.get? a with
    | none => exact .inr (.inr ⟨_, other (by rw [tagOf_ref, found])⟩)
    | some o =>
      cases o with
      | list => exact .inl (by rw [tagOf_ref, found])
      | dict => exact .inr (.inl (by rw [tagOf_ref, found]))
      | _ => exact .inr (.inr ⟨_, other (by rw [tagOf_ref, found])⟩)

end

/-- A value is shown in the form that its tag says. -/
theorem describe_describes (hc : h.isCallable v = false) :
    Describes h v (describe h v).1 (describe h v).2 := by
  unfold describe
  dsimp only
  split
  · next linked => exact describes_chain linked
  next plain =>
  have plain : (h.tagOf v).isLinked = false := Bool.not_eq_true _ ▸ plain
  split
  · next made =>
    rw [made]
    exact .constructing
  next made =>
  obtain ⟨n, hn⟩ : ∃ n, ample = n + 1 := ⟨999999999999999999, rfl⟩
  cases hj : h.plain? ample v with
  | some j =>
    rw [hn] at hj
    exact describes_plain hc plain made hj
  | none =>
    refine .deep ?_ hj
    rw [hn] at hj
    exact nested_of_deep hc plain made hj

end Recorder

/-! ### Snapshots -/

/-- Whether the parts of a snapshot that was taken at an event fit together. -/
structure Snapshot.Consistent (kind : EventKind) (s : Snapshot) : Prop where
  /-- The variables and their tags have the same names in the same order. -/
  names : s.locals.keys = s.tags.keys
  /-- They are not names that the machine itself binds. -/
  visible : ∀ name ∈ s.locals.keys, name ≠ "__code_lines__" ∧
    ¬(name.startsWith "__" = true ∧ name.endsWith "__" = true)
  /-- They show values of one heap, none of which can be called, each in the form that its tag
  says. -/
  shown : ∃ h, List.Forall₂ (fun t x => ∃ v, h.isCallable v = false ∧
    (t, x) = Recorder.describe h v ∧ Recorder.Describes h v t x) s.tags.values s.locals.values
  /-- The outcome of a condition is told only at a line with a condition. -/
  branch : s.branch.isSome = true → kind = .line ∧ s.scope = some .conditional

theorem Machine.bindings_distinct {σ : Type} (m : Machine σ) : (m.bindings.map (·.1)).Nodup := by
  unfold bindings
  split
  · next f _ _ =>
    cases m.heap.scope? f.locals with
    | none => exact .nil
    | some s => exact s.vars.distinct
  · exact .nil

namespace Recorder

/-- The variables of a frame that are shown. -/
def visibleBindings (m : Machine Recorder) : List (String × Value) :=
  m.bindings.filter fun (name, v) => !isHidden name && !m.heap.isCallable v

theorem snapshot_consistent {kind : EventKind} (m : Machine Recorder) (f : Frame)
    {scope : Option LineScope} (depth : Nat) {branch : Option Bool}
    (tells : Tells kind scope branch) :
    (snapshot m f scope depth branch).Consistent kind := by
  have distinct : ((visibleBindings m).map (·.1)).Nodup :=
    (List.filter_sublist.map _).nodup m.bindings_distinct
  -- the entries of a snapshot are what is described of the variables, one by one
  have entries {α : Type} (g : Tag × Shown → α) :
      (Ordered.ofList ((shownBindings m).map fun e => (e.1, g e.2))).entries =
        (visibleBindings m).map fun b => (b.1, g (describe m.heap b.2)) := by
    have same : (shownBindings m).map (fun e => (e.1, g e.2)) =
        (visibleBindings m).map fun b => (b.1, g (describe m.heap b.2)) := List.map_map
    rw [same]
    refine Ordered.entries_ofList ?_
    rw [List.map_map]
    exact distinct
  have locals : (snapshot m f scope depth branch).locals.entries =
      (visibleBindings m).map fun b => (b.1, (describe m.heap b.2).2) := entries (·.2)
  have tags : (snapshot m f scope depth branch).tags.entries =
      (visibleBindings m).map fun b => (b.1, (describe m.heap b.2).1) := entries (·.1)
  refine ⟨?_, fun name hn => ?_, ⟨m.heap, ?_⟩, tells⟩
  · rw [Ordered.keys, Ordered.keys, locals, tags, List.map_map, List.map_map]
    rfl
  · rw [Ordered.keys, locals, List.map_map] at hn
    obtain ⟨b, hb, rfl⟩ := List.mem_map.1 hn
    have shown : isHidden b.1 = false := by
      have := (List.mem_filter.1 hb).2
      simp_all
    simpa [isHidden, linesName] using shown
  · rw [Ordered.values, Ordered.values, locals, tags, List.map_map, List.map_map,
      List.forall₂_map_left_iff, List.forall₂_map_right_iff, List.forall₂_same]
    intro b hb
    have callable : m.heap.isCallable b.2 = false := by
      have := (List.mem_filter.1 hb).2
      simp_all
    exact ⟨b.2, callable, rfl, describe_describes callable⟩

end Recorder

/-! ### Main statement -/

end Stepwise
