/-!
# Ordered maps

Maps that remember in which order their keys came. A key that is set again keeps its place; a key
that is removed and set again goes to the end.

## The model

A map is the list of its entries, oldest first, at most one of each key; that no key comes twice is
part of the type. All operations walk the list, so what an operation does to the order can be read
off its definition, and every one is described by the keys and by what is found afterwards
(`keys_set`, `get?_set`, `get?_erase`).
-/

namespace Stepwise

/-- A map from `κ` to `ν` with its keys in the order of their arrival. -/
structure Ordered (κ ν : Type) where
  /-- The entries, oldest first. -/
  entries : List (κ × ν)
  /-- No key comes twice. -/
  distinct : (entries.map (·.1)).Nodup

namespace Ordered

variable {κ ν μ : Type}

/-- The map without entries. -/
def empty : Ordered κ ν := ⟨[], .nil⟩

instance : EmptyCollection (Ordered κ ν) := ⟨empty⟩

instance : Inhabited (Ordered κ ν) := ⟨empty⟩

/-- The number of entries. -/
def size (m : Ordered κ ν) : Nat := m.entries.length

/-- Whether there is no entry. -/
def isEmpty (m : Ordered κ ν) : Bool := m.entries.isEmpty

/-- The keys, oldest first. -/
def keys (m : Ordered κ ν) : List κ := m.entries.map (·.1)

/-- The values in the order of their keys. -/
def values (m : Ordered κ ν) : List ν := m.entries.map (·.2)

/-- The entries whose keys satisfy `p`. -/
def filter (m : Ordered κ ν) (p : κ → Bool) : Ordered κ ν where
  entries := m.entries.filter fun e => p e.1
  distinct := (List.filter_sublist.map _).nodup m.distinct

/-- The map with `f` applied to each value. -/
def mapValues (m : Ordered κ ν) (f : ν → μ) : Ordered κ μ where
  entries := m.entries.map fun e => (e.1, f e.2)
  distinct := by simpa [Function.comp_def] using m.distinct

variable [DecidableEq κ]

/-- The value of a key in a list of entries. -/
def find? (k : κ) : List (κ × ν) → Option ν
  | [] => none
  | e :: es => if e.1 = k then some e.2 else find? k es

/-- Sets a key in a list of entries: in its place, or at the end. -/
def setIn (k : κ) (v : ν) : List (κ × ν) → List (κ × ν)
  | [] => [(k, v)]
  | e :: es => if e.1 = k then (k, v) :: es else e :: setIn k v es

/-- Removes a key from a list of entries. -/
def eraseFrom (k : κ) : List (κ × ν) → List (κ × ν)
  | [] => []
  | e :: es => if e.1 = k then es else e :: eraseFrom k es

/-! ### The keys after a change -/

/-- Setting a key that is there moves nothing; setting a new one adds it at the end. -/
theorem keys_setIn (k : κ) (v : ν) (es : List (κ × ν)) :
    (setIn k v es).map (·.1) =
      if k ∈ es.map (·.1) then es.map (·.1) else es.map (·.1) ++ [k] := by
  induction es with
  | nil => rfl
  | cons e es ih => by_cases h : e.1 = k <;> grind [setIn]

theorem distinct_setIn (k : κ) (v : ν) {es : List (κ × ν)} (h : (es.map (·.1)).Nodup) :
    ((setIn k v es).map (·.1)).Nodup := by
  rw [keys_setIn]
  split
  · exact h
  · exact List.nodup_append.2 ⟨h, by simp, fun a ha b hb => by grind⟩

theorem keys_eraseFrom (k : κ) (es : List (κ × ν)) :
    (eraseFrom k es).map (·.1) = (es.map (·.1)).erase k := by
  induction es with
  | nil => rfl
  | cons e es ih => by_cases h : e.1 = k <;> simp [eraseFrom, h, ih]

/-! ### Maps -/

/-- The value of a key. -/
def get? (m : Ordered κ ν) (k : κ) : Option ν := find? k m.entries

/-- Whether a key has a value. -/
def contains (m : Ordered κ ν) (k : κ) : Bool := (m.get? k).isSome

/-- Gives a key a value. -/
def set (m : Ordered κ ν) (k : κ) (v : ν) : Ordered κ ν :=
  ⟨setIn k v m.entries, distinct_setIn k v m.distinct⟩

/-- Takes a key and its value out. -/
def erase (m : Ordered κ ν) (k : κ) : Ordered κ ν where
  entries := eraseFrom k m.entries
  distinct := by rw [keys_eraseFrom]; exact m.distinct.erase k

/-- The map with the given entries; of two with one key the later value counts, at the place of
the earlier. -/
def ofList (es : List (κ × ν)) : Ordered κ ν :=
  es.foldl (fun m e => m.set e.1 e.2) empty

/-! ### What is found after a change -/

theorem find?_setIn (k k' : κ) (v : ν) (es : List (κ × ν)) :
    find? k' (setIn k v es) = if k = k' then some v else find? k' es := by
  induction es with
  | nil => simp [setIn, find?]
  | cons e es ih => by_cases h : e.1 = k <;> by_cases h' : e.1 = k' <;> grind [setIn, find?]

theorem get?_set (m : Ordered κ ν) (k k' : κ) (v : ν) :
    (m.set k v).get? k' = if k = k' then some v else m.get? k' :=
  find?_setIn k k' v m.entries

theorem keys_set (m : Ordered κ ν) (k : κ) (v : ν) :
    (m.set k v).keys = if k ∈ m.keys then m.keys else m.keys ++ [k] :=
  keys_setIn k v m.entries

theorem find?_eq_none_iff (k : κ) (es : List (κ × ν)) :
    find? k es = none ↔ k ∉ es.map (·.1) := by
  induction es with
  | nil => simp [find?]
  | cons e es ih => by_cases h : e.1 = k <;> grind [find?]

/-- A key is found exactly if it is among the keys. -/
theorem contains_iff_mem_keys (m : Ordered κ ν) (k : κ) : m.contains k = true ↔ k ∈ m.keys := by
  have h := find?_eq_none_iff k m.entries
  rw [contains, get?, Option.isSome_iff_ne_none, ne_eq, h, Decidable.not_not]
  rfl

theorem find?_eraseFrom_of_ne {k k' : κ} (h : k ≠ k') (es : List (κ × ν)) :
    find? k' (eraseFrom k es) = find? k' es := by
  induction es with
  | nil => rfl
  | cons e es ih => by_cases he : e.1 = k <;> grind [eraseFrom, find?]

/-- A key that was taken out is not found, because it stood there once. -/
theorem get?_erase (m : Ordered κ ν) (k k' : κ) :
    (m.erase k).get? k' = if k = k' then none else m.get? k' := by
  split
  · next h =>
    subst h
    rw [get?, find?_eq_none_iff, erase, keys_eraseFrom]
    exact m.distinct.not_mem_erase
  · next h => exact find?_eraseFrom_of_ne h m.entries

theorem keys_erase (m : Ordered κ ν) (k : κ) : (m.erase k).keys = m.keys.erase k :=
  keys_eraseFrom k m.entries

end Ordered

end Stepwise
