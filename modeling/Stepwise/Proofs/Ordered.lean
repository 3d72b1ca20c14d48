import Mathlib.Data.List.Induction
import Mathlib.Data.List.Perm.Subperm
import Mathlib.Logic.Relation
import Stepwise.Heap.Ordered

/-!
# Maps made of lists

A map is known by its entries (`Ordered.ext`), and a list of entries with different keys is the list
of entries of its map (`Ordered.entries_ofList`). What is found in a map does not depend on their
order (`Ordered.get?_of_perm`), nor does whether two maps have the same keys and related values
(`Ordered.Alike`). Where the order counts, a later map may still keep all but some of the entries of
an earlier one (`Ordered.KeptBut`).
-/

namespace Stepwise.Ordered

variable {κ ν : Type}

theorem ext {m n : Ordered κ ν} (h : m.entries = n.entries) : m = n := by
  cases m
  cases n
  cases h
  rfl

variable [DecidableEq κ]

theorem setIn_of_not_mem {k : κ} {v : ν} : ∀ {es : List (κ × ν)}, k ∉ es.map (·.1) →
    setIn k v es = es ++ [(k, v)]
  | [], _ => rfl
  | e :: es, h => by
    rw [List.map_cons, List.mem_cons, not_or] at h
    rw [setIn, if_neg (Ne.symm h.1), setIn_of_not_mem h.2]
    rfl

theorem eraseFrom_append {k : κ} (rest : List (κ × ν)) : ∀ {es : List (κ × ν)},
    k ∉ es.map (·.1) → eraseFrom k (es ++ rest) = es ++ eraseFrom k rest
  | [], _ => rfl
  | e :: es, h => by
    rw [List.map_cons, List.mem_cons, not_or] at h
    rw [List.cons_append, eraseFrom, if_neg (Ne.symm h.1), eraseFrom_append rest h.2]
    rfl

/-- The entry that is taken out goes, and the others stay in order. -/
theorem entries_erase {m : Ordered κ ν} {before after : List (κ × ν)} {k : κ} {v : ν}
    (h : m.entries = before ++ (k, v) :: after) : (m.erase k).entries = before ++ after := by
  have distinct := m.distinct
  rw [h, List.map_append, List.map_cons] at distinct
  have first : k ∉ before.map (·.1) := fun hk =>
    (List.nodup_append.1 distinct).2.2 _ hk _ List.mem_cons_self rfl
  show eraseFrom k m.entries = _
  rw [h, eraseFrom_append _ first, eraseFrom, if_pos rfl]

/-- Entries with new keys go to the end. -/
theorem entries_foldl_set : ∀ {es : List (κ × ν)} {m : Ordered κ ν},
    ((m.entries ++ es).map (·.1)).Nodup →
    (es.foldl (fun m e => m.set e.1 e.2) m).entries = m.entries ++ es
  | [], m, _ => (List.append_nil _).symm
  | e :: es, m, h => by
    have fresh : e.1 ∉ m.entries.map (·.1) := by
      rw [List.map_append, List.map_cons] at h
      exact fun he => (List.nodup_append.1 h).2.2 _ he _ (List.mem_cons_self ..) rfl
    have entries : (m.set e.1 e.2).entries = m.entries ++ [e] := setIn_of_not_mem fresh
    rw [List.append_cons, ← entries] at h
    rw [List.foldl_cons, entries_foldl_set h, entries, ← List.append_cons]

/-- A map is the map of its entries. -/
theorem entries_ofList {es : List (κ × ν)} (h : (es.map (·.1)).Nodup) :
    (ofList es).entries = es :=
  entries_foldl_set (m := empty) h

theorem ofList_append (es : List (κ × ν)) (e : κ × ν) :
    ofList (es ++ [e]) = (ofList es).set e.1 e.2 := List.foldl_append

/-- The keys of some entries, in the order in which they come first. -/
theorem keys_ofList (es : List (κ × ν)) : (ofList es).keys = (es.map (·.1)).eraseDups := by
  induction es using List.reverseRecOn with
  | nil => rfl
  | append_singleton es e ih =>
    have old : e.1 ∈ (es.map (·.1)).eraseDups ↔ e.1 ∈ es.map (·.1) := List.mem_eraseDups
    rw [ofList_append, keys_set, ih, List.map_append, List.eraseDups_append]
    by_cases mem : e.1 ∈ es.map (·.1)
    · rw [if_pos (old.2 mem)]
      simp [List.removeAll, mem]
    · rw [if_neg (mt old.1 mem)]
      simp [List.removeAll, mem, List.eraseDups_cons]

/-- Each key has its last value. -/
theorem get?_ofList (es : List (κ × ν)) (k : κ) : (ofList es).get? k = find? k es.reverse := by
  induction es using List.reverseRecOn with
  | nil => rfl
  | append_singleton es e ih => rw [ofList_append, get?_set, ih, List.reverse_concat, find?]

theorem forall_mem_setIn {P : ν → Prop} {k : κ} {v : ν} (hv : P v) :
    ∀ {es : List (κ × ν)}, (∀ e ∈ es, P e.2) → ∀ e ∈ setIn k v es, P e.2
  | [], _ => by simpa [setIn] using hv
  | e :: es, h => by
    rw [List.forall_mem_cons] at h
    rw [setIn]
    split
    · exact List.forall_mem_cons.2 ⟨hv, h.2⟩
    · exact List.forall_mem_cons.2 ⟨h.1, forall_mem_setIn hv h.2⟩

/-- What holds of the values of some entries holds of the values of their map. -/
theorem forall_mem_ofList {P : ν → Prop} {es : List (κ × ν)} (h : ∀ e ∈ es, P e.2) :
    ∀ e ∈ (ofList es).entries, P e.2 :=
  List.foldlRecOn (motive := fun m : Ordered κ ν => ∀ e ∈ m.entries, P e.2) es _
    (fun _ he => absurd he List.not_mem_nil) fun _ hm e he => forall_mem_setIn (h e he) hm

/-- Changing the values of a map is the same as changing those of its entries. -/
theorem ofList_mapValues {μ : Type} (m : Ordered κ ν) (f : ν → μ) :
    ofList (m.entries.map fun e => (e.1, f e.2)) = m.mapValues f :=
  ext (entries_ofList (m.mapValues f).distinct)

/-! ### What is found -/

theorem find?_concat (k : κ) (e : κ × ν) : ∀ es : List (κ × ν),
    find? k (es ++ [e]) = (find? k es).or (if e.1 = k then some e.2 else none)
  | [] => rfl
  | e' :: es => by
    rw [List.cons_append, find?, find?, find?_concat k e es]
    split <;> rfl

theorem find?_eq_some_iff {k : κ} {v : ν} : ∀ {es : List (κ × ν)}, (es.map (·.1)).Nodup →
    (find? k es = some v ↔ (k, v) ∈ es)
  | [], _ => by simp [find?]
  | e :: es, distinct => by
    rw [List.map_cons, List.nodup_cons] at distinct
    rw [find?, List.mem_cons]
    split
    · next same =>
      subst same
      constructor
      · rintro ⟨⟩
        exact .inl rfl
      · rintro (here | mem)
        · rw [← here]
        · exact absurd (List.mem_map.2 ⟨_, mem, rfl⟩) distinct.1
    · next other =>
      rw [find?_eq_some_iff distinct.2]
      constructor
      · exact .inr
      · rintro (rfl | mem)
        · exact absurd rfl other
        · exact mem

/-- What is found is the value of the one entry of the key. -/
theorem get?_eq_some {m : Ordered κ ν} {k : κ} {v : ν} :
    m.get? k = some v ↔ (k, v) ∈ m.entries :=
  find?_eq_some_iff m.distinct

theorem get?_eq_none {m : Ordered κ ν} {k : κ} : m.get? k = none ↔ k ∉ m.keys :=
  find?_eq_none_iff k m.entries

/-- What is found does not depend on the order of the entries. -/
theorem get?_of_perm {m n : Ordered κ ν} (perm : m.entries.Perm n.entries) (k : κ) :
    m.get? k = n.get? k :=
  Option.ext fun v => by rw [get?_eq_some, get?_eq_some, perm.mem_iff]

/-! ### Maps of related values -/

/-- Whether two maps have the same keys, and related values for them. -/
def Alike (R : ν → ν → Prop) (m n : Ordered κ ν) : Prop :=
  ∀ k, Option.Rel R (m.get? k) (n.get? k)

variable {R S : ν → ν → Prop} {m n o : Ordered κ ν}

namespace Alike

theorem imp (alike : m.Alike R n)
    (more : ∀ {k x y}, m.get? k = some x → n.get? k = some y → R x y → S x y) : m.Alike S n := by
  intro k
  have related := alike k
  generalize left : m.get? k = x, right : n.get? k = y at related ⊢
  obtain related | _ := related
  · exact .some (more left right related)
  · exact .none

theorem flip (alike : m.Alike R n) : n.Alike (flip R) m := by
  intro k
  have related := alike k
  generalize m.get? k = x, n.get? k = y at related ⊢
  obtain related | _ := related
  · exact .some related
  · exact .none

theorem comp (first : m.Alike R n) (second : n.Alike S o) : m.Alike (Relation.Comp R S) o := by
  intro k
  have related := first k
  have related' := second k
  generalize m.get? k = x, n.get? k = y, o.get? k = z at related related' ⊢
  obtain first | _ := related
  · obtain second | _ := related'
    exact .some ⟨_, first, second⟩
  · cases related'
    exact .none

theorem mem_keys (alike : m.Alike R n) (k : κ) : k ∈ m.keys ↔ k ∈ n.keys := by
  have related := alike k
  rw [← not_iff_not, ← get?_eq_none, ← get?_eq_none]
  generalize m.get? k = x, n.get? k = y at related ⊢
  obtain _ | _ := related <;> simp

end Alike

/-- Maps of one size are alike if every entry of one has its counterpart in the other: no key of the
other is left over. -/
theorem alike_iff : m.Alike R n ↔
    m.size = n.size ∧ ∀ e ∈ m.entries, ∃ y, n.get? e.1 = some y ∧ R e.2 y := by
  have sizes : m.keys.length = m.size ∧ n.keys.length = n.size :=
    ⟨List.length_map _, List.length_map _⟩
  constructor
  · intro alike
    have perm : m.keys.Perm n.keys :=
      (List.perm_ext_iff_of_nodup m.distinct n.distinct).2 alike.mem_keys
    refine ⟨by rw [← sizes.1, ← sizes.2, perm.length_eq], fun e he => ?_⟩
    have related := alike e.1
    rw [get?_eq_some.2 he] at related
    generalize n.get? e.1 = y at related ⊢
    obtain related | _ := related
    exact ⟨_, rfl, related⟩
  · rintro ⟨size, parts⟩ k
    have inside : m.keys ⊆ n.keys := by
      intro k hk
      obtain ⟨e, he, rfl⟩ := List.mem_map.1 hk
      obtain ⟨y, found, -⟩ := parts e he
      exact List.mem_map.2 ⟨_, get?_eq_some.1 found, rfl⟩
    have length : n.keys.length ≤ m.keys.length := by omega
    have perm : m.keys.Perm n.keys := (m.distinct.subperm inside).perm_of_length_le length
    cases left : m.get? k with
    | none =>
      rw [get?_eq_none, perm.mem_iff, ← get?_eq_none] at left
      rw [left]
      exact .none
    | some x =>
      obtain ⟨y, right, related⟩ := parts _ (get?_eq_some.1 left)
      rw [right]
      exact .some related

/-- Maps that came to the same entries in another order are alike. -/
theorem alike_of_perm (perm : m.entries.Perm n.entries) (refl : ∀ e ∈ m.entries, R e.2 e.2) :
    m.Alike R n := by
  refine alike_iff.2 ⟨perm.length_eq, fun e he => ⟨e.2, ?_, refl e he⟩⟩
  exact get?_eq_some.2 (perm.mem_iff.1 he)

/-! ### Maps that keep their entries -/

theorem entries_eq : ∀ {es fs : List (κ × ν)}, (es.map (·.1)).Nodup →
    es.map (·.1) = fs.map (·.1) → (∀ k, find? k es = find? k fs) → es = fs
  | [], [], _, _, _ => rfl
  | (k, x) :: es, (l, y) :: fs, distinct, same, found => by
    rw [List.map_cons, List.map_cons, List.cons.injEq] at same
    obtain ⟨rfl : k = l, same⟩ := same
    rw [List.map_cons, List.nodup_cons] at distinct
    have here := found k
    rw [find?, if_pos rfl, find?, if_pos rfl] at here
    cases here
    refine congrArg _ (entries_eq distinct.2 same fun k' => ?_)
    by_cases new : k = k'
    · subst new
      rw [(find?_eq_none_iff k es).2 distinct.1, (find?_eq_none_iff k fs).2 (same ▸ distinct.1)]
    · have later := found k'
      rwa [find?, if_neg new, find?, if_neg new] at later

/-- A map is known by its keys and by what is found under them. -/
theorem ext_keys (keys : m.keys = n.keys) (found : ∀ k, m.get? k = n.get? k) : m = n :=
  ext (entries_eq m.distinct keys found)

/-- Whether a map is kept in a later one but for some keys, which may have other values then, or be
new, behind all others. -/
structure KeptBut (loose : κ → Prop) (m n : Ordered κ ν) : Prop where
  keys : ∃ new, n.keys = m.keys ++ new ∧ ∀ k ∈ new, loose k
  found : ∀ k, ¬loose k → n.get? k = m.get? k

namespace KeptBut

variable {P Q : κ → Prop}

theorem refl (m : Ordered κ ν) : m.KeptBut P m :=
  ⟨⟨[], (List.append_nil _).symm, nofun⟩, fun _ _ => rfl⟩

theorem mono (kept : m.KeptBut P n) (more : ∀ k, P k → Q k) : m.KeptBut Q n := by
  obtain ⟨new, keys, loose⟩ := kept.keys
  exact ⟨⟨new, keys, fun k hk => more k (loose k hk)⟩, fun k hk => kept.found k (mt (more k) hk)⟩

theorem trans (first : m.KeptBut P n) (second : n.KeptBut P o) : m.KeptBut P o := by
  obtain ⟨new, keys, loose⟩ := first.keys
  obtain ⟨new', keys', loose'⟩ := second.keys
  refine ⟨⟨new ++ new', by rw [keys', keys, List.append_assoc], ?_⟩, fun k hk => ?_⟩
  · exact List.forall_mem_append.2 ⟨loose, loose'⟩
  · rw [second.found k hk, first.found k hk]

theorem set {k : κ} (hk : P k) (v : ν) : m.KeptBut P (m.set k v) := by
  constructor
  · rw [keys_set]
    split
    · exact ⟨[], (List.append_nil _).symm, nofun⟩
    · exact ⟨[k], rfl, List.forall_mem_singleton.2 hk⟩
  · intro k' hk'
    rw [get?_set, if_neg]
    rintro rfl
    exact hk' hk

/-- A map that is kept but for no key is the same. -/
theorem eq (kept : m.KeptBut P n) (tight : ∀ k, ¬P k) : n = m := by
  obtain ⟨new, keys, loose⟩ := kept.keys
  obtain rfl := List.eq_nil_iff_forall_not_mem.2 fun k hk => tight k (loose k hk)
  exact ext_keys (keys.trans (List.append_nil _)) fun k => kept.found k (tight k)

end KeptBut

end Stepwise.Ordered
