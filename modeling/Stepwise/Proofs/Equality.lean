import Stepwise.Eval.Run
import Stepwise.Proofs.Progression

/-!
# Equality and keys

Two values that can be keys are equal exactly if their keys say the same (`equals_fixed`), as long as
they hold neither doubles nor instances. A key says of a range how it is written, though, and ranges
that are written differently may have the same items: only of values whose ranges are terse is it true
that they are equal exactly if they are one key (`equal_iff_sameKey`).

## The model

Tuples are compared item by item, each level of nesting taking one level of the evaluator, so the
bound on the depth has to be beyond the nesting of the left value (`Value.nesting`).
-/

namespace Stepwise

variable {σ : Type}

/-! ### Fixed values -/

namespace Heap

mutual

/-- Whether what a value equals is fixed: it holds no double, and no instance, the class of which
might say what it equals. -/
def isFixed (h : Heap) : Value → Bool
  | .float _ => false
  | .ref a => (h.instance? a).isNone
  | .tuple _ items => h.areFixed items
  | _ => true

/-- Whether what some values equal is fixed. -/
def areFixed (h : Heap) : List Value → Bool
  | [] => true
  | v :: vs => h.isFixed v && h.areFixed vs

end

end Heap

mutual

/-- How deep the tuples in a value are nested. -/
def Value.nesting : Value → Nat
  | .tuple _ items => Value.nestings items + 1
  | _ => 0

/-- How deep the tuples in some values are nested. -/
def Value.nestings : List Value → Nat
  | [] => 0
  | v :: vs => max v.nesting (Value.nestings vs)

end

/-! ### What keys say -/

namespace Key

mutual

/-- Whether two keys say the same: ranges do if they have the same items. -/
def alike : Key → Key → Bool
  | range start stop step, range start' stop' step' =>
    rangeItems start stop step = rangeItems start' stop' step'
  | tuple as, tuple bs => allAlike as bs
  | a, b => a = b

/-- Whether two lists of keys say the same, one by one. -/
def allAlike : List Key → List Key → Bool
  | [], [] => true
  | a :: as, b :: bs => alike a b && allAlike as bs
  | _, _ => false

end

/-- Whether a range is written in the way that its items ask for: it stops where the next item would
be, and the step of a range of one item is 1, as if another one followed. The empty range is
`range(0)`. -/
def isTerseRange (start stop step : Int) : Bool :=
  match rangeLen start stop step with
  | 0 => start = 0 && stop = 0 && step = 1
  | 1 => stop = start + 1 && step = 1
  | n => stop = start + n * step

mutual

/-- Whether all ranges in a key are terse. -/
def isTerse : Key → Bool
  | range start stop step => isTerseRange start stop step
  | tuple items => areTerse items
  | _ => true

/-- Whether all ranges in some keys are terse. -/
def areTerse : List Key → Bool
  | [] => true
  | k :: ks => isTerse k && areTerse ks

end

end Key

/-! ### Ranges -/

section

variable {start stop step start' stop' step' : Int}

/-- Ranges are equal exactly if they have the same items. -/
theorem sameRange_iff : sameRange start stop step start' stop' step' = true ↔
    rangeItems start stop step = rangeItems start' stop' step' := by
  simp only [sameRange, Bool.and_eq_true, Bool.or_eq_true, decide_eq_true_eq]
  constructor
  · rintro ⟨len, none | ⟨rfl, one | rfl⟩⟩
    · simp [rangeItems, ← len, none]
    · simp [rangeItems, ← len, one]
    · simp [rangeItems, ← len]
  · intro items
    have len : rangeLen start stop step = rangeLen start' stop' step' := by
      rw [← length_rangeItems, ← length_rangeItems, items]
    have item {i : Nat} (hi : i < rangeLen start stop step) :
        start + i * step = start' + i * step' := by
      have found : (rangeItems start stop step)[i]? = (rangeItems start' stop' step')[i]? :=
        congrArg (·[i]?) items
      rw [rangeItems_get hi, rangeItems_get (len ▸ hi)] at found
      exact Option.some.inj found
    refine ⟨len, Decidable.or_iff_not_imp_left.2 fun some => ?_⟩
    have first : start = start' := by simpa using item (Nat.pos_of_ne_zero some)
    refine ⟨first, Decidable.or_iff_not_imp_left.2 fun more => ?_⟩
    have second := item (i := 1) (by omega)
    simpa [first] using second

/-- Terse ranges of the same items are written alike. -/
theorem terse_inj (h : Key.isTerseRange start stop step = true)
    (h' : Key.isTerseRange start' stop' step' = true)
    (same : sameRange start stop step start' stop' step' = true) :
    start = start' ∧ stop = stop' ∧ step = step' := by
  simp only [sameRange, Bool.and_eq_true, Bool.or_eq_true, decide_eq_true_eq] at same
  obtain ⟨len, rest⟩ := same
  unfold Key.isTerseRange at h h'
  rw [← len] at h'
  revert h h' rest
  generalize rangeLen start stop step = n
  intro h h' rest
  rcases n with _ | _ | n
  · simp only [Bool.and_eq_true, decide_eq_true_eq] at h h'
    omega
  · simp only [Bool.and_eq_true, decide_eq_true_eq] at h h'
    omega
  · obtain none | ⟨rfl, one | rfl⟩ := rest
    · cases none
    · cases one
    · simp only [decide_eq_true_eq] at h h'
      exact ⟨rfl, h.trans h'.symm, rfl⟩

end

namespace Key

mutual

/-- One key says the same as itself. -/
theorem alike_self : ∀ k : Key, alike k k = true
  | range _ _ _ => by simp [alike]
  | tuple as => by simp [alike, allAlike_self as]
  | none | int _ | float _ | str _ | builtin _ | identity _ => by simp [alike]

theorem allAlike_self : ∀ ks : List Key, allAlike ks ks = true
  | [] => rfl
  | k :: ks => by simp [allAlike, alike_self k, allAlike_self ks]

end

theorem length_of_alike : ∀ {as bs : List Key}, allAlike as bs = true → as.length = bs.length
  | [], [], _ => rfl
  | _ :: _, _ :: _, h => by
    rw [allAlike, Bool.and_eq_true] at h
    simp [length_of_alike h.2]

mutual

/-- Keys that say the same are one key if they are terse. -/
theorem eq_of_alike : ∀ a b : Key, alike a b = true → isTerse a = true → isTerse b = true → a = b
  | range _ _ _, b, h, ha, hb => by
    cases b with
    | range _ _ _ =>
      have same := sameRange_iff.2 (by simpa [alike] using h)
      obtain ⟨rfl, rfl, rfl⟩ := terse_inj (by simpa [isTerse] using ha)
        (by simpa [isTerse] using hb) same
      rfl
    | _ => simp [alike] at h
  | tuple as, b, h, ha, hb => by
    cases b with
    | tuple bs =>
      simp only [alike, isTerse] at h ha hb
      rw [eqs_of_alike as bs h ha hb]
    | _ => simp [alike] at h
  | none, b, h, _, _ | int _, b, h, _, _ | float _, b, h, _, _ | str _, b, h, _, _
  | builtin _, b, h, _, _ | identity _, b, h, _, _ => by simpa [alike] using h

theorem eqs_of_alike : ∀ as bs : List Key, allAlike as bs = true → areTerse as = true →
    areTerse bs = true → as = bs
  | [], bs, h, _, _ => by cases bs <;> simp_all [allAlike]
  | a :: as, bs, h, ha, hb => by
    cases bs with
    | nil => simp [allAlike] at h
    | cons b bs =>
      simp only [allAlike, areTerse, Bool.and_eq_true] at h ha hb
      rw [eq_of_alike a b h.1 ha.1 hb.1, eqs_of_alike as bs h.2 ha.2 hb.2]

end

end Key

/-! ### Equality -/

namespace Heap

variable {h : Heap} {v : Value} {k : Key}

/-- A fixed value and its key. -/
inductive Keyed (h : Heap) : Value → Key → Prop
  | none : Keyed h .none .none
  | bool (b : Bool) : Keyed h (.bool b) (.int (if b then 1 else 0))
  | int (n : Int) : Keyed h (.int n) (.int n)
  | str (s : String) : Keyed h (.str s) (.str s)
  | range (start stop step : Int) : Keyed h (.range start stop step) (.range start stop step)
  | builtin (b : Builtin) : Keyed h (.builtin b) (.builtin b)
  /-- What is compared by identity. -/
  | ref {a : Address} (inst : h.instance? a = Option.none) (shape : h.shape (.ref a) = .scalar) :
    Keyed h (.ref a) (.identity a)
  | tuple (mark : Nat) {items : List Value} {ks : List Key} (keys : h.keys? items = some ks)
    (fixed : h.areFixed items = true) : Keyed h (.tuple mark items) (.tuple ks)

theorem keys?_cons {vs : List Value} {ks : List Key} (hk : h.keys? (v :: vs) = some ks) :
    ∃ k ks', h.key? v = some k ∧ h.keys? vs = some ks' ∧ ks = k :: ks' := by
  obtain ⟨k, first, hk⟩ := Option.bind_eq_some_iff.1 hk
  obtain ⟨ks', rest, hk⟩ := Option.bind_eq_some_iff.1 hk
  exact ⟨k, ks', first, rest, (Option.some.inj hk).symm⟩

theorem keys?_length : ∀ {vs : List Value} {ks : List Key}, h.keys? vs = some ks →
    ks.length = vs.length
  | [], _, rfl => rfl
  | _ :: _, _, hk => by
    obtain ⟨_, _, _, rest, rfl⟩ := keys?_cons hk
    simp [keys?_length rest]

theorem keyed (hk : h.key? v = some k) (hf : h.isFixed v = true) : Keyed h v k := by
  cases v with
  | float => cases hf
  | tuple mark items =>
    obtain ⟨ks, keys, rfl⟩ := Option.map_eq_some_iff.1 hk
    exact .tuple mark keys hf
  | ref a =>
    have none : h.instance? a = none := Option.isNone_iff_eq_none.1 hf
    rw [key?] at hk
    split at hk
    iterate 4 cases hk
    next o lists dicts sets found =>
      cases hk
      refine .ref none ?_
      unfold instance? at none
      unfold shape
      dsimp only
      rw [found] at none ⊢
      cases o with
      | list => exact absurd rfl (lists _)
      | dict => exact absurd rfl (dicts _)
      | set => exact absurd rfl (sets _)
      | inst => cases none
      | _ => rfl
  | _ => cases hk; constructor

end Heap

section

variable {m : Machine σ} {a b : Value} {ka kb : Key} (r : Runner σ)

/-- Values of which one is no number are compared as objects, and then by what they hold. -/
theorem equalValues_of_object (ha : m.heap.Keyed a ka) (hb : m.heap.Keyed b kb)
    (h : a.asInt? = none ∨ b.asInt? = none) :
    equalValues r a b m = if sameObject m.heap a b then .ok true m else equalShapes r a b m := by
  have other : (do if sameObject (← getHeap) a b then return true else equalShapes r a b : M σ Bool) m
      = if sameObject m.heap a b then .ok true m else equalShapes r a b m := by
    rw [getHeap_bind]
    split <;> rfl
  rw [← other]
  obtain h | h := h
  · cases ha with
    | bool | int => cases h
    | _ => rfl
  · cases hb with
    | bool | int => cases h
    | _ => cases ha <;> rfl

/-- Values that hold no others, not both numbers, are one object or of one content exactly if their
keys say the same. -/
theorem same_eq_alike {h : Heap} (ha : h.Keyed a ka) (hb : h.Keyed b kb)
    (number : a.asInt? = none ∨ b.asInt? = none) (hs : h.shape a = .scalar)
    (hs' : h.shape b = .scalar) : (sameObject h a b || sameScalar a b) = ka.alike kb := by
  cases ha with
  | tuple => cases hs
  | range =>
    cases hb with
    | range => rw [sameScalar, Key.alike, Bool.eq_iff_iff, decide_eq_true_iff]; exact sameRange_iff
    | _ => simp [sameObject, sameScalar, Value.identical, Key.alike]
  | ref inst =>
    cases hb with
    | ref => simp [sameObject, sameScalar, Value.identical, Key.alike, inst]
    | _ => simp [sameObject, sameScalar, Value.identical, Key.alike]
  | bool | int =>
    obtain ⟨⟨⟩⟩ | number := number
    cases hb with
    | bool | int => cases number
    | _ => simp [sameObject, sameScalar, Value.identical, Key.alike]
  | str =>
    cases hb with
    | str => simp [sameObject, sameScalar, Value.identical, Key.alike]; rfl
    | _ => simp [sameObject, sameScalar, Value.identical, Key.alike]
  | builtin =>
    cases hb with
    | builtin => simp [sameObject, sameScalar, Value.identical, Key.alike]; rfl
    | _ => simp [sameObject, sameScalar, Value.identical, Key.alike]
  | none => cases hb <;> simp [sameObject, sameScalar, Value.identical, Key.alike]

/-- Values that are no tuples are equal exactly if their keys say the same. -/
theorem equalValues_scalar (ha : m.heap.Keyed a ka) (hb : m.heap.Keyed b kb)
    (hs : m.heap.shape a = .scalar) : equalValues r a b m = .ok (ka.alike kb) m := by
  by_cases number : a.asInt? = none ∨ b.asInt? = none
  · rw [equalValues_of_object r ha hb number, equalShapes, getHeap_bind, hs]
    by_cases hs' : m.heap.shape b = .scalar
    · rw [hs', ← same_eq_alike ha hb number hs hs']
      cases sameObject m.heap a b <;> rfl
    · cases hb with
      | tuple =>
        have unlike (ks : List Key) : ka.alike (.tuple ks) = false := by
          cases ha with
          | tuple => cases hs
          | _ => simp [Key.alike]
        have other (mark : Nat) (items : List Value) :
            sameObject m.heap a (.tuple mark items) = false := by
          cases a <;> rfl
        rw [unlike, other]
        rfl
      | ref _ shape => exact absurd shape hs'
      | _ => exact absurd rfl hs'
  · cases ha with
    | bool | int =>
      cases hb with
      | bool | int => simp [equalValues, Value.asInt?, Key.alike]; rfl
      | _ => exact absurd (.inr rfl) number
    | _ => exact absurd (.inl rfl) number

/-- A tuple is equal to a value exactly if that is a tuple of equal items. -/
theorem equalValues_tuple {mark : Nat} {items : List Value} {ks : List Key}
    (keys : m.heap.keys? items = some ks) (fixed : m.heap.areFixed items = true)
    (hb : m.heap.Keyed b kb)
    (all : ∀ {bs : List Value} {kbs : List Key}, m.heap.keys? bs = some kbs →
      m.heap.areFixed bs = true → items.length = bs.length →
      allEqual r items bs m = .ok (Key.allAlike ks kbs) m) :
    equalValues r (.tuple mark items) b m = .ok ((Key.tuple ks).alike kb) m := by
  rw [equalValues_of_object r (.tuple mark keys fixed) hb (.inl rfl), equalShapes, getHeap_bind]
  cases hb with
  | @tuple mark' bs kbs keys' fixed' =>
    rw [Key.alike]
    by_cases len : items.length = bs.length
    · rw [← all keys' fixed' len]
      simp [sameObject, Heap.shape, isTuple, len]
    · have unlike : Key.allAlike ks kbs = false := by
        refine Bool.eq_false_iff.2 fun alike => len ?_
        rw [← Heap.keys?_length keys, ← Heap.keys?_length keys', Key.length_of_alike alike]
      rw [unlike]
      simp [sameObject, Heap.shape, isTuple, len]
      rfl
  | ref _ shape => rw [shape]; simp [sameObject, Key.alike, Heap.shape]; rfl
  | _ => simp [sameObject, Key.alike, Heap.shape]; rfl

/-- Fixed values are equal one by one exactly if their keys say the same, if those are that are not
nested deeper than `n`. -/
theorem allEqual_fixed {n : Nat} (equals : ∀ {a b : Value} {ka kb : Key}, m.heap.Keyed a ka →
      m.heap.Keyed b kb → a.nesting < n → r.equals a b m = .ok (ka.alike kb) m) :
    ∀ {as bs : List Value} {kas kbs : List Key}, m.heap.keys? as = some kas →
      m.heap.keys? bs = some kbs → m.heap.areFixed as = true → m.heap.areFixed bs = true →
      as.length = bs.length → Value.nestings as < n →
      allEqual r as bs m = .ok (Key.allAlike kas kbs) m
  | [], [], _, _, rfl, rfl, _, _, _, _ => rfl
  | a :: as, b :: bs, kas, kbs, ha, hb, fa, fb, len, deep => by
    obtain ⟨ka, kas, hka, hkas, rfl⟩ := Heap.keys?_cons ha
    obtain ⟨kb, kbs, hkb, hkbs, rfl⟩ := Heap.keys?_cons hb
    rw [Heap.areFixed, Bool.and_eq_true] at fa
    rw [Heap.areFixed, Bool.and_eq_true] at fb
    rw [Value.nestings, Nat.max_lt] at deep
    have first := equals (Heap.keyed hka fa.1) (Heap.keyed hkb fb.1) deep.1
    have rest := allEqual_fixed equals hkas hkbs fa.2 fb.2 (Nat.succ.inj len) deep.2
    rw [allEqual, M.bind_ok first, Key.allAlike]
    cases ka.alike kb
    · rfl
    · exact rest

/-- Fixed values are equal exactly if their keys say the same. -/
theorem equals_fixed (tell : Nat → Moment → M σ Unit) (reveal : M σ Unit) (fuel : Nat) :
    ∀ {a b : Value} {ka kb : Key}, m.heap.Keyed a ka → m.heap.Keyed b kb → a.nesting < fuel →
      (runner tell reveal fuel).equals a b m = .ok (ka.alike kb) m := by
  induction fuel with
  | zero => exact fun _ _ deep => absurd deep (Nat.not_lt_zero _)
  | succ fuel ih =>
    intro a b ka kb ha hb deep
    show equalValues (runner tell reveal fuel) a b m = _
    cases ha with
    | tuple mark keys fixed =>
      exact equalValues_tuple _ keys fixed hb fun keys' fixed' len =>
        allEqual_fixed _ ih keys keys' fixed fixed' len (Nat.lt_of_succ_lt_succ deep)
    | ref inst shape => exact equalValues_scalar _ (.ref inst shape) hb shape
    | none => exact equalValues_scalar _ .none hb rfl
    | bool x => exact equalValues_scalar _ (.bool x) hb rfl
    | int x => exact equalValues_scalar _ (.int x) hb rfl
    | str x => exact equalValues_scalar _ (.str x) hb rfl
    | range start stop step => exact equalValues_scalar _ (.range start stop step) hb rfl
    | builtin x => exact equalValues_scalar _ (.builtin x) hb rfl

/-! ### One key, one entry -/

/-- A new entry is what is found at its key, and nowhere else. -/
theorem value?_insert (t : Table) (k k' : Key) (key value : Value) :
    (Table.insert t k key value).value? k' = if k = k' then some value else t.value? k' := by
  unfold Table.insert
  split <;> rw [Table.value?, Ordered.get?_set, Table.value?] <;> split <;> rfl

theorem size_add (t : Table) (k : Key) (v : Value) :
    (Table.add t k v).size = if t.contains k then t.size else t.size + 1 := by
  unfold Table.add
  split
  · rfl
  · next fresh =>
    have keys := Ordered.keys_set t k (v, .none)
    rw [if_neg (mt (Ordered.contains_iff_mem_keys t k).2 fresh)] at keys
    simpa [Ordered.keys, Ordered.size] using congrArg List.length keys

/-- Of two values a set has one member or two. -/
theorem size_membersOf_pair (hka : m.heap.key? a = some ka) (hkb : m.heap.key? b = some kb) :
    ∃ t, membersOf [a, b] m = .ok t m ∧ t.size = if ka = kb then 1 else 2 := by
  have key {v : Value} {k : Key} (hk : m.heap.key? v = some k) : keyOf v m = .ok k m :=
    keyOf_some hk
  refine ⟨Table.add (Table.add .empty ka a) kb b, ?_, ?_⟩
  · simp only [membersOf, List.foldlM_cons, List.foldlM_nil, bind_assoc, pure_bind, bind_pure]
    rw [M.bind_ok (key hka), M.bind_ok (key hkb)]
    rfl
  · have found : (Table.add .empty ka a).contains kb = decide (ka = kb) := by
      show ((Ordered.empty.set ka (a, Value.none)).get? kb).isSome = _
      rw [Ordered.get?_set]
      split <;> simp_all [Ordered.get?, Ordered.find?, Ordered.empty]
    rw [size_add, found, size_add]
    simp [Ordered.contains, Ordered.get?, Ordered.find?, Ordered.empty, Ordered.size]

/-- Equality and keys: of values without doubles and instances, whether they are equal is what their
keys say of each other. What is one key is equal, and what is equal and terse is one key: it is one
entry of a dictionary and one member of a set. -/
theorem equal_iff_sameKey (tell : Nat → Moment → M σ Unit) (reveal : M σ Unit) {fuel : Nat}
    (hka : m.heap.key? a = some ka) (hkb : m.heap.key? b = some kb)
    (fixed : m.heap.isFixed a = true) (fixed' : m.heap.isFixed b = true)
    (deep : a.nesting < fuel) :
    ∃ equal, (runner tell reveal fuel).equals a b m = .ok equal m ∧
      (equal = true ↔ ka.alike kb = true) ∧ (ka = kb → equal = true) ∧
      (ka.isTerse = true → kb.isTerse = true → (equal = true ↔ ka = kb)) ∧
      (∀ t v, (Table.insert t ka a v).value? kb = if ka = kb then some v else t.value? kb) ∧
      ∃ t, membersOf [a, b] m = .ok t m ∧ t.size = if ka = kb then 1 else 2 := by
  have alike_of_eq : ka = kb → ka.alike kb = true := fun same => same ▸ ka.alike_self
  refine ⟨ka.alike kb,
    equals_fixed tell reveal fuel (Heap.keyed hka fixed) (Heap.keyed hkb fixed') deep, .rfl,
    alike_of_eq, fun terse terse' => ⟨fun alike => ?_, alike_of_eq⟩,
    fun t v => value?_insert t ka kb a v, size_membersOf_pair hka hkb⟩
  exact Key.eq_of_alike ka kb alike terse terse'

end

/-- `(True, range(3), "a")` and `(1, range(3), "a")` are equal and one member of a set. -/
theorem equal_iff_sameKey_bool :
    let a := Value.tuple 0 [.bool true, .range 0 3 1, .str "a"]
    let b := Value.tuple 0 [.int 1, .range 0 3 1, .str "a"]
    ∃ equal, (quiet 2).equals a b (Machine.start ()) = .ok equal (Machine.start ()) ∧
      equal = true ∧ ∃ t, membersOf [a, b] (Machine.start ()) = .ok t (Machine.start ()) ∧
        t.size = 1 := by
  intro a b
  let key : Key := .tuple [.int 1, .range 0 3 1, .str "a"]
  have ha : (Machine.start ()).heap.key? a = some key := rfl
  have hb : (Machine.start ()).heap.key? b = some key := rfl
  have deep : a.nesting < 2 := by decide
  obtain ⟨equal, run, -, same, -, -, t, members, size⟩ :=
    equal_iff_sameKey (fun _ _ => pure ()) (pure ()) ha hb rfl rfl deep
  exact ⟨equal, run, same rfl, t, members, size⟩

/-- `range(0)` and `range(1, 1)` are equal, as neither has an item, but they are two members of a
set. -/
example :
    (quiet 1).equals (.range 0 0 1) (.range 1 1 1) (Machine.start ()) =
        .ok true (Machine.start ()) ∧
      ∃ t, membersOf [.range 0 0 1, .range 1 1 1] (Machine.start ()) =
          .ok t (Machine.start ()) ∧ t.size = 2 :=
  ⟨rfl, _, rfl, rfl⟩

end Stepwise
