import Stepwise.Proofs.Relation.Value

/-!
# Related maps

Maps whose entries are related one by one, in the same order. As related keys are equal on one side
exactly if they are on the other (`Decides`), looking something up, setting, erasing and all that is
built from these finds its way to related places.
-/

namespace Stepwise

/-- Relations of data that are equal on one side exactly if they are on the other. -/
class Decides {α β : Type} (K : Rel α β) : Prop where
  eq_iff : ∀ {w a b a' b'}, K w a a' → K w b b' → (a = b ↔ a' = b')

instance {α : Type} : Decides (Same : Rel α α) := ⟨fun h h' => by rw [h, h']⟩

instance : Decides AddrRel := ⟨World.addr_eq_iff⟩

instance : Decides KeyRel := ⟨KeyRel.eq_iff⟩

instance {α β : Type} {A : Rel α β} [Decides A] : Decides (OptionRel A) where
  eq_iff h h' := by
    cases h with
    | none => cases h' <;> simp
    | some h =>
      cases h' with
      | none => simp
      | some h' => simpa using Decides.eq_iff h h'

/-- Tests for equality have one outcome. -/
theorem Decides.beq {α β : Type} [BEq α] [LawfulBEq α] [BEq β] [LawfulBEq β] {K : Rel α β}
    [Decides K] {w : World} {a b : α} {a' b' : β} (h : K w a a') (h' : K w b b') :
    (a == b) = (a' == b') := by
  rw [Bool.eq_iff_iff, beq_iff_eq, beq_iff_eq]
  exact Decides.eq_iff h h'

/-- Maps with related entries in the same order. -/
def OrderedRel {κ κ' ν ν' : Type} (K : Rel κ κ') (V : Rel ν ν') :
    Rel (Ordered κ ν) (Ordered κ' ν') :=
  fun w m m' => ListRel (PairRel K V) w m.entries m'.entries

/-- Namespaces with related values. -/
abbrev NamespaceRel : Rel Namespace Namespace := OrderedRel Same ValueRel

/-- Related entries of tables, in which a value is filed under a key of its own. -/
structure EntryRel (w : World) (e e' : Key × Value × Value) : Prop where
  key : KeyRel w e.1 e'.1
  pair : PairRel ValueRel ValueRel w e.2 e'.2
  filed : w.filed e.1 e.2.1

instance : Grows EntryRel :=
  ⟨fun hw h => ⟨up hw h.key, up hw h.pair, World.Le.filed hw h.filed⟩⟩

/-- Related keys under which a value may be filed. -/
structure FiledRel (v : Value) (w : World) (k k' : Key) : Prop where
  key : KeyRel w k k'
  filed : w.filed k v

instance {v : Value} : Grows (FiledRel v) := ⟨fun hw h => ⟨up hw h.key, World.Le.filed hw h.filed⟩⟩

/-- Tables with related entries in the same order. -/
def TableRel : Rel Table Table := fun w t t' => ListRel EntryRel w t.entries t'.entries

instance : Grows TableRel := ⟨fun hw h => up (A := ListRel EntryRel) hw h⟩

section

variable {α β κ κ' ν ν' μ μ' : Type} {w : World}

/-! ### Options -/

namespace OptionRel

variable {A : Rel α β} {o p : Option α} {o' p' : Option β}

theorem isSome (h : OptionRel A w o o') : o.isSome = o'.isSome := by cases h <;> rfl

theorem isNone (h : OptionRel A w o o') : o.isNone = o'.isNone := by cases h <;> rfl

theorem or (h : OptionRel A w o o') (k : OptionRel A w p p') :
    OptionRel A w (o.or p) (o'.or p') := by
  cases h with
  | none => exact k
  | some h => exact .some h

theorem getD (h : OptionRel A w o o') {d : α} {d' : β} (hd : A w d d') :
    A w (o.getD d) (o'.getD d') := by
  cases h with
  | none => exact hd
  | some h => exact h

theorem map {B : Rel μ μ'} {f : α → μ} {g : β → μ'} (h : OptionRel A w o o')
    (hf : ∀ {a b}, A w a b → B w (f a) (g b)) : OptionRel B w (o.map f) (o'.map g) := by
  cases h with
  | none => exact .none
  | some h => exact .some (hf h)

theorem bind {B : Rel μ μ'} {f : α → Option μ} {g : β → Option μ'} (h : OptionRel A w o o')
    (hf : ∀ {a b}, A w a b → OptionRel B w (f a) (g b)) :
    OptionRel B w (o.bind f) (o'.bind g) := by
  cases h with
  | none => exact .none
  | some h => exact hf h

theorem any {p : α → Bool} {q : β → Bool} (h : OptionRel A w o o')
    (hp : ∀ {a b}, A w a b → p a = q b) : o.any p = o'.any q := by
  cases h with
  | none => rfl
  | some h => exact hp h

theorem filter {p : α → Bool} {q : β → Bool} (h : OptionRel A w o o')
    (hp : ∀ {a b}, A w a b → p a = q b) : OptionRel A w (o.filter p) (o'.filter q) := by
  cases h with
  | none => exact .none
  | some h =>
    simp only [Option.filter_some, hp h]
    split
    · exact .some h
    · exact .none

theorem join {o : Option (Option α)} {o' : Option (Option β)}
    (h : OptionRel (OptionRel A) w o o') : OptionRel A w o.join o'.join := by
  cases h with
  | none => exact .none
  | some h => exact h

theorem of_eq {o o' : Option α} (h : o = o') : OptionRel Same w o o' := by
  subst h
  cases o with
  | none => exact .none
  | some _ => exact .some rfl

theorem eq {o o' : Option α} (h : OptionRel Same w o o') : o = o' := by
  cases h with
  | none => rfl
  | some h => exact congrArg Option.some h

theorem some_left {a : α} (h : OptionRel A w (Option.some a) o') :
    ∃ b, o' = Option.some b ∧ A w a b := by
  cases h with
  | some h => exact ⟨_, rfl, h⟩

/-- Related options are both empty or have related values. -/
theorem cases (h : OptionRel A w o o') :
    (o = .none ∧ o' = .none) ∨ ∃ a b, o = .some a ∧ o' = .some b ∧ A w a b := by
  cases h with
  | none => exact .inl ⟨rfl, rfl⟩
  | some h => exact .inr ⟨_, _, rfl, rfl, h⟩

end OptionRel

/-! ### Lists -/

namespace ListRel

variable {A : Rel α β} {as cs : List α} {bs ds : List β}

theorem length (h : ListRel A w as bs) : as.length = bs.length := h.length_eq

theorem isEmpty (h : ListRel A w as bs) : as.isEmpty = bs.isEmpty := by cases h <;> rfl

theorem append (h : ListRel A w as bs) (h' : ListRel A w cs ds) :
    ListRel A w (as ++ cs) (bs ++ ds) := List.rel_append h h'

theorem reverse (h : ListRel A w as bs) : ListRel A w as.reverse bs.reverse := List.rel_reverse h

theorem head? (h : ListRel A w as bs) : OptionRel A w as.head? bs.head? := by
  cases h with
  | nil => exact .none
  | cons h _ => exact .some h

theorem getLast? (h : ListRel A w as bs) : OptionRel A w as.getLast? bs.getLast? := by
  rw [← List.head?_reverse, ← List.head?_reverse]
  exact h.reverse.head?

theorem get? (h : ListRel A w as bs) (n : Nat) : OptionRel A w as[n]? bs[n]? := by
  induction h generalizing n with
  | nil => exact .none
  | cons h _ ih =>
    cases n with
    | zero => exact .some h
    | succ n => simpa using ih n

theorem take (h : ListRel A w as bs) (n : Nat) : ListRel A w (as.take n) (bs.take n) :=
  List.forall₂_take n h

theorem drop (h : ListRel A w as bs) (n : Nat) : ListRel A w (as.drop n) (bs.drop n) :=
  List.forall₂_drop n h

theorem map {B : Rel μ μ'} {f : α → μ} {g : β → μ'} (h : ListRel A w as bs)
    (hf : ∀ {a b}, A w a b → B w (f a) (g b)) : ListRel B w (as.map f) (bs.map g) := by
  induction h with
  | nil => exact .nil
  | cons h _ ih => exact .cons (hf h) ih

/-- Equal functions of related items make equal lists. -/
theorem map_eq {f : α → μ} {g : β → μ} (h : ListRel A w as bs)
    (hf : ∀ {a b}, A w a b → f a = g b) : as.map f = bs.map g := by
  induction h with
  | nil => rfl
  | cons h _ ih => exact congrArg₂ List.cons (hf h) ih

theorem filter {p : α → Bool} {q : β → Bool} (h : ListRel A w as bs)
    (hp : ∀ {a b}, A w a b → p a = q b) : ListRel A w (as.filter p) (bs.filter q) := by
  induction h with
  | nil => exact .nil
  | cons h _ ih =>
    simp only [List.filter_cons, hp h]
    split
    · exact .cons h ih
    · exact ih

theorem find? {p : α → Bool} {q : β → Bool} (h : ListRel A w as bs)
    (hp : ∀ {a b}, A w a b → p a = q b) : OptionRel A w (as.find? p) (bs.find? q) := by
  rw [← List.head?_filter, ← List.head?_filter]
  exact (h.filter hp).head?

theorem filterMap {B : Rel μ μ'} {f : α → Option μ} {g : β → Option μ'} (h : ListRel A w as bs)
    (hf : ∀ {a b}, A w a b → OptionRel B w (f a) (g b)) :
    ListRel B w (as.filterMap f) (bs.filterMap g) := by
  induction h with
  | nil => exact .nil
  | cons h _ ih =>
    obtain ⟨e, e'⟩ | ⟨_, _, e, e', h⟩ := (hf h).cases
    · rwa [List.filterMap_cons_none e, List.filterMap_cons_none e']
    · rw [List.filterMap_cons_some e, List.filterMap_cons_some e']
      exact .cons h ih

theorem foldl {B : Rel μ μ'} {f : μ → α → μ} {g : μ' → β → μ'} {m : μ} {m' : μ'}
    (h : ListRel A w as bs) (hm : B w m m')
    (hf : ∀ {m m' a b}, B w m m' → A w a b → B w (f m a) (g m' b)) :
    B w (as.foldl f m) (bs.foldl g m') := by
  induction h generalizing m m' with
  | nil => exact hm
  | cons h _ ih => exact ih (hf hm h)

theorem any {p : α → Bool} {q : β → Bool} (h : ListRel A w as bs)
    (hp : ∀ {a b}, A w a b → p a = q b) : as.any p = bs.any q := by
  induction h with
  | nil => rfl
  | cons h _ ih => simp [hp h, ih]

theorem all {p : α → Bool} {q : β → Bool} (h : ListRel A w as bs)
    (hp : ∀ {a b}, A w a b → p a = q b) : as.all p = bs.all q := by
  induction h with
  | nil => rfl
  | cons h _ ih => simp [hp h, ih]

theorem same_iff {as bs : List α} : ListRel Same w as bs ↔ as = bs := by
  simp [ListRel, Same]

theorem replicate {a : α} {b : β} (h : A w a b) (n : Nat) :
    ListRel A w (List.replicate n a) (List.replicate n b) := by
  induction n with
  | zero => exact .nil
  | succ n ih => exact .cons h ih

theorem flatten {as : List (List α)} {bs : List (List β)} (h : ListRel (ListRel A) w as bs) :
    ListRel A w as.flatten bs.flatten := by
  induction h with
  | nil => exact .nil
  | cons h _ ih => exact h.append ih

theorem findSome? {B : Rel μ μ'} {f : α → Option μ} {g : β → Option μ'}
    (h : ListRel A w as bs) (hf : ∀ {a b}, A w a b → OptionRel B w (f a) (g b)) :
    OptionRel B w (as.findSome? f) (bs.findSome? g) := by
  induction h with
  | nil => exact .none
  | cons h _ ih =>
    simp only [List.findSome?_cons]
    obtain ⟨e, e'⟩ | ⟨_, _, e, e', h⟩ := (hf h).cases
    · simpa only [e, e'] using ih
    · simpa only [e, e'] using .some h

theorem set (h : ListRel A w as bs) {a : α} {b : β} (hab : A w a b) (n : Nat) :
    ListRel A w (as.set n a) (bs.set n b) := by
  induction h generalizing n with
  | nil => exact .nil
  | cons h t ih =>
    cases n with
    | zero => exact .cons hab t
    | succ n => exact .cons h (ih n)

theorem eraseIdx (h : ListRel A w as bs) (n : Nat) :
    ListRel A w (as.eraseIdx n) (bs.eraseIdx n) := by
  induction h generalizing n with
  | nil => exact .nil
  | cons h t ih =>
    cases n with
    | zero => exact t
    | succ n => exact .cons h (ih n)

theorem insertIdx (h : ListRel A w as bs) {a : α} {b : β} (hab : A w a b) (n : Nat) :
    ListRel A w (as.insertIdx n a) (bs.insertIdx n b) := by
  induction h generalizing n with
  | nil =>
    cases n with
    | zero => exact .cons hab .nil
    | succ n => exact .nil
  | cons h t ih =>
    cases n with
    | zero => exact .cons hab (.cons h t)
    | succ n => exact .cons h (ih n)

theorem tail (h : ListRel A w as bs) : ListRel A w as.tail bs.tail := by
  cases h with
  | nil => exact .nil
  | cons _ t => exact t

theorem contains [DecidableEq α] [DecidableEq β] [Decides A] (h : ListRel A w as bs) {a : α}
    {b : β} (hab : A w a b) : as.contains a = bs.contains b := by
  induction h with
  | nil => rfl
  | cons h _ ih =>
    simp only [List.contains_cons, ih]
    congr 1
    exact decide_eq_decide.2 (Decides.eq_iff hab h)

theorem idxOf? [DecidableEq α] [DecidableEq β] [Decides A] (h : ListRel A w as bs) {a : α}
    {b : β} (hab : A w a b) : as.idxOf? a = bs.idxOf? b := by
  induction h with
  | nil => rfl
  | cons h _ ih =>
    simp only [List.idxOf?_cons, ih]
    congr 1
    exact congrArg (· = true) (decide_eq_decide.2 (Decides.eq_iff h hab))

end ListRel

/-! ### Maps -/

namespace OrderedRel

variable {K : Rel κ κ'} {V : Rel ν ν'} {m : Ordered κ ν} {m' : Ordered κ' ν'}

theorem entries (h : OrderedRel K V w m m') : ListRel (PairRel K V) w m.entries m'.entries := h

theorem size (h : OrderedRel K V w m m') : m.size = m'.size := h.entries.length

theorem isEmpty (h : OrderedRel K V w m m') : m.isEmpty = m'.isEmpty := h.entries.isEmpty

theorem keys (h : OrderedRel K V w m m') : ListRel K w m.keys m'.keys :=
  h.entries.map fun h => h.fst

theorem values (h : OrderedRel K V w m m') : ListRel V w m.values m'.values :=
  h.entries.map fun h => h.snd

theorem empty : OrderedRel K V w Ordered.empty Ordered.empty := .nil

theorem filter {p : κ → Bool} {q : κ' → Bool} (h : OrderedRel K V w m m')
    (hp : ∀ {k k'}, K w k k' → p k = q k') : OrderedRel K V w (m.filter p) (m'.filter q) :=
  h.entries.filter fun h => hp h.fst

theorem mapValues {B : Rel μ μ'} {f : ν → μ} {g : ν' → μ'} (h : OrderedRel K V w m m')
    (hf : ∀ {v v'}, V w v v' → B w (f v) (g v')) :
    OrderedRel K B w (m.mapValues f) (m'.mapValues g) :=
  ListRel.map h.entries fun h => ⟨h.fst, hf h.snd⟩

variable [DecidableEq κ] [DecidableEq κ'] [Decides K] {k : κ} {k' : κ'}

section

variable {E : Rel (κ × ν) (κ' × ν')} {es : List (κ × ν)} {es' : List (κ' × ν')}
  (key : ∀ {e e'}, E w e e' → K w e.1 e'.1)
include key

theorem find? (h : ListRel E w es es') (hk : K w k k') :
    OptionRel (fun w v v' => E w (k, v) (k', v')) w (Ordered.find? k es)
      (Ordered.find? k' es') := by
  induction h with
  | nil => exact .none
  | @cons e e' _ _ h _ ih =>
    have both := Decides.eq_iff (key h) hk
    simp only [Ordered.find?, both]
    split
    · next eq' =>
      obtain rfl := both.2 eq'
      obtain rfl := eq'
      exact .some h
    · exact ih

theorem setIn {v : ν} {v' : ν'} (h : ListRel E w es es') (hk : K w k k')
    (he : E w (k, v) (k', v')) :
    ListRel E w (Ordered.setIn k v es) (Ordered.setIn k' v' es') := by
  induction h with
  | nil => exact .cons he .nil
  | cons h t ih =>
    simp only [Ordered.setIn, Decides.eq_iff (key h) hk]
    split
    · exact .cons he t
    · exact .cons h ih

theorem eraseFrom (h : ListRel E w es es') (hk : K w k k') :
    ListRel E w (Ordered.eraseFrom k es) (Ordered.eraseFrom k' es') := by
  induction h with
  | nil => exact .nil
  | cons h t ih =>
    simp only [Ordered.eraseFrom, Decides.eq_iff (key h) hk]
    split
    · exact t
    · exact .cons h ih

end

theorem get? (h : OrderedRel K V w m m') (hk : K w k k') :
    OptionRel V w (m.get? k) (m'.get? k') := by
  have found := (find? (fun h => h.fst) h.entries hk).map fun h => h.snd
  rwa [Option.map_id', Option.map_id'] at found

theorem contains (h : OrderedRel K V w m m') (hk : K w k k') : m.contains k = m'.contains k' :=
  (h.get? hk).isSome

theorem set {v : ν} {v' : ν'} (h : OrderedRel K V w m m') (hk : K w k k') (hv : V w v v') :
    OrderedRel K V w (m.set k v) (m'.set k' v') := setIn (fun h => h.fst) h hk ⟨hk, hv⟩

theorem erase (h : OrderedRel K V w m m') (hk : K w k k') :
    OrderedRel K V w (m.erase k) (m'.erase k') := eraseFrom (fun h => h.fst) h hk

theorem ofList {es : List (κ × ν)} {es' : List (κ' × ν')}
    (h : ListRel (PairRel K V) w es es') :
    OrderedRel K V w (Ordered.ofList es) (Ordered.ofList es') :=
  h.foldl (B := OrderedRel K V) empty fun hm he => hm.set he.fst he.snd

end OrderedRel

/-! ### Tables -/

namespace TableRel

variable {s s' t t' : Table} {k k' : Key} {x x' y y' : Value}

theorem entries (h : TableRel w t t') : ListRel EntryRel w t.entries t'.entries := h

/-- What is related about tables as maps. -/
theorem ordered (h : TableRel w t t') : OrderedRel KeyRel (PairRel ValueRel ValueRel) w t t' :=
  h.imp fun _ _ h => ⟨h.key, h.pair⟩

theorem size (h : TableRel w t t') : t.size = t'.size := h.ordered.size

theorem isEmpty (h : TableRel w t t') : t.isEmpty = t'.isEmpty := h.ordered.isEmpty

theorem contains (h : TableRel w t t') (hk : KeyRel w k k') : t.contains k = t'.contains k' :=
  h.ordered.contains hk

theorem value? (h : TableRel w t t') (hk : KeyRel w k k') :
    OptionRel ValueRel w (t.value? k) (t'.value? k') :=
  (h.ordered.get? hk).map fun h => h.snd

theorem pairs (h : TableRel w t t') : ListRel (PairRel ValueRel ValueRel) w t.pairs t'.pairs :=
  h.ordered.values

theorem members (h : TableRel w t t') : ValuesRel w t.members t'.members :=
  h.ordered.values.map fun h => h.fst

theorem empty : TableRel w Ordered.empty Ordered.empty := .nil

theorem erase (h : TableRel w t t') (hk : KeyRel w k k') :
    TableRel w (t.erase k) (t'.erase k') := OrderedRel.eraseFrom (fun h => h.key) h hk

theorem insert (h : TableRel w t t') (hk : FiledRel x w k k') (hx : ValueRel w x x')
    (hy : ValueRel w y y') : TableRel w (t.insert k x y) (t'.insert k' x' y') := by
  have set {first first' : Value} (he : ValueRel w first first') (filed : w.filed k first) :
      TableRel w (t.set k (first, y)) (t'.set k' (first', y')) :=
    OrderedRel.setIn (fun h => h.key) h hk.key ⟨hk.key, ⟨he, hy⟩, filed⟩
  unfold Table.insert Ordered.get?
  obtain ⟨e, e'⟩ | ⟨⟨a, b⟩, ⟨a', b'⟩, e, e', he⟩ :=
    (OrderedRel.find? (E := EntryRel) (fun h => h.key) h hk.key).cases
  · simp only [e, e']
    exact set hx hk.filed
  · simp only [e, e']
    exact set he.pair.fst he.filed

theorem add (h : TableRel w t t') (hk : FiledRel x w k k') (hx : ValueRel w x x') :
    TableRel w (t.add k x) (t'.add k' x') := by
  unfold Table.add
  rw [h.contains hk.key]
  split
  · exact h
  · exact OrderedRel.setIn (fun h => h.key) h hk.key ⟨hk.key, ⟨hx, .none⟩, hk.filed⟩

theorem filtered {p q : Key → Bool} (h : TableRel w t t')
    (hp : ∀ {k k'}, KeyRel w k k' → p k = q k') : TableRel w (t.filtered p) (t'.filtered q) :=
  ListRel.map (h.entries.filter fun h => hp h.key) fun h => ⟨h.key, ⟨h.pair.fst, .none⟩, h.filed⟩

theorem union (h : TableRel w s s') (k : TableRel w t t') :
    TableRel w (s.union t) (s'.union t') :=
  k.entries.foldl (B := TableRel) (filtered h fun _ => rfl)
    fun hm he => add hm ⟨he.key, he.filed⟩ he.pair.fst

theorem intersection (h : TableRel w s s') (k : TableRel w t t') :
    TableRel w (s.intersection t) (s'.intersection t') :=
  filtered h fun hk => k.contains hk

theorem difference (h : TableRel w s s') (k : TableRel w t t') :
    TableRel w (s.difference t) (s'.difference t') :=
  filtered h fun hk => congrArg _ (k.contains hk)

theorem symmetricDifference (h : TableRel w s s') (k : TableRel w t t') :
    TableRel w (s.symmetricDifference t) (s'.symmetricDifference t') :=
  union (difference h k) (difference k h)

theorem isSubset (h : TableRel w s s') (k : TableRel w t t') :
    s.isSubset t = s'.isSubset t' :=
  h.ordered.keys.all fun hk => k.contains hk

end TableRel

instance {K : Rel κ κ'} {V : Rel ν ν'} [Grows K] [Grows V] : Grows (OrderedRel K V) :=
  ⟨fun hw h => up (A := ListRel (PairRel K V)) hw h⟩

end

end Stepwise
