import Stepwise.Proofs.Heap
import Stepwise.Proofs.Relation.Coupling

/-!
# Heaps with more objects

Two heaps that hold related objects, where the second one may hold objects besides (`Grown`). New
objects on both sides are put together in a larger world (`World.meet`); a new object on the right
alone is left out of it. Names are found alike although the heaps differ in size, since scopes only
refer to older ones (`Grown.parents`).

Two runs start from such heaps: they hold the scope of the module and the built-in exception classes,
made one after the other (`exceptionClasses_rel`).
-/

namespace Stepwise

open Script

/-! ### Worlds that grow -/

namespace World

/-- The world in which two more addresses belong together; of which sort they are is given. -/
def meet (w : World) (object kept : Prop) (a a' : Address) (left : ∀ b, ¬w.place a b)
    (right : ∀ b, ¬w.place b a') : World where
  place b b' := w.place b b' ∨ b = a ∧ b' = a'
  object b := w.object b ∨ b = a ∧ object
  kept b := w.kept b ∨ b = a ∧ kept
  mark := w.mark
  filed := w.filed
  phrase := w.phrase
  located := w.located
  place_right := by
    rintro b c c' (h | ⟨rfl, rfl⟩) (h' | ⟨e, rfl⟩)
    · exact w.place_right h h'
    · exact absurd (e ▸ h) (left _)
    · exact absurd h' (left _)
    · rfl
  place_left := by
    rintro b b' c (h | ⟨rfl, rfl⟩) (h' | ⟨rfl, e⟩)
    · exact w.place_left h h'
    · exact absurd (e ▸ h) (right _)
    · exact absurd h' (right _)
    · rfl
  mark_right := w.mark_right
  mark_left := w.mark_left

/-- The world in which two more tuple marks belong together. -/
def meetMarks (w : World) (k k' : Nat) (left : ∀ j, ¬w.mark k j) (right : ∀ j, ¬w.mark j k') :
    World where
  place := w.place
  object := w.object
  kept := w.kept
  mark j j' := w.mark j j' ∨ j = k ∧ j' = k'
  filed := w.filed
  phrase := w.phrase
  located := w.located
  place_right := w.place_right
  place_left := w.place_left
  mark_right := by
    rintro b c c' (h | ⟨rfl, rfl⟩) (h' | ⟨e, rfl⟩)
    · exact w.mark_right h h'
    · exact absurd (e ▸ h) (left _)
    · exact absurd h' (left _)
    · rfl
  mark_left := by
    rintro b b' c (h | ⟨rfl, rfl⟩) (h' | ⟨rfl, e⟩)
    · exact w.mark_left h h'
    · exact absurd (e ▸ h) (right _)
    · exact absurd h' (right _)
    · rfl

variable {w : World} {object kept : Prop} {a a' : Address} {k k' : Nat}

theorem le_meet {left : ∀ b, ¬w.place a b} {right : ∀ b, ¬w.place b a'} :
    w ≤ w.meet object kept a a' left right := ⟨.inl, .inl, .inl, id, id, rfl, rfl⟩

theorem le_meetMarks {left : ∀ j, ¬w.mark k j} {right : ∀ j, ¬w.mark j k'} :
    w ≤ w.meetMarks k k' left right := ⟨id, id, id, .inl, id, rfl, rfl⟩

end World

/-! ### Heaps that hold more -/

/-- A heap that holds what another one holds, and perhaps more, but no more classes. -/
structure Grown (w : World) (h h' : Heap) : Prop where
  get : ∀ {a a'}, w.place a a' → OptionRel ObjectRel w (h.get? a) (h'.get? a')
  used : ∀ {a a'}, w.place a a' → a < h.next ∧ a' < h'.next
  marks : ∀ {k k'}, w.mark k k' → k < h.marks ∧ k' < h'.marks
  size : h.size ≤ h'.size
  parents : ∀ {a s b}, h.scope? a = some s → s.parent = some b → b < a
  classes : ∀ {a' c'}, h'.class? a' = some c' → ∃ a, w.place a a'

namespace Grown

variable {w : World} {h h' : Heap} {a a' b b' : Address} {o o' : Object}

/-! ### Names -/

theorem scope? (H : Grown w h h') (ha : w.place a a') :
    OptionRel ScopeRel w (h.scope? a) (h'.scope? a') := by
  unfold Heap.scope?
  obtain ⟨e, e'⟩ | ⟨o, o', e, e', ho⟩ := (H.get ha).cases <;> simp only [e, e']
  · exact .none
  · cases ho with
    | scope hs => exact .some hs
    | _ => exact .none

end Grown

namespace Heap

variable {α : Type}

/-- The first answer among a scope and those behind it, at most `fuel` of them. -/
def searchScopes (h : Heap) (visit : Address → Scope → Option α) :
    (fuel : Nat) → Option Address → Option α
  | 0, _ | _, none => none
  | fuel + 1, some a =>
    match h.scope? a with
    | none => none
    | some s => (visit a s).or (searchScopes h visit fuel s.parent)

theorem lookup?_eq_search (h : Heap) (name : String) : ∀ fuel s,
    h.lookup? name fuel s = h.searchScopes (fun _ s => s.vars.get? name) fuel s
  | 0, _ => rfl
  | _ + 1, none => rfl
  | fuel + 1, some a => by
    rw [lookup?, searchScopes]
    cases h.scope? a with
    | none => rfl
    | some s =>
      dsimp only
      rw [lookup?_eq_search h name fuel s.parent]

theorem binder?_eq_search (h : Heap) (name : String) : ∀ fuel s,
    h.binder? name fuel s =
      h.searchScopes (fun a s => if s.vars.contains name then some a else none) fuel s
  | 0, _ => rfl
  | _ + 1, none => rfl
  | fuel + 1, some a => by
    rw [binder?, searchScopes]
    cases h.scope? a with
    | none => rfl
    | some s =>
      dsimp only
      rw [binder?_eq_search h name fuel s.parent]
      split <;> rfl

end Heap

namespace Grown

variable {w : World} {h h' : Heap} {α β : Type} {A : Rel α β}

/-- A search through the scopes on both sides: the fuel on the left lasts beyond the oldest scope,
and there is at least as much on the right. -/
theorem searchScopes (H : Grown w h h') {visit : Address → Scope → Option α}
    {visit' : Address → Scope → Option β}
    (hv : ∀ {a a' s s'}, w.place a a' → ScopeRel w s s' →
      OptionRel A w (visit a s) (visit' a' s')) :
    ∀ {n n' : Nat} {o o'}, n ≤ n' → OptionRel PlaceRel w o o' →
      (∀ a : Nat, o = some a → a < Heap.base + n) →
      OptionRel A w (h.searchScopes visit n o) (h'.searchScopes visit' n' o') := by
  intro n
  induction n with
  | zero =>
    intro n' o o' _ ho low
    cases ho with
    | none => cases n' <;> exact .none
    | @some a a' ha =>
      -- there is no object at so low an address, on either side
      have gone : h.scope? a = none := by
        have : a < Heap.base := low a rfl
        simp only [Heap.scope?, Heap.get?, if_pos this]
      obtain ⟨-, gone'⟩ | ⟨s, -, e, -⟩ := (H.scope? ha).cases
      · cases n' with
        | zero => exact .none
        | succ n' =>
          simp only [Heap.searchScopes, gone']
          exact .none
      · rw [gone] at e
        cases e
  | succ n ih =>
    intro n' o o' hn ho low
    obtain ⟨n', rfl⟩ := Nat.exists_eq_add_of_le' (Nat.one_le_of_lt hn)
    cases ho with
    | none => exact .none
    | @some a a' ha =>
      obtain ⟨e, e'⟩ | ⟨s, s', e, e', hs⟩ := (H.scope? ha).cases <;>
        simp only [Heap.searchScopes, e, e']
      · exact .none
      · refine (hv ha hs).or (ih (Nat.le_of_succ_le_succ hn) hs.parent.place fun b hb => ?_)
        exact Nat.lt_of_lt_of_le (H.parents e hb) (Nat.le_of_lt_succ (low a rfl))

theorem low (H : Grown w h h') {o o' : Option Address} (ho : OptionRel PlaceRel w o o') :
    ∀ a : Nat, o = some a → a < Heap.base + h.size := by
  cases ho with
  | none => exact nofun
  | some ha =>
    rintro _ ⟨⟩
    exact (H.used ha).1

/-- Whatever is read off heaps that hold related objects is related. -/
theorem heapRel (H : Grown w h h') : HeapRel w h h' where
  get := H.get
  lookup name s s' ho := by
    rw [Heap.lookup?_eq_search, Heap.lookup?_eq_search]
    have visit {s s' : Scope} (hs : ScopeRel w s s') :
        OptionRel ValueRel w (s.vars.get? name) (s'.vars.get? name) := OrderedRel.get? hs.vars rfl
    exact H.searchScopes (fun _ hs => visit hs) H.size ho (H.low ho)
  binder name s s' ho := by
    rw [Heap.binder?_eq_search, Heap.binder?_eq_search]
    refine H.searchScopes (A := PlaceRel) (fun ha hs => ?_) H.size ho (H.low ho)
    rw [OrderedRel.contains hs.vars rfl]
    split
    · exact .some ha
    · exact .none

/-! ### Making, changing and giving up objects -/

variable {o o' : Object} {a a' : Address}

theorem new_left (H : Grown w h h') : ∀ b, ¬w.place h.next b := fun _ hb =>
  absurd (H.used hb).1 (Nat.lt_irrefl _)

theorem new_right (H : Grown w h h') : ∀ b, ¬w.place b h'.next := fun _ hb =>
  absurd (H.used hb).2 (Nat.lt_irrefl _)

variable {object kept : Prop}

/-- Values may be filed at any time. -/
theorem file (H : Grown w h h') (k : Key) (v : Value) : Grown (w.file k v) h h' :=
  { H with get := fun ha => up World.le_file (H.get ha) }

/-- The world in which the next objects on both sides belong together. -/
def world (H : Grown w h h') (object kept : Prop) : World :=
  w.meet object kept h.next h'.next H.new_left H.new_right

/-- New objects on both sides. -/
theorem alloc (H : Grown w h h') (ho : ObjectRel (H.world object kept) o o')
    (hp : ∀ s b, o = .scope s → s.parent = some b → b < h.next) :
    Grown (H.world object kept) (h.alloc o).2 (h'.alloc o').2 where
  get := by
    rintro b b' (hb | ⟨rfl, rfl⟩)
    · have used := H.used hb
      rw [Heap.get?_alloc, Heap.get?_alloc, if_neg (Nat.ne_of_lt used.1),
        if_neg (Nat.ne_of_lt used.2)]
      exact up World.le_meet (H.get hb)
    · rw [Heap.get?_alloc, Heap.get?_alloc, if_pos rfl, if_pos rfl]
      exact .some ho
  used := by
    rw [Heap.next_alloc, Heap.next_alloc]
    rintro b b' (hb | ⟨rfl, rfl⟩)
    · have used := H.used hb
      exact ⟨Nat.lt_succ_of_lt used.1, Nat.lt_succ_of_lt used.2⟩
    · exact ⟨Nat.lt_succ_self _, Nat.lt_succ_self _⟩
  marks := H.marks
  size := by
    rw [Heap.size_alloc, Heap.size_alloc]
    exact Nat.succ_le_succ H.size
  parents {b s c} hs hc := by
    rw [Heap.scope?_eq_some, Heap.get?_alloc] at hs
    split at hs
    · next e =>
      subst e
      exact hp s c (Option.some.inj hs) hc
    · exact H.parents (Heap.scope?_eq_some.2 hs) hc
  classes {b' c'} hc := by
    rw [Heap.class?_eq_some, Heap.get?_alloc] at hc
    split at hc
    · next e => exact ⟨h.next, .inr ⟨rfl, e⟩⟩
    · obtain ⟨b, hb⟩ := H.classes (Heap.class?_eq_some.2 hc)
      exact ⟨b, .inl hb⟩

/-- New objects that were related before there were any. -/
theorem allocRel (H : Grown w h h') (ho : ObjectRel w o o') :
    Grown (H.world object kept) (h.alloc o).2 (h'.alloc o').2 :=
  H.alloc (up World.le_meet ho) fun s b hs hb => by
    subst hs
    cases ho with
    | scope hs =>
      obtain ⟨e, -⟩ | ⟨_, _, e, -, h⟩ := hs.parent.cases
      · rw [e] at hb
        cases hb
      · obtain rfl := Option.some.inj (e.symm.trans hb)
        exact (H.used h.place).1

/-- Orders of lookup, merged. -/
theorem merge_rel {as as' bs bs' : List Address} (ha : ListRel AddrRel w as as')
    (hb : ListRel AddrRel w bs bs') :
    ListRel AddrRel w (Heap.merge as bs) (Heap.merge as' bs') := by
  refine ListRel.foldl (B := ListRel AddrRel) hb ha fun hs h => ?_
  rw [hs.contains h]
  split
  · exact hs
  · exact hs.append (.cons h .nil)

/-- New classes on both sides. -/
theorem allocClass (H : Grown w h h') (name : String) (builtin : Bool)
    {bases bases' : List Address} (hb : ListRel AddrRel w bases bases') :
    Grown (H.world True kept) (h.allocClass name bases builtin).2
      (h'.allocClass name bases' builtin).2 := by
  have new : (H.world True kept).addr h.next h'.next := ⟨.inr ⟨rfl, rfl⟩, .inr ⟨rfl, trivial⟩⟩
  have mro : ListRel AddrRel (H.world True kept) (h.linearize h.next bases)
      (h'.linearize h'.next bases') := by
    -- the bases are related already in the world before
    refine ListRel.foldl (A := fun _ => w.addr) (B := ListRel AddrRel) hb (.cons new .nil)
      fun hs h => ?_
    obtain ⟨e, e'⟩ | ⟨k, k', e, e', hk⟩ := (H.heapRel.class? h).cases <;> simp only [e, e']
    · exact hs
    · exact merge_rel hs (up (A := ListRel AddrRel) World.le_meet hk.mro)
  have class_ : ClassRel (H.world True kept) ⟨name, bases, _, .empty, builtin⟩
      ⟨name, bases', _, .empty, builtin⟩ :=
    ⟨rfl, up (A := ListRel AddrRel) World.le_meet hb, mro, OrderedRel.empty, rfl⟩
  exact H.alloc (.cls class_) nofun

/-- A new object on the right alone. -/
theorem allocRight (H : Grown w h h') (ho : ∀ c, o' ≠ .cls c) : Grown w h (h'.alloc o').2 where
  get {b b'} hb := by
    rw [Heap.get?_alloc, if_neg (Nat.ne_of_lt (H.used hb).2)]
    exact H.get hb
  used {b b'} hb := by
    rw [Heap.next_alloc]
    exact ⟨(H.used hb).1, Nat.lt_succ_of_lt (H.used hb).2⟩
  marks := H.marks
  size := by
    rw [Heap.size_alloc]
    exact Nat.le_succ_of_le H.size
  parents := H.parents
  classes {b' c'} hc := by
    rw [Heap.class?_eq_some, Heap.get?_alloc] at hc
    split at hc
    · exact absurd (Option.some.inj hc) (ho c')
    · exact H.classes (Heap.class?_eq_some.2 hc)

/-- A new tuple on the right alone. -/
theorem tupleRight (H : Grown w h h') (items : List Value) : Grown w h (h'.tuple items).2 where
  get := H.get
  used := H.used
  marks hk := ⟨(H.marks hk).1, Nat.lt_succ_of_lt (H.marks hk).2⟩
  size := H.size
  parents := H.parents
  classes := H.classes

theorem newMark_left (H : Grown w h h') : ∀ j, ¬w.mark h.marks j := fun _ hj =>
  absurd (H.marks hj).1 (Nat.lt_irrefl _)

theorem newMark_right (H : Grown w h h') : ∀ j, ¬w.mark j h'.marks := fun _ hj =>
  absurd (H.marks hj).2 (Nat.lt_irrefl _)

/-- The world in which the next tuples on both sides belong together. -/
def worldMarks (H : Grown w h h') : World :=
  w.meetMarks h.marks h'.marks H.newMark_left H.newMark_right

/-- New tuples on both sides. -/
theorem tuple (H : Grown w h h') (items items' : List Value) :
    Grown H.worldMarks (h.tuple items).2 (h'.tuple items').2 where
  get hb := up World.le_meetMarks (H.get hb)
  used := H.used
  marks := by
    rintro k k' (hk | ⟨rfl, rfl⟩)
    · exact ⟨Nat.lt_succ_of_lt (H.marks hk).1, Nat.lt_succ_of_lt (H.marks hk).2⟩
    · exact ⟨Nat.lt_succ_self _, Nat.lt_succ_self _⟩
  size := H.size
  parents := H.parents
  classes := H.classes

/-- An object that becomes a scope was one with the same scope behind it. -/
theorem parent_of_like {o : Object} {s : Scope} (hl : Like o (.scope s)) :
    ∃ s', o = .scope s' ∧ s'.parent = s.parent := by
  cases hl with
  | refl => exact ⟨s, rfl, rfl⟩
  | scope parent => exact ⟨_, rfl, parent⟩

/-- An object that becomes a class was one. -/
theorem class_of_like {o : Object} {c : Class} (hl : Like o (.cls c)) : ∃ c', o = .cls c' := by
  cases hl with
  | refl => exact ⟨c, rfl⟩
  | cls => exact ⟨_, rfl⟩

/-- Changes of related objects. -/
theorem modify (H : Grown w h h') (ha : w.place a a') {f f' : Object → Object} (he : Edit w f f') :
    Grown w (h.modify a f) (h'.modify a' f') where
  get {b b'} hb := by
    rw [Heap.get?_modify, Heap.get?_modify]
    simp only [World.place_eq_iff ha hb]
    split
    · exact (H.get hb).map he.rel
    · exact H.get hb
  used hb := by
    rw [Heap.next_modify, Heap.next_modify]
    exact H.used hb
  marks hk := by
    rw [Heap.marks_modify, Heap.marks_modify]
    exact H.marks hk
  size := by
    rw [Heap.size_modify, Heap.size_modify]
    exact H.size
  parents {b s c} hs hc := by
    rw [Heap.scope?_eq_some, Heap.get?_modify] at hs
    split at hs
    · obtain ⟨o, ho, e⟩ := Option.map_eq_some_iff.1 hs
      obtain ⟨s', rfl, hp⟩ := parent_of_like (e ▸ he.left o)
      exact H.parents (Heap.scope?_eq_some.2 ho) (hp.trans hc)
    · exact H.parents (Heap.scope?_eq_some.2 hs) hc
  classes {b' c'} hc := by
    rw [Heap.class?_eq_some, Heap.get?_modify] at hc
    split at hc
    · obtain ⟨o, ho, e⟩ := Option.map_eq_some_iff.1 hc
      obtain ⟨c, rfl⟩ := class_of_like (e ▸ he.right o)
      exact H.classes (Heap.class?_eq_some.2 ho)
    · exact H.classes (Heap.class?_eq_some.2 hc)

/-- Related objects that are given up. -/
theorem free (H : Grown w h h') (ha : w.place a a') : Grown w (h.free a) (h'.free a') where
  get {b b'} hb := by
    rw [Heap.get?_free, Heap.get?_free]
    simp only [World.place_eq_iff ha hb]
    split
    · exact .none
    · exact H.get hb
  used hb := by
    rw [Heap.next_free, Heap.next_free]
    exact H.used hb
  marks hk := by
    rw [Heap.marks_free, Heap.marks_free]
    exact H.marks hk
  size := by
    rw [Heap.size_free, Heap.size_free]
    exact H.size
  parents {b s c} hs hc := by
    rw [Heap.scope?_eq_some, Heap.get?_free] at hs
    split at hs
    · cases hs
    · exact H.parents (Heap.scope?_eq_some.2 hs) hc
  classes {b' c'} hc := by
    rw [Heap.class?_eq_some, Heap.get?_free] at hc
    split at hc
    · cases hc
    · exact H.classes (Heap.class?_eq_some.2 hc)

end Grown

/-! ### Machines at their start -/

/-- The world in which nothing belongs together yet; of which sorts places are may be known. -/
def World.nothing (object kept : Prop) : World where
  place _ _ := False
  object _ := object
  kept _ := kept
  mark _ _ := False
  filed _ _ := False
  phrase _ := True
  place_right := False.elim
  place_left := False.elim
  mark_right := False.elim
  mark_left := False.elim

theorem grown_empty {object kept : Prop} :
    Grown (World.nothing object kept) Heap.empty Heap.empty where
  get := False.elim
  used := False.elim
  marks := False.elim
  size := Nat.le_refl _
  parents {a s b} hs := by simp [Heap.scope?, Heap.get?, Heap.empty] at hs
  classes {a c} hc := by simp [Heap.class?, Heap.get?, Heap.empty] at hc

section

variable {P : World → Heap → Heap → Prop}

/-- Exception classes made on both sides keep related what new classes keep related. -/
theorem addExceptions_rel (class_ : ∀ {w h h'} name {bases bases'}, P w h h' →
      ListRel AddrRel w bases bases' → ∃ w', w ≤ w' ∧ w'.addr h.next h'.next ∧
        P w' (h.allocClass name bases true).2 (h'.allocClass name bases' true).2) :
    ∀ (es : List (String × Option String)) (s s' : List (String × Address) × Heap) {w : World},
      P w s.2 s'.2 → ListRel (PairRel Same AddrRel) w s.1 s'.1 →
      ∃ w', w ≤ w' ∧ P w' (es.foldl addException s).2 (es.foldl addException s').2 ∧
        ListRel (PairRel Same AddrRel) w' (es.foldl addException s).1 (es.foldl addException s').1
  | [], _, _, w, H, hs => ⟨w, le_rfl, H, hs⟩
  | (name, parent) :: es, s, s', w, H, hs => by
    have found : OptionRel AddrRel w (parent.bind fun p => s.1.lookup p)
        (parent.bind fun p => s'.1.lookup p) := by
      cases parent with
      | none => exact .none
      | some p => exact hs.lookup p
    have bases : ListRel AddrRel w (((parent.bind fun p => s.1.lookup p).map ([·])).getD [])
        (((parent.bind fun p => s'.1.lookup p).map ([·])).getD []) :=
      OptionRel.getD (A := ListRel AddrRel) (found.map fun ha => .cons ha .nil) .nil
    obtain ⟨w₁, h₁, new, H₁⟩ := class_ name H bases
    have known : ListRel (PairRel Same AddrRel) w₁ (s.1 ++ [(name, s.2.next)])
        (s'.1 ++ [(name, s'.2.next)]) :=
      (up h₁ hs).append (.cons ⟨rfl, new⟩ .nil)
    obtain ⟨w', hw, H', hs'⟩ := addExceptions_rel class_ es (addException s (name, parent))
      (addException s' (name, parent)) H₁ known
    exact ⟨w', h₁.trans hw, H', hs'⟩

theorem exceptionClasses_rel (class_ : ∀ {w h h'} name {bases bases'}, P w h h' →
      ListRel AddrRel w bases bases' → ∃ w', w ≤ w' ∧ w'.addr h.next h'.next ∧
        P w' (h.allocClass name bases true).2 (h'.allocClass name bases' true).2)
    {w : World} {h h' : Heap} (H : P w h h') :
    ∃ w', w ≤ w' ∧ P w' (exceptionClasses h).2 (exceptionClasses h').2 ∧
      ListRel (PairRel Same AddrRel) w' (exceptionClasses h).1 (exceptionClasses h').1 :=
  addExceptions_rel class_ exceptionHierarchy ([], h) ([], h') H .nil

end

end Stepwise
