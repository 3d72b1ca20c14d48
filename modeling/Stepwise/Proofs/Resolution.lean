import Stepwise.Proofs.Descent

/-!
# Orders of lookup

In which order the classes that a class derives from are searched: depth first and from left to
right along the bases, each where one comes by it first (`Layered.depthFirst`). A lookup gives what
the first class in that order has, and a lookup behind a class what the first one after it has, so
calls that go on by `super` come by each class at most once (`Layered.supers`).

## The model

An order of lookup is put together from the finished ones of the bases, which have lost what came
twice; the way along the bases (`DepthFirst`) repeats a class as often as there are ways to it. All
that is said here holds of any heap on which each class is younger than its bases (`Layered`), so of
all heaps that come of making classes (`Built`) and of those that a run comes through.
-/

namespace Stepwise

variable {σ : Type}

namespace Heap

variable {h : Heap} {a b d e : Address} {as bs ds front back : List Address} {c : Class}
  {name : String} {v : Value}

/-! ### Along the bases -/

/-- What one comes by on the way from some classes to their bases, and on from each of these, before
going on with the next one. -/
inductive DepthFirst (h : Heap) : List Address → List Address → Prop
  | nil : DepthFirst h [] []
  | cons {a c bs inner rest} : h.class? a = some c → DepthFirst h c.bases inner →
      DepthFirst h bs rest → DepthFirst h (a :: bs) (a :: inner ++ rest)
  /-- What is no class is not on the way. -/
  | skip {a bs rest} : h.class? a = none → DepthFirst h bs rest → DepthFirst h (a :: bs) rest

/-- There is one way only. -/
theorem DepthFirst.unique (first : h.DepthFirst as bs) : h.DepthFirst as ds → bs = ds := by
  induction first generalizing ds with
  | nil => rintro ⟨⟩; rfl
  | cons hc _ _ inner rest =>
    rintro (_ | ⟨hc', inner', rest'⟩ | ⟨none, _⟩)
    · obtain rfl := Option.some.inj (hc.symm.trans hc')
      rw [inner inner', rest rest']
    · rw [none] at hc
      cases hc
  | skip none _ rest =>
    rintro (_ | ⟨hc, _, _⟩ | ⟨_, rest'⟩)
    · rw [none] at hc
      cases hc
    · exact rest rest'

theorem merge_concat (seen as : List Address) (a : Address) : merge seen (as ++ [a]) =
    if a ∈ merge seen as then merge seen as else merge seen as ++ [a] := by
  rw [merge_append, merge_cons]
  rfl

/-- Merging keeps what comes first. -/
theorem merge_nil_left (as : List Address) : merge [] as = as.eraseDups := by
  induction as using List.reverseRecOn with
  | nil => rfl
  | append_singleton as a ih =>
    rw [merge_concat, ih, List.eraseDups_append]
    simp only [List.mem_eraseDups]
    split
    · next old => simp [List.removeAll, old]
    · next fresh => simp [List.removeAll, fresh, List.eraseDups_cons]

/-- What comes twice in a list makes no difference when it is merged. -/
theorem merge_eraseDups (seen as : List Address) : merge seen as.eraseDups = merge seen as := by
  rw [← merge_nil_left]
  induction as using List.reverseRecOn with
  | nil => rfl
  | append_singleton as a ih =>
    rw [merge_concat, merge_concat]
    split
    · next old =>
      have late : a ∈ merge seen as := by
        rw [mem_merge] at old ⊢
        exact .inr (old.resolve_left List.not_mem_nil)
      rw [ih, if_pos late]
    · rw [merge_concat, ih]

/-- Merging the finished orders of two ways finishes that of one way after the other. -/
theorem merge_finished (as bs : List Address) :
    merge as.eraseDups bs.eraseDups = (as ++ bs).eraseDups := by
  rw [merge_eraseDups, ← merge_nil_left, ← merge_nil_left, merge_append]

/-- An order of lookup starts with the class. -/
theorem head?_linearize : (h.linearize a bs).head? = some a := by
  rw [linearize_eq]
  suffices ∀ seen : List Address, seen.head? = some a →
      (bs.foldl (fun seen b => merge seen (h.order b)) seen).head? = some a from this [a] rfl
  have merged : ∀ new seen : List Address, seen.head? = some a →
      (merge seen new).head? = some a := by
    intro new
    induction new with
    | nil => exact fun _ h => h
    | cons d ds ih =>
      intro seen hs
      rw [merge_cons]
      split
      · exact ih seen hs
      · exact ih _ (by rw [List.head?_append, hs]; rfl)
  induction bs with
  | nil => exact fun _ h => h
  | cons b bs ih => exact fun seen hs => ih _ (merged _ _ hs)

/-! ### What the first class has -/

/-- What the first of some classes has that has an attribute of a given name at all, and which class
that is. -/
inductive FirstHas (h : Heap) (name : String) : List Address → Option (Value × Address) → Prop
  | found {front back : List Address} {d k v} : (∀ b ∈ front, h.own? name b = none) → h.class? d = some k →
      k.attrs.get? name = some v → FirstHas h name (front ++ d :: back) (some (v, d))
  | missing {as : List Address} : (∀ b ∈ as, h.own? name b = none) → FirstHas h name as none

theorem own?_eq_some {found : Value × Address} : h.own? name d = some found ↔
    found.2 = d ∧ ∃ k, h.class? d = some k ∧ k.attrs.get? name = some found.1 := by
  obtain ⟨v, b⟩ := found
  simp only [own?, Option.bind_eq_bind, Option.bind_eq_some_iff, Option.pure_def, Option.some.injEq,
    Prod.mk.injEq]
  constructor
  · rintro ⟨k, hk, v, hv, rfl, rfl⟩
    exact ⟨rfl, k, hk, hv⟩
  · rintro ⟨rfl, k, hk, hv⟩
    exact ⟨k, hk, v, hv, rfl, rfl⟩

theorem firstHas_findSome? (h : Heap) (name : String) (as : List Address) :
    h.FirstHas name as (as.findSome? (h.own? name)) := by
  cases e : as.findSome? (h.own? name) with
  | none => exact .missing (List.findSome?_eq_none_iff.1 e)
  | some found =>
    obtain ⟨front, d, back, rfl, hd, before⟩ := List.findSome?_eq_some_iff.1 e
    obtain ⟨rfl, k, hk, hv⟩ := own?_eq_some.1 hd
    exact .found before hk hv

theorem classLookup?_firstHas (hc : h.class? a = some c) :
    h.FirstHas name c.mro (h.classLookup? a name) := by
  rw [classLookup?, hc]
  exact firstHas_findSome? h name c.mro

/-- What follows a class in a list that has it once. -/
theorem behind_append (once : (front ++ d :: back).Nodup) :
    behind d (front ++ d :: back) = back := by
  have apart : ∀ b ∈ front, decide (b ≠ d) = true := fun b hb =>
    decide_eq_true ((List.nodup_append.1 once).2.2 b hb d List.mem_cons_self)
  rw [behind, List.dropWhile_append_of_pos apart, List.dropWhile_cons_of_neg (by simp)]

/-- The classes that the calls of a method by `super` come by, one after the other, where the first
one comes from a class of an object's class: each is looked up behind the class that had the one
before. -/
inductive Supers (h : Heap) (cls : Address) (name : String) : Address → List Address → Prop
  | nil {d : Address} : Supers h cls name d []
  | cons {d e : Address} {es v} : h.classLookupAfter? cls d name = some (v, e) → Supers h cls name e es →
      Supers h cls name d (e :: es)

/-- Whether a class itself has an attribute. -/
def owns (h : Heap) (name : String) (a : Address) : Bool := (h.own? name a).isSome

/-! ### Layers of classes -/

namespace Layered

variable (H : h.Layered)
include H

theorem head?_mro (hc : h.class? a = some c) : c.mro.head? = some a := by
  rw [H.mro hc, head?_linearize]

theorem nodup_mro (hc : h.class? a = some c) : c.mro.Nodup := by
  rw [H.mro hc]
  exact nodup_linearize

theorem mem_mro_iff (hc : h.class? a = some c) : d ∈ c.mro ↔ h.Derives a d := by
  rw [← order_eq hc, H.mem_order_iff hc]

/-- The order of lookup of a class is the way along the bases without what comes twice. -/
theorem depthFirst (hc : h.class? a = some c) :
    ∃ way, h.DepthFirst [a] way ∧ c.mro = way.eraseDups := by
  induction a using Nat.strongRecOn generalizing c with
  | _ a ih =>
    -- the bases first, of which all but the first `done` are still to come
    have bases : ∀ bs done : List Address, (∀ b ∈ bs, b < a) → ∃ way, h.DepthFirst bs way ∧
        bs.foldl (fun seen b => merge seen (h.order b)) done.eraseDups =
          (done ++ way).eraseDups := by
      intro bs
      induction bs with
      | nil => exact fun done _ => ⟨[], .nil, by rw [List.append_nil]; rfl⟩
      | cons b bs rest =>
        intro done older
        obtain ⟨old, older⟩ := List.forall_mem_cons.1 older
        rw [List.foldl_cons]
        cases hb : h.class? b with
        | none =>
          obtain ⟨way, along, e⟩ := rest done older
          refine ⟨way, .skip hb along, ?_⟩
          rw [← e, Heap.order, hb]
          rfl
        | some k =>
          obtain ⟨inner, within, mro⟩ := ih b old hb
          obtain ⟨way, along, e⟩ := rest (done ++ inner) older
          refine ⟨inner ++ way, ?_, ?_⟩
          · obtain _ | ⟨hb', inside, last⟩ | ⟨none, _⟩ := within
            · cases last
              rw [List.append_nil]
              exact .cons hb' inside along
            · rw [none] at hb
              cases hb
          · rw [order_eq hb, mro, merge_finished, e, List.append_assoc]
    obtain ⟨way, along, e⟩ := bases c.bases [a] (H.older hc)
    refine ⟨a :: way ++ [], .cons hc along .nil, ?_⟩
    rw [List.append_nil, H.mro hc, linearize_eq]
    exact e

/-! ### Deriving -/

theorem isSubclass_refl (hc : h.class? a = some c) : h.isSubclass a a = true :=
  H.isSubclass_iff.2 ⟨⟨c, hc⟩, .refl⟩

theorem isSubclass_trans (hab : h.isSubclass a b = true) (hbd : h.isSubclass b d = true) :
    h.isSubclass a d = true := by
  obtain ⟨there, hab⟩ := H.isSubclass_iff.1 hab
  exact H.isSubclass_iff.2 ⟨there, hab.trans (H.isSubclass_iff.1 hbd).2⟩

/-! ### Looking up -/

theorem classLookupAfter?_eq (hc : h.class? a = some c) (at_ : c.mro = front ++ d :: back) :
    h.classLookupAfter? a d name = back.findSome? (h.own? name) := by
  rw [classLookupAfter?, hc, Option.bind_eq_bind, Option.bind_some, at_,
    behind_append (at_ ▸ H.nodup_mro hc)]

theorem classLookupAfter?_firstHas (hc : h.class? a = some c) (at_ : c.mro = front ++ d :: back) :
    h.FirstHas name back (h.classLookupAfter? a d name) := by
  rw [H.classLookupAfter?_eq hc at_]
  exact firstHas_findSome? h name back

/-- Calls by `super` come by those classes that have the method, in the order of lookup. -/
theorem supers (hc : h.class? a = some c) (at_ : c.mro = front ++ d :: back)
    (calls : h.Supers a name d ds) : ds <+: back.filter (h.owns name) := by
  induction calls generalizing front back with
  | nil => exact List.nil_prefix
  | @cons d e _ _ found _ ih =>
    rw [H.classLookupAfter?_eq hc at_] at found
    obtain ⟨between, last, behind, rfl, hl, before⟩ := List.findSome?_eq_some_iff.1 found
    obtain ⟨rfl, -⟩ := own?_eq_some.1 hl
    have none_between : between.filter (h.owns name) = [] :=
      List.filter_eq_nil_iff.2 fun b hb => by rw [owns, before b hb]; exact Bool.false_ne_true
    rw [List.filter_append, none_between, List.nil_append,
      List.filter_cons_of_pos (by rw [owns, hl]; rfl), List.prefix_cons_inj]
    have next : c.mro = (front ++ d :: between) ++ e :: behind := by
      rw [at_, List.append_assoc]
      rfl
    exact ih next

/-- No class comes up twice along calls by `super`. -/
theorem nodup_supers (hc : h.class? a = some c) (hd : d ∈ c.mro) (calls : h.Supers a name d ds) :
    (d :: ds).Nodup := by
  obtain ⟨front, back, at_⟩ := List.append_of_mem hd
  have among : (d :: ds).Sublist c.mro := by
    rw [at_]
    exact (((H.supers hc at_ calls).sublist.trans List.filter_sublist).cons_cons d).trans
      (List.sublist_append_right ..)
  exact among.nodup (H.nodup_mro hc)

end Layered

/-! ### Making classes -/

/-- The heaps that come of making classes, each of classes that are there, and giving them
attributes, and of making objects of other kinds. -/
inductive Built : Heap → Prop
  | empty : Built .empty
  | create {h : Heap} {bases : List Address} (name : String) (builtin : Bool) : Built h →
      (∀ b ∈ bases, ∃ c, h.class? b = some c) → Built (h.allocClass name bases builtin).2
  | define {h : Heap} (a : Address) (attrs : Namespace) : Built h →
      Built (h.modifyClass a ({ · with attrs }))
  | make {h : Heap} {o : Object} : Built h → (∀ c, o ≠ .cls c) → Built (h.alloc o).2

namespace Layered

/-- A new object, or a new class of classes that are there. -/
theorem alloc {o : Object} (H : h.Layered) (new : ∀ c, o = .cls c →
    (∀ b ∈ c.bases, b < h.next) ∧ c.mro = h.linearize h.next c.bases) : (h.alloc o).2.Layered := by
  have cases {a : Address} {c : Class} (hc : (h.alloc o).2.class? a = some c) :
      (∀ b ∈ c.bases, b < h.next) ∧ (a = h.next ∧ o = .cls c ∨ h.class? a = some c) := by
    rw [class?_eq_some, get?_alloc] at hc
    split at hc
    · next e => exact ⟨(new c (Option.some.inj hc)).1, .inl ⟨e, Option.some.inj hc⟩⟩
    · have hc := class?_eq_some.2 hc
      exact ⟨fun b hb => Nat.lt_trans (H.older hc b hb) (Lineal.class_lt_next hc), .inr hc⟩
  constructor
  case older =>
    intro a c hc
    obtain ⟨low, ⟨rfl, -⟩ | hc⟩ := cases hc
    · exact low
    · exact H.older hc
  case mro =>
    intro a c hc
    obtain ⟨low, made⟩ := cases hc
    rw [linearize_congr fun b hb => Lineal.order_alloc_of_lt (low b hb)]
    obtain ⟨rfl, e⟩ | hc := made
    · exact (new c e).2
    · exact H.mro hc

theorem modify {f : Object → Object} (H : h.Layered) (hf : ∀ o, Like o (f o)) :
    (h.modify a f).Layered where
  older hc := by
    obtain ⟨c', hc', bases, -⟩ := class?_modify hf hc
    exact bases ▸ H.older hc'
  mro hc := by
    obtain ⟨c', hc', bases, mro, -⟩ := class?_modify hf hc
    rw [linearize_congr fun b _ => order_modify hf, ← mro, ← bases]
    exact H.mro hc'

end Layered

theorem Built.layered (built : h.Built) : h.Layered := by
  induction built with
  | empty =>
    have none {a : Address} {c : Class} : Heap.empty.class? a ≠ some c := by
      simp [class?_eq_some, get?, Heap.empty]
    exact ⟨fun hc => absurd hc none, fun hc => absurd hc none⟩
  | create name builtin _ there H =>
    refine H.alloc fun c e => ?_
    cases e
    refine ⟨fun b hb => ?_, rfl⟩
    obtain ⟨k, hk⟩ := there b hb
    exact Lineal.class_lt_next hk
  | define a attrs _ H =>
    refine H.modify fun o => ?_
    cases o with
    | cls c => exact .cls rfl rfl rfl rfl
    | _ => exact .refl _
  | make _ data H => exact H.alloc fun c e => absurd e (data c)

/-! ### How classes are searched -/

/-- The laws by which the classes of a heap are searched. -/
structure Resolves (h : Heap) : Prop where
  /-- An order of lookup starts with its class. -/
  first : ∀ {a c}, h.class? a = some c → c.mro.head? = some a
  once : ∀ {a c}, h.class? a = some c → c.mro.Nodup
  /-- It has in it what the class derives from. -/
  ancestors : ∀ {a c d}, h.class? a = some c → (d ∈ c.mro ↔ h.Derives a d)
  /-- It is the way along the bases, each class where one comes by it first. -/
  order : ∀ {a c way}, h.class? a = some c → h.DepthFirst [a] way → c.mro = way.eraseDups
  /-- There is such a way. -/
  way : ∀ {a c}, h.class? a = some c → ∃ way, h.DepthFirst [a] way
  refl : ∀ {a c}, h.class? a = some c → h.isSubclass a a = true
  trans : ∀ {a b d}, h.isSubclass a b = true → h.isSubclass b d = true → h.isSubclass a d = true
  /-- A class is a subclass of what it derives from. -/
  subclass : ∀ {a d}, h.isSubclass a d = true ↔ (∃ c, h.class? a = some c) ∧ h.Derives a d
  lookup : ∀ {a c} name, h.class? a = some c → h.FirstHas name c.mro (h.classLookup? a name)
  lookupAfter : ∀ {a c front d back} name, h.class? a = some c → c.mro = front ++ d :: back →
    h.FirstHas name back (h.classLookupAfter? a d name)
  /-- Calls that go on by `super` come by the classes that have the method, in their order. -/
  calls : ∀ {a c front d back name ds}, h.class? a = some c → c.mro = front ++ d :: back →
    h.Supers a name d ds → ds <+: back.filter (h.owns name)
  /-- So they come by no class twice. -/
  callsOnce : ∀ {a c d name ds}, h.class? a = some c → d ∈ c.mro → h.Supers a name d ds →
    (d :: ds).Nodup

theorem Layered.resolves (H : h.Layered) : h.Resolves where
  first := H.head?_mro
  once := H.nodup_mro
  ancestors := H.mem_mro_iff
  order hc along := by
    obtain ⟨way, along', e⟩ := H.depthFirst hc
    rw [e, along.unique along']
  way hc := by
    obtain ⟨way, along, -⟩ := H.depthFirst hc
    exact ⟨way, along⟩
  refl := H.isSubclass_refl
  trans := H.isSubclass_trans
  subclass := H.isSubclass_iff
  lookup _ := classLookup?_firstHas
  lookupAfter _ := H.classLookupAfter?_firstHas
  calls := H.supers
  callsOnce := H.nodup_supers

end Heap

/-- Classes are searched as they are laid out: on each heap that comes of making classes, one after
the other, and wherever a run comes, whoever watches it. -/
theorem classes_resolve (observe : Observer σ) (log : σ) (s : Listing) :
    (∀ h : Heap, h.Built → h.Resolves) ∧
      (Machine.start log).Always observe (·.heap.Resolves) ∧
      (Machine.forTrace s).Always (Recorder.observe s) (·.heap.Resolves) :=
  ⟨fun _ built => built.layered.resolves,
    (start_always_rooted observe log).mono fun _ H => H.heap.layered.resolves,
    (forTrace_always_rooted s).mono fun _ H => H.heap.layered.resolves⟩

/-- A class of a class that has a base and of one that has none, and one more that comes to the same
base on two ways. -/
def diamond : Heap :=
  let (base, h) := Heap.empty.allocClass "Base" [] false
  let (left, h) := h.allocClass "Left" [base] false
  let (right, h) := h.allocClass "Right" [] false
  let (_, h) := h.allocClass "Child" [left, right] false
  let (other, h) := h.allocClass "Other" [base] false
  (h.allocClass "Both" [left, other] false).2

theorem classes_resolve_diamond : diamond.Built ∧ diamond.Resolves ∧
    diamond.order (Heap.base + 3) = [3, 1, 0, 2].map (Heap.base + ·) ∧
    diamond.order (Heap.base + 5) = [5, 1, 0, 4].map (Heap.base + ·) := by
  have built : diamond.Built := by
    refine .create _ _ (.create _ _ (.create _ _ (.create _ _ (.create _ _ (.create _ _ .empty ?_)
      ?_) ?_) ?_) ?_) ?_
    case refine_1 | refine_3 => exact fun b hb => absurd hb List.not_mem_nil
    case refine_2 | refine_5 => exact List.forall_mem_singleton.2 ⟨_, rfl⟩
    case refine_4 | refine_6 =>
      exact List.forall_mem_cons.2 ⟨⟨_, rfl⟩, List.forall_mem_singleton.2 ⟨_, rfl⟩⟩
  exact ⟨built, (classes_resolve (Recorder.observe (.of "" [])) Recorder.start (.of "" [])).1 _ built,
    by decide, by decide⟩

end Stepwise
