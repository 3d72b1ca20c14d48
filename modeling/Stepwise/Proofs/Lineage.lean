import Mathlib.Data.List.Basic
import Mathlib.Data.List.Nodup
import Mathlib.Logic.Relation
import Stepwise.Heap.Class
import Stepwise.Proofs.Heap

/-!
# Lines of descent

Which classes a class derives from (`Derives`), and that its order of lookup lists just these
(`mem_mro_iff`). A built-in exception class stands last in that order if the only base through which
a class can derive from one is its last (`Straight`); then the class is taken for an exception class
exactly if it derives from one (`isExceptionClass_iff`). Of a class with an exception class before
its last base that need not be true.

## The model

The order of lookup is computed once, from those of the bases. What is said of it holds as long as
the bases are still there (`Lineal`), which is what making, changing and giving up objects keep.
-/

namespace Stepwise.Heap

variable {h : Heap} {root a b d : Address} {c : Class} {o : Object}

/-! ### Orders of lookup, merged -/

theorem merge_cons (seen : List Address) (a : Address) (as : List Address) :
    merge seen (a :: as) = merge (if a ∈ seen then seen else seen ++ [a]) as := by
  simp [merge]

theorem mem_merge (d : Address) : ∀ {new seen : List Address},
    d ∈ merge seen new ↔ d ∈ seen ∨ d ∈ new
  | [], _ => by simp [merge]
  | a :: as, seen => by
    rw [merge_cons, mem_merge d]
    split
    · next old =>
      constructor
      · rintro (h | h)
        · exact .inl h
        · exact .inr (List.mem_cons_of_mem _ h)
      · rintro (h | h)
        · exact .inl h
        · obtain rfl | h := List.mem_cons.1 h
          · exact .inl old
          · exact .inr h
    · simp [or_assoc]

theorem nodup_merge : ∀ {new seen : List Address}, seen.Nodup → (merge seen new).Nodup
  | [], _, h => h
  | a :: as, seen, h => by
    rw [merge_cons]
    split
    · exact nodup_merge h
    · next fresh => exact nodup_merge (List.concat_eq_append ▸ h.concat fresh)

theorem merge_append (seen as bs : List Address) :
    merge seen (as ++ bs) = merge (merge seen as) bs := List.foldl_append

/-- The last of the classes that are added comes last, if it is new. -/
theorem getLast?_merge {seen new : List Address} (last : new.getLast? = some d) (once : new.Nodup)
    (fresh : d ∉ seen) : (merge seen new).getLast? = some d := by
  obtain ⟨front, rfl⟩ := List.getLast?_eq_some_iff.1 last
  have apart : d ∉ front := fun hd => (List.nodup_append.1 once).2.2 d hd d List.mem_cons_self rfl
  have unseen : d ∉ merge seen front := by
    rw [mem_merge]
    exact not_or.2 ⟨fresh, apart⟩
  rw [merge_append, merge_cons, if_neg unseen]
  simp [merge]

/-- The order of lookup of the class at an address; nothing if there is none. -/
def order (h : Heap) (a : Address) : List Address := ((h.class? a).map Class.mro).getD []

theorem order_eq (hc : h.class? a = some c) : h.order a = c.mro := by rw [order, hc]; rfl

theorem linearize_eq (h : Heap) (a : Address) (bases : List Address) :
    h.linearize a bases = bases.foldl (fun seen b => merge seen (h.order b)) [a] := by
  unfold linearize
  congr 1
  funext seen b
  rw [order]
  cases h.class? b <;> rfl

theorem linearize_concat (h : Heap) (a : Address) (front : List Address) (b : Address) :
    h.linearize a (front ++ [b]) = merge (h.linearize a front) (h.order b) := by
  rw [linearize_eq, linearize_eq, List.foldl_append]
  rfl

theorem mem_linearize {bases : List Address} :
    d ∈ h.linearize a bases ↔ d = a ∨ ∃ b ∈ bases, d ∈ h.order b := by
  rw [linearize_eq]
  suffices ∀ seen : List Address, d ∈ bases.foldl (fun seen b => merge seen (h.order b)) seen ↔
      d ∈ seen ∨ ∃ b ∈ bases, d ∈ h.order b by
    simpa using this [a]
  induction bases with
  | nil => simp
  | cons b bs ih =>
    intro seen
    rw [List.foldl_cons, ih, mem_merge]
    simp [or_assoc]

theorem nodup_linearize {bases : List Address} : (h.linearize a bases).Nodup := by
  rw [linearize_eq]
  suffices ∀ seen : List Address, seen.Nodup →
      (bases.foldl (fun seen b => merge seen (h.order b)) seen).Nodup from
    this [a] (List.nodup_singleton a)
  induction bases with
  | nil => exact fun _ h => h
  | cons b bs ih => exact fun seen h => ih _ (nodup_merge h)

/-- Orders of lookup that come from those of the same bases. -/
theorem linearize_congr {h' : Heap} {bases : List Address}
    (same : ∀ b ∈ bases, h'.order b = h.order b) : h'.linearize a bases = h.linearize a bases := by
  rw [linearize_eq, linearize_eq]
  exact List.foldl_ext _ _ _ fun seen b hb => by rw [same b hb]

/-! ### Heaps of classes -/

/-- A heap on which each class is younger than its bases, has been given the order of lookup that
comes from them, and if it is built in has the root of the exception classes in it. -/
structure Lineal (root : Address) (h : Heap) : Prop where
  older : ∀ {a c}, h.class? a = some c → ∀ b ∈ c.bases, b < a
  mro : ∀ {a c}, h.class? a = some c → (∀ b ∈ c.bases, (h.get? b).isSome = true) →
    c.mro = h.linearize a c.bases
  builtin : ∀ {a c}, h.class? a = some c → c.builtin = true → root ∈ c.mro
  top : ∀ {o}, h.get? root = some o → ∃ c, o = .cls c ∧ c.builtin = true ∧ c.bases = []
  used : root < h.next

namespace Lineal

theorem class_lt_next (hc : h.class? a = some c) : a < h.next := lt_next (class?_eq_some.1 hc)

theorem class?_alloc_of_lt (ha : a < h.next) : (h.alloc o).2.class? a = h.class? a := by
  rw [class?, class?, get?_alloc, if_neg (Nat.ne_of_lt ha)]

theorem order_alloc_of_lt (ha : a < h.next) : (h.alloc o).2.order a = h.order a := by
  rw [order, order, class?_alloc_of_lt ha]

/-- A new object, or a new class that is younger than its bases. -/
theorem alloc (H : h.Lineal root) (new : ∀ c, o = .cls c → (∀ b ∈ c.bases, b < h.next) ∧
    c.mro = h.linearize h.next c.bases ∧ (c.builtin = true → root ∈ c.mro)) :
    (h.alloc o).2.Lineal root := by
  have cases {a : Address} {c : Class} (hc : (h.alloc o).2.class? a = some c) :
      (a = h.next ∧ o = .cls c) ∨ h.class? a = some c := by
    rw [class?_eq_some, get?_alloc] at hc
    split at hc
    · next e => exact .inl ⟨e, Option.some.inj hc⟩
    · exact .inr (class?_eq_some.2 hc)
  have kept {a : Address} {bases : List Address} (low : ∀ b ∈ bases, b < h.next) :
      (h.alloc o).2.linearize a bases = h.linearize a bases :=
    linearize_congr fun b hb => order_alloc_of_lt (low b hb)
  constructor
  case older =>
    intro a c hc
    obtain ⟨rfl, rfl⟩ | hc := cases hc
    · exact (new c rfl).1
    · exact H.older hc
  case mro =>
    intro a c hc there
    obtain ⟨rfl, rfl⟩ | hc := cases hc
    · rw [kept (new c rfl).1, (new c rfl).2.1]
    · have low : ∀ b ∈ c.bases, b < h.next := fun b hb =>
        Nat.lt_trans (H.older hc b hb) (class_lt_next hc)
      rw [kept low, H.mro hc fun b hb => ?_]
      have found := there b hb
      rwa [get?_alloc, if_neg (Nat.ne_of_lt (low b hb))] at found
  case builtin =>
    intro a c hc
    obtain ⟨rfl, rfl⟩ | hc := cases hc
    · exact (new c rfl).2.2
    · exact H.builtin hc
  case top =>
    intro o' ho
    rw [get?_alloc, if_neg (Nat.ne_of_lt H.used)] at ho
    exact H.top ho
  case used =>
    rw [next_alloc]
    exact Nat.lt_succ_of_lt H.used

theorem allocClass (H : h.Lineal root) (name : String) {bases : List Address}
    (older : ∀ b ∈ bases, b < h.next) : (h.allocClass name bases false).2.Lineal root :=
  H.alloc fun c e => by
    cases e
    exact ⟨older, rfl, nofun⟩

/-- A class is given up, or stays as it is. -/
theorem free (H : h.Lineal root) : (h.free b).Lineal root := by
  have kept {a : Address} {c : Class} (hc : (h.free b).class? a = some c) :
      h.class? a = some c := by
    rw [class?_eq_some, get?_free] at hc
    split at hc
    · cases hc
    · exact class?_eq_some.2 hc
  have there {a : Address} (ha : ((h.free b).get? a).isSome = true) : b ≠ a := by
    rintro rfl
    rw [get?_free, if_pos rfl] at ha
    cases ha
  constructor
  case older => exact fun hc => H.older (kept hc)
  case mro =>
    intro a c hc bases
    rw [H.mro (kept hc) fun d hd => ?_]
    · refine (linearize_congr fun d hd => ?_).symm
      rw [order, order, class?, class?, get?_free, if_neg (there (bases d hd))]
    · have found := bases d hd
      have other := there found
      rwa [get?_free, if_neg other] at found
  case builtin => exact fun hc => H.builtin (kept hc)
  case top =>
    intro o ho
    rw [get?_free] at ho
    split at ho
    · cases ho
    · exact H.top ho
  case used =>
    rw [next_free]
    exact H.used

end Lineal

/-! ### Deriving -/

/-- Whether a class is a base of another one. -/
def HasBase (h : Heap) (a b : Address) : Prop :=
  ∃ c k, h.class? a = some c ∧ b ∈ c.bases ∧ h.class? b = some k

/-- Whether a class derives from another one, or is it. -/
def Derives (h : Heap) : Address → Address → Prop := Relation.ReflTransGen h.HasBase

/-- Whether a class, and each that it derives from, can derive from `root` through its last base
only. -/
def Straight (h : Heap) (root a : Address) : Prop :=
  ∀ d c, h.Derives a d → h.class? d = some c → ∀ b ∈ c.bases.dropLast, ¬h.Derives b root

/-- A heap on which each class is younger than its bases, and its order of lookup is the one that
comes from theirs. -/
structure Layered (h : Heap) : Prop where
  older : ∀ {a c}, h.class? a = some c → ∀ b ∈ c.bases, b < a
  mro : ∀ {a c}, h.class? a = some c → c.mro = h.linearize a c.bases

namespace Layered

variable (H : h.Layered)
include H

theorem order (hc : h.class? a = some c) : h.order a = h.linearize a c.bases := by
  rw [order_eq hc, H.mro hc]

/-- What stands in the order of lookup of a class is what it derives from. -/
theorem mem_order_iff (hc : h.class? a = some c) : d ∈ h.order a ↔ h.Derives a d := by
  induction a using Nat.strongRecOn generalizing c with
  | _ a ih =>
    rw [H.order hc, mem_linearize, Derives, Relation.ReflTransGen.cases_head_iff]
    refine or_congr eq_comm ?_
    constructor
    · rintro ⟨b, hb, hd⟩
      cases hk : h.class? b with
      | none => simp [Heap.order, hk] at hd
      | some k => exact ⟨b, ⟨c, k, hc, hb, hk⟩, (ih b (H.older hc b hb) hk).1 hd⟩
    · rintro ⟨b, ⟨c', k, hc', hb, hk⟩, hd⟩
      obtain rfl := Option.some.inj (hc.symm.trans hc')
      exact ⟨b, hb, (ih b (H.older hc b hb) hk).2 hd⟩

theorem isSubclass_iff : h.isSubclass a d = true ↔ (∃ c, h.class? a = some c) ∧ h.Derives a d := by
  rw [isSubclass, Option.any_eq_true]
  constructor
  · rintro ⟨c, hc, hd⟩
    refine ⟨⟨c, hc⟩, (H.mem_order_iff hc).1 ?_⟩
    rw [order_eq hc]
    simpa using hd
  · rintro ⟨⟨c, hc⟩, hd⟩
    have listed := (H.mem_order_iff hc).2 hd
    rw [order_eq hc] at listed
    exact ⟨c, hc, by simpa using listed⟩

end Layered

/-- A heap of classes from which nothing has been taken that a class refers to. -/
structure Rooted (root : Address) (h : Heap) : Prop extends h.Lineal root where
  bases : ∀ {a c}, h.class? a = some c → ∀ b ∈ c.bases, (h.get? b).isSome = true
  there : (h.get? root).isSome = true

theorem Rooted.layered (H : h.Rooted root) : h.Layered :=
  ⟨H.older, fun hc => H.mro hc (H.bases hc)⟩

/-- Whether a class is taken for an exception class shows in what comes last in its order of
lookup. -/
theorem isExceptionClass_eq (hc : h.class? a = some c) : h.isExceptionClass a = true ↔
    ∃ d k, (h.order a).getLast? = some d ∧ h.class? d = some k ∧ k.builtin = true := by
  rw [isExceptionClass, hc, order_eq hc]
  dsimp only
  cases c.mro.getLast? with
  | none => simp
  | some d => simp [Option.any_eq_true]

namespace Rooted

variable (H : h.Rooted root)
include H

/-- An exception class derives from the root. -/
theorem derives_of_isExceptionClass (he : h.isExceptionClass a = true) : h.Derives a root := by
  cases hc : h.class? a with
  | none => simp [isExceptionClass, hc] at he
  | some c =>
    obtain ⟨d, k, last, hk, builtin⟩ := (isExceptionClass_eq hc).1 he
    have above : h.Derives a d := (H.layered.mem_order_iff hc).1 (List.mem_of_getLast? last)
    refine above.trans ((H.layered.mem_order_iff hk).1 ?_)
    rw [order_eq hk]
    exact H.builtin hk builtin

theorem class?_root : ∃ c, h.class? root = some c ∧ c.builtin = true ∧ c.bases = [] := by
  obtain ⟨o, ho⟩ := Option.isSome_iff_exists.1 H.there
  obtain ⟨c, rfl, builtin, bases⟩ := H.top ho
  exact ⟨c, class?_eq_some.2 ho, builtin, bases⟩

/-- The root comes last in the order of lookup of a class that derives from it in a straight line. -/
theorem getLast?_order (hc : h.class? a = some c) (straight : h.Straight root a)
    (hr : h.Derives a root) : (h.order a).getLast? = some root := by
  induction a using Nat.strongRecOn generalizing c with
  | _ a ih =>
    obtain rfl | ⟨b, base, above⟩ := hr.cases_head
    · obtain ⟨c', hc', -, none⟩ := H.class?_root
      rw [H.layered.order hc', none]
      rfl
    · obtain ⟨c', k, hc', hb, hk⟩ := id base
      obtain rfl := Option.some.inj (hc.symm.trans hc')
      -- through no other base than the last can the class derive from the root
      obtain ⟨front, last, split⟩ : ∃ front last, c.bases = front ++ [last] :=
        (List.eq_nil_or_concat' _).resolve_left (List.ne_nil_of_mem hb)
      have apart : ∀ p ∈ front, ¬h.Derives p root := fun p hp =>
        straight a c .refl hc p (by rwa [split, List.dropLast_concat])
      obtain rfl : b = last := by
        rw [split, List.mem_append, List.mem_singleton] at hb
        exact hb.resolve_left fun front => apart b front above
      have later := ih b (H.older hc b hb) hk
        (fun d c hd => straight d c (.head base hd)) above
      have once : (h.order b).Nodup := H.layered.order hk ▸ nodup_linearize
      rw [H.layered.order hc, split, linearize_concat]
      refine getLast?_merge later once fun early => ?_
      obtain rfl | ⟨p, hp, listed⟩ := mem_linearize.1 early
      · obtain ⟨c', hc', -, none⟩ := H.class?_root
        obtain rfl := Option.some.inj (hc.symm.trans hc')
        rw [none] at hb
        exact absurd hb List.not_mem_nil
      · cases hq : h.class? p with
        | none => simp [Heap.order, hq] at listed
        | some q => exact apart p hp ((H.layered.mem_order_iff hq).1 listed)

/-- A class of a straight line is an exception class exactly if it derives from the root. -/
theorem isExceptionClass_iff (hc : h.class? a = some c) (straight : h.Straight root a) :
    h.isExceptionClass a = true ↔ h.Derives a root := by
  refine ⟨H.derives_of_isExceptionClass, fun hr => ?_⟩
  obtain ⟨k, hk, builtin, -⟩ := H.class?_root
  exact (isExceptionClass_eq hc).2 ⟨root, k, H.getLast?_order hc straight hr, hk, builtin⟩

end Rooted

end Stepwise.Heap
