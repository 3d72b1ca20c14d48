import Stepwise.Proofs.Descent
import Stepwise.Proofs.Members
import Stepwise.Proofs.Tidy
import Stepwise.Proofs.Writing

/-!
# Errors that are caught

What a handler sees of an error that the machine itself has found (`caught_retold`): an instance of a
built-in exception class, made from the error, that tells the same story. Its class has no attributes
of its own (`Machine.Standard`), so no function of the script is asked.

## The model

An error about a missing key has the text of the key and the key. The exception has only the key,
which is written anew (`repr_ok`), so the two texts are the same only as long as the key reads the
same (`Machine.Shows`). What can change a text are instances; of other objects that can be keys it
says nothing that changes (`Object.isSteady`, `Evolves.reprIn_eq`).
-/

namespace Stepwise

open Script

variable {σ α : Type}

/-! ### Built-in exception classes -/

/-- Whether a fault is an exception that the script has raised. -/
def Fault.isRaised : Fault → Bool
  | raised _ => true
  | _ => false

/-- A fault of the machine itself is of a built-in class. -/
theorem Fault.lookup_kind {f : Fault} (own : f.isRaised = false) :
    ∃ a, builtinExceptions.lookup f.kind = some a := by
  cases f with
  | raised => cases own
  | _ => exact ⟨_, rfl⟩

theorem mem_of_lookup {a : Address} {name : String}
    (known : builtinExceptions.lookup name = some a) : (name, a) ∈ builtinExceptions := by
  obtain ⟨before, behind, split, -⟩ := List.lookup_eq_some_iff.1 known
  rw [split]
  exact List.mem_append_right _ List.mem_cons_self

/-- Where the class of missing keys is. -/
def keyException : Address := Heap.base + 8

/-- A built-in exception class as it is at the start. -/
structure Class.IsStandard (k : Class) (name : String) : Prop where
  named : k.name = name
  builtin : k.builtin = true
  bare : k.attrs = .empty
  /-- It derives from such classes only. -/
  above : ∀ d ∈ k.mro, ∃ p ∈ builtinExceptions, p.2 = d
  top : k.mro.getLast? = some baseException
  /-- No other class derives from that of missing keys. -/
  key : k.mro.contains keyException = (name == "KeyError")

/-- Whether there is a built-in exception class as it is at the start. -/
def Heap.hasStandard (h : Heap) (p : String × Address) : Bool :=
  (h.class? p.2).any fun k => k.name == p.1 && k.builtin && k.attrs.entries.isEmpty &&
    k.mro.all (fun d => builtinExceptions.any (·.2 == d)) &&
    k.mro.getLast? == some baseException &&
    k.mro.contains keyException == (p.1 == "KeyError")

theorem Heap.standard_of_check {h : Heap} {p : String × Address} (ok : h.hasStandard p = true) :
    ∃ k, h.class? p.2 = some k ∧ k.IsStandard p.1 := by
  obtain ⟨k, hk, ok⟩ := (Option.any_eq_true ..).1 ok
  simp only [Bool.and_eq_true, beq_iff_eq, List.isEmpty_iff, List.all_eq_true,
    List.any_eq_true] at ok
  obtain ⟨⟨⟨⟨⟨named, builtin⟩, bare⟩, above⟩, top⟩, key⟩ := ok
  have empty : ∀ attrs : Namespace, attrs.entries = [] → attrs = .empty
    | ⟨_, _⟩, rfl => rfl
  exact ⟨k, hk, named, builtin, empty _ bare, above, top, key⟩

theorem start_standard {p : String × Address} (hp : p ∈ builtinExceptions) :
    ∃ k, (Machine.start ()).heap.class? p.2 = some k ∧ k.IsStandard p.1 := by
  have all : ∀ p ∈ builtinExceptions, (Machine.start ()).heap.hasStandard p = true := by
    decide +kernel
  exact Heap.standard_of_check (all p hp)

/-- A machine with the built-in exception classes of the start, that marks nothing but containers
while they are being written. -/
structure Machine.Standard (m : Machine σ) : Prop where
  exceptions : m.exceptions = builtinExceptions
  classes : ∀ p ∈ builtinExceptions, ∃ k, m.heap.class? p.2 = some k ∧ k.IsStandard p.1
  writing : ∀ a ∈ m.writing, m.heap.hasContainer a = true

/-- The built-in exception classes are as they were at the start. -/
theorem Machine.Evolved.standard {m : Machine σ} (H : m.Evolved) (sound : m.Sound) :
    m.Standard where
  exceptions := H.exceptions
  classes p hp := by
    obtain ⟨k, hk, standard⟩ := start_standard hp
    obtain ⟨o, ho, -⟩ := sound.exceptions p (H.exceptions ▸ hp)
    have early : ¬made p.2 := Nat.not_le.2 (Heap.lt_next (Heap.class?_eq_some.1 hk))
    exact ⟨k, H.heap.class?_builtin hk early standard.builtin standard.bare ho, standard⟩
  writing a ha := by
    obtain ⟨o, ho, -⟩ := sound.writing a ha
    rw [Heap.hasContainer, ho]
    exact (H.writing a ha).2 o ho

namespace Machine.Standard

variable {m : Machine σ} {a : Address} {name x : String} (H : m.Standard)
include H

theorem className (ha : (name, a) ∈ builtinExceptions) : m.heap.className a = name := by
  obtain ⟨k, hk, standard⟩ := H.classes _ ha
  rw [Heap.className, hk]
  exact standard.named

theorem isExceptionClass (ha : (name, a) ∈ builtinExceptions) :
    m.heap.isExceptionClass a = true := by
  obtain ⟨k, hk, standard⟩ := H.classes _ ha
  obtain ⟨top, htop, root⟩ := H.classes ("BaseException", baseException) List.mem_cons_self
  simp only [Heap.isExceptionClass, hk, standard.top, htop, Option.any_some, root.builtin]

/-- A built-in exception class has no attributes. -/
theorem silent (ha : (name, a) ∈ builtinExceptions) : m.heap.classLookup? a x = none := by
  obtain ⟨k, hk, standard⟩ := H.classes _ ha
  rw [Heap.classLookup?, hk]
  refine List.findSome?_eq_none_iff.2 fun d hd => ?_
  obtain ⟨p, hp, rfl⟩ := standard.above d hd
  obtain ⟨k', hk', standard'⟩ := H.classes p hp
  rw [Heap.own?, hk']
  show (k'.attrs.get? x >>= _) = none
  rw [standard'.bare]
  rfl

theorem isKeyError (ha : (name, a) ∈ builtinExceptions) :
    Stepwise.isKeyError m a = (name == "KeyError") := by
  obtain ⟨k, hk, standard⟩ := H.classes _ ha
  have known : m.exceptions.lookup "KeyError" = some keyException := by
    rw [H.exceptions]
    rfl
  rw [Stepwise.isKeyError, known, Option.any_some, Heap.isSubclass, hk]
  exact standard.key

/-- What is marked is a container. -/
theorem unmarked (ha : m.heap.hasContainer a = false) : a ∉ m.writing := fun marked => by
  rw [H.writing a marked] at ha
  cases ha

/-- A machine with one more object. -/
theorem alloc (o : Object) : { m with heap := (m.heap.alloc o).2 }.Standard where
  exceptions := H.exceptions
  classes p hp := by
    obtain ⟨k, hk, standard⟩ := H.classes p hp
    exact ⟨k, (Heap.Lineal.class?_alloc_of_lt (Heap.Lineal.class_lt_next hk)).trans hk, standard⟩
  writing b hb := by
    obtain ⟨c, hc, kind⟩ := (Option.any_eq_true ..).1 (H.writing b hb)
    show ((m.heap.alloc o).2.get? b).any _ = true
    rwa [Heap.get?_alloc, if_neg (Heap.ne_next hc), hc]

end Machine.Standard

/-! ### Texts of keys -/

namespace Value

variable {v : Value} {a : Address} {vs : List Value}

theorem addresses_subset (hv : v ∈ vs) (ha : a ∈ v.addresses) : a ∈ allAddresses vs := by
  induction vs with
  | nil => cases hv
  | cons u us ih =>
    rw [allAddresses, List.mem_append]
    obtain rfl | hv := List.mem_cons.1 hv
    · exact .inl ha
    · exact .inr (ih hv)

end Value

namespace Heap

variable {h : Heap} {k : Key} {v : Value}

mutual

/-- What a key refers to is there, and no container. -/
theorem key?_addresses : ∀ {v : Value} {k : Key}, h.key? v = some k →
    ∀ a ∈ v.addresses, ∃ o, h.get? a = some o ∧ o.hasKey = true
  | .tuple _ items, k, hk => by
    obtain ⟨ks, keys, -⟩ := Option.map_eq_some_iff.1 hk
    exact keys?_addresses keys
  | .ref b, k, hk => by
    rw [key?_ref] at hk
    split at hk
    · next has => exact List.forall_mem_singleton.2 ((Option.any_eq_true ..).1 has)
    · cases hk
  | .none, _, _ | .bool _, _, _ | .int _, _, _ | .float _, _, _ | .str _, _, _
  | .range _ _ _, _, _ | .builtin _, _, _ => nofun

theorem keys?_addresses : ∀ {vs : List Value} {ks : List Key}, h.keys? vs = some ks →
    ∀ a ∈ Value.allAddresses vs, ∃ o, h.get? a = some o ∧ o.hasKey = true
  | [], _, _ => nofun
  | v :: vs, _, keys => by
    obtain ⟨k, ks, first, rest, rfl⟩ := keys?_cons keys
    exact List.forall_mem_append.2 ⟨key?_addresses first, keys?_addresses rest⟩

end

end Heap

namespace Heap

variable {h h' : Heap} {v : Value} {a : Address}

theorem mapM_congr {β γ : Type} {f g : β → Option γ} : ∀ {xs : List β}, (∀ x ∈ xs, f x = g x) →
    xs.mapM f = xs.mapM g
  | [], _ => rfl
  | x :: xs, same => by
    obtain ⟨first, rest⟩ := List.forall_mem_cons.1 same
    rw [List.mapM_cons, List.mapM_cons, first, mapM_congr rest]

theorem Holds.ref (hv : h.Holds (.ref a)) : h.Live a := hv a (List.mem_singleton_self a)

section Same

variable (sound : h.Sound) (same : ∀ a, h.Live a → h'.get? a = h.get? a)
include sound same

omit sound in
theorem class?_same (ha : h.Live a) : h'.class? a = h.class? a := by
  rw [class?, class?, same a ha]

omit sound in
theorem className_same (ha : h.Live a) : h'.className a = h.className a := by
  rw [className, className, class?_same same ha]

theorem isExceptionClass_same (ha : h.Live a) :
    h'.isExceptionClass a = h.isExceptionClass a := by
  rw [isExceptionClass, isExceptionClass, class?_same same ha]
  cases hc : h.class? a with
  | none => rfl
  | some c =>
    dsimp only
    cases last : c.mro.getLast? with
    | none => rfl
    | some root =>
      have listed : Value.ref root ∈ (Object.cls c).held :=
        List.mem_append_left _ (List.mem_map_of_mem
          (List.mem_append_right _ (List.mem_of_getLast? last)))
      dsimp only
      rw [class?_same same (sound.held (class?_eq_some.1 hc) _ listed).ref]

theorem typeName_same (hv : h.Holds v) : h'.typeName v = h.typeName v := by
  cases v with
  | ref a =>
    obtain ⟨o, ho, -⟩ := id hv.ref
    simp only [typeName, Value.inlineTypeName?, object?, Value.address?, Option.bind_some,
      same a hv.ref, ho]
    cases o with
    | inst i => exact className_same same (sound.held ho (.ref i.cls) List.mem_cons_self).ref
    | _ => rfl
  | _ => rfl

/-- A text is the same on a heap where all is that is there on this one. -/
theorem reprIn_same : ∀ (fuel : Nat) {around : List Address} {v : Value}, h.Holds v →
    h'.reprIn around fuel v = h.reprIn around fuel v
  | 0, _, _, _ => by simp only [reprIn]
  | fuel + 1, around, v, hv => by
    have all {around : List Address} (vs : List Value) (hvs : ∀ v ∈ vs, h.Holds v) :
        vs.mapM (h'.reprIn around fuel) = vs.mapM (h.reprIn around fuel) :=
      mapM_congr fun v mem => reprIn_same fuel (hvs v mem)
    cases v with
    | tuple mark items =>
      rw [reprIn, reprIn, all items fun v mem a ha => hv a (Value.addresses_subset mem ha)]
    | ref a =>
      obtain ⟨o, ho, -⟩ := id hv.ref
      have held := sound.held ho
      rw [reprIn, reprIn, same a hv.ref, ho]
      dsimp only
      split
      · rfl
      cases o with (dsimp only)
      | list items => rw [all items.toList held]
      | set t =>
        rw [all t.members fun v mem => held v (Table.member_held mem)]
      | dict t =>
        refine congrArg (· >>= _) (mapM_congr fun e he => ?_)
        rw [reprIn_same fuel (held e.1 (Table.key_held he)),
          reprIn_same fuel (held e.2 (Table.value_held he))]
      | inst i =>
        have cls := (held (.ref i.cls) List.mem_cons_self).ref
        rw [isExceptionClass_same sound same cls, className_same same cls,
          all i.args fun v mem => held v (List.mem_append_right _ mem)]
      | boundMethod receiver f =>
        have function := (held (.ref f) (List.mem_cons_of_mem _ List.mem_cons_self)).ref
        rw [reprIn_same fuel (held receiver List.mem_cons_self),
          typeName_same sound same (held receiver List.mem_cons_self), functionName, functionName,
          closure?, closure?, same f function]
      | nativeMethod receiver name =>
        rw [typeName_same sound same (held receiver List.mem_cons_self)]
      | super cls receiver => rw [className_same same (held (.ref cls) List.mem_cons_self).ref]
    | _ => rfl

end Same

/-- A text is still the same when there is one more object. -/
theorem repr?_alloc (sound : h.Sound) (o : Object) (hv : h.Holds v) (n : Nat) :
    (h.alloc o).2.repr? n v = h.repr? n v := by
  refine reprIn_same sound (fun a ha => ?_) n hv
  obtain ⟨o', ho', -⟩ := ha
  rw [get?_alloc, if_neg (ne_next ho')]

end Heap

/-- Whether what the text of an object says of it never changes. -/
def Object.isSteady : Object → Bool
  | .cls _ | .func _ | .nativeMethod _ _ | .super _ _ | .module _ => true
  | _ => false

namespace Heap

variable {own : Address → Prop} {h h' : Heap} {v : Value} {a : Address}

namespace Evolves

variable (t : h.Evolves own h')
include t

/-- What is still there is the object that was there. -/
theorem like_of_live (ha : h.Live a) (ha' : h'.Live a) :
    ∃ o o', h.get? a = some o ∧ h'.get? a = some o' ∧ Like o o' := by
  obtain ⟨o, ho, -⟩ := ha
  obtain ⟨o', ho', -⟩ := ha'
  obtain ⟨o₁, ho₁, like⟩ := t.like (lt_next ho) ho'
  exact ⟨o₁, o', ho₁, ho', like⟩

theorem className_eq (ha : h.Live a) (ha' : h'.Live a) : h'.className a = h.className a := by
  obtain ⟨o, o', ho, ho', like⟩ := t.like_of_live ha ha'
  rw [className, className, class?, class?, ho, ho']
  cases like with
  | cls name => exact name.symm
  | _ => rfl

theorem typeName_eq (sound : h.Sound) (sound' : h'.Sound) (hv : h.Holds v) (hv' : h'.Holds v) :
    h'.typeName v = h.typeName v := by
  cases v with
  | ref a =>
    obtain ⟨o, o', ho, ho', like⟩ := t.like_of_live hv.ref hv'.ref
    simp only [typeName, Value.inlineTypeName?, object?, Value.address?, Option.bind_some, ho, ho']
    cases like with
    | refl =>
      cases o with
      | inst i =>
        have listed : Value.ref i.cls ∈ (Object.inst i).held := List.mem_cons_self
        exact t.className_eq (sound.held ho _ listed).ref (sound'.held ho' _ listed).ref
      | _ => rfl
    | @inst i i' cls =>
      have listed {i : Instance} : Value.ref i.cls ∈ (Object.inst i).held := List.mem_cons_self
      have before := (sound.held ho _ listed).ref
      have after := (sound'.held ho' _ listed).ref
      show h'.className i'.cls = h.className i.cls
      rw [← cls] at after ⊢
      exact t.className_eq before after
    | _ => rfl
  | _ => rfl

/-- The text of what holds nothing but steady objects does not change. -/
theorem reprIn_eq (sound : h.Sound) (sound' : h'.Sound) : ∀ (n : Nat) {v : Value}, h.Holds v →
    (∀ a ∈ v.addresses, ∃ o, h'.get? a = some o ∧ o.isSteady = true) → h'.reprIn [] n v = h.reprIn [] n v
  | 0, _, _, _ => by simp only [reprIn]
  | n + 1, v, hv, steady => by
    cases v with
    | tuple mark items =>
      rw [reprIn, reprIn]
      refine congrArg (· >>= _) (mapM_congr fun v mem => reprIn_eq sound sound' n (fun a ha => ?_) fun a ha => ?_)
      · exact hv a (Value.addresses_subset mem ha)
      · exact steady a (Value.addresses_subset mem ha)
    | ref a =>
      obtain ⟨o', ho', still⟩ := steady a (List.mem_singleton_self a)
      obtain ⟨o, ho, like⟩ : ∃ o, h.get? a = some o ∧ Like o o' := by
        obtain ⟨o, ho, -⟩ := id hv.ref
        exact t.like (lt_next ho) ho'
      rw [reprIn, reprIn, ho, ho']
      cases like with
      | refl =>
        cases o' with
        | nativeMethod receiver name =>
          have listed : receiver ∈ (Object.nativeMethod receiver name).held := List.mem_cons_self
          dsimp only
          rw [t.typeName_eq sound sound' (sound.held ho _ listed) (sound'.held ho' _ listed)]
        | super cls receiver =>
          have listed : Value.ref cls ∈ (Object.super cls receiver).held := List.mem_cons_self
          dsimp only
          rw [t.className_eq (sound.held ho _ listed).ref (sound'.held ho' _ listed).ref]
        | cls | func | module => rfl
        | _ => cases still
      | cls name _ _ builtin =>
        dsimp only
        rw [name, builtin]
        rfl
      | _ => cases still
    | _ => rfl

end Evolves
end Heap

/-- Whether there is an object at an address that is no container, and no instance of a class that a
script has made. -/
def Heap.Tells (h : Heap) (a : Address) : Prop :=
  ∃ o, h.get? a = some o ∧ o.isScope = false ∧ o.isContainer = false ∧
    ∀ i, o = .inst i → ∃ name, (name, i.cls) ∈ builtinExceptions

/-- Whether the key of a fault, if it has one, reads as the fault says, and there is nothing of the
classes of the script in it. -/
def Machine.Shows (m : Machine σ) (f : Fault) : Prop :=
  ∀ s v, f = .key s v → (∀ a ∈ v.addresses, m.heap.Tells a) ∧ ∃ n, m.heap.repr? n v = some s

namespace Machine.Standard

variable {m : Machine σ} {v : Value} {s : String} {n : Nat}

/-- No function of the script is asked for the text of a value in which there is nothing of its own
classes. -/
theorem repr_ok (H : m.Standard) (tell : Nat → Moment → M σ Unit) {fuel : Nat} (le : n < fuel)
    (tells : ∀ a ∈ v.addresses, m.heap.Tells a) (shown : m.heap.repr? n v = some s) :
    (runner tell (pure ()) fuel).repr v m = .ok s m := by
  induction n generalizing v s fuel with
  | zero => cases shown
  | succ n ih =>
    obtain ⟨fuel, rfl⟩ : ∃ f, fuel = f + 1 := ⟨fuel - 1, by omega⟩
    show reprOf (runner tell (pure ()) fuel) v m = _
    cases v with
    | tuple mark items =>
      rw [Heap.repr?, Heap.reprIn] at shown
      obtain ⟨parts, each, e⟩ := Option.bind_eq_some_iff.1 shown
      cases e
      have all : items.mapM (runner tell (pure ()) fuel).repr m = .ok parts m := by
        refine M.mapM_of_some (fun v mem part shown => ?_) each
        exact ih (by omega) (fun a ha => tells a (Value.addresses_subset mem ha)) shown
      exact M.bind_ok all
    | ref a =>
      obtain ⟨o, ho, -, data, script⟩ := tells a (List.mem_singleton_self a)
      have new : a ∉ m.writing := H.unmarked (by rw [Heap.hasContainer, ho]; exact data)
      have silent : ∀ cls, m.heap.classOf? (.ref a) = some cls →
          m.heap.classLookup? cls "__repr__" = none := by
        intro cls hcls
        obtain ⟨i, hi, rfl⟩ : ∃ i, m.heap.instance? a = some i ∧ i.cls = cls := by
          simpa [Heap.classOf?, Value.address?, Option.bind_eq_some_iff] using hcls
        obtain rfl := Option.some.inj (ho.symm.trans (Heap.instance?_eq_some.1 hi))
        obtain ⟨name, builtin⟩ := script i rfl
        exact H.silent builtin
      have text : plainText (runner tell (pure ()) fuel) (.ref a) m = .ok s m := by
        rw [plainText_eq, Heap.repr?_mono (Nat.le_of_lt_succ le) shown]
        rfl
      rw [reprOf_new new silent]
      unfold reprObject
      rw [getHeap_bind, ho]
      cases o with
      | list | dict | set => cases data
      | _ => exact text
    | _ =>
      cases shown
      rfl

variable {x : Address} {i : Instance} {f : Fault}

/-- An instance of a built-in exception class is not asked for its text. -/
theorem callSpecial_none (H : m.Standard) (hx : m.heap.instance? x = some i) {name : String}
    (hi : (name, i.cls) ∈ builtinExceptions) (r : Runner σ) (special : String) :
    callSpecial r (.ref x) special [] m = .ok none m := by
  refine Machine.callSpecial_none fun cls hcls => ?_
  have same : m.heap.classOf? (.ref x) = some i.cls := by
    simp [Heap.classOf?, Value.address?, hx]
  obtain rfl := Option.some.inj (same.symm.trans hcls)
  exact H.silent hi

/-- The message of a built-in exception with one argument. -/
theorem exceptionMessage_eq (H : m.Standard) (hx : m.heap.instance? x = some i) {name : String}
    (hi : (name, i.cls) ∈ builtinExceptions) {arg : Value} (args : i.args = [arg]) (r : Runner σ) :
    exceptionMessage r (.ref x) m =
      if name == "KeyError" then r.repr arg m else r.str arg m := by
  have found : (Value.ref x).address?.bind m.heap.instance? = some i := hx
  unfold exceptionMessage
  rw [M.bind_ok (H.callSpecial_none hx hi r "__str__")]
  refine (M.bind_ok (show (get : M σ (Machine σ)) m = .ok m m from rfl)).trans ?_
  simp only [found, args, H.isKeyError hi]
  split <;> rfl

/-- The message of an exception that stands for a fault is that of the fault. -/
theorem message_ok (H : m.Standard) (own : f.isRaised = false)
    (hx : m.heap.instance? x = some i) (hi : (f.kind, i.cls) ∈ builtinExceptions)
    (args : i.args = faultArguments f) (shows : m.Shows f) :
    ∃ n, ∀ fuel ≥ n, ∀ tell : Nat → Moment → M σ Unit,
      exceptionMessage (runner tell (pure ()) fuel) (.ref x) m = .ok f.message m := by
  cases f with
  | raised => cases own
  | key shown key =>
    obtain ⟨tells, n, text⟩ := shows shown key rfl
    refine ⟨n + 1, fun fuel le tell => ?_⟩
    rw [H.exceptionMessage_eq hx hi args]
    exact H.repr_ok tell le tells text
  | _ =>
    refine ⟨1, fun fuel le tell => ?_⟩
    obtain ⟨fuel, rfl⟩ : ∃ f, fuel = f + 1 := ⟨fuel - 1, by omega⟩
    rw [H.exceptionMessage_eq hx hi args]
    rfl

theorem str_ok (H : m.Standard) (own : f.isRaised = false)
    (hx : m.heap.instance? x = some i) (hi : (f.kind, i.cls) ∈ builtinExceptions)
    (args : i.args = faultArguments f) (shows : m.Shows f) :
    ∃ n, ∀ fuel ≥ n, ∀ tell : Nat → Moment → M σ Unit,
      (runner tell (pure ()) fuel).str (.ref x) m = .ok f.message m := by
  obtain ⟨n, message⟩ := H.message_ok own hx hi args shows
  refine ⟨n + 1, fun fuel le tell => ?_⟩
  obtain ⟨fuel, rfl⟩ : ∃ f, fuel = f + 1 := ⟨fuel - 1, by omega⟩
  show strOf (runner tell (pure ()) fuel) (.ref x) m = _
  unfold strOf
  refine (getHeap_bind _ m).trans ?_
  simp only [hx]
  refine (M.bind_ok (H.callSpecial_none hx hi _ "__str__")).trans ?_
  refine (getHeap_bind _ m).trans ?_
  rw [H.isExceptionClass hi]
  exact message fuel (by omega) tell

/-- Raised again, an exception that stands for a fault is an error of the same kind and message. -/
theorem raise_ok (H : m.Standard) (own : f.isRaised = false)
    (hx : m.heap.instance? x = some i) (hi : (f.kind, i.cls) ∈ builtinExceptions)
    (args : i.args = faultArguments f) (shows : m.Shows f) :
    ∃ n, ∀ fuel ≥ n, ∀ tell : Nat → Moment → M σ Unit,
      raiseValue (runner tell (pure ()) fuel) (.ref x) m =
        .error (.error ⟨.raised ⟨i.cls, f.kind, .ref x, f.message⟩, m.pos⟩) m := by
  obtain ⟨n, message⟩ := H.message_ok own hx hi args shows
  refine ⟨n, fun fuel le tell => ?_⟩
  rw [raiseValue_instance _ hx, H.isExceptionClass hi, if_pos rfl,
    M.bind_ok (message fuel le tell), getHeap_bind, H.className hi]
  rfl

/-- A missing key is shown as it reads. -/
theorem failKey_ok (H : m.Standard) (tell : Nat → Moment → M σ Unit) {fuel : Nat} (le : n < fuel)
    (tells : ∀ a ∈ v.addresses, m.heap.Tells a) (shown : m.heap.repr? n v = some s) :
    (failKey (runner tell (pure ()) fuel) v : M σ α) m = .error (.error ⟨.key s v, m.pos⟩) m := by
  have told : attempt ((runner tell (pure ()) fuel).repr v) m = .ok (.ok s) m := by
    simp only [attempt, H.repr_ok tell le tells shown]
  unfold failKey
  rw [M.bind_ok told]
  rfl

end Machine.Standard

/-! ### The story -/

/-- Whether the exception at an address is one that a handler sees for a fault. -/
def Machine.StandsFor (m : Machine σ) (x : Address) (f : Fault) : Prop :=
  ∃ i, m.heap.instance? x = some i ∧ m.exceptions.lookup f.kind = some i.cls ∧
    i.args = faultArguments f

/-- Whether the exception at an address tells the same story as a fault: it is of the class that the
fault is of, its text is the message of the fault, and so are class and message when it is raised
again. -/
structure Machine.Retold (m : Machine σ) (x : Address) (f : Fault) : Prop where
  cls : ∃ i, m.heap.instance? x = some i ∧ m.heap.className i.cls = f.kind
  str : ∃ n, ∀ fuel ≥ n, ∀ tell : Nat → Moment → M σ Unit,
    (runner tell (pure ()) fuel).str (.ref x) m = .ok f.message m
  raised : ∃ n, ∀ fuel ≥ n, ∀ tell : Nat → Moment → M σ Unit, ∃ again : Raised,
    raiseValue (runner tell (pure ()) fuel) (.ref x) m = .error (.error ⟨.raised again, m.pos⟩) m ∧
      (Fault.raised again).kind = f.kind ∧ (Fault.raised again).message = f.message

theorem Machine.Standard.retold {m : Machine σ} {x : Address} {f : Fault} (H : m.Standard)
    (own : f.isRaised = false) (shows : m.Shows f) (stands : m.StandsFor x f) : m.Retold x f := by
  obtain ⟨i, hx, known, args⟩ := stands
  have hi := mem_of_lookup (H.exceptions ▸ known)
  refine ⟨⟨i, hx, H.className hi⟩, H.str_ok own hx hi args shows, ?_⟩
  obtain ⟨n, again⟩ := H.raise_ok own hx hi args shows
  exact ⟨n, fun fuel le tell => ⟨_, again fuel le tell, rfl, rfl⟩⟩

/-- A key still reads the same when there is one more object. -/
theorem Machine.Shows.alloc {m : Machine σ} {f : Fault} (sound : m.heap.Sound) (H : m.Shows f)
    (o : Object) : { m with heap := (m.heap.alloc o).2 }.Shows f := by
  intro s v e
  obtain ⟨tells, n, text⟩ := H s v e
  refine ⟨fun a ha => ?_, n, ?_⟩
  · obtain ⟨o', ho', kind⟩ := tells a ha
    exact ⟨o', by rw [Heap.get?_alloc, if_neg (Heap.ne_next ho'), ho'], kind⟩
  · refine (Heap.repr?_alloc sound o (fun a ha => ?_) n).trans text
    obtain ⟨o', ho', scope, -⟩ := tells a ha
    exact ⟨o', ho', scope⟩

/-- A machine that tells the same story when an error of its own is caught. -/
structure Machine.Retells (m : Machine σ) : Prop where
  /-- A handler sees a new exception that stands for the error. -/
  bound : ∀ e : RuntimeError, e.fault.isRaised = false → m.Shows e.fault → ∃ m',
    exceptionObject e m = .ok (.ref m.heap.next) m' ∧ m'.StandsFor m.heap.next e.fault ∧
      m'.Retold m.heap.next e.fault
  /-- What stands for an error tells the same story from then on. -/
  retold : ∀ {x f}, f.isRaised = false → m.Shows f → m.StandsFor x f → m.Retold x f
  /-- A missing key is shown as it reads. -/
  missing : ∀ {α : Type} {v s n fuel} (tell : Nat → Moment → M σ Unit), n < fuel →
    (∀ a ∈ v.addresses, m.heap.Tells a) → m.heap.repr? n v = some s →
    (failKey (runner tell (pure ()) fuel) v : M σ α) m = .error (.error ⟨.key s v, m.pos⟩) m

theorem Machine.Evolved.retells {m : Machine σ} (H : m.Evolved) (sound : m.Sound) :
    m.Retells where
  bound e own shows := by
    have standard := H.standard sound
    obtain ⟨cls, known⟩ := Fault.lookup_kind own
    have known' : errorClass? m e = some cls := by
      rw [errorClass?, H.exceptions]
      revert own known
      cases e.fault with
      | raised => exact nofun
      | _ => exact fun _ known => known
    let o : Object := .inst ⟨cls, .empty, faultArguments e.fault⟩
    let m' : Machine σ := { m with heap := (m.heap.alloc o).2 }
    have made : exceptionObject e m = .ok (.ref m.heap.next) m' := by
      have look : (get : M σ (Machine σ)) m = .ok m m := rfl
      obtain ⟨f, pos⟩ := e
      cases f with
      | raised => cases own
      | _ =>
        refine (M.bind_ok look).trans ?_
        rw [known']
        rfl
    have stands : m'.StandsFor m.heap.next e.fault := by
      refine ⟨⟨cls, .empty, faultArguments e.fault⟩, ?_, H.exceptions ▸ known, rfl⟩
      rw [Heap.instance?_eq_some]
      exact (Heap.get?_alloc ..).trans (if_pos rfl)
    exact ⟨m', made, stands, (standard.alloc o).retold own (shows.alloc sound.heap o) stands⟩
  retold own shows stands := (H.standard sound).retold own shows stands
  missing tell le tells shown := (H.standard sound).failKey_ok tell le tells shown

/-- Whether what nothing can change in reads on a heap as it did on an earlier one. -/
def Heap.Remembers (h h' : Heap) : Prop :=
  ∀ v n, h.Holds v → (∀ a ∈ v.addresses, ∃ o, h'.get? a = some o ∧ o.isSteady = true) →
    h'.repr? n v = h.repr? n v

/-- Whether wherever a run from a machine on comes, errors of the machine tell the same story when
they are caught, and a key in which nothing can change reads as it did before. -/
def Machine.StaysTelling (m : Machine σ) (observe : Observer σ) : Prop :=
  ∀ fuel p,
    plainly (runProgram (trailing observe fuel) p m.trailed) =
        runProgram (watched observe fuel) p m ∧
      (∀ v ∈ (machineOf (runProgram (trailing observe fuel) p m.trailed)).log.visits,
        v.machine.Retells) ∧
      (machineOf (runProgram (trailing observe fuel) p m.trailed)).log.visits.Pairwise
        fun later earlier => earlier.machine.heap.Remembers later.machine.heap

theorem Heap.Evolves.remembers {own : Address → Prop} {h h' : Heap} (t : h.Evolves own h')
    (sound : h.Sound) (sound' : h'.Sound) : h.Remembers h' := fun _ n hv steady =>
  t.reprIn_eq sound sound' n hv steady

theorem Evolving.staysTelling {w w' : World} {m : Machine σ} (H : Evolving w m.trailed)
    (stands : Stands ⟨[], []⟩ w' m.trailed) (observe : Observer σ) : m.StaysTelling observe := by
  intro fuel p
  have evolved := H.trail_evolved observe fuel p
  have sound := ((stands.staysSound observe fuel p).2).machines
  refine ⟨trailing_runs observe fuel p m.trailed,
    fun v hv => (evolved.machines v hv).retells (sound v hv), ?_⟩
  refine evolved.course.imp_of_mem fun later earlier t => ?_
  exact t.remembers (sound _ earlier).heap (sound _ later).heap

/-- A caught error of the machine tells the same story as one that nobody catches, wherever a run
comes: the exception that a handler sees is of its class, has its message as text, and is raised
again as an error of the same class and message. An error about a missing key does so as long as the
key reads as it did when it was looked for; it always does if there is no instance in it. -/
theorem caught_retold (observe : Observer σ) (log : σ) (s : Listing) :
    (Machine.start log).StaysTelling observe ∧
      (Machine.forTrace s).StaysTelling (Recorder.observe s) := by
  obtain ⟨w, H⟩ := start_evolving log
  obtain ⟨w', stands⟩ := Sound.start_stands log
  obtain ⟨v, K⟩ := forTrace_evolving s
  obtain ⟨v', stands'⟩ := Sound.forTrace_stands s
  exact ⟨H.staysTelling (m := Machine.start log) stands observe,
    K.staysTelling (m := Machine.forTrace s) stands' (Recorder.observe s)⟩

/-- A script that looks for an exception in an empty dictionary, and then changes the list that the
exception was made with. -/
def searching : Program := [
  .mk (.assign [.name "l"] (.list [.int 1])) ⟨2, 5⟩ 2,
  .mk (.try_ [.mk (.expr (.subscript (.dict [])
      (.call (.name "ValueError") [.positional (.name "l")]))) ⟨4, 9⟩ 4] [] []
    [.mk (.expr (.call (.attribute (.name "l") "append") [.positional (.int 2)])) ⟨6, 9⟩ 6])
    ⟨3, 5⟩ 6]

/-- The same script inside a `try` that catches the error and prints it. -/
def searchingCaught : Program := [
  .mk (.try_ searching [.mk (some (.name "KeyError")) (some "e")
      [.mk (.expr (.call (.name "print") [.positional
        (.call (.name "str") [.positional (.name "e")])])) ⟨8, 5⟩ 8] ⟨7, 1⟩] [] []) ⟨1, 1⟩ 8]

/-- The message of a missing key is that of when it was looked for, but a handler reads the key as it
is now. -/
theorem caught_key_changed :
    (match runProgram (quiet 12) searching (Machine.start ()) with
      | .error (.error e) _ => some (e.fault.kind, e.fault.message)
      | _ => none) = some ("KeyError", "ValueError([1])") ∧
    (match runProgram (quiet 12) searchingCaught (Machine.start ()) with
      | .ok _ m => some m.output
      | _ => none) = some "ValueError([1, 2])\n" := by
  decide +kernel

end Stepwise
