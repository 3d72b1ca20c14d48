import Stepwise.Proofs.Course
import Stepwise.Proofs.Lineage

/-!
# Exception classes

In every state that a run comes through, a class is taken for an exception class only if it derives
from `BaseException`, and a class of a straight line is if it does (`exceptionClasses_discerned`): its
instances can be raised, and it can be named where exceptions are caught.

## The model

Whatever becomes of a heap, a class is younger than its bases, and has been given the order of lookup
that comes from theirs (`Evolves.lineal`). That the bases are still there comes from the references
being live.
-/

namespace Stepwise

open Script Coupling

variable {σ α β : Type}

/-! ### What a run keeps -/

namespace Heap

variable {h : Heap} {root a b : Address} {c : Class} {o : Object}

/-- A class that comes out of a change was one, of the same line. -/
theorem class?_modify {f : Object → Object} (hf : ∀ o, Like o (f o))
    (hc : (h.modify b f).class? a = some c) : ∃ c', h.class? a = some c' ∧ c'.bases = c.bases ∧
      c'.mro = c.mro ∧ c'.builtin = c.builtin := by
  rw [class?_eq_some, get?_modify] at hc
  split at hc
  · obtain ⟨o, ho, e⟩ := Option.map_eq_some_iff.1 hc
    have like := hf o
    rw [e] at like
    cases like with
    | refl => exact ⟨c, class?_eq_some.2 ho, rfl, rfl, rfl⟩
    | cls _ bases mro builtin => exact ⟨_, class?_eq_some.2 ho, bases, mro, builtin⟩
  · exact ⟨c, class?_eq_some.2 hc, rfl, rfl, rfl⟩

theorem isSome_get?_modify (f : Object → Object) :
    ((h.modify b f).get? a).isSome = (h.get? a).isSome := by
  rw [get?_modify]
  split <;> simp

theorem order_modify {f : Object → Object} (hf : ∀ o, Like o (f o)) :
    (h.modify b f).order a = h.order a := by
  rw [order, order, class?, class?, get?_modify]
  by_cases e : b = a
  · rw [if_pos e]
    cases h.get? a with
    | none => rfl
    | some o =>
      have like := hf o
      rw [Option.map_some]
      revert like
      generalize f o = o'
      intro like
      cases like with
      | cls _ _ mro => exact mro.symm
      | _ => rfl
  · rw [if_neg e]

/-- A class keeps its line when it changes. -/
theorem Lineal.modify (H : h.Lineal root) {f : Object → Object} (hf : ∀ o, Like o (f o)) :
    (h.modify b f).Lineal root where
  older hc := by
    obtain ⟨c', hc', bases, -⟩ := class?_modify hf hc
    exact bases ▸ H.older hc'
  mro hc there := by
    obtain ⟨c', hc', bases, mro, -⟩ := class?_modify hf hc
    rw [linearize_congr fun b _ => order_modify hf, ← mro, ← bases]
    refine H.mro hc' fun b hb => ?_
    rw [← isSome_get?_modify f]
    exact there b (bases ▸ hb)
  builtin hc := by
    obtain ⟨c', hc', -, mro, builtin⟩ := class?_modify hf hc
    rw [← mro, ← builtin]
    exact H.builtin hc'
  top ho := by
    rw [get?_modify] at ho
    split at ho
    · obtain ⟨o, found, rfl⟩ := Option.map_eq_some_iff.1 ho
      obtain ⟨c, rfl, builtin, bases⟩ := H.top found
      have like := hf (.cls c)
      revert like
      generalize f (.cls c) = o'
      intro like
      cases like with
      | refl => exact ⟨c, rfl, builtin, bases⟩
      | cls _ same _ flag => exact ⟨_, rfl, flag ▸ builtin, same ▸ bases⟩
    · exact H.top ho
  used := by
    rw [next_modify]
    exact H.used

end Heap

/-- The class that all exceptions derive from. -/
def baseException : Address := Heap.base + 1

/-- Classes keep their lines, whatever becomes of a heap. -/
theorem Heap.Evolves.lineal {own : Address → Prop} {h h' : Heap} {root : Address}
    (H : h.Lineal root) (t : h.Evolves own h') : h'.Lineal root := by
  induction t with
  | start => exact H
  | alloc o data _ ih => exact ih.alloc fun c e => absurd e (data c)
  | create name older _ ih => exact ih.allocClass name older
  | tuple items _ ih => exact { ih with }
  | modify like _ _ ih => exact ih.modify like
  | free _ _ ih => exact ih.free

/-! ### The start -/

/-- Whether what stands at an address is a class of a known line, or none. -/
def Heap.isOfLine (h : Heap) (root a : Address) : Bool :=
  (h.class? a).all fun c => c.bases.all (· < a) && c.mro = h.linearize a c.bases &&
    (!c.builtin || c.mro.contains root)

/-- A heap is lineal if the classes on it are of known lines. -/
theorem Heap.lineal_of_check {h : Heap} {root : Address}
    (lines : ∀ i < h.size, h.isOfLine root (base + i) = true)
    (top : ∃ c, h.class? root = some c ∧ c.builtin = true ∧ c.bases = []) : h.Lineal root := by
  have line {a : Address} {c : Class} (hc : h.class? a = some c) :
      (∀ b ∈ c.bases, b < a) ∧ c.mro = h.linearize a c.bases ∧
        (c.builtin = true → root ∈ c.mro) := by
    have high : base ≤ a := Nat.not_lt.1 fun low => by
      rw [class?_eq_some, get?, if_pos low] at hc
      cases hc
    have ok := lines (a - base) (Nat.sub_lt_left_of_lt_add high (Lineal.class_lt_next hc))
    rw [Nat.add_sub_cancel' high, isOfLine, hc] at ok
    obtain ⟨older, mro, top⟩ : (∀ b ∈ c.bases, b < a) ∧ c.mro = h.linearize a c.bases ∧
        (c.builtin = false ∨ root ∈ c.mro) := by simpa [and_assoc] using ok
    exact ⟨older, mro, fun builtin => top.resolve_left (by simp [builtin])⟩
  obtain ⟨c, hc, builtin, bases⟩ := top
  exact {
    older := fun hc => (line hc).1
    mro := fun hc _ => (line hc).2.1
    builtin := fun hc => (line hc).2.2
    top := fun ho => ⟨c, Option.some.inj (ho.symm.trans (class?_eq_some.1 hc)), builtin, bases⟩
    used := Lineal.class_lt_next hc }

theorem start_lineal (log : σ) : (Machine.start log).heap.Lineal baseException :=
  Heap.lineal_of_check (h := (Machine.start log).heap)
    (by show ∀ i < (Machine.start ()).heap.size, (Machine.start ()).heap.isOfLine _ _ = true
        decide +kernel)
    ⟨⟨"BaseException", [], [baseException], .empty, true⟩, by rfl, rfl, rfl⟩

/-! ### The states of a run -/

/-- A sound machine of known lines has all that its classes refer to. -/
theorem Machine.Sound.rooted {m : Machine σ} (sound : m.Sound)
    (lineal : m.heap.Lineal baseException) (exceptions : m.exceptions = builtinExceptions) :
    m.heap.Rooted baseException where
  toLineal := lineal
  bases {a c} hc b hb := by
    have listed : Value.ref b ∈ (Object.cls c).held :=
      List.mem_append_left _ (List.mem_map_of_mem (List.mem_append_left _ hb))
    obtain ⟨o, ho, -⟩ := sound.heap.held (Heap.class?_eq_some.1 hc) _ listed b
      (by simp [Value.addresses])
    rw [ho]
    rfl
  there := by
    have known : ("BaseException", baseException) ∈ m.exceptions :=
      exceptions ▸ List.mem_cons_self
    obtain ⟨o, ho, -⟩ := sound.exceptions _ known
    rw [ho]
    rfl

/-! ### Raising and catching -/

/-- What raising an instance comes to, by whether its class is taken for an exception class. -/
theorem raiseValue_instance {m : Machine σ} {i : Address} {inst : Instance} (r : Runner σ)
    (hi : m.heap.instance? i = some inst) :
    raiseValue r (.ref i) m = (if m.heap.isExceptionClass inst.cls then do
        let message ← exceptionMessage r (.ref i)
        fail (.raised ⟨inst.cls, (← getHeap).className inst.cls, .ref i, message⟩)
      else fail (.type .notException)) m := by
  have instance_ : m.heap.isExceptionClass i = false := by
    unfold Heap.instance? at hi
    split at hi
    · next e => rw [Heap.isExceptionClass, Heap.class?, e]
    · cases hi
  have object : raisedObject r (.ref i) m = .ok (.ref i) m := by
    show (if m.heap.isExceptionClass i then instantiate r i [] [] else return .ref i : M σ Value) m
      = _
    rw [instance_]
    rfl
  have cls : m.heap.classOf? (.ref i) = some inst.cls := by
    simp [Heap.classOf?, Value.address?, hi]
  rw [raiseValue, M.bind_ok object, getHeap_bind, cls, Option.filter_some]
  split <;> rfl

/-- Whether a machine takes the right classes for exception classes: none but those that derive from
`BaseException`, and of those in a straight line all. -/
structure Machine.Discerns (m : Machine σ) (root : Address) : Prop where
  known : m.exceptions.lookup "BaseException" = some root
  /-- A class derives from those in its order of lookup. -/
  subclass : ∀ {a d}, m.heap.isSubclass a d = true ↔
    (∃ c, m.heap.class? a = some c) ∧ m.heap.Derives a d
  sound : ∀ {a}, m.heap.isExceptionClass a = true → m.heap.isSubclass a root = true
  complete : ∀ {a}, m.heap.Straight root a →
    m.heap.isExceptionClass a = m.heap.isSubclass a root
  /-- An instance can be raised if its class derives from the root. -/
  raised : ∀ {a i inst} (r : Runner σ), m.heap.Straight root a →
    m.heap.instance? i = some inst → inst.cls = a →
    raiseValue r (.ref i) m = (if m.heap.isSubclass a root then do
        let message ← exceptionMessage r (.ref i)
        fail (.raised ⟨a, (← getHeap).className a, .ref i, message⟩)
      else fail (.type .notException)) m
  /-- A class can be named where exceptions are caught if it derives from the root. -/
  caught : ∀ {a} (e : RuntimeError), m.heap.Straight root a →
    catches? m e (.ref a) = if m.heap.isSubclass a root then
      some ((errorClass? m e).any (m.heap.isSubclass · a)) else none

theorem Heap.Rooted.discerns {m : Machine σ} (H : m.heap.Rooted baseException)
    (exceptions : m.exceptions = builtinExceptions) : m.Discerns baseException := by
  have isClass {a : Address} (he : m.heap.isExceptionClass a = true) :
      ∃ c, m.heap.class? a = some c := by
    cases hc : m.heap.class? a with
    | none => simp [Heap.isExceptionClass, hc] at he
    | some c => exact ⟨c, rfl⟩
  have sound {a : Address} (he : m.heap.isExceptionClass a = true) :
      m.heap.isSubclass a baseException = true :=
    H.layered.isSubclass_iff.2 ⟨isClass he, H.derives_of_isExceptionClass he⟩
  have complete {a : Address} (straight : m.heap.Straight baseException a) :
      m.heap.isExceptionClass a = m.heap.isSubclass a baseException := by
    refine Bool.eq_iff_iff.2 ⟨sound, fun hs => ?_⟩
    obtain ⟨⟨c, hc⟩, derives⟩ := H.layered.isSubclass_iff.1 hs
    exact (H.isExceptionClass_iff hc straight).2 derives
  constructor
  case known => rw [exceptions]; rfl
  case subclass => exact H.layered.isSubclass_iff
  case sound => exact sound
  case complete => exact complete
  case raised =>
    rintro a i inst r straight hi rfl
    rw [raiseValue_instance r hi, complete straight]
  case caught =>
    intro a e straight
    rw [catches?, complete straight]

/-- Whether every run from a machine on comes through nothing but machines that take the right
classes for exception classes: those on the trail of the same run, whether it ends or not. -/
def Machine.StaysDiscerning (m : Machine σ) (observe : Observer σ) : Prop :=
  ∀ fuel p,
    plainly (runProgram (trailing observe fuel) p m.trailed) =
        runProgram (watched observe fuel) p m ∧
      ∀ v ∈ (machineOf (runProgram (trailing observe fuel) p m.trailed)).log.visits,
        v.machine.Discerns baseException

/-- A machine whose classes stand above each other, the built-in exception classes at their root. -/
structure Machine.Rooted (m : Machine σ) : Prop where
  heap : m.heap.Rooted baseException
  exceptions : m.exceptions = builtinExceptions

theorem Machine.Evolved.rooted {m : Machine σ} (H : m.Evolved) (sound : m.Sound) : m.Rooted where
  heap := sound.rooted (H.heap.lineal (start_lineal ())) H.exceptions
  exceptions := H.exceptions

theorem start_always_rooted (observe : Observer σ) (log : σ) :
    (Machine.start log).Always observe Machine.Rooted :=
  (start_always_evolved observe log).mono fun _ H => H.2.rooted H.1

theorem forTrace_always_rooted (s : Listing) :
    (Machine.forTrace s).Always (Recorder.observe s) Machine.Rooted :=
  (forTrace_always_evolved s).mono fun _ H => H.2.rooted H.1

/-- Exception classes are recognised in straight lines: wherever a run comes, whoever watches it, a
class that is taken for an exception class derives from `BaseException`, and where each class derives
from that through its last base only, deriving from it is enough. -/
theorem exceptionClasses_discerned (observe : Observer σ) (log : σ) (s : Listing) :
    (Machine.start log).StaysDiscerning observe ∧
      (Machine.forTrace s).StaysDiscerning (Recorder.observe s) :=
  ⟨(start_always_rooted observe log).mono fun _ H => H.heap.discerns H.exceptions,
    (forTrace_always_rooted s).mono fun _ H => H.heap.discerns H.exceptions⟩

/-- A class of two exception classes that the script has made derives from `BaseException`, but is
not taken for an exception class: what comes last in its order of lookup is its second base. -/
example :
    let h := (Machine.start ()).heap
    let (a, h) := h.allocClass "A" [baseException] false
    let (b, h) := h.allocClass "B" [baseException] false
    let (c, h) := h.allocClass "C" [a, b] false
    h.isSubclass c baseException = true ∧ h.isExceptionClass c = false := by
  decide +kernel

end Stepwise
