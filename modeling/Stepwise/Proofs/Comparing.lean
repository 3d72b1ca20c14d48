import Stepwise.Proofs.Extent
import Stepwise.Proofs.Tour

/-!
# The walk of comparing

Two values are compared by comparing what they hold, pair after pair, until the outcome is clear.
Nothing is remembered on the way, so it is a walk on which every comparison of two objects is a
fresh start (`Heap.comparing`), and a comparison comes to a result or an error exactly if its walk
comes to an end within the bound (`comparison_concludes`).

## The model

What a comparison for equality has to do is a list of steps (`Heap.checks`), of which those that
come to other values are comparisons again. What it says of them is a relation (`Heap.Answer`), so
which comparisons are made inside another one does not depend on any bound (`Heap.Involves`). No
class of the values involved says how they are compared (`Heap.AllMute`).
-/

namespace Stepwise

open Relation Script

variable {σ : Type}

/-! ### Steps of equality -/

/-- A step in telling whether two values are equal. -/
inductive Check where
  /-- Nothing is left to do. -/
  | pass
  /-- The values are not equal. -/
  | differ
  /-- A value without a key is looked up. -/
  | fail (v : Value)
  /-- Two values that are held have to be equal. -/
  | pair (a b : Value)

namespace Heap

variable (h : Heap)

/-- The steps to a known answer. -/
def known (answer : Bool) : List Check := if answer then [] else [.differ]

/-- The steps for the entry of a dictionary, compared to another dictionary. -/
def entryCheck (other : Address) (e : Value × Value) : Check :=
  match h.key? e.1 with
  | none => .fail e.1
  | some k => match (h.dict? other).bind (·.value? k) with
    | some v => .pair e.2 v
    | none => .differ

/-- The step for the member of a set, compared to another set. -/
def memberCheck (t : Table) (v : Value) : Check :=
  match h.key? v with
  | none => .fail v
  | some k => if t.contains k then .pass else .differ

/-- The steps in telling whether two values that are not both numbers are equal. -/
def shapeChecks (a b : Value) : List Check :=
  match h.shape a, h.shape b with
  | .instance_, _ | _, .instance_ => known (a.identical b)
  | .sequence as, .sequence bs =>
    if isTuple a != isTuple b || as.length ≠ bs.length then [.differ]
    else (as.zip bs).map fun p => .pair p.1 p.2
  | .mapping s, .mapping t =>
    match b.address? with
    | some other => if s.size ≠ t.size then [.differ] else s.pairs.map (h.entryCheck other)
    | none => [.differ]
  | .set s, .set t => if s.size ≠ t.size then [.differ] else s.members.map (h.memberCheck t)
  | .scalar, .scalar => known (sameScalar a b)
  | _, _ => [.differ]

/-- The steps in telling whether two values are equal. -/
def checks (a b : Value) : List Check :=
  match a.asInt?, b.asInt? with
  | some x, some y => known (x = y)
  | _, _ =>
    match a.asFloat?, b.asFloat? with
    | some x, some y => known (x == y)
    | _, _ => if sameObject h a b then [] else h.shapeChecks a b

/-- What comes out of some steps: whether all of them find their values equal, or the value that was
looked up without a key. -/
inductive Answer : List Check → Except Value Bool → Prop
  | nil : Answer [] (.ok true)
  | pass {cs : List Check} {answer : Except Value Bool} :
    Answer cs answer → Answer (.pass :: cs) answer
  | differ {cs : List Check} : Answer (.differ :: cs) (.ok false)
  | fail {v : Value} {cs : List Check} : Answer (.fail v :: cs) (.error v)
  | same {a b : Value} {cs : List Check} {answer : Except Value Bool} :
    Answer (h.checks a b) (.ok true) → Answer cs answer → Answer (.pair a b :: cs) answer
  | other {a b : Value} {cs : List Check} {answer : Except Value Bool} :
    Answer (h.checks a b) answer → answer ≠ .ok true → Answer (.pair a b :: cs) answer

/-- What a comparison for equality says. -/
def Equals (a b : Value) (answer : Except Value Bool) : Prop := h.Answer (h.checks a b) answer

end Heap

/-- Does some steps. -/
def doChecks (r : Runner σ) : List Check → M σ Bool
  | [] => return true
  | .pass :: cs => doChecks r cs
  | .differ :: _ => return false
  | .fail v :: _ => failType .unhashable v
  | .pair a b :: cs => do if ← r.equals a b then doChecks r cs else return false

/-! ### Comparisons -/

/-- A kind of comparison. -/
inductive ComparisonKind where
  /-- Whether two values are equal. -/
  | equal
  /-- Which value comes first. -/
  | order
  /-- Whether the right value is held by the left one. -/
  | member

/-- Two values to be compared. -/
structure Comparison where
  /-- How they are compared. -/
  kind : ComparisonKind
  /-- The left value. -/
  left : Value
  /-- The right value. -/
  right : Value

/-- Compares two values; `op` says what is asked about their order. -/
def Comparison.run (r : Runner σ) (op : CompareOp) : Comparison → M σ Bool
  | ⟨.equal, a, b⟩ => r.equals a b
  | ⟨.order, a, b⟩ => r.run (.order op a b)
  | ⟨.member, a, b⟩ => contains r a b

namespace Heap

variable (h : Heap)

/-- The items of two sequences of one kind, side by side. -/
def sideBySide (a b : Value) : List Check :=
  match h.shape a, h.shape b with
  | .sequence as, .sequence bs =>
    if isTuple a == isTuple b then (as.zip bs).map fun p => .pair p.1 p.2 else []
  | _, _ => []

/-- The items of a sequence. -/
def itemsOf (v : Value) : List Value :=
  match h.shape v with
  | .sequence items => items
  | _ => []

/-- Two values that have to be equal are come to in doing some steps. -/
inductive Asks : List Check → Value → Value → Prop
  | here {a b : Value} {cs : List Check} : Asks (.pair a b :: cs) a b
  | pass {a b : Value} {cs : List Check} : Asks cs a b → Asks (.pass :: cs) a b
  | same {a b x y : Value} {cs : List Check} :
    h.Equals a b (.ok true) → Asks cs x y → Asks (.pair a b :: cs) x y

/-- A value is compared in looking for another one. -/
inductive Tries (v : Value) : List Value → Value → Prop
  | here {x : Value} {xs : List Value} : x.identical v = false → Tries v (x :: xs) x
  | later {x y : Value} {xs : List Value} :
    x.identical v = false → h.Equals x v (.ok false) → Tries v xs y → Tries v (x :: xs) y

/-- A comparison is made inside another one. -/
inductive Involves : Comparison → Comparison → Prop
  | equal {a b x y : Value} : h.Asks (h.checks a b) x y → Involves ⟨.equal, a, b⟩ ⟨.equal, x, y⟩
  | item {a b x y : Value} : h.Asks (h.sideBySide a b) x y → Involves ⟨.order, a, b⟩ ⟨.equal, x, y⟩
  | order {a b x y : Value} : h.Asks (h.sideBySide a b) x y → h.Equals x y (.ok false) →
    Involves ⟨.order, a, b⟩ ⟨.order, x, y⟩
  | member {a v x : Value} : h.Tries v (h.itemsOf a) x → Involves ⟨.member, a, v⟩ ⟨.equal, x, v⟩

/-- A comparison comes to one that is made again inside itself. -/
def Circular (c : Comparison) : Prop := ∃ d, ReflTransGen h.Involves c d ∧ TransGen h.Involves d d

variable {h} {cs : List Check} {answer answer' : Except Value Bool}

theorem Answer.unique (first : h.Answer cs answer) (second : h.Answer cs answer') :
    answer = answer' := by
  induction first generalizing answer' with
  | nil | differ | fail =>
    cases second
    rfl
  | pass _ ih =>
    cases second with
    | pass rest => exact ih rest
  | same _ _ ih ih' =>
    cases second with
    | same _ rest => exact ih' rest
    | other found ne => exact absurd (ih found).symm ne
  | other _ ne ih =>
    cases second with
    | same found _ => exact absurd (ih found) ne
    | other found _ => exact ih found

/-- The special methods that comparisons call. -/
def comparisonMethods : List String :=
  ["__eq__", "__lt__", "__le__", "__gt__", "__ge__", "__contains__"]

/-- The class of a value, if it has one, does not say how it is compared. -/
def Mute (h : Heap) (v : Value) : Prop :=
  ∀ cls, h.classOf? v = some cls → ∀ name ∈ comparisonMethods, h.classLookup? cls name = none

/-- The values that are compared as parts of a value. -/
def within (h : Heap) (v : Value) : List Value :=
  match h.shape v with
  | .sequence items => items
  | .mapping t => t.pairs.map (·.2)
  | _ => []

/-- No class of the values in a value says how they are compared. -/
def AllMute (h : Heap) (v : Value) : Prop :=
  ∀ u, ReflTransGen (fun a b => b ∈ h.within a) v u → h.Mute u

theorem AllMute.here {v : Value} (mute : h.AllMute v) : h.Mute v := mute v .refl

theorem AllMute.of_mem {u v : Value} (mute : h.AllMute v) (mem : u ∈ h.within v) : h.AllMute u :=
  fun w reach => mute w (.head mem reach)

end Heap

/-! ### Coming to an end -/

theorem attempt_eq_ok {α : Type} {x : M σ α} {m m' : Machine σ} {a : α} :
    attempt x m = .ok (.ok a) m' ↔ x m = .ok a m' := by
  unfold attempt
  split <;> simp_all

theorem attempt_eq_error {α : Type} {x : M σ α} {m m' : Machine σ} {e : RuntimeError} :
    attempt x m = .ok (.error e) m' ↔ x m = .error (.error e) m' := by
  unfold attempt
  split <;> simp_all

/-- Whether `x` comes to an end is decided by `p`: if so, it leaves the machine as it is, with a
result or an error for which `out` holds, and else the bound is too small. -/
def Concludes (p : Prop) (out : Except RuntimeError Bool → Prop) (x : M σ Bool) (m : Machine σ) :
    Prop :=
  (p → ∃ res, out res ∧ attempt x m = .ok res m) ∧ (¬p → x m = .error .outOfFuel m)

/-- The error of looking up a value without a key. -/
def Machine.unhashable (m : Machine σ) (v : Value) : RuntimeError :=
  ⟨.type (.unhashable (m.heap.typeName v)), m.pos⟩

/-- What a comparison for equality gives. -/
def Machine.said (m : Machine σ) : Except Value Bool → Except RuntimeError Bool
  | .ok b => .ok b
  | .error v => .error (m.unhashable v)

/-- A result that says what comes out of some steps. -/
def Machine.Says (m : Machine σ) (cs : List Check) (res : Except RuntimeError Bool) : Prop :=
  ∃ answer, m.heap.Answer cs answer ∧ res = m.said answer

namespace Concludes

variable {m : Machine σ} {p q : Prop} {out : Except RuntimeError Bool → Prop} {x y : M σ Bool}

theorem congr (same : p ↔ q) (hx : Concludes p out x m) : Concludes q out x m := by
  rwa [← propext same]

theorem mono {out' : Except RuntimeError Bool → Prop} (more : ∀ res, out res → out' res)
    (hx : Concludes p out x m) : Concludes p out' x m :=
  ⟨fun h => (hx.1 h).imp fun res said => ⟨more res said.1, said.2⟩, hx.2⟩

theorem of_eq (same : x m = y m) (hy : Concludes p out y m) : Concludes p out x m := by
  unfold Concludes attempt
  rwa [same]

theorem pure {b : Bool} (holds : p) (said : out (.ok b)) : Concludes p out (Pure.pure b) m :=
  ⟨fun _ => ⟨.ok b, said, rfl⟩, fun h => absurd holds h⟩

theorem error {e : RuntimeError} (holds : p) (said : out (.error e))
    (run : x m = .error (.error e) m) : Concludes p out x m :=
  ⟨fun _ => ⟨.error e, said, by rw [attempt, run]⟩, fun h => absurd holds h⟩

/-- What is done next concludes too, or the result was clear. -/
theorem bind {out' : Except RuntimeError Bool → Prop} {f : Bool → M σ Bool}
    (hx : Concludes p out x m) (hp : q → p) (hf : ∀ b, p → out (.ok b) → Concludes q out' (f b) m)
    (he : ∀ e, p → out (.error e) → q ∧ out' (.error e)) : Concludes q out' (x >>= f) m := by
  by_cases holds : p
  · obtain ⟨res, said, run⟩ := hx.1 holds
    cases res with
    | ok b =>
      exact .of_eq (M.bind_ok (attempt_eq_ok.1 run)) (hf b holds said)
    | error e =>
      obtain ⟨hq, said'⟩ := he e holds said
      exact .error hq said' (M.bind_error (attempt_eq_error.1 run))
  · exact ⟨fun hq => absurd (hp hq) holds, fun _ => M.bind_error (hx.2 holds)⟩

end Concludes

variable {m : Machine σ} {r : Runner σ} {E : Value → Value → Prop} {cs : List Check}

theorem Machine.Says.ok {b : Bool} (said : m.Says cs (.ok b)) : m.heap.Answer cs (.ok b) := by
  obtain ⟨answer, answered, same⟩ := said
  cases answer with
  | ok _ =>
    cases same
    exact answered
  | error _ => cases same

theorem Machine.Says.error {e : RuntimeError} (said : m.Says cs (.error e)) :
    ∃ v, m.heap.Answer cs (.error v) ∧ e = m.unhashable v := by
  obtain ⟨answer, answered, same⟩ := said
  cases answer with
  | ok _ => cases same
  | error v =>
    cases same
    exact ⟨v, answered, rfl⟩

/-- Nothing more is asked after two values that are not equal. -/
theorem asks_of_unequal {a b x y : Value} {answer : Except Value Bool}
    (answered : m.heap.Equals a b answer) (ne : answer ≠ .ok true)
    (asks : m.heap.Asks (.pair a b :: cs) x y) : x = a ∧ y = b := by
  cases asks with
  | here => exact ⟨rfl, rfl⟩
  | same equal => exact absurd (answered.unique equal) ne

/-- Some steps come to an end if the comparisons that they come to do. -/
theorem doChecks_concludes
    (equals : ∀ {a b}, .pair a b ∈ cs →
      Concludes (E a b) (m.Says (m.heap.checks a b)) (r.equals a b) m) :
    Concludes (∀ a b, m.heap.Asks cs a b → E a b) (m.Says cs) (doChecks r cs) m := by
  induction cs with
  | nil => exact .pure (fun _ _ asks => nomatch asks) ⟨_, .nil, rfl⟩
  | cons c cs ih =>
    have rest := ih fun mem => equals (List.mem_cons_of_mem c mem)
    cases c with
    | pass =>
      refine .congr ⟨fun all x y asks => ?_, fun all x y asks => all x y (.pass asks)⟩
        (rest.mono fun res ⟨answer, answered, said⟩ => ⟨answer, .pass answered, said⟩)
      cases asks with
      | pass asks => exact all x y asks
    | differ => exact .pure (fun _ _ asks => nomatch asks) ⟨_, .differ, rfl⟩
    | fail v => exact .error (fun _ _ asks => nomatch asks) ⟨_, .fail, rfl⟩ rfl
    | pair a b =>
      refine (equals List.mem_cons_self).bind (fun all => all a b .here) (fun equal here said => ?_)
        fun e here said => ?_
      · have answered := said.ok
        cases equal with
        | true =>
          refine .congr ⟨fun all x y asks => ?_, fun all x y asks => all x y (.same answered asks)⟩
            (rest.mono fun res ⟨answer, rest, said⟩ => ⟨answer, .same answered rest, said⟩)
          cases asks with
          | here => exact here
          | same _ asks => exact all x y asks
        | false =>
          refine .pure (fun x y asks => ?_) ⟨_, .other answered nofun, rfl⟩
          obtain ⟨rfl, rfl⟩ := asks_of_unequal answered nofun asks
          exact here
      · obtain ⟨v, answered, rfl⟩ := said.error
        refine ⟨fun x y asks => ?_, _, .other answered nofun, rfl⟩
        obtain ⟨rfl, rfl⟩ := asks_of_unequal answered nofun asks
        exact here

/-- Comparing the items of two sequences comes to an end if those comparisons do. -/
theorem sequenceOrder_concludes {op : CompareOp} {O : Value → Value → Prop} :
    ∀ {as bs : List Value},
    (∀ {a b}, .pair a b ∈ (as.zip bs).map (fun p => Check.pair p.1 p.2) →
      Concludes (E a b) (m.Says (m.heap.checks a b)) (r.equals a b) m ∧
        Concludes (O a b) (fun _ => True) (r.run (.order op a b)) m) →
    Concludes (∀ a b, m.heap.Asks ((as.zip bs).map fun p => .pair p.1 p.2) a b →
        E a b ∧ (m.heap.Equals a b (.ok false) → O a b)) (fun _ => True)
      (sequenceOrder r op as bs) m
  | [], _, _ | _ :: _, [], _ => .pure (fun _ _ asks => nomatch asks) trivial
  | a :: as, b :: bs, parts => by
    have rest := sequenceOrder_concludes fun mem => parts (List.mem_cons_of_mem _ mem)
    obtain ⟨equals, order⟩ := parts List.mem_cons_self
    refine equals.bind (fun all => (all a b .here).1) (fun equal here said => ?_)
      fun e here said => ?_
    · have answered := said.ok
      cases equal with
      | true =>
        refine .congr ⟨fun all x y asks => ?_,
          fun all x y asks => all x y (.same answered asks)⟩ rest
        cases asks with
        | here => exact ⟨here, fun differ => nomatch answered.unique differ⟩
        | same _ asks => exact all x y asks
      | false =>
        refine .congr ⟨fun ends x y asks => ?_, fun all => (all a b .here).2 answered⟩ order
        obtain ⟨rfl, rfl⟩ := asks_of_unequal answered nofun asks
        exact ⟨here, fun _ => ends⟩
    · obtain ⟨v, answered, rfl⟩ := said.error
      refine ⟨fun x y asks => ?_, trivial⟩
      obtain ⟨rfl, rfl⟩ := asks_of_unequal answered nofun asks
      exact ⟨here, fun differ => nomatch answered.unique differ⟩

/-- Looking for a value comes to an end if the comparisons with it do. -/
theorem isAmong_concludes {v : Value} {E : Value → Prop} : ∀ {xs : List Value},
    (∀ {x}, x ∈ xs → Concludes (E x) (m.Says (m.heap.checks x v)) (r.equals x v) m) →
    Concludes (∀ x, m.heap.Tries v xs x → E x) (fun _ => True) (isAmong r v xs) m
  | [], _ => .pure (fun _ tries => nomatch tries) trivial
  | c :: cs, parts => by
    have rest := isAmong_concludes fun mem => parts (List.mem_cons_of_mem c mem)
    rw [isAmong]
    cases same : c.identical v with
    | true =>
      refine .pure (fun x tries => ?_) trivial
      cases tries with
      | here ne | later ne => cases same.symm.trans ne
    | false =>
      refine (parts List.mem_cons_self).bind (fun all => all c (.here same))
        (fun equal here said => ?_) fun e here said => ?_
      · have answered := said.ok
        cases equal with
        | true =>
          refine .pure (fun x tries => ?_) trivial
          cases tries with
          | here => exact here
          | later _ differ => cases answered.unique differ
        | false =>
          refine .congr ⟨fun all x tries => ?_,
            fun all x tries => all x (.later same answered tries)⟩ rest
          cases tries with
          | here => exact here
          | later _ _ tries => exact all x tries
      · obtain ⟨u, answered, rfl⟩ := said.error
        refine ⟨fun x tries => ?_, trivial⟩
        cases tries with
        | here => exact here
        | later _ differ => cases answered.unique differ

/-! ### Equality does its steps -/

theorem doChecks_known {answer : Bool} :
    doChecks r (Heap.known answer) m = (pure answer : M σ Bool) m := by
  cases answer <;> rfl

theorem allEqual_eq : ∀ as bs : List Value,
    allEqual r as bs = doChecks r ((as.zip bs).map fun p => .pair p.1 p.2)
  | [], _ | _ :: _, [] => rfl
  | a :: as, b :: bs => by
    rw [allEqual, allEqual_eq as bs]
    rfl

theorem keyOf_none {v : Value} (key : m.heap.key? v = none) :
    keyOf v m = .error (.error (m.unhashable v)) m := by
  rw [keyOf, getHeap_bind, key]
  rfl

theorem hasMembers_eq (t : Table) (vs : List Value) :
    hasMembers t vs m = doChecks r (vs.map (m.heap.memberCheck t)) m := by
  induction vs with
  | nil => rfl
  | cons v vs ih =>
    rw [hasMembers, List.map_cons, Heap.memberCheck]
    cases key : m.heap.key? v with
    | none => exact M.bind_error (keyOf_none key)
    | some k =>
      rw [M.bind_ok (keyOf_some key)]
      by_cases found : t.contains k = true
      · simp only [found, if_true]
        exact ih
      · simp only [found]
        rfl

/-- The comparisons among some steps leave the machine as it is. -/
def Unmoved (r : Runner σ) (m : Machine σ) (cs : List Check) : Prop :=
  ∀ a b, .pair a b ∈ cs → ∀ equal m', r.equals a b m = .ok equal m' → m' = m

theorem hasEntries_eq (other : Address) : ∀ es : List (Value × Value),
    Unmoved r m (es.map (m.heap.entryCheck other)) →
    hasEntries r other es m = doChecks r (es.map (m.heap.entryCheck other)) m
  | [], _ => rfl
  | e :: es, unmoved => by
    have rest := hasEntries_eq other es fun a b mem => unmoved a b (List.mem_cons_of_mem _ mem)
    have first (a b : Value) (same : m.heap.entryCheck other e = .pair a b) :=
      unmoved a b (by rw [List.map_cons, same]; exact List.mem_cons_self)
    rw [hasEntries, List.map_cons]
    rw [Heap.entryCheck] at first ⊢
    cases key : m.heap.key? e.1 with
    | none => exact M.bind_error (keyOf_none key)
    | some k =>
      rw [M.bind_ok (keyOf_some key), getHeap_bind]
      cases found : (m.heap.dict? other).bind (·.value? k) with
      | none =>
        simp only [found]
        rfl
      | some v =>
        simp only [found]
        show (r.equals e.2 v >>= _) m = (r.equals e.2 v >>= _) m
        cases run : r.equals e.2 v m with
        | ok equal m' =>
          rw [first e.2 v (by simp only [key, found]) _ _ run] at run
          rw [M.bind_ok run, M.bind_ok run]
          cases equal with
          | true => exact rest
          | false => rfl
        | error => rw [M.bind_error run, M.bind_error run]

theorem askSpecial_none {a b : Value} {method reflected : String} (mute : m.heap.Mute a)
    (mute' : m.heap.Mute b) (listed : method ∈ Heap.comparisonMethods)
    (listed' : reflected ∈ Heap.comparisonMethods) :
    askSpecial r a b method reflected m = .ok none m := by
  unfold askSpecial
  rw [M.bind_ok (Machine.callSpecial_none fun cls found => mute cls found _ listed)]
  show (callSpecial r b reflected [a] >>= _) m = _
  rw [M.bind_ok (Machine.callSpecial_none fun cls found => mute' cls found _ listed')]
  rfl

theorem equalShapes_eq {a b : Value} (mute : m.heap.Mute a) (mute' : m.heap.Mute b)
    (unmoved : Unmoved r m (m.heap.shapeChecks a b)) :
    equalShapes r a b m = doChecks r (m.heap.shapeChecks a b) m := by
  have special : askSpecial r a b "__eq__" "__eq__" m = .ok none m :=
    askSpecial_none mute mute' (by decide) (by decide)
  have instances : (askSpecial r a b "__eq__" "__eq__" >>= fun answer =>
      pure (answer.getD (a.identical b)) : M σ Bool) m =
      doChecks r (Heap.known (a.identical b)) m := by
    rw [M.bind_ok special, doChecks_known]
    rfl
  unfold equalShapes
  unfold Heap.shapeChecks at unmoved ⊢
  rw [getHeap_bind]
  cases left : m.heap.shape a with
  | instance_ => exact instances
  | sequence as =>
    cases m.heap.shape b with
    | instance_ => exact instances
    | sequence bs =>
      simp only
      split
      · rfl
      · rw [allEqual_eq]
    | _ => rfl
  | mapping s =>
    cases right : m.heap.shape b with
    | instance_ => exact instances
    | mapping t =>
      simp only [left, right] at unmoved ⊢
      cases address : b.address? with
      | none => rfl
      | some other =>
        simp only [address] at unmoved ⊢
        split at unmoved <;> split
        · rfl
        · contradiction
        · contradiction
        · exact hasEntries_eq other _ unmoved
    | _ => rfl
  | set s =>
    cases m.heap.shape b with
    | instance_ => exact instances
    | set t =>
      simp only
      split
      · rfl
      · exact hasMembers_eq _ _
    | _ => rfl
  | scalar =>
    cases m.heap.shape b with
    | instance_ => exact instances
    | scalar => exact doChecks_known.symm
    | _ => rfl

theorem equalValues_eq {a b : Value} (mute : m.heap.Mute a) (mute' : m.heap.Mute b)
    (unmoved : Unmoved r m (m.heap.checks a b)) :
    equalValues r a b m = doChecks r (m.heap.checks a b) m := by
  have objects
      (unmoved : Unmoved r m (if sameObject m.heap a b then [] else m.heap.shapeChecks a b)) :
      (getHeap >>= fun h =>
        if sameObject h a b then pure true else equalShapes r a b : M σ Bool) m =
        doChecks r (if sameObject m.heap a b then [] else m.heap.shapeChecks a b) m := by
    rw [getHeap_bind]
    split at unmoved <;> split
    · rfl
    · contradiction
    · contradiction
    · exact equalShapes_eq mute mute' unmoved
  unfold equalValues
  unfold Heap.checks at unmoved ⊢
  cases ints : a.asInt? with
  | none =>
    cases floats : a.asFloat? with
    | none => exact objects (by simpa only [ints, floats] using unmoved)
    | some x =>
      cases floats' : b.asFloat? with
      | none => exact objects (by simpa only [ints, floats, floats'] using unmoved)
      | some y => exact doChecks_known.symm
  | some x =>
    cases ints' : b.asInt? with
    | some y => exact doChecks_known.symm
    | none =>
      cases floats : a.asFloat? with
      | none => exact objects (by simpa only [ints, ints', floats] using unmoved)
      | some x =>
        cases floats' : b.asFloat? with
        | none => exact objects (by simpa only [ints, ints', floats, floats'] using unmoved)
        | some y => exact doChecks_known.symm

/-! ### What is compared with what -/

namespace Heap

variable {h : Heap} {a b x y : Value} {t : Table} {items : List Value} {fuel : Nat}
  {c d : Comparison}

theorem shape_mapping (shape : h.shape a = .mapping t) :
    ∃ p, a = .ref p ∧ h.get? p = some (.dict t) := by
  cases a with
  | ref p =>
    unfold Heap.shape at shape
    simp only at shape
    split at shape <;> cases shape
    exact ⟨p, rfl, by assumption⟩
  | _ => cases shape

theorem shape_set {t : Table} (shape : h.shape a = .set t) :
    ∃ p, a = .ref p ∧ h.get? p = some (.set t) := by
  cases a with
  | ref p =>
    unfold Heap.shape at shape
    simp only at shape
    split at shape <;> cases shape
    exact ⟨p, rfl, by assumption⟩
  | _ => cases shape

theorem shape_sequence (shape : h.shape a = .sequence items) :
    (∃ mark, a = .tuple mark items) ∨
      ∃ p own, a = .ref p ∧ h.get? p = some (.list own) ∧ items = own.toList := by
  cases a with
  | tuple mark own =>
    cases shape
    exact .inl ⟨mark, rfl⟩
  | ref p =>
    unfold Heap.shape at shape
    simp only at shape
    split at shape <;> cases shape
    exact .inr ⟨p, _, rfl, by assumption, rfl⟩
  | _ => cases shape

theorem mem_of_find? {κ ν : Type} [DecidableEq κ] {k : κ} {v : ν} :
    ∀ {es : List (κ × ν)}, Ordered.find? k es = some v → v ∈ es.map (·.2)
  | e :: es, found => by
    unfold Ordered.find? at found
    split at found
    · cases found
      exact List.mem_cons_self
    · exact List.mem_cons_of_mem _ (mem_of_find? found)

theorem pair_known {answer : Bool} : Check.pair x y ∉ known answer := by
  cases answer <;> simp [known]

/-- Two entries of one key are compared by their values. -/
theorem entry_of_pair {other : Address} {e : Value × Value}
    (same : h.entryCheck other e = .pair x y) :
    x = e.2 ∧ ∃ t k, h.dict? other = some t ∧ t.value? k = some y := by
  unfold entryCheck at same
  split at same
  · cases same
  next k _ =>
  split at same
  · next v found =>
    cases same
    obtain ⟨t, table, value⟩ := Option.bind_eq_some_iff.1 found
    exact ⟨rfl, t, k, table, value⟩
  · cases same

/-- Two values that are compared by what they hold. -/
inductive Aligned (h : Heap) : Value → Value → Prop
  | tuples {mark mark' : Nat} {items items' : List Value} :
    Aligned h (.tuple mark items) (.tuple mark' items')
  | objects {p q : Address} {o o' : Object} :
    h.get? p = some o → h.get? q = some o' → Aligned h (.ref p) (.ref q)

/-- The items of sequences of one kind are compared side by side. -/
theorem aligned_of_zip {as bs : List Value} (left : h.shape a = .sequence as)
    (right : h.shape b = .sequence bs) (kind : isTuple a = isTuple b)
    (mem : .pair x y ∈ (as.zip bs).map fun p => Check.pair p.1 p.2) :
    h.Aligned a b ∧ x ∈ h.within a ∧ y ∈ h.within b := by
  obtain ⟨p, held, same⟩ := List.mem_map.1 mem
  cases same
  refine ⟨?_, by simpa only [within, left, right] using List.of_mem_zip held⟩
  obtain ⟨mark, rfl⟩ | ⟨p, own, rfl, found, rfl⟩ := shape_sequence left <;>
    obtain ⟨mark', rfl⟩ | ⟨q, own', rfl, found', rfl⟩ := shape_sequence right
  · exact .tuples
  · cases kind
  · cases kind
  · exact .objects found found'

theorem aligned_of_side (mem : .pair x y ∈ h.sideBySide a b) :
    h.Aligned a b ∧ x ∈ h.within a ∧ y ∈ h.within b := by
  unfold sideBySide at mem
  split at mem
  · next left right =>
    split at mem
    · next kind => exact aligned_of_zip left right (by simpa using kind) mem
    · cases mem
  · cases mem

theorem aligned_of_shapes (mem : .pair x y ∈ h.shapeChecks a b) :
    h.Aligned a b ∧ x ∈ h.within a ∧ y ∈ h.within b := by
  unfold shapeChecks at mem
  split at mem
  · exact absurd mem pair_known
  · exact absurd mem pair_known
  · next left right =>
    split at mem
    · simp at mem
    · next kind =>
      rw [Bool.or_eq_true, not_or] at kind
      exact aligned_of_zip left right (by simpa using kind.1) mem
  · next s t left right =>
    obtain ⟨p, rfl, found⟩ := shape_mapping left
    obtain ⟨q, rfl, found'⟩ := shape_mapping right
    simp only [Value.address?] at mem
    split at mem
    · simp at mem
    · obtain ⟨e, he, same⟩ := List.mem_map.1 mem
      obtain ⟨rfl, t', k, table, value⟩ := entry_of_pair same
      obtain rfl : t' = t := by simpa [dict?, found'] using table.symm
      obtain ⟨e', he', rfl⟩ := Option.map_eq_some_iff.1 value
      refine ⟨.objects found found', ?_⟩
      simp only [within, left, right]
      exact ⟨List.mem_map.2 ⟨e, he, rfl⟩, List.mem_map.2 ⟨e', mem_of_find? he', rfl⟩⟩
  · split at mem
    · simp at mem
    · obtain ⟨v, -, same⟩ := List.mem_map.1 mem
      unfold memberCheck at same
      repeat' split at same
      all_goals cases same
  · exact absurd mem pair_known
  · simp at mem

/-- Values that are compared for equality are held by the values that they are compared for. -/
theorem aligned_of_pair (mem : .pair x y ∈ h.checks a b) :
    h.Aligned a b ∧ x ∈ h.within a ∧ y ∈ h.within b := by
  unfold checks at mem
  split at mem
  · exact absurd mem pair_known
  · split at mem
    · exact absurd mem pair_known
    · split at mem
      · cases mem
      · exact aligned_of_shapes mem

/-! ### The walk of comparing -/

/-- Comparisons of two values on the heap, to which others may come back. -/
def anchored : Comparison → Bool
  | ⟨.equal, .ref _, .ref _⟩ | ⟨.order, .ref _, .ref _⟩ => true
  | _ => false

/-- The walk of comparing. Nothing is remembered on the way. -/
def comparing (h : Heap) : Tour Comparison where
  marked _ := false
  inside c d := h.Involves c d ∧ anchored c = false
  afresh c d := h.Involves c d ∧ anchored c = true
  base _ := []

theorem ends_succ : h.comparing.Ends (fuel + 1) [] c ↔
    ∀ d, h.Involves c d → h.comparing.Ends fuel [] d := by
  constructor
  · intro ends d next
    obtain ⟨inside, afresh⟩ := ends.resolve_left List.not_mem_nil
    cases kind : anchored c with
    | true => exact afresh d ⟨next, kind⟩
    | false => exact inside d ⟨next, kind⟩
  · exact fun ends => .inr ⟨fun d step => ends d step.1, fun d step => ends d step.1⟩

theorem ends_order : h.comparing.Ends (fuel + 1) [] ⟨.order, a, b⟩ ↔
    ∀ x y, h.Asks (h.sideBySide a b) x y → h.comparing.Ends fuel [] ⟨.equal, x, y⟩ ∧
      (h.Equals x y (.ok false) → h.comparing.Ends fuel [] ⟨.order, x, y⟩) := by
  rw [ends_succ]
  refine ⟨fun ends x y asks => ⟨ends _ (.item asks), fun differ => ends _ (.order asks differ)⟩,
    fun ends d next => ?_⟩
  cases next with
  | item asks => exact (ends _ _ asks).1
  | order asks differ => exact (ends _ _ asks).2 differ

theorem ends_member : h.comparing.Ends (fuel + 1) [] ⟨.member, a, b⟩ ↔
    ∀ x, h.Tries b (h.itemsOf a) x → h.comparing.Ends fuel [] ⟨.equal, x, b⟩ := by
  rw [ends_succ]
  refine ⟨fun ends x tries => ends _ (.member tries), fun ends d next => ?_⟩
  cases next with
  | member tries => exact ends _ tries

theorem ends_equal : h.comparing.Ends (fuel + 1) [] ⟨.equal, a, b⟩ ↔
    ∀ x y, h.Asks (h.checks a b) x y → h.comparing.Ends fuel [] ⟨.equal, x, y⟩ := by
  rw [ends_succ]
  refine ⟨fun ends x y asks => ends _ (.equal asks), fun ends d next => ?_⟩
  cases next with
  | equal asks => exact ends _ _ asks

end Heap

theorem Concludes.unmoved {p : Prop} {out : Except RuntimeError Bool → Prop} {x : M σ Bool}
    {b : Bool} {m m' : Machine σ} (hx : Concludes p out x m) (run : x m = .ok b m') : m' = m := by
  by_cases holds : p
  · obtain ⟨res, -, done⟩ := hx.1 holds
    rw [attempt, run] at done
    cases done
    rfl
  · cases run.symm.trans (hx.2 holds)

section

variable (tell : Nat → Moment → M σ Unit) (reveal : M σ Unit)

/-- A comparison for equality says what it has to, if it comes to an end. -/
theorem equals_concludes (fuel : Nat) : ∀ {a b : Value}, m.heap.AllMute a → m.heap.AllMute b →
    Concludes (m.heap.comparing.Ends fuel [] ⟨.equal, a, b⟩) (m.Says (m.heap.checks a b))
      ((runner tell reveal fuel).equals a b) m := by
  induction fuel with
  | zero => exact fun _ _ => ⟨fun h => h.elim, fun _ => rfl⟩
  | succ fuel ih =>
    intro a b mute mute'
    -- Comparisons that come to an end leave the machine as it is, so the steps known beforehand are
    -- those that are done.
    have parts {x y : Value} (mem : .pair x y ∈ m.heap.checks a b) :=
      have held := (Heap.aligned_of_pair mem).2
      ih (mute.of_mem held.1) (mute'.of_mem held.2)
    have steps := equalValues_eq (r := runner tell reveal fuel) mute.here mute'.here
      fun x y mem _ _ run => (parts mem).unmoved run
    exact .congr Heap.ends_equal.symm (.of_eq steps (doChecks_concludes parts))

/-- Members are looked up without comparing them. -/
theorem hasMembers_concludes {p : Prop} (holds : p) (t : Table) (vs : List Value) :
    Concludes p (fun _ => True) (hasMembers t vs) m := by
  induction vs with
  | nil => exact .pure holds trivial
  | cons v vs ih =>
    rw [hasMembers]
    cases key : m.heap.key? v with
    | none => exact .error holds trivial (M.bind_error (keyOf_none key))
    | some k =>
      refine .of_eq (M.bind_ok (keyOf_some key)) ?_
      split
      · exact ih
      · exact .pure holds trivial

/-- What an order comparison has to do. -/
def Heap.Orders (h : Heap) (fuel : Nat) (a b : Value) : Prop :=
  ∀ x y, h.Asks (h.sideBySide a b) x y → h.comparing.Ends fuel [] ⟨.equal, x, y⟩ ∧
    (h.Equals x y (.ok false) → h.comparing.Ends fuel [] ⟨.order, x, y⟩)

theorem Heap.orders_of_scalar {h : Heap} {fuel : Nat} {a b : Value} (shape : h.shape a = .scalar) :
    h.Orders fuel a b := by
  intro x y asks
  simp only [sideBySide, shape] at asks
  cases asks

theorem shape_of_asInt? {h : Heap} {a : Value} {n : Int} (int : a.asInt? = some n) :
    h.shape a = .scalar := by
  cases a <;> first | rfl | cases int

theorem shape_of_asFloat? {h : Heap} {a : Value} {x : Float} (float : a.asFloat? = some x) :
    h.shape a = .scalar := by
  cases a <;> first | rfl | cases float

theorem orderShapes_concludes {op : CompareOp} {fuel : Nat} {a b : Value} (mute : m.heap.Mute a)
    (mute' : m.heap.Mute b)
    (parts : ∀ {x y}, x ∈ m.heap.within a → y ∈ m.heap.within b →
      Concludes (m.heap.comparing.Ends fuel [] ⟨.equal, x, y⟩) (m.Says (m.heap.checks x y))
        (r.equals x y) m ∧
      Concludes (m.heap.comparing.Ends fuel [] ⟨.order, x, y⟩) (fun _ => True)
        (r.run (.order op x y)) m) :
    Concludes (m.heap.Orders fuel a b) (fun _ => True) (orderShapes r op a b) m := by
  have fails (none : m.heap.sideBySide a b = []) :
      Concludes (m.heap.Orders fuel a b) (fun _ => True) (failOrder op a b : M σ Bool) m := by
    refine .error (fun x y asks => ?_) trivial rfl
    rw [none] at asks
    cases asks
  have listed : (orderMethods op).1 ∈ Heap.comparisonMethods ∧
      (orderMethods op).2 ∈ Heap.comparisonMethods := by
    cases op <;> decide
  rcases methods : orderMethods op with ⟨method, reflected⟩
  rw [methods] at listed
  have special := askSpecial_none (r := r) mute mute' listed.1 listed.2
  unfold orderShapes
  refine .of_eq (getHeap_bind _ m) ?_
  simp only [methods]
  cases left : m.heap.shape a with
  | sequence as =>
    cases right : m.heap.shape b with
    | instance_ =>
      exact .of_eq (M.bind_ok special) (fails (by simp only [Heap.sideBySide, left, right]))
    | sequence bs =>
      simp only
      split
      · next kind =>
        have side : m.heap.sideBySide a b = (as.zip bs).map fun p => .pair p.1 p.2 := by
          simp only [Heap.sideBySide, left, right, kind, if_true]
        unfold Heap.Orders
        rw [side]
        refine sequenceOrder_concludes fun mem => ?_
        obtain ⟨p, held, same⟩ := List.mem_map.1 mem
        cases same
        have within := List.of_mem_zip held
        exact parts (by simpa only [Heap.within, left] using within.1)
          (by simpa only [Heap.within, right] using within.2)
      · next kind => exact fails (by simp [Heap.sideBySide, left, right, kind])
    | _ => exact fails (by simp only [Heap.sideBySide, left, right])
  | set s =>
    cases right : m.heap.shape b with
    | instance_ =>
      exact .of_eq (M.bind_ok special) (fails (by simp only [Heap.sideBySide, left, right]))
    | set t =>
      have holds : m.heap.Orders fuel a b := by
        intro x y asks
        simp only [Heap.sideBySide, left, right] at asks
        cases asks
      exact (hasMembers_concludes holds t s.members).bind id
        (fun _ _ _ => (hasMembers_concludes holds s t.members).bind id
          (fun _ _ _ => .pure holds trivial) fun _ _ _ => ⟨holds, trivial⟩)
        fun _ _ _ => ⟨holds, trivial⟩
    | _ => exact fails (by simp only [Heap.sideBySide, left, right])
  | instance_ =>
    cases right : m.heap.shape b <;>
      exact .of_eq (M.bind_ok special) (fails (by simp only [Heap.sideBySide, left, right]))
  | mapping | scalar =>
    cases right : m.heap.shape b with
    | instance_ =>
      exact .of_eq (M.bind_ok special) (fails (by simp only [Heap.sideBySide, left, right]))
    | _ => exact fails (by simp only [Heap.sideBySide, left, right])

/-- A comparison of order comes to an end, with a result or an error, if its walk does. -/
theorem order_concludes (op : CompareOp) (fuel : Nat) : ∀ {a b : Value}, m.heap.AllMute a →
    m.heap.AllMute b → Concludes (m.heap.comparing.Ends fuel [] ⟨.order, a, b⟩) (fun _ => True)
      ((runner tell reveal fuel).run (.order op a b)) m := by
  induction fuel with
  | zero => exact fun _ _ => ⟨fun h => h.elim, fun _ => rfl⟩
  | succ fuel ih =>
    intro a b mute mute'
    refine .congr Heap.ends_order.symm ?_
    show Concludes (m.heap.Orders fuel a b) _ (orderValues (runner tell reveal fuel) op a b) m
    have shapes : Concludes (m.heap.Orders fuel a b) (fun _ => True)
        (orderShapes (runner tell reveal fuel) op a b) m :=
      orderShapes_concludes mute.here mute'.here fun left right =>
        ⟨equals_concludes tell reveal fuel (mute.of_mem left) (mute'.of_mem right),
          ih (mute.of_mem left) (mute'.of_mem right)⟩
    unfold orderValues
    split
    · next int _ => exact .pure (Heap.orders_of_scalar (shape_of_asInt? int)) trivial
    · split
      · next float _ => exact .pure (Heap.orders_of_scalar (shape_of_asFloat? float)) trivial
      · split
        · exact .pure (Heap.orders_of_scalar rfl) trivial
        · exact shapes

/-- Looking for a value in a container comes to an end, with a result or an error, if its walk
does. -/
theorem contains_concludes {fuel : Nat} {a v : Value} (mute : m.heap.AllMute a)
    (mute' : m.heap.AllMute v) :
    Concludes (m.heap.comparing.Ends (fuel + 1) [] ⟨.member, a, v⟩) (fun _ => True)
      (contains (runner tell reveal fuel) a v) m := by
  refine .congr Heap.ends_member.symm ?_
  have holds (empty : m.heap.itemsOf a = []) {x : Value}
      (tries : m.heap.Tries v (m.heap.itemsOf a) x) :
      m.heap.comparing.Ends fuel [] ⟨.equal, x, v⟩ := by
    rw [empty] at tries
    cases tries
  have inside : Concludes (∀ x, m.heap.Tries v (m.heap.itemsOf a) x →
      m.heap.comparing.Ends fuel [] ⟨.equal, x, v⟩) (fun _ => True)
      (containsIn (runner tell reveal fuel) a v) m := by
    unfold containsIn
    refine .of_eq (getHeap_bind _ m) ?_
    cases shape : m.heap.shape a with
    | sequence items =>
      have same : m.heap.itemsOf a = items := by simp only [Heap.itemsOf, shape]
      rw [same]
      refine isAmong_concludes fun mem => equals_concludes tell reveal fuel (mute.of_mem ?_) mute'
      simpa only [Heap.within, shape] using mem
    | mapping t | set t =>
      have empty : m.heap.itemsOf a = [] := by simp only [Heap.itemsOf, shape]
      simp only
      cases key : m.heap.key? v with
      | none => exact .error (fun _ => holds empty) trivial (M.bind_error (keyOf_none key))
      | some k => exact .of_eq (M.bind_ok (keyOf_some key)) (.pure (fun _ => holds empty) trivial)
    | instance_ =>
      have empty : m.heap.itemsOf a = [] := by simp only [Heap.itemsOf, shape]
      have special : callSpecial (runner tell reveal fuel) a "__contains__" [v] m = .ok none m :=
        Machine.callSpecial_none fun cls found => mute.here cls found "__contains__" (by decide)
      exact .of_eq (M.bind_ok special) (.error (fun _ => holds empty) trivial rfl)
    | scalar =>
      have empty : m.heap.itemsOf a = [] := by simp only [Heap.itemsOf, shape]
      exact .error (fun _ => holds empty) trivial rfl
  unfold contains
  split
  · exact .pure (fun _ => holds rfl) trivial
  · exact .error (fun _ => holds rfl) trivial rfl
  · exact .pure (fun _ => holds rfl) trivial
  · exact inside

/-- A comparison comes to an end, with a result or an error, if its walk does. -/
theorem comparison_concludes (op : CompareOp) (fuel : Nat) {c : Comparison}
    (mute : m.heap.AllMute c.left) (mute' : m.heap.AllMute c.right) : ∃ fuel', fuel ≤ fuel' ∧
    Concludes (m.heap.comparing.Ends fuel' [] c) (fun _ => True)
      (c.run (runner tell reveal fuel) op) m := by
  obtain ⟨_ | _ | _, a, b⟩ := c
  · exact ⟨fuel, Nat.le_refl _,
      (equals_concludes tell reveal fuel mute mute').mono fun _ _ => trivial⟩
  · exact ⟨fuel, Nat.le_refl _, order_concludes tell reveal op fuel mute mute'⟩
  · exact ⟨fuel + 1, Nat.le_succ _, contains_concludes tell reveal mute mute'⟩

end

end Stepwise
