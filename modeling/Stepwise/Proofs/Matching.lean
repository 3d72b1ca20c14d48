import Mathlib.Data.List.Forall2
import Stepwise.Proofs.Circular
import Stepwise.Proofs.Tables

/-!
# Matching values

Two values that are neither doubles nor instances are found equal exactly if they match: they have
one shape, and their parts are found equal, item by item or key by key (`Passes.matches`,
`Matches.passes`). That matching can be turned round and put together is plain, while the steps of a
comparison only look up every key of the left value in the right one.

## The model

Which parts are equal is a relation that matching takes as a parameter (`Heap.Matches`), and so do
the steps of a comparison (`Heap.Passes`). What is found equal is the least relation that contains
what passes by it (`Equal.induction`).
-/

namespace Stepwise

open Relation

/-! ### Steps that find nothing -/

/-- Whether a step finds no difference, if `R` says which values are equal. -/
def Check.Holds (R : Value → Value → Prop) : Check → Prop
  | .pass => True
  | .differ | .fail _ => False
  | .pair a b => R a b

/-- What a value that holds no others is compared by. -/
inductive Content where
  /-- A number is compared by its integer. -/
  | number (n : Int)
  /-- A range is compared by its items. -/
  | items (is : List Int)
  /-- Anything else is compared as it is. -/
  | itself (v : Value)

/-- What a value that holds no others is compared by. -/
def Value.content : Value → Content
  | .bool b => .number (if b then 1 else 0)
  | .int n => .number n
  | .range start stop step => .items (rangeItems start stop step)
  | v => .itself v

/-- Whether a value is a double. -/
def Value.isFloat : Value → Bool
  | .float _ => true
  | _ => false

namespace Heap

variable {h : Heap} {a b c x y : Value} {p q : Address} {R S : Value → Value → Prop}

/-- Two values are found equal. -/
def Equal (h : Heap) (a b : Value) : Prop := h.Equals a b (.ok true)

/-- Whether the steps for two values find no difference, if `R` says which values are equal. -/
def Passes (h : Heap) (R : Value → Value → Prop) (a b : Value) : Prop :=
  ∀ c ∈ h.checks a b, c.Holds R

theorem answer_of_holds : ∀ {cs : List Check}, (∀ c ∈ cs, c.Holds h.Equal) →
    h.Answer cs (.ok true)
  | [], _ => .nil
  | c :: cs, holds => by
    obtain ⟨first, rest⟩ := List.forall_mem_cons.1 holds
    have answered := answer_of_holds rest
    cases c with
    | pass => exact .pass answered
    | differ | fail => exact first.elim
    | pair => exact .same first answered

/-- What passes by what is found equal is found equal. -/
theorem Passes.equal (passes : h.Passes h.Equal a b) : h.Equal a b := answer_of_holds passes

/-- What holds of two values as soon as it holds of the pairs found equal in comparing them holds of
all values that are found equal. -/
theorem Equal.induction {P : Value → Value → Prop}
    (step : ∀ {a b}, h.Passes (fun x y => h.Equal x y ∧ P x y) a b → P a b)
    (equal : h.Equal a b) : P a b := by
  -- By induction on how the answer is come to: a pair that is found equal has an answer of its own.
  have holds {cs : List Check} {answer : Except Value Bool} (answered : h.Answer cs answer) :
      answer = .ok true → ∀ c ∈ cs, c.Holds fun x y => h.Equal x y ∧ P x y := by
    induction answered with
    | nil => exact fun _ _ mem => absurd mem List.not_mem_nil
    | pass _ ih => exact fun same => List.forall_mem_cons.2 ⟨trivial, ih same⟩
    | differ | fail => rintro ⟨⟩
    | same equal _ ih ih' =>
      exact fun same => List.forall_mem_cons.2 ⟨⟨equal, step (ih rfl)⟩, ih' same⟩
    | other _ ne _ => exact fun same => absurd same ne
  exact step (holds equal rfl)

theorem Passes.imp (passes : h.Passes R a b) (more : ∀ {x y}, R x y → S x y) :
    h.Passes S a b := by
  intro c mem
  have holds := passes c mem
  cases c with
  | pair => exact more holds
  | _ => exact holds

theorem Equal.passes (equal : h.Equal a b) : h.Passes h.Equal a b :=
  equal.induction (P := h.Passes h.Equal) fun passes => passes.imp And.left

/-! ### The steps for values of a shape -/

theorem holds_known {answer : Bool} : (∀ c ∈ known answer, c.Holds R) ↔ answer = true := by
  cases answer <;> simp [known, Check.Holds]

theorem asFloat?_of_asInt? (float : a.isFloat = false) (int : a.asInt? = none) :
    a.asFloat? = none := by
  cases a with
  | float => cases float
  | bool | int => cases int
  | _ => rfl

theorem checks_of_ints {m n : Int} (left : a.asInt? = some m) (right : b.asInt? = some n) :
    h.checks a b = known (m = n) := by
  rw [checks, left, right]

/-- Values that are not both numbers are compared as objects first. -/
theorem checks_of_object (float : a.isFloat = false) (float' : b.isFloat = false)
    (number : a.asInt? = none ∨ b.asInt? = none) :
    h.checks a b = if sameObject h a b then [] else h.shapeChecks a b := by
  rw [checks]
  obtain none | none := number
  · rw [none, asFloat?_of_asInt? float none]
  · rw [none, asFloat?_of_asInt? float' none]
    cases a.asInt? <;> cases a.asFloat? <;> rfl

theorem asInt?_of_shape (shape : h.shape a ≠ .scalar) : a.asInt? = none := by
  cases int : a.asInt? with
  | none => rfl
  | some n => exact absurd (shape_of_asInt? int) shape

/-- Values that hold no others are found equal exactly if they have one content. -/
theorem passes_scalar (left : h.shape a = .scalar) (right : h.shape b = .scalar)
    (float : a.isFloat = false) (float' : b.isFloat = false) :
    h.Passes R a b ↔ a.content = b.content := by
  by_cases number : a.asInt? = none ∨ b.asInt? = none
  · have same : (sameObject h a b || sameScalar a b) = true ↔ a.content = b.content := by
      cases a with
      | none | bool | int | str | builtin =>
        cases b <;> simp_all [sameObject, sameScalar, Value.identical, Value.content, Value.asInt?]
      | float => cases float
      | tuple => cases left
      | range =>
        cases b with
        | range => simp [sameObject, sameScalar, Value.content, sameRange_iff]
        | _ => simp [sameObject, sameScalar, Value.identical, Value.content]
      | ref p =>
        cases b with
        | ref q => simp_all [sameObject, sameScalar, Value.identical, Value.content]
        | _ => simp [sameObject, sameScalar, Value.identical, Value.content]
    rw [← same, Passes, checks_of_object float float' number, shapeChecks, left, right]
    cases sameObject h a b with
    | true => simp
    | false => exact holds_known
  · rw [not_or] at number
    obtain ⟨m, left⟩ := Option.ne_none_iff_exists'.1 number.1
    obtain ⟨n, right⟩ := Option.ne_none_iff_exists'.1 number.2
    rw [Passes, checks_of_ints left right, holds_known, decide_eq_true_iff]
    cases a with
    | bool | int =>
      cases b with
      | bool | int =>
        cases left
        cases right
        simp [Value.content]
      | _ => cases right
    | _ => cases left

/-! ### Matching -/

/-- Two values have one shape, and `R` relates their parts. -/
inductive Matches (h : Heap) (R : Value → Value → Prop) (a b : Value) : Prop
  | sequence {as bs : List Value} : h.shape a = .sequence as → h.shape b = .sequence bs →
    isTuple a = isTuple b → List.Forall₂ R as bs → Matches h R a b
  | mapping {s t : Table} : h.shape a = .mapping s → h.shape b = .mapping t →
    s.Alike (fun x y => R x.2 y.2) t → Matches h R a b
  | set {s t : Table} : h.shape a = .set s → h.shape b = .set t →
    s.Alike (fun _ _ => True) t → Matches h R a b
  | scalar : h.shape a = .scalar → h.shape b = .scalar → a.content = b.content → Matches h R a b

theorem mem_within_mapping {t : Table} (shape : h.shape a = .mapping t) :
    x ∈ h.within a ↔ ∃ k e, t.get? k = some e ∧ e.2 = x := by
  simp only [within, shape, Table.pairs, Ordered.values, List.map_map, List.mem_map,
    Ordered.get?_eq_some]
  constructor
  · rintro ⟨⟨k, e⟩, mem, rfl⟩
    exact ⟨k, e, mem, rfl⟩
  · rintro ⟨k, e, mem, rfl⟩
    exact ⟨(k, e), mem, rfl⟩

theorem forall₂_comp {as bs cs : List Value} (first : List.Forall₂ R as bs)
    (second : List.Forall₂ S bs cs) : List.Forall₂ (Comp R S) as cs := by
  induction first generalizing cs with
  | nil =>
    cases second
    exact .nil
  | cons related _ ih =>
    obtain _ | ⟨related', rest⟩ := second
    exact .cons ⟨_, related, related'⟩ (ih rest)

namespace Matches

theorem imp (same : h.Matches R a b)
    (more : ∀ {x y}, x ∈ h.within a → y ∈ h.within b → R x y → S x y) : h.Matches S a b := by
  cases same with
  | @sequence as bs left right kind parts =>
    obtain ⟨length, parts⟩ := List.forall₂_iff_zip.1 parts
    refine .sequence left right kind (List.forall₂_iff_zip.2 ⟨length, fun mem => ?_⟩)
    have held := List.of_mem_zip mem
    exact more (by simpa only [within, left] using held.1)
      (by simpa only [within, right] using held.2) (parts mem)
  | mapping left right parts =>
    refine .mapping left right (parts.imp fun found found' related => ?_)
    exact more ((mem_within_mapping left).2 ⟨_, _, found, rfl⟩)
      ((mem_within_mapping right).2 ⟨_, _, found', rfl⟩) related
  | set left right keys => exact .set left right keys
  | scalar left right content => exact .scalar left right content

theorem flip (same : h.Matches R a b) : h.Matches (flip R) b a := by
  cases same with
  | sequence left right kind parts => exact .sequence right left kind.symm parts.flip
  | mapping left right parts => exact .mapping right left parts.flip
  | set left right keys => exact .set right left keys.flip
  | scalar left right content => exact .scalar right left content.symm

theorem comp (first : h.Matches R a b) (second : h.Matches S b c) :
    h.Matches (Comp R S) a c := by
  cases first with
  | sequence left middle kind parts =>
    cases second with
    | sequence middle' right kind' parts' =>
      cases middle.symm.trans middle'
      exact .sequence left right (kind.trans kind') (forall₂_comp parts parts')
    | mapping middle' | set middle' | scalar middle' => cases middle.symm.trans middle'
  | mapping left middle parts =>
    cases second with
    | mapping middle' right parts' =>
      cases middle.symm.trans middle'
      refine .mapping left right ((parts.comp parts').imp fun _ _ => ?_)
      rintro ⟨y, related, related'⟩
      exact ⟨y.2, related, related'⟩
    | sequence middle' | set middle' | scalar middle' => cases middle.symm.trans middle'
  | set left middle keys =>
    cases second with
    | set middle' right keys' =>
      cases middle.symm.trans middle'
      exact .set left right ((keys.comp keys').imp fun _ _ _ => trivial)
    | sequence middle' | mapping middle' | scalar middle' => cases middle.symm.trans middle'
  | scalar left middle content =>
    cases second with
    | scalar _ right content' => exact .scalar left right (content.trans content')
    | sequence middle' | mapping middle' | set middle' => cases middle.symm.trans middle'

end Matches

/-! ### Passing and matching -/

/-- Two values that hold others, or one of which does, are one object or compared by what they
hold. -/
theorem passes_of_shape (float : a.isFloat = false) (float' : b.isFloat = false)
    (shape : h.shape a ≠ .scalar ∨ h.shape b ≠ .scalar) :
    h.Passes R a b ↔ sameObject h a b = true ∨ ∀ c ∈ h.shapeChecks a b, c.Holds R := by
  have number : a.asInt? = none ∨ b.asInt? = none := shape.imp asInt?_of_shape asInt?_of_shape
  rw [Passes, checks_of_object float float' number]
  cases sameObject h a b <;> simp

theorem holds_sequence {as bs : List Value} (left : h.shape a = .sequence as)
    (right : h.shape b = .sequence bs) : (∀ c ∈ h.shapeChecks a b, c.Holds R) ↔
      isTuple a = isTuple b ∧ List.Forall₂ R as bs := by
  rw [List.forall₂_iff_zip, shapeChecks, left, right]
  by_cases kind : isTuple a = isTuple b
  · by_cases length : as.length = bs.length
    · simp only [kind, length, bne_self_eq_false, ne_eq, not_true_eq_false, decide_false,
        Bool.or_false, Bool.false_eq_true, if_false, List.forall_mem_map, true_and]
      exact Prod.forall
    · simp [kind, length, Check.Holds]
  · simp [kind, Check.Holds]

/-- The steps for two tables find no difference exactly if the tables are alike. -/
theorem holds_table {s t : Table} {f : Value × Value → Check}
    {V : Value × Value → Value × Value → Prop}
    (entry : ∀ e ∈ s.entries, (f e.2).Holds R ↔ ∃ y, t.get? e.1 = some y ∧ V e.2 y) :
    (∀ c ∈ if s.size ≠ t.size then [.differ] else s.values.map f, c.Holds R) ↔ s.Alike V t := by
  rw [Ordered.alike_iff]
  by_cases size : s.size = t.size
  · have each : (∀ c ∈ s.values.map f, c.Holds R) ↔ ∀ e ∈ s.entries, (f e.2).Holds R := by
      simp only [Ordered.values, List.forall_mem_map]
    rw [if_neg (not_not.2 size), each]
    exact ⟨fun holds => ⟨size, fun e he => (entry e he).1 (holds e he)⟩,
      fun parts e he => (entry e he).2 (parts.2 e he)⟩
  · rw [if_pos size]
    exact ⟨fun holds => (holds _ List.mem_cons_self).elim, fun parts => absurd parts.1 size⟩

theorem holds_mapping {s t : Table} (filed : h.Filed) (left : h.shape a = .mapping s)
    (right : h.shape b = .mapping t) : (∀ c ∈ h.shapeChecks a b, c.Holds R) ↔
      s.Alike (fun x y => R x.2 y.2) t := by
  obtain ⟨p, rfl, found⟩ := shape_mapping left
  obtain ⟨q, rfl, found'⟩ := shape_mapping right
  rw [shapeChecks, left, right]
  refine holds_table fun e he => ?_
  have key : h.key? e.2.1 = some e.1 := filed.keyed (table?_eq_some.2 (.inl found)) e he
  have table : h.dict? q = some t := by rw [dict?, found']
  rw [entryCheck, key, table]
  simp only [Option.bind_some, Table.value?]
  cases t.get? e.1 with
  | none => simp [Check.Holds]
  | some y => simp only [Option.map_some, Check.Holds, Option.some.injEq, exists_eq_left']

theorem holds_set {s t : Table} (filed : h.Filed) (left : h.shape a = .set s)
    (right : h.shape b = .set t) : (∀ c ∈ h.shapeChecks a b, c.Holds R) ↔
      s.Alike (fun _ _ => True) t := by
  obtain ⟨p, rfl, found⟩ := shape_set left
  rw [shapeChecks, left, right]
  have members : s.members.map (h.memberCheck t) = s.values.map fun e => h.memberCheck t e.1 := by
    rw [Table.members, List.map_map]
    rfl
  dsimp only
  rw [members]
  refine holds_table fun e he => ?_
  have key : h.key? e.2.1 = some e.1 := filed.keyed (table?_eq_some.2 (.inr found)) e he
  rw [memberCheck, key]
  dsimp only
  by_cases found : t.contains e.1 = true
  · obtain ⟨y, value⟩ := Option.isSome_iff_exists.1 found
    rw [if_pos found]
    exact ⟨fun _ => ⟨y, value, trivial⟩, fun _ => trivial⟩
  · rw [if_neg found]
    constructor
    · exact False.elim
    · rintro ⟨y, value, -⟩
      exact found (Option.isSome_iff_exists.2 ⟨y, value⟩)

theorem Matches.passes (filed : h.Filed) (float : a.isFloat = false) (float' : b.isFloat = false)
    (same : h.Matches R a b) : h.Passes R a b := by
  cases same with
  | sequence left right kind parts =>
    refine (passes_of_shape float float' (.inl (by simp [left]))).2 (.inr ?_)
    exact (holds_sequence left right).2 ⟨kind, parts⟩
  | mapping left right parts =>
    refine (passes_of_shape float float' (.inl (by simp [left]))).2 (.inr ?_)
    exact (holds_mapping filed left right).2 parts
  | set left right keys =>
    refine (passes_of_shape float float' (.inl (by simp [left]))).2 (.inr ?_)
    exact (holds_set filed left right).2 keys
  | scalar left right content => exact (passes_scalar left right float float').2 content

/-- A value matches itself if its parts are related to themselves. -/
theorem Matches.refl (shape : h.shape a ≠ .instance_) (parts : ∀ x ∈ h.within a, R x x) :
    h.Matches R a a := by
  cases own : h.shape a with
  | sequence items =>
    have held : h.within a = items := by simp only [within, own]
    exact .sequence own own rfl (List.forall₂_same.2 (held ▸ parts))
  | mapping t =>
    refine .mapping own own (Ordered.alike_of_perm (.refl _) fun e he => ?_)
    exact parts _ ((mem_within_mapping own).2 ⟨_, _, Ordered.get?_eq_some.2 he, rfl⟩)
  | set t => exact .set own own (Ordered.alike_of_perm (.refl _) fun _ _ => trivial)
  | instance_ => exact absurd own shape
  | scalar => exact .scalar own own rfl

theorem eq_of_sameObject (same : sameObject h a b = true) : a = b := by
  cases a with
  | ref p =>
    cases b with
    | ref q =>
      rw [sameObject, Bool.and_eq_true, decide_eq_true_iff] at same
      rw [same.1]
    | _ => cases same
  | _ => cases same

/-- Two values that pass match, if the parts of the left one pass with themselves: nothing is asked
of them where the two are one object. -/
theorem Passes.matches (filed : h.Filed) (float : a.isFloat = false) (float' : b.isFloat = false)
    (shape : h.shape a ≠ .instance_) (shape' : h.shape b ≠ .instance_)
    (refl : ∀ x ∈ h.within a, R x x) (passes : h.Passes R a b) : h.Matches R a b := by
  by_cases same : sameObject h a b = true
  · rw [← eq_of_sameObject same]
    exact .refl shape refl
  have holds (others : h.shape a ≠ .scalar ∨ h.shape b ≠ .scalar) :
      ∀ c ∈ h.shapeChecks a b, c.Holds R :=
    ((passes_of_shape float float' others).1 passes).resolve_left same
  have mismatch (others : h.shape a ≠ .scalar ∨ h.shape b ≠ .scalar)
      (differ : h.shapeChecks a b = [.differ]) : h.Matches R a b :=
    (holds others .differ (by simp [differ])).elim
  cases left : h.shape a with
  | instance_ => exact absurd left shape
  | sequence as =>
    have others : h.shape a ≠ .scalar ∨ h.shape b ≠ .scalar := .inl (by simp [left])
    cases right : h.shape b with
    | instance_ => exact absurd right shape'
    | sequence bs =>
      obtain ⟨kind, parts⟩ := (holds_sequence left right).1 (holds others)
      exact .sequence left right kind parts
    | _ => exact mismatch others (by simp only [shapeChecks, left, right])
  | mapping s =>
    have others : h.shape a ≠ .scalar ∨ h.shape b ≠ .scalar := .inl (by simp [left])
    cases right : h.shape b with
    | instance_ => exact absurd right shape'
    | mapping t => exact .mapping left right ((holds_mapping filed left right).1 (holds others))
    | _ => exact mismatch others (by simp only [shapeChecks, left, right])
  | set s =>
    have others : h.shape a ≠ .scalar ∨ h.shape b ≠ .scalar := .inl (by simp [left])
    cases right : h.shape b with
    | instance_ => exact absurd right shape'
    | set t => exact .set left right ((holds_set filed left right).1 (holds others))
    | _ => exact mismatch others (by simp only [shapeChecks, left, right])
  | scalar =>
    cases right : h.shape b with
    | instance_ => exact absurd right shape'
    | scalar => exact .scalar left right ((passes_scalar left right float float').1 passes)
    | _ => exact mismatch (.inr (by simp [right])) (by simp only [shapeChecks, left, right])

end Heap

end Stepwise
