import Stepwise.Proofs.Matching

/-!
# Equality as an equivalence

Of values that hold no doubles, no instances and nothing that holds itself, whether two are equal is
always told, and equality is reflexive, symmetric and transitive. In which order dictionaries and
sets came to what they hold makes no difference (`equality_equivalence`).

## The model

Which values are compared as parts of a value is a matter of the heap (`Heap.Part`), and so is
whether one of them stands in the way of an answer (`Heap.Plain`). Keys and members are looked up
without comparing them, so nothing is asked of these, but that the tables of the heap agree with
their keys, as they do wherever a run comes (`Stands.staysFiled`).
-/

namespace Stepwise

open Relation Script

variable {σ : Type}

namespace Heap

variable {h h' : Heap} {a b c u v x y : Value} {p q : Address} {s t : Table}

/-! ### Plain values -/

/-- A value is compared as a part of another one. -/
def Part (h : Heap) (a b : Value) : Prop := b ∈ h.within a

/-- Whether nothing that is compared in a value is a double, an instance or a part of itself. -/
structure Plain (h : Heap) (v : Value) : Prop where
  noFloat : ∀ {u}, ReflTransGen h.Part v u → u.isFloat = false
  noInstance : ∀ {u}, ReflTransGen h.Part v u → h.shape u ≠ .instance_
  acyclic : ∀ {u}, ReflTransGen h.Part v u → ¬TransGen h.Part u u

theorem instance?_eq_none (shape : h.shape (.ref p) ≠ .instance_) : h.instance? p = none := by
  cases inst : h.instance? p with
  | none => rfl
  | some i =>
    unfold instance? at inst
    split at inst
    · next found => exact absurd (by simp only [Heap.shape, found]) shape
    · cases inst

namespace Plain

theorem of_part (plain : h.Plain v) (part : h.Part v u) : h.Plain u where
  noFloat way := plain.noFloat (.head part way)
  noInstance way := plain.noInstance (.head part way)
  acyclic way := plain.acyclic (.head part way)

theorem isFloat (plain : h.Plain v) : v.isFloat = false := plain.noFloat .refl

theorem shape (plain : h.Plain v) : h.shape v ≠ .instance_ := plain.noInstance .refl

theorem allMute (plain : h.Plain v) : h.AllMute v := by
  intro u way cls found
  have shape := plain.noInstance way
  obtain ⟨p, address, found⟩ := Option.bind_eq_some_iff.1 found
  obtain ⟨i, inst, -⟩ := Option.bind_eq_some_iff.1 found
  rw [Value.address?_eq_some.1 address] at shape
  cases (instance?_eq_none shape).symm.trans inst

/-- Comparisons of plain values are made once: inside a comparison there are only comparisons of
parts. -/
theorem not_circular (plain : h.Plain a) : ¬h.Circular ⟨.equal, a, b⟩ := by
  have step {c d : Comparison} (kind : c.kind = .equal) (next : h.Involves c d) :
      d.kind = .equal ∧ h.Part c.left d.left := by
    cases next with
    | equal asks => exact ⟨rfl, (aligned_of_pair (mem_of_asks asks)).2.1⟩
    | item | order | member => cases kind
  have along {c d : Comparison} (way : ReflTransGen h.Involves c d) (kind : c.kind = .equal) :
      d.kind = .equal ∧ ReflTransGen h.Part c.left d.left := by
    induction way with
    | refl => exact ⟨kind, .refl⟩
    | tail _ next ih => exact ⟨(step ih.1 next).1, .tail ih.2 (step ih.1 next).2⟩
  rintro ⟨d, way, round⟩
  obtain ⟨kind, reached⟩ := along way rfl
  obtain ⟨e, first, rest⟩ := TransGen.head'_iff.1 round
  obtain ⟨kind', part⟩ := step kind first
  exact plain.acyclic reached (.head' part (along rest kind').2)

theorem of_parts (float : v.isFloat = false) (shape : h.shape v ≠ .instance_)
    (parts : ∀ u, h.Part v u → h.Plain u) : h.Plain v where
  noFloat way := by
    obtain rfl | ⟨u, part, rest⟩ := way.cases_head
    · exact float
    · exact (parts u part).noFloat rest
  noInstance way := by
    obtain rfl | ⟨u, part, rest⟩ := way.cases_head
    · exact shape
    · exact (parts u part).noInstance rest
  acyclic way round := by
    obtain rfl | ⟨u, part, rest⟩ := way.cases_head
    · obtain ⟨u, part, back⟩ := TransGen.head'_iff.1 round
      exact (parts u part).acyclic back round
    · exact (parts u part).acyclic rest round

end Plain

/-! ### An equivalence -/

mutual

/-- A plain value is found equal to itself: an object at once, a tuple item by item. -/
theorem Plain.equal_self (filed : h.Filed) : ∀ v : Value, h.Plain v → h.Equal v v
  | .ref p, plain => by
    have same : sameObject h (.ref p) (.ref p) = true := by
      simp [sameObject, instance?_eq_none plain.shape]
    refine Passes.equal fun c mem => ?_
    rw [checks_of_object rfl rfl (.inl rfl), if_pos same] at mem
    cases mem
  | .tuple mark items, plain => by
    have parts := Plain.all_equal_self filed items fun v mem => plain.of_part mem
    exact (Matches.passes filed rfl rfl (.refl plain.shape parts)).equal
  | .none, _ | .bool _, _ | .int _, _ | .str _, _ | .range _ _ _, _ | .builtin _, _ =>
    (Matches.passes filed rfl rfl (.scalar rfl rfl rfl)).equal
  | .float x, plain => by cases plain.isFloat

theorem Plain.all_equal_self (filed : h.Filed) :
    ∀ vs : List Value, (∀ v ∈ vs, h.Plain v) → ∀ v ∈ vs, h.Equal v v
  | [], _ => List.forall_mem_nil _
  | v :: vs, plain => by
    rw [List.forall_mem_cons] at plain ⊢
    exact ⟨Plain.equal_self filed v plain.1, Plain.all_equal_self filed vs plain.2⟩

end

/-- What holds of plain values that match by it, and of each of them and itself, holds of all plain
values that are found equal. The induction is on why these are, so it does not matter how deep they
are. -/
theorem Plain.induction {P : Value → Value → Prop} (filed : h.Filed)
    (refl : ∀ {x}, h.Plain x → P x x)
    (step : ∀ {a b}, h.Plain a → h.Plain b → h.Matches P a b → P a b)
    (ha : h.Plain a) (hb : h.Plain b) (equal : h.Equal a b) : P a b := by
  revert ha hb
  refine equal.induction (P := fun a b => h.Plain a → h.Plain b → P a b) ?_
  intro a b passes ha hb
  -- Nothing is asked of the parts where the two are one object, but then they are related as well.
  have parts : ∀ x ∈ h.within a, h.Equal x x ∧ (h.Plain x → h.Plain x → P x x) := by
    intro x part
    have plain : h.Plain x := ha.of_part part
    exact ⟨Plain.equal_self filed x plain, fun _ _ => refl plain⟩
  have same := passes.matches filed ha.isFloat hb.isFloat ha.shape hb.shape parts
  refine step ha hb (same.imp ?_)
  intro x y hx hy related
  exact related.2 (ha.of_part hx) (hb.of_part hy)

/-- Plain values are found equal exactly if they match and their parts are found equal. -/
theorem Plain.equal_iff (filed : h.Filed) (ha : h.Plain a) (hb : h.Plain b) :
    h.Equal a b ↔ h.Matches h.Equal a b := by
  constructor
  · intro equal
    refine equal.passes.matches filed ha.isFloat hb.isFloat ha.shape hb.shape fun x part => ?_
    exact Plain.equal_self filed x (ha.of_part part)
  · intro same
    exact (same.passes filed ha.isFloat hb.isFloat).equal

theorem Plain.symm (filed : h.Filed) (ha : h.Plain a) (hb : h.Plain b) (equal : h.Equal a b) :
    h.Equal b a := by
  refine Plain.induction (P := fun a b => h.Equal b a) filed ?_ ?_ ha hb equal
  · intro x plain
    exact Plain.equal_self filed x plain
  · intro a b ha hb same
    exact (Plain.equal_iff filed hb ha).2 same.flip

theorem Plain.trans (filed : h.Filed) (ha : h.Plain a) (hb : h.Plain b) (hc : h.Plain c)
    (equal : h.Equal a b) (equal' : h.Equal b c) : h.Equal a c := by
  let Leads (a b : Value) : Prop := ∀ c, h.Plain c → h.Equal b c → h.Equal a c
  have leads : Leads a b := by
    refine Plain.induction (P := Leads) filed (fun _ _ _ equal => equal) ?_ ha hb equal
    intro a b ha hb first c hc equal'
    have second : h.Matches (fun y z => h.Plain z ∧ h.Equal y z) b c :=
      ((Plain.equal_iff filed hb hc).1 equal').imp fun _ hz equal => ⟨hc.of_part hz, equal⟩
    refine (Plain.equal_iff filed ha hc).2 ((first.comp second).imp ?_)
    rintro x z - - ⟨y, leads, plain, equal⟩
    exact leads z plain equal
  exact leads c hc equal'

/-! ### The order of entries -/

end Heap

/-- Two dictionaries have the same keys with the same values, in whatever order they came to them.
Of the values that are one key, such as `1` and `True`, they may have been given different ones. -/
def Table.SameEntries (s t : Table) : Prop := s.Alike (fun x y => x.2 = y.2) t

/-- Two sets have the same keys, in whatever order they came to their members. -/
def Table.SameMembers (s t : Table) : Prop := s.Alike (fun _ _ => True) t

theorem Table.sameEntries_of_perm {s t : Table} (perm : s.entries.Perm t.entries) :
    s.SameEntries t := Ordered.alike_of_perm perm fun _ _ => rfl

theorem Table.sameMembers_of_perm {s t : Table} (perm : s.entries.Perm t.entries) :
    s.SameMembers t := Ordered.alike_of_perm perm fun _ _ => trivial

/-- Two objects are the same but for the order in which they came to what they hold. -/
inductive Object.Reordered : Object → Object → Prop
  | same (o : Object) : Reordered o o
  | dict {s t : Table} : s.SameEntries t → Reordered (.dict s) (.dict t)
  | set {s t : Table} : s.SameMembers t → Reordered (.set s) (.set t)

/-- The shapes of two values are the same but for the order of entries. -/
inductive Shape.Reordered : Shape → Shape → Prop
  | same (s : Shape) : Reordered s s
  | mapping {s t : Table} : s.SameEntries t → Reordered (.mapping s) (.mapping t)
  | set {s t : Table} : s.SameMembers t → Reordered (.set s) (.set t)

namespace Shape.Reordered

variable {s : Shape} {t : Table} {items : List Value}

theorem of_sequence (other : (Shape.sequence items).Reordered s) : s = .sequence items := by
  cases other
  rfl

theorem of_mapping (other : (Shape.mapping t).Reordered s) :
    ∃ t', s = .mapping t' ∧ t.SameEntries t' := by
  cases other with
  | same => exact ⟨t, rfl, Table.sameEntries_of_perm (.refl _)⟩
  | mapping entries => exact ⟨_, rfl, entries⟩

theorem of_set (other : (Shape.set t).Reordered s) : ∃ t', s = .set t' ∧ t.SameMembers t' := by
  cases other with
  | same => exact ⟨t, rfl, Table.sameMembers_of_perm (.refl _)⟩
  | set members => exact ⟨_, rfl, members⟩

theorem of_scalar (other : Shape.scalar.Reordered s) : s = .scalar := by
  cases other
  rfl

theorem to_instance (other : s.Reordered .instance_) : s = .instance_ := by
  cases other
  rfl

end Shape.Reordered

namespace Heap

variable {h h' : Heap} {a b v x : Value} {p q : Address} {s t : Table}
  {R : Value → Value → Prop}

/-- Two heaps are the same but for the order in which dictionaries and sets came to what they
hold. -/
def Reordered (h h' : Heap) : Prop := ∀ p, Option.Rel Object.Reordered (h.get? p) (h'.get? p)

theorem Reordered.symm (other : h.Reordered h') : h'.Reordered h := by
  intro p
  have object := other p
  generalize h.get? p = o, h'.get? p = o' at object ⊢
  obtain related | _ := object
  · refine .some ?_
    cases related with
    | same => exact .same _
    | dict entries => exact .dict (entries.flip.imp fun _ _ same => Eq.symm same)
    | set members => exact .set members.flip
  · exact .none

variable (other : h.Reordered h')

include other

theorem Reordered.shape (v : Value) : Shape.Reordered (h.shape v) (h'.shape v) := by
  cases v with
  | ref p =>
    have object := other p
    unfold Heap.shape
    dsimp only
    generalize h.get? p = o, h'.get? p = o' at object ⊢
    obtain related | _ := object
    · cases related with
      | same => exact .same _
      | dict entries => exact .mapping entries
      | set members => exact .set members
    · exact .same _
  | _ => exact .same _

theorem Reordered.part (part : h'.Part a b) : h.Part a b := by
  have shape := other.symm.shape a
  unfold Part at part ⊢
  cases own : h'.shape a with
  | mapping t =>
    rw [own] at shape
    obtain ⟨s, own', entries⟩ := shape.of_mapping
    obtain ⟨k, e, found, rfl⟩ := (mem_within_mapping own).1 part
    have same := entries k
    rw [found] at same
    refine (mem_within_mapping own').2 ⟨k, ?_⟩
    generalize s.get? k = o at same ⊢
    obtain same | _ := same
    exact ⟨_, rfl, same.symm⟩
  | sequence items =>
    rw [own] at shape
    simpa only [within, own, shape.of_sequence] using part
  | set | instance_ | scalar =>
    simp only [within, own] at part
    cases part

theorem Plain.reordered (plain : h.Plain v) : h'.Plain v where
  noFloat way := plain.noFloat (.mono (fun _ _ => other.part) _ _ way)
  noInstance {u} way same := by
    have shape := other.shape u
    rw [same] at shape
    exact plain.noInstance (.mono (fun _ _ => other.part) _ _ way) shape.to_instance
  acyclic way round :=
    plain.acyclic (.mono (fun _ _ => other.part) _ _ way) (.mono (fun _ _ => other.part) _ _ round)

/-- Maps are matched key by key, so the order in which they came to their entries does not show. -/
theorem Matches.reordered (same : h.Matches R a b) : h'.Matches R a b := by
  have left := other.shape a
  have right := other.shape b
  cases same with
  | sequence ha hb kind parts =>
    rw [ha] at left
    rw [hb] at right
    exact .sequence left.of_sequence right.of_sequence kind parts
  | mapping ha hb parts =>
    rw [ha] at left
    rw [hb] at right
    obtain ⟨s, ha', entries⟩ := left.of_mapping
    obtain ⟨t, hb', entries'⟩ := right.of_mapping
    refine .mapping ha' hb' (((entries.flip.comp parts).comp entries').imp fun _ _ => ?_)
    rintro ⟨y, ⟨x, same, related⟩, same'⟩
    rwa [← same', ← show x.2 = _ from same]
  | set ha hb keys =>
    rw [ha] at left
    rw [hb] at right
    obtain ⟨s, ha', members⟩ := left.of_set
    obtain ⟨t, hb', members'⟩ := right.of_set
    exact .set ha' hb' (((members.flip.comp keys).comp members').imp fun _ _ _ => trivial)
  | scalar ha hb content =>
    rw [ha] at left
    rw [hb] at right
    exact .scalar left.of_scalar right.of_scalar content

theorem Plain.equal_reordered (filed : h.Filed) (filed' : h'.Filed) (ha : h.Plain a)
    (hb : h.Plain b) (equal : h.Equal a b) : h'.Equal a b := by
  refine Plain.induction (P := h'.Equal) filed ?_ ?_ ha hb equal
  · intro x plain
    exact Plain.equal_self filed' x (.reordered other plain)
  · intro a b ha hb same
    refine (Plain.equal_iff filed' (.reordered other ha) (.reordered other hb)).2 ?_
    exact Matches.reordered other same

omit other

/-- Two dictionaries with the same entries are found equal. -/
theorem equal_of_dict (filed : h.Filed) (hp : h.Plain (.ref p)) (found : h.get? p = some (.dict s))
    (found' : h.get? q = some (.dict t)) (entries : s.SameEntries t) :
    h.Equal (.ref p) (.ref q) := by
  have left : h.shape (.ref p) = .mapping s := by simp only [Heap.shape, found]
  have right : h.shape (.ref q) = .mapping t := by simp only [Heap.shape, found']
  have alike : s.Alike (fun x y => h.Equal x.2 y.2) t := by
    refine entries.imp fun {k x y} found _ same => ?_
    have part : h.Part (.ref p) x.2 := (mem_within_mapping left).2 ⟨k, x, found, rfl⟩
    rw [← same]
    exact Plain.equal_self filed _ (hp.of_part part)
  exact (Matches.passes filed rfl rfl (.mapping left right alike)).equal

/-- Two sets with the same members are found equal. -/
theorem equal_of_set (filed : h.Filed) (found : h.get? p = some (.set s))
    (found' : h.get? q = some (.set t)) (members : s.SameMembers t) :
    h.Equal (.ref p) (.ref q) := by
  have left : h.shape (.ref p) = .set s := by simp only [Heap.shape, found]
  have right : h.shape (.ref q) = .set t := by simp only [Heap.shape, found']
  exact (Matches.passes filed rfl rfl (.set left right members)).equal

/-! ### Answers -/

theorem Filed.no_fail_entry (filed : h.Filed) (found : h.get? p = some (.dict s))
    {e : Value × Value} (mem : e ∈ s.pairs) : h.entryCheck q e ≠ .fail v := by
  obtain ⟨e, he, rfl⟩ := List.mem_map.1 mem
  have key : h.key? e.2.1 = some e.1 := filed.keyed (table?_eq_some.2 (.inl found)) e he
  rw [entryCheck, key]
  dsimp only
  cases (h.dict? q).bind (·.value? e.1) <;> simp

theorem Filed.no_fail_member (filed : h.Filed) (found : h.get? p = some (.set s))
    (mem : x ∈ s.members) : h.memberCheck t x ≠ .fail v := by
  obtain ⟨pair, hp, rfl⟩ := List.mem_map.1 mem
  obtain ⟨e, he, rfl⟩ := List.mem_map.1 hp
  have key : h.key? e.2.1 = some e.1 := filed.keyed (table?_eq_some.2 (.inr found)) e he
  rw [memberCheck, key]
  dsimp only
  split <;> simp

theorem fail_known {answer : Bool} : Check.fail v ∉ known answer := by
  cases answer <;> simp [known]

theorem Filed.no_fail_shapes (filed : h.Filed) : Check.fail v ∉ h.shapeChecks a b := by
  intro mem
  unfold shapeChecks at mem
  split at mem
  · exact fail_known mem
  · exact fail_known mem
  · split at mem <;> simp at mem
  · next s t left right =>
    obtain ⟨p, rfl, found⟩ := shape_mapping left
    obtain ⟨q, rfl, -⟩ := shape_mapping right
    simp only [Value.address?] at mem
    split at mem
    · simp at mem
    · obtain ⟨e, he, same⟩ := List.mem_map.1 mem
      exact filed.no_fail_entry found he same
  · next s t left right =>
    obtain ⟨p, rfl, found⟩ := shape_set left
    split at mem
    · simp at mem
    · obtain ⟨x, hx, same⟩ := List.mem_map.1 mem
      exact filed.no_fail_member found hx same
  · exact fail_known mem
  · simp at mem

/-- On a heap with tables that agree with their keys nothing is looked up that has no key. -/
theorem Filed.no_fail (filed : h.Filed) : Check.fail v ∉ h.checks a b := by
  intro mem
  unfold checks at mem
  split at mem
  · exact fail_known mem
  · split at mem
    · exact fail_known mem
    · split at mem
      · cases mem
      · exact filed.no_fail_shapes mem

theorem Filed.no_error (filed : h.Filed) : ¬h.Equals a b (.error v) := by
  have told {cs : List Check} {answer : Except Value Bool} (answered : h.Answer cs answer) :
      (∀ v, .fail v ∉ cs) → ∀ v, answer ≠ .error v := by
    induction answered with
    | nil | differ => rintro - v ⟨⟩
    | pass _ ih => exact fun none => ih fun v mem => none v (List.mem_cons_of_mem _ mem)
    | fail => exact fun none => absurd List.mem_cons_self (none _)
    | same _ _ _ ih => exact fun none => ih fun v mem => none v (List.mem_cons_of_mem _ mem)
    | other _ _ ih => exact fun _ => ih fun v => filed.no_fail
  exact fun equals => told equals (fun v => filed.no_fail) v rfl

/-- What two comparisons say is the same if both find their values equal or neither does. -/
theorem answer_eq {answer answer' : Bool} (equals : h.Equals a b (.ok answer))
    (equals' : h'.Equals x y (.ok answer')) (same : h.Equal a b ↔ h'.Equal x y) :
    answer = answer' := by
  cases answer with
  | true =>
    cases (same.1 equals).unique equals'
    rfl
  | false =>
    cases answer' with
    | true => cases equals.unique (same.2 equals')
    | false => rfl

end Heap

variable {m m' : Machine σ} {a b c : Value} {answer : Bool}

/-- Whether the evaluator, as deep as the walk of the comparison goes, tells whether two values are
equal, with that answer, and leaves the machine as it is. -/
def Machine.Tells (m : Machine σ) (tell : Nat → Moment → M σ Unit) (reveal : M σ Unit)
    (a b : Value) (answer : Bool) : Prop :=
  ∀ fuel, m.heap.reach ⟨.equal, a, b⟩ ≤ fuel →
    (runner tell reveal fuel).equals a b m = .ok answer m

section

variable (tell : Nat → Moment → M σ Unit) (reveal : M σ Unit)

/-- A comparison of plain values comes to an end with an answer. -/
theorem equals_answers (filed : m.heap.Filed) (ha : m.heap.Plain a) (hb : m.heap.Plain b)
    {fuel : Nat} (le : m.heap.reach ⟨.equal, a, b⟩ ≤ fuel) :
    ∃ answer, m.heap.Equals a b (.ok answer) ∧
      (runner tell reveal fuel).equals a b m = .ok answer m := by
  have concludes := equals_concludes tell reveal fuel ha.allMute hb.allMute
  obtain ⟨res, ⟨answer, equals, rfl⟩, run⟩ :=
    concludes.1 (Heap.ends_of_reach ha.not_circular le)
  cases answer with
  | ok answer => exact ⟨answer, equals, attempt_eq_ok.1 run⟩
  | error v => exact absurd equals filed.no_error

theorem tells_iff (filed : m.heap.Filed) (ha : m.heap.Plain a) (hb : m.heap.Plain b) :
    m.Tells tell reveal a b answer ↔ m.heap.Equals a b (.ok answer) := by
  constructor
  · intro tells
    obtain ⟨answer', equals, run⟩ := equals_answers tell reveal filed ha hb (Nat.le_refl _)
    cases run.symm.trans (tells _ (Nat.le_refl _))
    exact equals
  · intro equals fuel le
    obtain ⟨answer', equals', run⟩ := equals_answers tell reveal filed ha hb le
    cases equals.unique equals'
    exact run

end

/-- Whether equality of plain values is always told, an equivalence, a matter of their parts, and
independent of the order of entries. -/
structure Machine.Equates (m : Machine σ) (tell : Nat → Moment → M σ Unit) (reveal : M σ Unit) :
    Prop where
  total : ∀ {a b}, m.heap.Plain a → m.heap.Plain b → ∃ answer, m.Tells tell reveal a b answer
  refl : ∀ {a}, m.heap.Plain a → m.Tells tell reveal a a true
  symm : ∀ {a b answer}, m.heap.Plain a → m.heap.Plain b → m.Tells tell reveal a b answer →
    m.Tells tell reveal b a answer
  trans : ∀ {a b c}, m.heap.Plain a → m.heap.Plain b → m.heap.Plain c →
    m.Tells tell reveal a b true → m.Tells tell reveal b c true → m.Tells tell reveal a c true
  /-- Two values are equal exactly if they have one shape and their parts are equal, item by item or
  key by key. -/
  parts : ∀ {a b}, m.heap.Plain a → m.heap.Plain b → (m.Tells tell reveal a b true ↔
    m.heap.Matches (fun x y => m.Tells tell reveal x y true) a b)
  /-- An answer stays when dictionaries and sets come to the same entries in another order. -/
  reordered : ∀ {m' : Machine σ} {a b answer}, m.heap.Reordered m'.heap → m'.heap.Filed →
    m.heap.Plain a → m.heap.Plain b → m.Tells tell reveal a b answer →
    m'.Tells tell reveal a b answer
  /-- Dictionaries with the same entries are equal. -/
  dict : ∀ {p q s t}, m.heap.get? p = some (.dict s) → m.heap.get? q = some (.dict t) →
    s.SameEntries t → m.heap.Plain (.ref p) → m.heap.Plain (.ref q) →
    m.Tells tell reveal (.ref p) (.ref q) true
  /-- Sets with the same members are equal. -/
  set : ∀ {p q s t}, m.heap.get? p = some (.set s) → m.heap.get? q = some (.set t) →
    s.SameMembers t → m.heap.Plain (.ref p) → m.heap.Plain (.ref q) →
    m.Tells tell reveal (.ref p) (.ref q) true

theorem Heap.Filed.equates (filed : m.heap.Filed) (tell : Nat → Moment → M σ Unit)
    (reveal : M σ Unit) : m.Equates tell reveal where
  total ha hb := by
    obtain ⟨answer, equals, -⟩ := equals_answers tell reveal filed ha hb (Nat.le_refl _)
    exact ⟨answer, (tells_iff tell reveal filed ha hb).2 equals⟩
  refl ha := (tells_iff tell reveal filed ha ha).2 (Heap.Plain.equal_self filed _ ha)
  symm {a b answer} ha hb tells := by
    obtain ⟨answer', equals', -⟩ := equals_answers tell reveal filed hb ha (Nat.le_refl _)
    rw [tells_iff tell reveal filed ha hb] at tells
    rw [tells_iff tell reveal filed hb ha]
    rwa [Heap.answer_eq tells equals' ⟨Heap.Plain.symm filed ha hb, Heap.Plain.symm filed hb ha⟩]
  trans ha hb hc first second := by
    rw [tells_iff tell reveal filed ha hb] at first
    rw [tells_iff tell reveal filed hb hc] at second
    exact (tells_iff tell reveal filed ha hc).2 (Heap.Plain.trans filed ha hb hc first second)
  parts ha hb := by
    rw [tells_iff tell reveal filed ha hb]
    refine (Heap.Plain.equal_iff filed ha hb).trans ?_
    constructor
    · refine fun same => same.imp fun hx hy equal => ?_
      exact (tells_iff tell reveal filed (ha.of_part hx) (hb.of_part hy)).2 equal
    · refine fun same => same.imp fun hx hy tells => ?_
      exact (tells_iff tell reveal filed (ha.of_part hx) (hb.of_part hy)).1 tells
  reordered {m' a b answer} other filed' ha hb tells := by
    have ha' : m'.heap.Plain a := .reordered other ha
    have hb' : m'.heap.Plain b := .reordered other hb
    have same : m.heap.Equal a b ↔ m'.heap.Equal a b :=
      ⟨Heap.Plain.equal_reordered other filed filed' ha hb,
        Heap.Plain.equal_reordered other.symm filed' filed ha' hb'⟩
    obtain ⟨answer', equals', -⟩ := equals_answers tell reveal filed' ha' hb' (Nat.le_refl _)
    rw [tells_iff tell reveal filed ha hb] at tells
    rw [tells_iff tell reveal filed' ha' hb']
    rwa [Heap.answer_eq tells equals' same]
  dict found found' entries hp hq :=
    (tells_iff tell reveal filed hp hq).2 (Heap.equal_of_dict filed hp found found' entries)
  set found found' members hp hq :=
    (tells_iff tell reveal filed hp hq).2 (Heap.equal_of_set filed found found' members)

/-- Whether equality is an equivalence in every state that runs from a machine on come through:
those on the trail of the same run, whether it ends or not. -/
def Machine.StaysEquating (m : Machine σ) (observe : Observer σ) : Prop :=
  ∀ fuel p,
    plainly (runProgram (trailing observe fuel) p m.trailed) =
        runProgram (watched observe fuel) p m ∧
      ∀ v ∈ (machineOf (runProgram (trailing observe fuel) p m.trailed)).log.visits,
        ∀ tell reveal, v.machine.Equates tell reveal

theorem Machine.StaysFiled.equating {observe : Observer σ} (H : m.StaysFiled observe) :
    m.StaysEquating observe := by
  intro fuel p
  obtain ⟨same, filed⟩ := H fuel p
  exact ⟨same, fun v hv tell reveal => (filed v hv).1.equates tell reveal⟩

/-- Equality of plain values is an equivalence: on every heap with tables that agree with their keys
it is always told, is reflexive, symmetric and transitive, says of two values what it says of their
parts, and does not depend on the order of entries. Every state that a run comes through has such a
heap. -/
theorem equality_equivalence :
    (∀ (m : Machine σ) tell reveal, m.heap.Filed → m.Equates tell reveal) ∧
      (∀ (observe : Observer σ) log, (Machine.start log).StaysEquating observe) ∧
      ∀ s, (Machine.forTrace s).StaysEquating (Recorder.observe s) := by
  refine ⟨fun m tell reveal filed => filed.equates tell reveal, fun observe log => ?_, fun s => ?_⟩
  · obtain ⟨w, H⟩ := Sound.start_stands log
    exact (Stands.staysFiled (m := Machine.start log) H observe).equating
  · obtain ⟨w, H⟩ := Sound.forTrace_stands s
    exact (Stands.staysFiled (m := Machine.forTrace s) H (Recorder.observe s)).equating

/-- `{1: "x", 2: items}` and `{2: items, True: "x"}` are equal, whichever of them stands on the
left. -/
theorem equality_equivalence_swapped :
    let s : Table :=
      ⟨[(.int 1, .int 1, .str "x"), (.int 2, .int 2, .ref 0x7f001002)], by decide⟩
    let t : Table :=
      ⟨[(.int 2, .int 2, .ref 0x7f001002), (.int 1, .bool true, .str "x")], by decide⟩
    let h : Heap := ⟨#[some (.dict s), some (.dict t), some (.list #[.bool true])], 0⟩
    let m : Machine Unit := { Machine.start () with heap := h }
    h.Filed ∧ h.Plain (.ref 0x7f001000) ∧ h.Plain (.ref 0x7f001001) ∧
      m.Tells (fun _ _ => pure ()) (pure ()) (.ref 0x7f001000) (.ref 0x7f001001) true ∧
      m.Tells (fun _ _ => pure ()) (pure ()) (.ref 0x7f001001) (.ref 0x7f001000) true := by
  intro s t h m
  have first : h.get? 0x7f001000 = some (.dict s) := rfl
  have second : h.get? 0x7f001001 = some (.dict t) := rfl
  have third : h.get? 0x7f001002 = some (.list #[.bool true]) := rfl
  have entries : s.SameEntries t := by
    refine Ordered.alike_iff.2 ⟨rfl, ?_⟩
    simp [s, t, Ordered.get?, Ordered.find?]
  have filed : h.Filed := by
    refine Heap.filed_of_objects fun u hu e he => ?_
    have found : u = s ∨ u = t := by simpa [h] using hu
    have keyed : ∀ e ∈ s.entries ++ t.entries, h.key? e.2.1 = some e.1 := by
      simp [s, t, Heap.key?]
    obtain rfl | rfl := found
    · exact keyed e (List.mem_append_left _ he)
    · exact keyed e (List.mem_append_right _ he)
  have leaf {v : Value} (float : v.isFloat = false) (shape : h.shape v ≠ .instance_)
      (none : h.within v = []) : h.Plain v := by
    refine .of_parts float shape fun u part => ?_
    rw [Heap.Part, none] at part
    cases part
  have list : h.Plain (.ref 0x7f001002) := by
    refine .of_parts rfl (by simp [Heap.shape, third]) fun u part => ?_
    have own : u = .bool true := by simpa [Heap.Part, Heap.within, Heap.shape, third] using part
    rw [own]
    exact leaf rfl (by simp [Heap.shape]) rfl
  have dict {p : Address} {u : Table} (found : h.get? p = some (.dict u))
      (parts : ∀ v ∈ u.pairs.map (·.2), v = .str "x" ∨ v = .ref 0x7f001002) :
      h.Plain (.ref p) := by
    refine .of_parts rfl (by simp [Heap.shape, found]) fun v part => ?_
    have held : v ∈ u.pairs.map (·.2) := by
      simpa only [Heap.Part, Heap.within, Heap.shape, found] using part
    obtain rfl | rfl := parts v held
    · exact leaf rfl (by simp [Heap.shape]) rfl
    · exact list
  have plain : h.Plain (.ref 0x7f001000) := dict first (by simp [s, Table.pairs, Ordered.values])
  have plain' : h.Plain (.ref 0x7f001001) := dict second (by simp [t, Table.pairs, Ordered.values])
  have equates := equality_equivalence.1 m (fun _ _ => pure ()) (pure ()) filed
  have tells := equates.dict first second entries plain plain'
  exact ⟨filed, plain, plain', tells, equates.symm plain plain' tells⟩

end Stepwise
