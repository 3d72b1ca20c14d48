import Stepwise.Proofs.Endless
import Stepwise.Proofs.Relation.Coupling

/-!
# Two ways to write a value

What the machine writes of a value is the text that the heap alone gives, as long as no class says
how its instances are written and no exception is come to (`repr_agrees`). Cycles make no
difference: both turn back at the same places.

## The model

The heap alone keeps what is around a value as an argument, and the machine in its state
(`Machine.writing`); only of containers does the machine write the parts itself, and everything else
it leaves to the heap, with nothing around (`Heap.reprIn_alone` says that nothing is lost by that).
Neither comes to an end at a method that is bound to something that shows the method
(`Machine.ShowsItself`).
-/

namespace Stepwise

variable {σ α : Type}

/-! ### Values without classes that have a say -/

/-- No class says how its instances are written. -/
def Heap.Unspoken (h : Heap) : Prop :=
  ∀ a c, h.class? a = some c → c.attrs.get? "__repr__" = none

theorem Heap.Unspoken.classLookup? {h : Heap} (unspoken : h.Unspoken) (cls : Address) :
    h.classLookup? cls "__repr__" = none := by
  have own (d : Address) : h.own? "__repr__" d = none := by
    cases hd : h.class? d with
    | none => simp [Heap.own?, hd]
    | some c => simp [Heap.own?, hd, unspoken d c hd]
  cases hc : h.class? cls with
  | none => simp [Heap.classLookup?, hc]
  | some c => simp [Heap.classLookup?, hc, own]

namespace Machine

/-- No exception is come to in writing a value from the heap alone: none is an item, key, value or
member of what is come to, and no method that is come to is bound to one. -/
def Ordinary (m : Machine σ) (v : Value) : Prop :=
  ∀ a i, m.Reaches ⟨.plain, v⟩ ⟨.plain, .ref a⟩ → m.heap.instance? a = some i →
    m.heap.isExceptionClass i.cls = false

/-- A method is come to that is bound to something that shows the method itself. -/
def ShowsItself (m : Machine σ) (v : Value) : Prop :=
  ∃ b receiver f, m.Reaches ⟨.plain, v⟩ ⟨.plain, .ref b⟩ ∧
    m.heap.get? b = some (.boundMethod receiver f) ∧
    m.Reaches ⟨.plain, receiver⟩ ⟨.plain, .ref b⟩

/-- Every method that is come to is bound to an instance. -/
def BindsInstances (m : Machine σ) (v : Value) : Prop :=
  ∀ b receiver f, m.Reaches ⟨.plain, v⟩ ⟨.plain, .ref b⟩ →
    m.heap.get? b = some (.boundMethod receiver f) →
    ∃ a i, receiver = .ref a ∧ m.heap.get? a = some (.inst i)

variable {m m' : Machine σ} {v u : Value} {a : Address} {o : Object}

theorem Ordinary.of_leads (ordinary : m.Ordinary v)
    (step : m.tour.Leads ⟨.plain, v⟩ ⟨.plain, u⟩) : m.Ordinary u :=
  fun a i reach => ordinary a i (.head step reach)

theorem Ordinary.isExceptionClass {i : Instance} (ordinary : m.Ordinary (.ref a))
    (found : m.heap.get? a = some (.inst i)) : m.heap.isExceptionClass i.cls = false :=
  ordinary a i .refl (Heap.instance?_eq_some.2 found)

/-- An instance that is no exception leads nowhere. -/
theorem not_leads_of_instance {i : Instance} {k : Job} (found : m.heap.get? a = some (.inst i))
    (ordinary : m.heap.isExceptionClass i.cls = false) : ¬m.tour.Leads ⟨.plain, .ref a⟩ k := by
  rintro (step | step)
  · cases step with
    | part found' hv =>
      obtain rfl := Option.some.inj (found.symm.trans found')
      simp [Heap.parts, ordinary] at hv
    | onward next => simp [onward?] at next
  · cases step with
    | aside found' hk =>
      obtain rfl := Option.some.inj (found.symm.trans found')
      cases hk
    | argument told => cases told

/-- Methods that are bound to instances do not show themselves. -/
theorem BindsInstances.not_showsItself (binds : m.BindsInstances v) (ordinary : m.Ordinary v) :
    ¬m.ShowsItself v := by
  rintro ⟨b, receiver, f, reach, found, back⟩
  obtain ⟨a, i, rfl, instance_⟩ := binds b receiver f reach found
  have plain := ordinary a i (.tail reach (.inr (.aside found (List.mem_singleton_self _))))
    (Heap.instance?_eq_some.2 instance_)
  obtain same | ⟨k, step, -⟩ := back.cases_head
  · cases same
    cases instance_.symm.trans found
  · exact not_leads_of_instance instance_ plain step

/-- Writing from the heap alone has no end only because of a method that shows itself. -/
theorem endless_plain_iff : m.Endless ⟨.plain, v⟩ ↔ m.ShowsItself v := by
  refine or_iff_left ?_
  rintro ⟨u, i, arg, reach, -⟩
  exact absurd (rank_le reach) (Nat.not_succ_le_zero 1)

end Machine

/-! ### The same places to turn back -/

/-- What is no container is written from the heap as if nothing were around it, unless it is an
exception. -/
theorem Heap.reprIn_alone {h : Heap} {a : Address} {around : List Address} {n : Nat}
    (leaf : h.hasContainer a = false)
    (ordinary : ∀ i, h.instance? a = some i → h.isExceptionClass i.cls = false)
    (new : a ∉ around) : h.reprIn around (n + 1) (.ref a) = h.reprIn [] (n + 1) (.ref a) := by
  cases found : h.get? a with
  | none => simp only [reprIn, found]
  | some o =>
    have alone : around.contains a = false := by simpa using new
    simp only [reprIn, found, alone, List.contains_nil, Bool.false_eq_true, if_false]
    rw [hasContainer, found] at leaf
    cases o with
    | list | dict | set => cases leaf
    | inst i =>
      have plain := ordinary i (instance?_eq_some.2 found)
      simp only [plain, Bool.false_eq_true, if_false]
    | _ => rfl

namespace Machine

variable {m m' : Machine σ} {v : Value} {a : Address} {s : String} {n fuel : Nat}
  {tell : Nat → Moment → M σ Unit}

/-- What is no container is left to the heap. -/
theorem reprObject_leaf {r : Runner σ} (leaf : m.heap.hasContainer a = false) :
    reprObject r a m = plainText r (.ref a) m := by
  unfold reprObject
  rw [getHeap_bind]
  cases found : m.heap.get? a with
  | none => rfl
  | some o =>
    rw [Heap.hasContainer, found] at leaf
    cases o with
    | list | dict | set => cases leaf
    | _ => rfl

/-- A container is written as on the heap if that is so of its parts, with the container around
them. -/
theorem reprObject_container {r : Runner σ} (container : m.heap.hasContainer a = true)
    (new : a ∉ m.writing)
    (part : ∀ o, m.heap.get? a = some o → ∀ v ∈ m.heap.parts .plain o, ∀ s,
      m.heap.reprIn (a :: m.writing) n v = some s →
        r.repr v { m with writing := a :: m.writing } =
          .ok s { m with writing := a :: m.writing })
    (shown : m.heap.reprIn m.writing (n + 1) (.ref a) = some s) : reprObject r a m = .ok s m := by
  obtain ⟨o, found, container⟩ := (Option.any_eq_true ..).1 container
  have part := part o found
  have fresh : m.writing.contains a = false := by simpa using new
  simp only [Heap.reprIn, found, fresh, Bool.false_eq_true, if_false] at shown
  unfold reprObject
  rw [getHeap_bind, found]
  cases o with
  | list items =>
    obtain ⟨parts, each, e⟩ := Option.bind_eq_some_iff.1 shown
    cases e
    exact M.whileWriting_ok (M.bind_ok (M.mapM_of_some part each))
  | set t =>
    obtain ⟨parts, each, e⟩ := Option.bind_eq_some_iff.1 shown
    cases e
    exact M.whileWriting_ok (M.bind_ok (M.mapM_of_some part each))
  | dict t =>
    obtain ⟨parts, each, e⟩ := Option.bind_eq_some_iff.1 shown
    cases e
    refine M.whileWriting_ok (M.bind_ok (M.mapM_of_some (fun e mem text made => ?_) each))
    obtain ⟨key, hkey, made⟩ := Option.bind_eq_some_iff.1 made
    obtain ⟨value, hvalue, e⟩ := Option.bind_eq_some_iff.1 made
    cases e
    unfold reprEntry
    rw [M.bind_ok (part _ (Table.key_held mem) _ hkey),
      M.bind_ok (part _ (Table.value_held mem) _ hvalue)]
    rfl
  | _ => cases container

/-- The machine writes what there is to write from the heap alone. -/
theorem repr_ok (silent : ∀ cls, m.heap.classLookup? cls "__repr__" = none)
    (same : m'.heap = m.heap) (held : ∀ a ∈ m'.writing, m.heap.get? a ≠ none)
    (ordinary : m.Ordinary v) (lt : n < fuel) (shown : m.heap.reprIn m'.writing n v = some s) :
    (runner tell (pure ()) fuel).repr v m' = .ok s m' := by
  -- What is around the value on the heap is what the machine is writing.
  induction n generalizing m' v s fuel with
  | zero => simp only [Heap.reprIn, reduceCtorEq] at shown
  | succ n ih =>
    obtain ⟨fuel, rfl⟩ : ∃ f, fuel = f + 1 := ⟨fuel - 1, by omega⟩
    have lt : n < fuel := Nat.lt_of_succ_lt_succ lt
    show reprOf (runner tell (pure ()) fuel) v m' = _
    cases v with
    | tuple mark items =>
      rw [Heap.reprIn] at shown
      obtain ⟨parts, each, e⟩ := Option.bind_eq_some_iff.1 shown
      cases e
      exact M.bind_ok (M.mapM_of_some (fun v mem part =>
        ih same held (ordinary.of_leads (.inl (.item rfl mem))) lt) each)
    | ref a =>
      by_cases mem : a ∈ m'.writing
      · obtain ⟨o, found⟩ := Option.ne_none_iff_exists'.1 (held a mem)
        have met : m'.writing.contains a = true := by simpa using mem
        simp only [Heap.reprIn, found, met, if_true, Option.some.injEq] at shown
        rw [reprOf_met mem, same, found, ← shown]
        rfl
      rw [reprOf_new mem fun cls _ => same ▸ silent cls]
      cases container : m.heap.hasContainer a with
      | false =>
        have text : m.heap.repr? (n + 1) (.ref a) = some s :=
          (Heap.reprIn_alone container (fun i => ordinary a i .refl) mem).symm.trans shown
        rw [reprObject_leaf (same ▸ container), plainText_eq, same, Heap.repr?_mono lt text]
        rfl
      | true =>
        refine reprObject_container (same ▸ container) mem (fun o found v hv s part => ?_)
          (same ▸ shown)
        rw [same] at found hv part
        have held' : ∀ b ∈ a :: m'.writing, m.heap.get? b ≠ none := by simpa [found] using held
        exact ih same held' (ordinary.of_leads (.inl (.part found hv))) lt part
    | _ =>
      simp only [Heap.reprIn, Option.some.injEq] at shown
      rw [← shown]
      rfl

/-! ### The same ways without end -/

/-- A method that the heap alone comes to is come to by the machine. -/
theorem Reaches.by_script {b : Address} {receiver : Value} {f : Address}
    (reach : m.Reaches ⟨.plain, v⟩ ⟨.plain, .ref b⟩) (ordinary : m.Ordinary v)
    (found : m.heap.get? b = some (.boundMethod receiver f)) :
    m.Reaches ⟨.script, v⟩ ⟨.plain, .ref b⟩ := by
  obtain ⟨j, hj⟩ : ∃ j : Job, j = ⟨.plain, v⟩ := ⟨_, rfl⟩
  rw [← hj] at reach
  induction reach using Relation.ReflTransGen.head_induction_on generalizing v with
  | refl =>
    cases hj
    exact .single (.inr (.aside found (List.mem_singleton_self _)))
  | head step rest ih =>
    subst hj
    obtain step | step := step
    · cases step with
      | item walks hv =>
        refine .head (.inl (.item rfl hv)) (ih (ordinary.of_leads (.inl (.item walks hv))) rfl)
      | @part _ a o u holder hv =>
        have script := ih (ordinary.of_leads (.inl (.part holder hv))) rfl
        cases o with
        | list | dict | set => exact .head (.inl (.part holder hv)) script
        | inst i =>
          simp [Heap.parts, ordinary.isExceptionClass holder] at hv
        | _ => cases hv
      | onward next => simp [onward?] at next
    · cases step with
      | @aside _ a o k holder hk =>
        cases o with
        | boundMethod =>
          exact .head (.inr (.aside holder (List.mem_singleton_self _)))
            (.head (.inr (.aside holder hk)) rest)
        | _ => cases hk
      | argument told => cases told

theorem ShowsItself.endless (shows : m.ShowsItself v) (ordinary : m.Ordinary v) :
    m.Endless ⟨.script, v⟩ := by
  obtain ⟨b, receiver, f, reach, found, back⟩ := shows
  exact .inl ⟨b, receiver, f, Reaches.by_script reach ordinary found, found, back⟩

theorem base_idle (idle : m.writing = []) (j : Job) : m.tour.base j = [] := by
  obtain ⟨_ | _, _⟩ := j <;> simp [tour, around, idle]

/-- There is a text on the heap, within a bound that the numbers of objects and of nested tuples
set, unless a method shows itself. -/
theorem repr?_of_room (finite : ¬m.ShowsItself v) :
    ∃ s, m.heap.repr? (m.heap.room v) v = some s := by
  rw [← endless_plain_iff, endless_iff] at finite
  have fits := m.fits (Nat.add_le_add_right (Nat.le_max_left m.heap.nesting v.nesting) 3)
  have shallow : Job.depth ⟨.plain, v⟩ ≤ max m.heap.nesting v.nesting + 3 := by
    simp only [Job.depth, Manner.rank]
    omega
  refine Option.isSome_iff_exists.1 ((ends_plain (j := ⟨.plain, v⟩) rfl).1 ?_)
  rw [Heap.room, ← length_sites]
  exact fits.ends_of_room finite shallow (Nat.le_refl _)

end Machine

/-- On a heap where no class says how its instances are written, and no exception is come to, what
the machine writes of a value is its text on the heap, and nothing is being written afterwards.
Neither of the two has a result if a method is come to that is bound to something that shows the
method itself. -/
theorem repr_agrees {m : Machine σ} (tell : Nat → Moment → M σ Unit) (unspoken : m.heap.Unspoken)
    (idle : m.writing = []) {v : Value} (ordinary : m.Ordinary v) :
    (¬m.ShowsItself v → ∃ s, ∀ fuel, m.heap.room v < fuel →
      m.heap.repr? fuel v = some s ∧ (runner tell (pure ()) fuel).repr v m = .ok s m) ∧
    (m.ShowsItself v → ∀ fuel, m.heap.repr? fuel v = none ∧
      ∃ m', (runner tell (pure ()) fuel).repr v m = .error .outOfFuel m') ∧
    (m.BindsInstances v → ¬m.ShowsItself v) := by
  have base := Machine.base_idle idle
  refine ⟨fun finite => ?_, fun shows fuel => ⟨?_, ?_⟩, fun binds => binds.not_showsItself ordinary⟩
  · obtain ⟨s, shown⟩ := Machine.repr?_of_room finite
    refine ⟨s, fun fuel lt => ⟨Heap.repr?_mono (Nat.le_of_lt lt) shown, ?_⟩⟩
    exact Machine.repr_ok unspoken.classLookup? rfl (by simp [idle]) ordinary lt
      (by rw [idle]; exact shown)
  · have endless := Machine.endless_iff.1 (Machine.endless_plain_iff.2 shows)
    have unending : ¬m.tour.Ends fuel [] ⟨.plain, v⟩ := endless.not_ends base
    rw [← base ⟨.plain, v⟩, Machine.ends_plain rfl, Option.not_isSome_iff_eq_none] at unending
    exact unending
  · have endless := Machine.endless_iff.1 (shows.endless ordinary)
    refine (Machine.repr_answers unspoken.classLookup? rfl).2 ?_
    rw [idle]
    exact endless.not_ends base

/-- A list that holds itself and a method, which is bound to `receiver`, and an instance of the
class of the method. -/
def Heap.boundTo (receiver : Value) : Heap :=
  ⟨#[some (.list #[.ref base, .ref (base + 1)]), some (.boundMethod receiver (base + 2)),
    some (.func ⟨.mk "m" [] none none [] default, [], none, some (base + 3)⟩),
    some (.cls ⟨"A", [], [base + 3], .ofList [("m", .ref (base + 2))], false⟩),
    some (.inst ⟨base + 3, .empty, []⟩)], 0⟩

/-- Bound to the instance, the method is written in both ways alike; bound to a tuple that holds the
list, it leaves both of them without an end. -/
theorem repr_agrees_bound :
    let m (receiver : Value) : Machine Unit := { Machine.start () with heap := .boundTo receiver }
    let sound := m (.ref (Heap.base + 4))
    let knot := m (.tuple 0 [.ref Heap.base])
    (∃ s, ∀ fuel, sound.heap.room (.ref Heap.base) < fuel →
      sound.heap.repr? fuel (.ref Heap.base) = some s ∧
        (quiet fuel).repr (.ref Heap.base) sound = .ok s sound) ∧
    ∀ fuel, knot.heap.repr? fuel (.ref Heap.base) = none ∧
      ∃ m', (quiet fuel).repr (.ref Heap.base) knot = .error .outOfFuel m' := by
  intro m sound knot
  have unspoken (receiver : Value) : (m receiver).heap.Unspoken := by
    intro a c hc
    obtain rfl : c = ⟨"A", [], [Heap.base + 3], .ofList [("m", .ref (Heap.base + 2))], false⟩ := by
      simpa [m, Heap.boundTo] using Heap.mem_objects (Heap.class?_eq_some.1 hc)
    rfl
  have ordinary (receiver : Value) : (m receiver).Ordinary (.ref Heap.base) := by
    intro a i _ hi
    obtain rfl : i = ⟨Heap.base + 3, .empty, []⟩ := by
      simpa [m, Heap.boundTo] using Heap.mem_objects (Heap.instance?_eq_some.1 hi)
    rfl
  have agrees (receiver : Value) :=
    repr_agrees (fun _ _ => pure ()) (unspoken receiver) rfl (ordinary receiver)
  have binds : sound.BindsInstances (.ref Heap.base) := by
    intro b receiver f _ hb
    obtain ⟨rfl, -⟩ : receiver = .ref (Heap.base + 4) ∧ f = Heap.base + 2 := by
      simpa [sound, m, Heap.boundTo] using Heap.mem_objects hb
    exact ⟨_, ⟨Heap.base + 3, .empty, []⟩, rfl, rfl⟩
  have shows : knot.ShowsItself (.ref Heap.base) := by
    have reach : knot.Reaches ⟨.plain, .ref Heap.base⟩ ⟨.plain, .ref (Heap.base + 1)⟩ :=
      .single (.inl (.part (o := .list #[.ref Heap.base, .ref (Heap.base + 1)]) rfl
        (by simp [Heap.parts])))
    exact ⟨_, .tuple 0 [.ref Heap.base], Heap.base + 2, reach, rfl,
      .head (.inl (.item rfl (List.mem_singleton_self _))) reach⟩
  exact ⟨(agrees _).1 ((agrees _).2.2 binds), (agrees _).2.1 shows⟩

end Stepwise
