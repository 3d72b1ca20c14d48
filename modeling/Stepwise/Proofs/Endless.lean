import Stepwise.Proofs.Writing

/-!
# Texts that end

Turning a value into text comes to an end, and then no deeper than the numbers of objects and of
nested tuples allow, exactly if no fresh start on the way leads back to itself (`write_ends_iff`).
Containers never do that, however they hold each other; a bound method does that is found inside
its own receiver, and so does an exception that is its own and only argument.

## The model

Writing is on the heap wherever it goes on from a container, and between two objects it only goes
through tuples and from one manner to a simpler one (`Manner.rank`). So of all fresh starts only two
can lead back to themselves (`Machine.Endless`).
-/

namespace Stepwise

variable {σ : Type}

/-! ### How much there is to write -/

namespace Heap

/-- How deep the writing of a value goes at most. -/
def room (h : Heap) (v : Value) : Nat :=
  Tour.room (5 * h.live.length) (max h.nesting v.nesting + 3)

end Heap

/-- A manner only hands on to one of lower rank. -/
def Manner.rank : Manner → Nat
  | plain => 0
  | json | script => 1
  | reader => 2
  | message => 3

/-- A bound on the steps until the walk is on the heap. -/
def Job.depth (j : Job) : Nat := j.value.nesting + j.manner.rank

namespace Machine

variable {m : Machine σ} {manner : Manner} {a : Address} {o : Object} {v : Value} {j k : Job}

/-- All jobs with objects. -/
def sites (m : Machine σ) : List Job :=
  [Manner.plain, .json, .script, .reader, .message].flatMap fun manner => around manner m.heap.live

theorem length_sites : m.sites.length = 5 * m.heap.live.length := by
  simp [sites, around]
  omega

theorem mem_sites (found : m.heap.get? a = some o) : ⟨manner, .ref a⟩ ∈ m.sites :=
  List.mem_flatMap.2 ⟨manner, by cases manner <;> simp, mem_around.2 (Heap.mem_live found)⟩

theorem held_of_parts (mem : v ∈ m.heap.parts manner o) : v ∈ o.held := by
  have value {t : Table} (mem : v ∈ t.pairs.map (·.2)) : v ∈ t.held := by
    obtain ⟨e, he, rfl⟩ := List.mem_map.1 mem
    exact Table.value_held he
  have argument {i : Instance} {exception : Bool} (mem : v ∈ if exception then i.args else []) :
      v ∈ (Object.inst i).held := by
    cases exception with
    | true => exact List.mem_cons_of_mem _ (List.mem_append_right _ mem)
    | false => exact absurd mem List.not_mem_nil
  cases manner <;> cases o <;> first
    | exact mem
    | exact Table.member_held mem
    | exact value mem
    | exact argument mem
    | exact absurd mem List.not_mem_nil

theorem of_mem_asides (mem : k ∈ asides a manner o) :
    k.manner = .plain ∧ (k.value ∈ o.held ∨ k.value = .ref a) := by
  have self (mem : k ∈ [(⟨.plain, .ref a⟩ : Job)]) :
      k.manner = .plain ∧ (k.value ∈ o.held ∨ k.value = .ref a) := by
    obtain rfl := List.mem_singleton.1 mem
    exact ⟨rfl, .inr rfl⟩
  have receiver {v : Value} {f : Address} (mem : k ∈ [(⟨.plain, v⟩ : Job)]) :
      k.manner = .plain ∧ (k.value ∈ (Object.boundMethod v f).held ∨ k.value = .ref a) := by
    obtain rfl := List.mem_singleton.1 mem
    exact ⟨rfl, .inl List.mem_cons_self⟩
  have key {t : Table} (mem : k ∈ t.pairs.map fun e => (⟨.plain, e.1⟩ : Job)) :
      k.manner = .plain ∧ (k.value ∈ (Object.dict t).held ∨ k.value = .ref a) := by
    obtain ⟨e, he, rfl⟩ := List.mem_map.1 mem
    exact ⟨rfl, .inl (Table.key_held he)⟩
  cases manner <;> cases o <;> first
    | exact self mem
    | exact receiver mem
    | exact key mem
    | exact absurd mem List.not_mem_nil

theorem of_mem_arguments {i : Instance} (mem : k ∈ m.arguments i) :
    k.manner.rank ≤ 2 ∧ k.value ∈ (Object.inst i).held := by
  have held {v : Value} (mem : v ∈ i.args) : v ∈ (Object.inst i).held :=
    List.mem_cons_of_mem _ (List.mem_append_right _ mem)
  unfold arguments at mem
  split at mem
  · next arg single =>
    have arg_held : arg ∈ (Object.inst i).held := held (by simp [single])
    split at mem <;> obtain rfl := List.mem_singleton.1 mem
    · exact ⟨Nat.le_succ 1, arg_held⟩
    · exact ⟨Nat.le_refl 2, arg_held⟩
  · obtain ⟨v, hv, rfl⟩ := List.mem_map.1 mem
    exact ⟨Nat.le_succ 1, held hv⟩

theorem rank_onward {manner' : Manner} (next : m.onward? j = some manner') :
    manner'.rank < j.manner.rank := by
  obtain ⟨manner, v⟩ := j
  cases manner <;> cases v <;> simp_all [onward?, Manner.rank] <;>
    obtain ⟨-, rfl⟩ := next <;> decide

theorem of_guards (marked : m.guards j = true) :
    j.manner.walks = true ∧ ∃ a o, j = ⟨j.manner, .ref a⟩ ∧ m.heap.get? a = some o := by
  obtain ⟨manner, v⟩ := j
  cases v with
  | ref a =>
    obtain ⟨walks, found⟩ := Bool.and_eq_true_iff.1 marked
    obtain ⟨o, found⟩ := Option.isSome_iff_exists.1 found
    exact ⟨walks, a, o, rfl, found⟩
  | _ => cases marked

theorem of_told {i : Instance} (told : m.told? j = some i) :
    2 ≤ j.manner.rank ∧ ∃ a, j = ⟨j.manner, .ref a⟩ ∧ m.heap.get? a = some (.inst i) := by
  have instance? {a : Address} (found : m.heap.instance? a = some i) :
      m.heap.get? a = some (.inst i) := by
    unfold Heap.instance? at found
    split at found <;> simp_all
  obtain ⟨manner, v⟩ := j
  cases manner <;> cases v <;> first
    | cases told
    | exact ⟨Nat.le_succ 2, _, rfl, instance? told⟩
    | exact ⟨Nat.le_refl 2, _, rfl, instance? (Option.filter_eq_some_iff.1 told).1⟩

theorem fits {most : Nat} (le : m.heap.nesting + 3 ≤ most) :
    m.tour.Fits m.sites Job.depth most where
  marked := by
    intro n k marked _
    obtain ⟨-, a, o, same, found⟩ := of_guards marked
    rw [same]
    exact mem_sites found
  afresh := by
    intro n k step
    cases step with
    | aside found => exact mem_sites found
    | argument told =>
      obtain ⟨-, a, same, found⟩ := of_told told
      rw [same]
      exact mem_sites found
  shallower := by
    intro n k unmarked step
    cases step with
    | item _ hv =>
      have := Value.nesting_le hv
      simp only [Job.depth, Value.nesting]
      omega
    | @part manner a o v found hv =>
      have idle : manner.walks = false := by simpa [tour, guards, found] using unmarked
      cases manner <;> simp_all [Heap.parts, Manner.walks]
    | onward next => exact Nat.add_lt_add_left (rank_onward next) _
  inside_le := by
    intro n k marked step
    obtain ⟨walks, a, o, same, found⟩ := of_guards marked
    obtain ⟨manner, v⟩ := n
    cases same
    cases step with
    | part found' hv =>
      have := Heap.nesting_le found' (held_of_parts hv)
      have low : manner.rank ≤ 1 := by
        cases manner <;> simp_all [Manner.walks, Manner.rank]
      simp only [Job.depth]
      omega
    | onward next =>
      have bare := (onward?_walks walks next).2
      simp [Machine.bare, found] at bare
  afresh_le := by
    intro n k step
    unfold Job.depth
    cases step with
    | @aside _ a _ _ found hk =>
      obtain ⟨plain, held | here⟩ := of_mem_asides hk
      · have := Heap.nesting_le found held
        rw [plain, Manner.rank]
        omega
      · have flat : (Value.ref a).nesting = 0 := by rfl
        rw [plain, here, flat, Manner.rank]
        omega
    | argument told hk =>
      obtain ⟨-, a, -, found⟩ := of_told told
      obtain ⟨low, held⟩ := of_mem_arguments hk
      have := Heap.nesting_le found held
      omega

/-! ### What has no end -/

/-- On the way the rank of the manner does not rise. -/
theorem rank_le (reach : m.Reaches j k) : k.manner.rank ≤ j.manner.rank := by
  induction reach with
  | refl => exact Nat.le_refl _
  | @tail n k _ step ih =>
    refine Nat.le_trans ?_ ih
    obtain step | step := step
    · cases step with
      | item | part => exact Nat.le_refl _
      | onward next => exact Nat.le_of_lt (rank_onward next)
    · cases step with
      | aside _ hk =>
        rw [(of_mem_asides hk).1]
        exact Nat.zero_le _
      | argument told hk => exact Nat.le_trans (of_mem_arguments hk).1 (of_told told).1

theorem endless_iff : m.Endless j ↔ m.tour.Endless j := by
  constructor
  · rintro (⟨b, receiver, f, reach, found, back⟩ | ⟨v, i, arg, reach, told, hk, back⟩)
    · exact ⟨_, _, reach, .aside found (by simp [asides]), back⟩
    · exact ⟨_, _, reach, .argument told hk, back⟩
  · rintro ⟨x, k, reach, step, back⟩
    -- The rank cannot rise on the way back, so the fresh start itself does not lower it.
    have rank := rank_le back
    obtain ⟨manner, v⟩ := k
    cases step with
    | @aside manner' a o _ found hk =>
      obtain ⟨rfl, -⟩ := of_mem_asides hk
      obtain rfl : manner' = .plain := by cases manner' <;> simp_all [Manner.rank]
      cases o with
      | boundMethod receiver f =>
        obtain rfl : v = receiver := by simpa [asides] using hk
        exact .inl ⟨a, v, f, reach, found, back⟩
      | _ => simp [asides] at hk
    | @argument _ _ i told hk =>
      obtain ⟨manner', u⟩ := x
      have low := (of_mem_arguments hk).1
      have high := (of_told told).1
      obtain ⟨rfl, rfl⟩ : manner = .reader ∧ manner' = .reader := by
        cases manner <;> cases manner' <;> simp_all [Manner.rank]
      exact .inr ⟨u, i, v, reach, told, hk, back⟩

end Machine

/-- Writing a value comes to an end, within a bound that the numbers of objects and of nested tuples
set, exactly if no bound method on the way is shown by its own receiver and no exception is told as
what leads back to it. -/
theorem write_ends_iff {m : Machine σ} (tell : Nat → Moment → M σ Unit) (silent : m.heap.Silent)
    (j : Job) :
    (¬m.Endless j → ∀ fuel, m.heap.room j.value ≤ fuel →
      j.run (runner tell (pure ()) fuel) m = .ok () m) ∧
    (m.Endless j → m.writing = [] → ∀ fuel,
      ∃ m', j.run (runner tell (pure ()) fuel) m = .error .outOfFuel m') := by
  rw [Machine.endless_iff]
  constructor
  · intro finite fuel le
    obtain ⟨fuel', more, answers⟩ := Machine.run_answers tell fuel silent j
    have fits := m.fits (Nat.add_le_add_right (Nat.le_max_left m.heap.nesting j.value.nesting) 3)
    have shallow : j.depth ≤ max m.heap.nesting j.value.nesting + 3 := by
      have : j.manner.rank ≤ 3 := by cases j.manner <;> decide
      unfold Job.depth
      omega
    rw [Heap.room, ← Machine.length_sites] at le
    obtain ⟨⟨⟩, run⟩ := answers.1 (fits.ends_of_room finite shallow (Nat.le_trans le more))
    exact run
  · intro endless idle fuel
    obtain ⟨fuel', -, answers⟩ := Machine.run_answers tell fuel silent j
    have base : ∀ k, m.tour.base k = [] := by
      rintro ⟨_ | _, _⟩ <;> simp [Machine.tour, Machine.around, idle]
    rw [base] at answers
    exact answers.2 (endless.not_ends base)

/-- A list that holds itself, and a list that holds a method bound to it: the text of the first one
ends, that of the second does not. -/
theorem write_ends_iff_method :
    let h : Heap := ⟨#[some (.list #[.ref 0x7f001000]), some (.list #[.ref 0x7f001002]),
      some (.boundMethod (.ref 0x7f001001) 0x7f001000)], 0⟩
    let m : Machine Unit := { Machine.start () with heap := h }
    h.Silent ∧
    (∀ fuel, h.room (.ref 0x7f001000) ≤ fuel →
      Job.run (quiet fuel) ⟨.reader, .ref 0x7f001000⟩ m = .ok () m) ∧
    ∀ fuel, ∃ m', Job.run (quiet fuel) ⟨.reader, .ref 0x7f001001⟩ m = .error .outOfFuel m' := by
  intro h m
  have silent : h.Silent := by
    intro cls
    have none : h.class? cls = none := by
      unfold Heap.class? Heap.get?
      split
      · next found =>
        split at found
        · cases found
        · generalize cls - Heap.base = n at found
          rcases n with _ | _ | _ | n <;> cases found
      · rfl
    simp [Heap.classLookup?, none]
  have cyclic : m.heap.get? 0x7f001000 = some (.list #[.ref 0x7f001000]) := rfl
  have holder : m.heap.get? 0x7f001001 = some (.list #[.ref 0x7f001002]) := rfl
  have method : m.heap.get? 0x7f001002 = some (.boundMethod (.ref 0x7f001001) 0x7f001000) := rfl
  have idle : m.writing = [] := rfl
  have room : m.heap.room (.ref 0x7f001000) = h.room (.ref 0x7f001000) := rfl
  have silent' : m.heap.Silent := silent
  clear_value m
  have told : m.told? ⟨.reader, .ref 0x7f001000⟩ = none := by
    simp [Machine.told?, Heap.instance?, cyclic]
  have finite : ¬m.Endless ⟨.reader, .ref 0x7f001000⟩ := by
    have reached {k : Job} (reach : m.Reaches ⟨.reader, .ref 0x7f001000⟩ k) :
        (k.manner = .reader ∨ k.manner = .script) ∧ k.value = .ref 0x7f001000 := by
      induction reach with
      | refl => exact ⟨.inl rfl, rfl⟩
      | @tail n k _ step ih =>
        obtain ⟨manner, v⟩ := n
        obtain ⟨rfl | rfl, rfl⟩ := ih <;> obtain step | step := step
        · obtain ⟨manner, next, rfl⟩ := Machine.inside_idle rfl step
          simp_all [Machine.onward?]
        · obtain ⟨i, told', -⟩ := Machine.afresh_idle rfl step
          cases told.symm.trans told'
        · cases step with
          | part found hv =>
            obtain rfl := Option.some.inj (cyclic.symm.trans found)
            exact ⟨.inr rfl, List.mem_singleton.1 hv⟩
          | onward next => simp [Machine.onward?, cyclic] at next
        · cases step with
          | aside found hk =>
            obtain rfl := Option.some.inj (cyclic.symm.trans found)
            cases hk
          | argument told => cases told
    rintro (⟨b, _, _, reach, _⟩ | ⟨v, i, _, reach, told', _⟩)
    · obtain ⟨manner | manner, -⟩ := reached reach <;> cases manner
    · obtain ⟨-, rfl⟩ := reached reach
      cases told.symm.trans told'
  have endless : m.Endless ⟨.reader, .ref 0x7f001001⟩ := by
    have plain : m.Reaches ⟨.plain, .ref 0x7f001001⟩ ⟨.plain, .ref 0x7f001002⟩ :=
      .single (.inl (.part holder (List.mem_singleton_self _)))
    have onward : m.onward? ⟨.reader, .ref 0x7f001001⟩ = some .script := by
      simp [Machine.onward?, Machine.told?, Heap.instance?, holder]
    have script : m.Reaches ⟨.reader, .ref 0x7f001001⟩ ⟨.plain, .ref 0x7f001002⟩ :=
      .head (.inl (.onward onward)) (.head (.inl (.part holder (List.mem_singleton_self _)))
        (.single (.inr (.aside method (List.mem_singleton_self _)))))
    exact .inl ⟨0x7f001002, .ref 0x7f001001, 0x7f001000, script, method, plain⟩
  refine ⟨silent, ?_, (write_ends_iff (fun _ _ => pure ()) silent'
    ⟨.reader, .ref 0x7f001001⟩).2 endless idle⟩
  rw [← room]
  exact (write_ends_iff (fun _ _ => pure ()) silent' ⟨.reader, .ref 0x7f001000⟩).1 finite

end Stepwise
