import Stepwise.Picture.Plain
import Stepwise.Proofs.Extent
import Stepwise.Proofs.Tour

/-!
# The walk of writing

A value is turned into text in one of five manners, from the heap alone or by the machine. Each of
them is a guarded walk over jobs, a job being a value to be written in some manner, and a job is
done exactly if its walk comes to an end within the bound (`run_answers`).

## The model

What a container shows is written with the container around it, and turns back there. A bound
method, a key that becomes the name of a member and the arguments of an exception are written as if
nothing were around them; these are the fresh starts (`Machine.Inside`, `Machine.Afresh`,
`Machine.tour`). No class says how its instances are written (`Heap.Silent`).
-/

namespace Stepwise

variable {σ α β : Type}

/-! ### Jobs -/

/-- A manner of writing. -/
inductive Manner where
  /-- From the heap alone. -/
  | plain
  /-- As JSON. -/
  | json
  /-- As the script language would. -/
  | script
  /-- For a reader. -/
  | reader
  /-- As the message of an exception. -/
  | message
  deriving DecidableEq

/-- Whether tuples and containers are gone through in the same manner. -/
def Manner.walks : Manner → Bool
  | plain | json | script => true
  | reader | message => false

/-- A value to be written in some manner. -/
structure Job where
  /-- The manner. -/
  manner : Manner
  /-- The value. -/
  value : Value

/-- Writes a value and forgets the text. -/
def Job.run (r : Runner σ) : Job → M σ Unit
  | ⟨.plain, v⟩ => do let _ ← enough ((← getHeap).repr? r.bound v)
  | ⟨.json, v⟩ => do let _ ← enough ((← getHeap).plain? r.bound v)
  | ⟨.script, v⟩ => do let _ ← r.repr v
  | ⟨.reader, v⟩ => do let _ ← r.str v
  | ⟨.message, v⟩ => do let _ ← exceptionMessage r v

/-- What an object shows of other values with itself around them. -/
def Heap.parts (h : Heap) : Manner → Object → List Value
  | .plain, .list items | .json, .list items | .script, .list items => items.toList
  | .plain, .dict t | .script, .dict t => t.held
  | .json, .dict t => t.pairs.map (·.2)
  | .plain, .set t | .json, .set t | .script, .set t => t.members
  | .plain, .inst i => if h.isExceptionClass i.cls then i.args else []
  | _, _ => []

/-- What an object at an address shows as if nothing were around it. -/
def asides (a : Address) : Manner → Object → List Job
  | .plain, .boundMethod receiver _ => [⟨.plain, receiver⟩]
  | .json, .list _ | .json, .set _ | .json, .inst _ | .json, .module _ => []
  | .json, .dict t => t.pairs.map fun e => ⟨.plain, e.1⟩
  | .script, .list _ | .script, .dict _ | .script, .set _ => []
  | .json, _ | .script, _ => [⟨.plain, .ref a⟩]
  | .plain, _ | .reader, _ | .message, _ => []

namespace Machine

variable (m : Machine σ)

/-- The exception that a job writes as its arguments. -/
def told? : Job → Option Instance
  | ⟨.reader, .ref a⟩ => (m.heap.instance? a).filter fun i => m.heap.isExceptionClass i.cls
  | ⟨.message, .ref a⟩ => m.heap.instance? a
  | _ => none

/-- How the arguments of an exception are written. -/
def arguments (i : Instance) : List Job :=
  match i.args with
  | [arg] => if isKeyError m i.cls then [⟨.script, arg⟩] else [⟨.reader, arg⟩]
  | args => args.map (⟨.script, ·⟩)

/-- Whether writing turns back where a job is met again inside itself. -/
def guards : Job → Bool
  | ⟨manner, .ref a⟩ => manner.walks && (m.heap.get? a).isSome
  | _ => false

/-- Whether a value holds no others: it is no tuple, and not on the heap. -/
def bare : Value → Bool
  | .tuple _ _ => false
  | .ref a => (m.heap.get? a).isNone
  | _ => true

/-- The manner to which a value is handed on as it is. -/
def onward? : Job → Option Manner
  | ⟨.json, .range _ _ _⟩ | ⟨.json, .builtin _⟩ => some .plain
  | ⟨.json, .ref a⟩ | ⟨.script, .ref a⟩ => if (m.heap.get? a).isNone then some .plain else none
  | ⟨.reader, .str _⟩ => none
  | ⟨.reader, v⟩ => if (m.told? ⟨.reader, v⟩).isNone then some .script else none
  | ⟨.message, v⟩ => if (m.told? ⟨.message, v⟩).isNone then some .reader else none
  | _ => none

/-- A job is done as part of another one. -/
inductive Inside : Job → Job → Prop
  | item {manner : Manner} {mark : Nat} {items : List Value} {v : Value} :
    manner.walks = true → v ∈ items → Inside ⟨manner, .tuple mark items⟩ ⟨manner, v⟩
  | part {manner : Manner} {a : Address} {o : Object} {v : Value} :
    m.heap.get? a = some o → v ∈ m.heap.parts manner o → Inside ⟨manner, .ref a⟩ ⟨manner, v⟩
  | onward {j : Job} {manner : Manner} : m.onward? j = some manner → Inside j ⟨manner, j.value⟩

/-- A job is done for another one, but not inside it. -/
inductive Afresh : Job → Job → Prop
  | aside {manner : Manner} {a : Address} {o : Object} {k : Job} :
    m.heap.get? a = some o → k ∈ asides a manner o → Afresh ⟨manner, .ref a⟩ k
  | argument {j k : Job} {i : Instance} :
    m.told? j = some i → k ∈ m.arguments i → Afresh j k

/-- The jobs that the containers being written are. -/
def around (manner : Manner) (as : List Address) : List Job := as.map fun a => ⟨manner, .ref a⟩

/-- The walk of writing. -/
def tour : Tour Job where
  marked := m.guards
  inside := m.Inside
  afresh := m.Afresh
  base j := match j.manner with
    | .plain | .json => []
    | _ => around .script m.writing

/-- One job leads to another. -/
def Reaches : Job → Job → Prop := m.tour.Reaches

/-- A bound method is come to that its own receiver shows, or an exception that is told as what
leads back to it. -/
def Endless (j : Job) : Prop :=
  (∃ b receiver f, m.Reaches j ⟨.plain, .ref b⟩ ∧
    m.heap.get? b = some (.boundMethod receiver f) ∧
    m.Reaches ⟨.plain, receiver⟩ ⟨.plain, .ref b⟩) ∨
  ∃ v i arg, m.Reaches j ⟨.reader, v⟩ ∧ m.told? ⟨.reader, v⟩ = some i ∧
    ⟨.reader, arg⟩ ∈ m.arguments i ∧ m.Reaches ⟨.reader, arg⟩ ⟨.reader, v⟩

variable {m} {manner : Manner} {fuel : Nat} {as : List Address} {a : Address} {v : Value}
  {o : Object} {j : Job}

theorem mem_around : (⟨manner, .ref a⟩ : Job) ∈ around manner as ↔ a ∈ as := by
  simp [around]

/-! ### One step of the walk -/

theorem ends_of_still (inside : ∀ k, ¬m.Inside j k) (afresh : ∀ k, ¬m.Afresh j k)
    {js : List Job} : m.tour.Ends (fuel + 1) js j :=
  .inr ⟨fun k step => absurd step (inside k), fun k step => absurd step (afresh k)⟩

/-- Only values that hold no others are left to plain writing. -/
theorem onward?_walks {manner' : Manner} (walks : manner.walks = true)
    (next : m.onward? ⟨manner, v⟩ = some manner') : manner' = .plain ∧ m.bare v = true := by
  cases manner <;> cases v <;> simp_all [onward?, bare, Manner.walks]

theorem ends_tuple (walks : manner.walks = true) {mark : Nat} {items : List Value} :
    m.tour.Ends (fuel + 1) (around manner as) ⟨manner, .tuple mark items⟩ ↔
      ∀ v ∈ items, m.tour.Ends fuel (around manner as) ⟨manner, v⟩ := by
  constructor
  · rintro (mem | ⟨inside, -⟩) v hv
    · simp [around] at mem
    · exact inside _ (.item walks hv)
  · refine fun ends => .inr ⟨fun k step => ?_, fun k step => ?_⟩
    · cases step with
      | item _ hv => exact ends _ hv
      | onward next => cases (onward?_walks walks next).2
    · cases step with
      | argument told => cases manner <;> cases told

theorem ends_object (walks : manner.walks = true) (found : m.heap.get? a = some o) :
    m.tour.Ends (fuel + 1) (around manner as) ⟨manner, .ref a⟩ ↔
      a ∈ as ∨
        (∀ v ∈ m.heap.parts manner o, m.tour.Ends fuel (around manner (a :: as)) ⟨manner, v⟩) ∧
        ∀ k ∈ asides a manner o, m.tour.Ends fuel (m.tour.base k) k := by
  have marked : m.tour.enter ⟨manner, .ref a⟩ (around manner as) = around manner (a :: as) := by
    show (if (manner.walks && (m.heap.get? a).isSome) = true then _ else _) = _
    rw [walks, found]
    rfl
  show (_ ∨ (∀ k, m.Inside _ k → _) ∧ ∀ k, m.Afresh _ k → _) ↔ _
  rw [mem_around, marked]
  refine or_congr_right (and_congr ⟨fun ends v hv => ?_, fun ends k step => ?_⟩
    ⟨fun ends k hk => ?_, fun ends k step => ?_⟩)
  · exact ends _ (.part found hv)
  · cases step with
    | part found' hv =>
      obtain rfl := Option.some.inj (found.symm.trans found')
      exact ends _ hv
    | onward next =>
      have bare := (onward?_walks walks next).2
      simp [Machine.bare, found] at bare
  · exact ends _ (.aside found hk)
  · cases step with
    | aside found' hk =>
      obtain rfl := Option.some.inj (found.symm.trans found')
      exact ends _ hk
    | argument told => cases manner <;> first | cases told | cases walks

section

variable (walks : manner.walks = true) (bare : m.bare v = true)
include walks bare

theorem inside_bare {k : Job} (step : m.Inside ⟨manner, v⟩ k) :
    (m.onward? ⟨manner, v⟩).isSome = true ∧ k = ⟨.plain, v⟩ := by
  cases step with
  | item => cases bare
  | part found => simp [Machine.bare, found] at bare
  | onward next =>
    obtain ⟨rfl, -⟩ := onward?_walks walks next
    exact ⟨Option.isSome_iff_exists.2 ⟨_, next⟩, rfl⟩

theorem not_afresh_bare {k : Job} : ¬m.Afresh ⟨manner, v⟩ k := by
  intro step
  cases step with
  | aside found => simp [Machine.bare, found] at bare
  | argument told => cases manner <;> first | cases told | cases walks

/-- Values that hold no others. -/
theorem ends_bare {js : List Job} (new : ⟨manner, v⟩ ∉ js) :
    m.tour.Ends (fuel + 1) js ⟨manner, v⟩ ↔ ((m.onward? ⟨manner, v⟩).isSome = true → 0 < fuel) := by
  constructor
  · intro ends next
    obtain ⟨_, next⟩ := Option.isSome_iff_exists.1 next
    exact ((ends.resolve_left new).1 _ (.onward next)).pos
  · refine fun some => .inr ⟨fun k step => ?_, fun k step => ?_⟩
    · obtain ⟨next, rfl⟩ := inside_bare walks bare step
      obtain ⟨fuel, rfl⟩ : ∃ n, fuel = n + 1 := ⟨fuel - 1, by have := some next; omega⟩
      refine ends_of_still (fun k step => ?_) fun k => not_afresh_bare rfl bare
      cases (inside_bare rfl bare step).1
    · exact absurd step (not_afresh_bare walks bare)

end

/-- Values that are not on the heap and hold no others. -/
theorem ends_inline (walks : manner.walks = true) (bare : m.bare v = true)
    (ref : v.address? = none) :
    m.tour.Ends (fuel + 1) (around manner as) ⟨manner, v⟩ ↔
      ((m.onward? ⟨manner, v⟩).isSome = true → 0 < fuel) := by
  refine ends_bare walks bare fun mem => ?_
  obtain ⟨a, -, same⟩ := List.mem_map.1 mem
  cases ref.symm.trans (congrArg (·.value.address?) same).symm

theorem ends_freed (walks : manner.walks = true) (gone : m.heap.get? a = none) :
    m.tour.Ends (fuel + 1) (around manner as) ⟨manner, .ref a⟩ ↔
      a ∈ as ∨ (manner ≠ .plain → 0 < fuel) := by
  by_cases mem : a ∈ as
  · exact iff_of_true (.inl (mem_around.2 mem)) (.inl mem)
  · rw [ends_bare walks (by simp [bare, gone]) (mt mem_around.1 mem)]
    cases manner <;> simp_all [onward?, Manner.walks]

/-! ### Manners that hand on -/

section

variable (idle : manner.walks = false)
include idle

theorem not_mem_around : (⟨manner, v⟩ : Job) ∉ around .script as := by
  intro mem
  obtain ⟨a, -, same⟩ := List.mem_map.1 mem
  cases same
  cases idle

theorem enter_idle {js : List Job} : m.tour.enter ⟨manner, v⟩ js = js := by
  have : m.tour.marked ⟨manner, v⟩ = false := by cases v <;> simp [tour, guards, idle]
  exact if_neg (by simp [this])

theorem inside_idle {k : Job} (step : m.Inside ⟨manner, v⟩ k) :
    ∃ manner', m.onward? ⟨manner, v⟩ = some manner' ∧ k = ⟨manner', v⟩ := by
  cases step with
  | item walks => cases idle.symm.trans walks
  | part _ hv => cases manner <;> simp_all [Heap.parts, Manner.walks]
  | onward next => exact ⟨_, next, rfl⟩

theorem afresh_idle {k : Job} (step : m.Afresh ⟨manner, v⟩ k) :
    ∃ i, m.told? ⟨manner, v⟩ = some i ∧ k ∈ m.arguments i := by
  cases step with
  | aside _ hk => cases manner <;> simp_all [asides, Manner.walks]
  | argument told hk => exact ⟨_, told, hk⟩

/-- Either the arguments are told, or the value is handed on. -/
theorem onward?_of_told {i : Instance} (told : m.told? ⟨manner, v⟩ = some i) :
    m.onward? ⟨manner, v⟩ = none := by
  cases manner <;> cases v <;> simp_all [onward?, told?, Manner.walks]

/-- An exception that is written as its arguments. -/
theorem ends_told {i : Instance} (told : m.told? ⟨manner, v⟩ = some i) :
    m.tour.Ends (fuel + 1) (around .script as) ⟨manner, v⟩ ↔
      ∀ k ∈ m.arguments i, m.tour.Ends fuel (m.tour.base k) k := by
  constructor
  · intro ends k hk
    exact (ends.resolve_left (not_mem_around idle)).2 k (.argument told hk)
  · refine fun ends => .inr ⟨fun k step => ?_, fun k step => ?_⟩
    · obtain ⟨_, next, -⟩ := inside_idle idle step
      cases (onward?_of_told idle told).symm.trans next
    · obtain ⟨i', told', hk⟩ := afresh_idle idle step
      obtain rfl := Option.some.inj (told.symm.trans told')
      exact ends k hk

/-- A value that is handed on. -/
theorem ends_onward {manner' : Manner} (next : m.onward? ⟨manner, v⟩ = some manner') :
    m.tour.Ends (fuel + 1) (around .script as) ⟨manner, v⟩ ↔
      m.tour.Ends fuel (around .script as) ⟨manner', v⟩ := by
  constructor
  · intro ends
    have rest := (ends.resolve_left (not_mem_around idle)).1 _ (.onward next)
    rwa [enter_idle idle] at rest
  · refine fun ends => .inr ⟨fun k step => ?_, fun k step => ?_⟩
    · obtain ⟨manner₂, next₂, rfl⟩ := inside_idle idle step
      obtain rfl := Option.some.inj (next.symm.trans next₂)
      rwa [enter_idle idle]
    · obtain ⟨i, told, -⟩ := afresh_idle idle step
      cases (onward?_of_told idle told).symm.trans next

end

/-! ### Writing from the heap alone -/

/-- A list of results is there if all of them are. -/
theorem isSome_mapM {f : α → Option β} :
    ∀ {vs : List α}, (vs.mapM f).isSome = true ↔ ∀ v ∈ vs, (f v).isSome = true
  | [] => by simp
  | v :: vs => by
    rw [List.mapM_cons, List.forall_mem_cons, ← isSome_mapM]
    cases f v <;> cases vs.mapM f <;> simp

theorem isSome_bind_pure {x : Option α} {f : α → β} :
    (x >>= fun a => pure (f a)).isSome = x.isSome := by
  cases x <;> rfl

theorem isSome_pair {γ : Type} {x : Option α} {y : Option β} {f : α → β → γ} :
    (do return f (← x) (← y)).isSome = true ↔ x.isSome = true ∧ y.isSome = true := by
  cases x <;> cases y <;> simp

theorem forall_mem_held {t : Table} {p : Value → Prop} :
    (∀ v ∈ t.held, p v) ↔ ∀ e ∈ t.pairs, p e.1 ∧ p e.2 := by
  simp only [Table.held, List.forall_mem_flatMap, List.forall_mem_cons, List.not_mem_nil,
    false_imp_iff, implies_true, and_true]

theorem isSome_reprIn : (m.heap.reprIn as fuel v).isSome = true ↔
    m.tour.Ends fuel (around .plain as) ⟨.plain, v⟩ := by
  -- Both sides recur in the same way, so each kind of value is one step on either side.
  induction fuel generalizing as v with
  | zero => simp only [Heap.reprIn, Tour.Ends, Option.isSome_none, Bool.false_eq_true]
  | succ fuel ih =>
    cases v with
    | tuple mark items =>
      rw [ends_tuple rfl]
      simp only [Heap.reprIn, isSome_bind_pure, isSome_mapM, ih]
    | ref a =>
      cases found : m.heap.get? a with
      | none =>
        rw [ends_freed rfl found]
        simp [Heap.reprIn, found]
      | some o =>
        rw [ends_object rfl found]
        by_cases mem : a ∈ as
        · simp [Heap.reprIn, found, mem]
        have new : as.contains a = false := by simpa using mem
        simp only [Heap.reprIn, found, mem, new, false_or, Bool.false_eq_true, if_false]
        cases o with
        | list | set =>
          simp only [isSome_bind_pure, isSome_mapM, ih, Heap.parts, asides, List.not_mem_nil,
            false_imp_iff, implies_true, and_true]
        | dict t =>
          simp only [isSome_bind_pure, isSome_mapM, isSome_pair, ih, Heap.parts, asides,
            forall_mem_held, List.not_mem_nil, false_imp_iff, implies_true, and_true]
        | inst i =>
          simp only [Heap.parts, asides, List.not_mem_nil, false_imp_iff, implies_true, and_true]
          split
          · simp only [isSome_bind_pure, isSome_mapM, ih]
          · simp
        | boundMethod receiver f =>
          simp only [isSome_bind_pure, Heap.parts, asides, List.not_mem_nil, false_imp_iff,
            implies_true, true_and, List.forall_mem_singleton]
          exact ih
        | _ => simp [Heap.parts, asides]
    | _ =>
      rw [ends_inline rfl rfl rfl]
      simp [Heap.reprIn, onward?]

theorem ends_plain {j : Job} (plain : j.manner = .plain) :
    m.tour.Ends fuel (m.tour.base j) j ↔ (m.heap.repr? fuel j.value).isSome = true := by
  obtain ⟨_, v⟩ := j
  cases plain
  show m.tour.Ends fuel (around .plain []) ⟨.plain, v⟩ ↔ _
  exact isSome_reprIn.symm

/-- The name of a member is there at once, or else it is the text of its key. -/
theorem isSome_memberName? (some : 0 < fuel) : (m.heap.memberName? fuel v).isSome = true ↔
    (m.heap.repr? fuel v).isSome = true := by
  obtain ⟨fuel, rfl⟩ : ∃ n, fuel = n + 1 := ⟨fuel - 1, by omega⟩
  cases v <;> simp [Heap.memberName?, Heap.repr?, Heap.reprIn]

theorem isSome_plainIn (held : ∀ a ∈ as, m.heap.get? a ≠ none) :
    (m.heap.plainIn as fuel v).isSome = true ↔
      m.tour.Ends fuel (around .json as) ⟨.json, v⟩ := by
  induction fuel generalizing as v with
  | zero => simp only [Heap.plainIn, Tour.Ends, Option.isSome_none, Bool.false_eq_true]
  | succ fuel ih =>
    cases v with
    | tuple mark items =>
      rw [ends_tuple rfl]
      simp only [Heap.plainIn, Option.isSome_map, isSome_mapM, ih held]
    | ref a =>
      cases found : m.heap.get? a with
      | none =>
        have new : a ∉ as := fun mem => held a mem found
        rw [ends_freed rfl found]
        cases fuel <;> simp [Heap.plainIn, Heap.repr?, Heap.reprIn, found, new]
      | some o =>
        rw [ends_object rfl found]
        by_cases mem : a ∈ as
        · simp [Heap.plainIn, found, mem]
        have new : as.contains a = false := by simpa using mem
        have held' : ∀ b ∈ a :: as, m.heap.get? b ≠ none := by simpa [found] using held
        simp only [Heap.plainIn, found, mem, new, false_or, Bool.false_eq_true, if_false]
        cases o with
        | list | set =>
          simp only [Option.isSome_map, isSome_mapM, ih held', Heap.parts, asides, List.not_mem_nil,
            false_imp_iff, implies_true, and_true]
        | dict t =>
          simp only [isSome_bind_pure, isSome_mapM, isSome_pair, ih held', Heap.parts, asides,
            List.forall_mem_map, ends_plain]
          -- A name takes no fuel if it is a text, but then the value of the member has taken some.
          constructor
          · intro all
            refine ⟨fun e he => (all e he).2, fun e he => ?_⟩
            exact (isSome_memberName? (all e he).2.pos).1 (all e he).1
          · rintro ⟨values, keys⟩ e he
            exact ⟨(isSome_memberName? (values e he).pos).2 (keys e he), values e he⟩
        | inst | module => simp [Heap.parts, asides]
        | _ =>
          simp only [Heap.parts, asides, List.not_mem_nil, false_imp_iff, Option.isSome_map,
            implies_true, true_and, List.forall_mem_singleton, ends_plain]
    | range | builtin =>
      rw [ends_inline rfl rfl rfl]
      cases fuel <;> simp [Heap.plainIn, Heap.repr?, Heap.reprIn, onward?]
    | _ =>
      rw [ends_inline rfl rfl rfl]
      simp [Heap.plainIn, onward?]

end Machine

/-! ### Running or running out -/

/-- What is there of each item of a list is what a run gives of all of them, if it is what a run
gives of each. -/
theorem M.mapM_of_some {m : Machine σ} {f : α → Option β} {g : α → M σ β} : ∀ {xs : List α}
    {ys : List β}, (∀ x ∈ xs, ∀ y, f x = some y → g x m = .ok y m) → xs.mapM f = some ys →
      xs.mapM g m = .ok ys m
  | [], _, _, made => by
    cases made
    rfl
  | x :: xs, _, each, made => by
    rw [List.mapM_cons] at made
    obtain ⟨y, first, made⟩ := Option.bind_eq_some_iff.1 made
    obtain ⟨ys, rest, e⟩ := Option.bind_eq_some_iff.1 made
    cases e
    have run := mapM_of_some (fun x mem => each x (List.mem_cons_of_mem _ mem)) rest
    rw [List.mapM_cons, M.bind_ok (each x List.mem_cons_self y first), M.bind_ok run]
    rfl

theorem M.whileWriting_ok {m : Machine σ} {a : Address} {x : M σ α} {v : α}
    (run : x { m with writing := a :: m.writing } = .ok v { m with writing := a :: m.writing }) :
    whileWriting a x m = .ok v m := by
  have tried : attempt x { m with writing := a :: m.writing } =
      .ok (.ok v) { m with writing := a :: m.writing } := by simp only [attempt, run]
  exact M.bind_ok tried

/-- Whether `x` gives a result is decided by `p`: if so, it leaves the machine as it is, and else
the bound is too small. -/
def Answers (p : Prop) (x : M σ α) (m : Machine σ) : Prop :=
  (p → ∃ a, x m = .ok a m) ∧ (¬p → ∃ m', x m = .error .outOfFuel m')

namespace Answers

variable {m : Machine σ} {p q : Prop} {x : M σ α}

theorem congr (same : p ↔ q) (h : Answers p x m) : Answers q x m := by rwa [← propext same]

theorem of_eq {y : M σ α} (same : x m = y m) (h : Answers p y m) : Answers p x m := by
  unfold Answers
  rwa [same]

theorem pure {a : α} (holds : p) : Answers p (Pure.pure a : M σ α) m :=
  ⟨fun _ => ⟨a, rfl⟩, fun h => absurd holds h⟩

theorem bind {f : α → M σ β} (hx : Answers p x m) (hf : ∀ a, Answers q (f a) m) :
    Answers (p ∧ q) (x >>= f) m := by
  constructor
  · rintro ⟨hp, hq⟩
    obtain ⟨a, run⟩ := hx.1 hp
    rw [M.bind_ok run]
    exact (hf a).1 hq
  · intro h
    by_cases hp : p
    · obtain ⟨a, run⟩ := hx.1 hp
      rw [M.bind_ok run]
      exact (hf a).2 fun hq => h ⟨hp, hq⟩
    · obtain ⟨m', run⟩ := hx.2 hp
      exact ⟨m', M.bind_error run⟩

theorem map {f : α → β} (hx : Answers p x m) : Answers p (x >>= fun a => Pure.pure (f a)) m :=
  .congr (and_iff_left trivial) (hx.bind fun _ => .pure (p := True) trivial)

theorem mapM {γ : Type} {P : γ → Prop} {f : γ → M σ α} (hf : ∀ v, Answers (P v) (f v) m) :
    ∀ vs : List γ, Answers (∀ v ∈ vs, P v) (vs.mapM f) m
  | [] => .pure fun _ h => absurd h List.not_mem_nil
  | v :: vs => by
    rw [List.mapM_cons]
    refine .congr List.forall_mem_cons.symm ((hf v).bind fun _ => ?_)
    exact .map (mapM hf vs)

theorem enough {o : Option α} : Answers (o.isSome = true) (Stepwise.enough o : M σ α) m := by
  cases o with
  | none => exact ⟨nofun, fun _ => ⟨m, rfl⟩⟩
  | some a => exact .pure rfl

theorem whileWriting {a : Address} (hx : Answers p x { m with writing := a :: m.writing }) :
    Answers p (Stepwise.whileWriting a x) m := by
  constructor
  · intro hp
    obtain ⟨v, run⟩ := hx.1 hp
    exact ⟨v, M.whileWriting_ok run⟩
  · intro hp
    obtain ⟨m', run⟩ := hx.2 hp
    refine ⟨m', ?_⟩
    show (attempt x >>= _) { m with writing := a :: m.writing } = _
    exact M.bind_error (by simp only [attempt, run])

end Answers

/-! ### Writing by the machine -/

/-- No class says how its instances are written. -/
def Heap.Silent (h : Heap) : Prop :=
  ∀ cls, h.classLookup? cls "__repr__" = none ∧ h.classLookup? cls "__str__" = none

namespace Machine

variable {m m' : Machine σ} {r : Runner σ} {fuel : Nat} {v : Value}
  {tell : Nat → Moment → M σ Unit}

theorem plainText_eq :
    plainText (runner tell (pure ()) fuel) v m = enough (m.heap.repr? fuel v) m := by
  unfold plainText
  rw [getHeap_bind]
  split <;> rfl

/-- An object that is being written is not gone into again. -/
theorem reprOf_met {a : Address} (met : a ∈ m.writing) :
    reprOf r (.ref a) m = .ok (((m.heap.get? a).map Heap.cycleText).getD "[...]") m := by
  show (if m.writing.contains a then _ else _ : M σ String) m = _
  rw [if_pos (by simpa using met)]
  rfl

/-- An object whose class does not say how it is written. -/
theorem reprOf_new {a : Address} (new : a ∉ m.writing) (silent : ∀ cls,
    m.heap.classOf? (.ref a) = some cls → m.heap.classLookup? cls "__repr__" = none) :
    reprOf r (.ref a) m = reprObject r a m := by
  show (if m.writing.contains a then _ else _ : M σ String) m = _
  rw [if_neg (by simpa using new)]
  exact M.bind_ok (callSpecial_none silent)

theorem repr_answers (silent : ∀ cls, m.heap.classLookup? cls "__repr__" = none)
    (same : m'.heap = m.heap) :
    Answers (m.tour.Ends fuel (around .script m'.writing) ⟨.script, v⟩)
      ((runner tell (pure ()) fuel).repr v) m' := by
  -- The machine `m'` differs from `m` in what is being written, and the walk knows that as what is
  -- around it.
  induction fuel generalizing m' v with
  | zero => exact ⟨fun h => h.elim, fun _ => ⟨m', rfl⟩⟩
  | succ fuel ih =>
    show Answers _ (reprOf (runner tell (pure ()) fuel) v) m'
    cases v with
    | tuple mark items =>
      exact .congr (ends_tuple rfl).symm (.map (.mapM (fun v => ih same) items))
    | ref a =>
      by_cases mem : a ∈ m'.writing
      · exact .of_eq (y := pure _) (reprOf_met mem) (.pure (.inl (mem_around.2 mem)))
      refine .of_eq (reprOf_new mem fun cls _ => same ▸ silent cls) ?_
      unfold reprObject
      refine .of_eq (getHeap_bind _ m') ?_
      have same' : { m' with writing := a :: m'.writing }.heap = m.heap := same
      have inside {v : Value} := ih (v := v) same'
      have aside : Answers ((m.heap.repr? fuel (.ref a)).isSome = true)
          (plainText (runner tell (pure ()) fuel) (.ref a)) m' :=
        .of_eq plainText_eq (same ▸ .enough)
      cases found : m.heap.get? a with
      | none =>
        simp only [same, found]
        refine .congr (.trans ?_ (ends_freed rfl found).symm) aside
        cases fuel <;> simp [Heap.repr?, Heap.reprIn, found, mem]
      | some o =>
        simp only [same, found]
        refine .congr (ends_object rfl found).symm ?_
        simp only [mem, false_or]
        cases o with
        | list items =>
          refine .congr ?_ (.whileWriting (.map (.mapM (fun v => inside) items.toList)))
          simp [Heap.parts, asides]
        | dict t =>
          refine .congr ?_ (.whileWriting (.map (.mapM
            (fun e => inside.bind fun _ => .map inside) t.pairs)))
          simp only [Heap.parts, asides, forall_mem_held, List.not_mem_nil, false_imp_iff,
            implies_true, and_true]
        | set t =>
          refine .congr ?_ (.whileWriting (.map (.mapM (fun v => inside) t.members)))
          simp [Heap.parts, asides]
        | _ =>
          refine .congr ?_ aside
          simp [Heap.parts, asides, ends_plain]
    | _ => exact .congr (ends_inline rfl rfl rfl).symm (.pure (by simp [onward?]))

/-- The arguments of an exception are written as `arguments` says. -/
theorem told_answers (silent : m.heap.Silent) {i : Instance}
    (found : v.address?.bind m.heap.instance? = some i)
    (str : ∀ v, Answers (m.tour.Ends fuel (around .script m.writing) ⟨.reader, v⟩)
      ((runner tell (pure ()) fuel).str v) m) :
    Answers (∀ k ∈ m.arguments i, m.tour.Ends fuel (m.tour.base k) k)
      (exceptionMessage (runner tell (pure ()) fuel) v) m := by
  have repr {v : Value} : Answers (m.tour.Ends fuel (m.tour.base ⟨.script, v⟩) ⟨.script, v⟩)
      ((runner tell (pure ()) fuel).repr v) m := repr_answers (fun cls => (silent cls).1) rfl
  unfold exceptionMessage arguments
  refine .of_eq (M.bind_ok (callSpecial_none fun cls _ => (silent cls).2)) ?_
  refine .of_eq (M.bind_ok rfl) ?_
  simp only [found]
  rcases i.args with _ | ⟨arg, _ | ⟨arg', args⟩⟩
  · exact .pure (by simp)
  · cases isKeyError m i.cls with
    | true => exact .congr (by simp) repr
    | false => exact .congr (by simp; rfl) (str arg)
  · exact .congr (by simp) (.map (.mapM (fun _ => repr) (arg :: arg' :: args)))

theorem str_answers (silent : m.heap.Silent) :
    Answers (m.tour.Ends fuel (around .script m.writing) ⟨.reader, v⟩)
      ((runner tell (pure ()) fuel).str v) m := by
  induction fuel generalizing v with
  | zero => exact ⟨fun h => h.elim, fun _ => ⟨m, rfl⟩⟩
  | succ fuel ih =>
    show Answers _ (strOf (runner tell (pure ()) fuel) v) m
    have script (next : m.onward? ⟨.reader, v⟩ = some .script) :
        Answers (m.tour.Ends (fuel + 1) (around .script m.writing) ⟨.reader, v⟩)
          ((runner tell (pure ()) fuel).repr v) m :=
      .congr (ends_onward rfl next).symm (repr_answers (fun cls => (silent cls).1) rfl)
    cases v with
    | str s =>
      refine .pure (ends_of_still (fun k step => ?_) fun k step => ?_)
      · obtain ⟨_, next, -⟩ := inside_idle rfl step
        cases next
      · obtain ⟨_, told, -⟩ := afresh_idle rfl step
        cases told
    | ref a =>
      refine .of_eq (getHeap_bind _ m) ?_
      cases found : m.heap.instance? a with
      | none =>
        simp only
        exact script (by simp [onward?, told?, found])
      | some i =>
        simp only
        refine .of_eq (M.bind_ok (callSpecial_none fun cls _ => (silent cls).2)) ?_
        refine .of_eq (getHeap_bind _ m) ?_
        by_cases exception : m.heap.isExceptionClass i.cls = true
        · simp only [exception, if_true]
          have told : m.told? ⟨.reader, .ref a⟩ = some i := by simp [told?, found, exception]
          exact .congr (ends_told rfl told).symm (told_answers silent found fun v => ih)
        · simp only [exception]
          exact script (by simp [onward?, told?, found, exception])
    | _ => exact script rfl

/-- A message is written on the same level that it is asked for. -/
theorem message_answers (silent : m.heap.Silent) :
    Answers (m.tour.Ends (fuel + 1) (around .script m.writing) ⟨.message, v⟩)
      (exceptionMessage (runner tell (pure ()) fuel) v) m := by
  cases found : v.address?.bind m.heap.instance? with
  | none =>
    have out : exceptionMessage (runner tell (pure ()) fuel) v m =
        (runner tell (pure ()) fuel).str v m := by
      unfold exceptionMessage
      rw [M.bind_ok (callSpecial_none fun cls _ => (silent cls).2)]
      simp only [M.bind_ok (show (get : M σ (Machine σ)) m = .ok m m from rfl), found]
    have next : m.onward? ⟨.message, v⟩ = some .reader := by
      cases v <;> simp_all [onward?, told?, Value.address?]
    exact .congr (ends_onward rfl next).symm (.of_eq out (str_answers silent))
  | some i =>
    have told : m.told? ⟨.message, v⟩ = some i := by
      cases v <;> simp_all [told?, Value.address?]
    exact .congr (ends_told rfl told).symm (told_answers silent found fun v => str_answers silent)

/-- A job is done, leaving the machine as it is, if its walk ends within the bound. -/
theorem run_answers (tell : Nat → Moment → M σ Unit) (fuel : Nat) (silent : m.heap.Silent)
    (j : Job) : ∃ fuel', fuel ≤ fuel' ∧
      Answers (m.tour.Ends fuel' (m.tour.base j) j) (j.run (runner tell (pure ()) fuel)) m := by
  obtain ⟨_ | _ | _ | _ | _, v⟩ := j
  · exact ⟨fuel, Nat.le_refl _,
      .congr (ends_plain rfl).symm (.of_eq (getHeap_bind _ m) (.map .enough))⟩
  · exact ⟨fuel, Nat.le_refl _, .congr (isSome_plainIn fun _ h => absurd h List.not_mem_nil)
      (.of_eq (getHeap_bind _ m) (.map .enough))⟩
  · exact ⟨fuel, Nat.le_refl _, .map (repr_answers (fun cls => (silent cls).1) rfl)⟩
  · exact ⟨fuel, Nat.le_refl _, .map (str_answers silent)⟩
  · exact ⟨fuel + 1, Nat.le_succ _, .map (message_answers silent)⟩

end Machine

end Stepwise
