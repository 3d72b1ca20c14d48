import Stepwise.Eval.Run

/-!
# What a `try` statement does

How a `try` statement ends, from how its parts end (`try_gives_iff`). The part `else` runs if the
body ends normally, and what goes wrong in it is its own affair; an error of the body is offered to
the handlers, and the first that takes it runs; the part `finally` runs once, last, and lets what
was under way go on if it ends normally.

## The model

A part ends with a result, which may be a jump, or with an error, in some machine (`Gives`); a run
that is out of fuel does not end. The runner is arbitrary, so a part may do whatever it likes. A
handler takes an error if one of the classes that it names is above the class of the error, and the
classes named before it are exception classes (`Takes`). If something is named first that the
machine does not take for an exception class, then the handlers behind are not asked (`Refuses`).
-/

namespace Stepwise

open Script

variable {σ α β : Type}

/-! ### Ends of computations -/

/-- How a computation that is not out of fuel ends: with a result or an error, and in which
machine. -/
def Gives (x : M σ α) (m : Machine σ) (out : Except RuntimeError α) (m' : Machine σ) : Prop :=
  attempt x m = .ok out m'

namespace Gives

variable {x : M σ α} {f : α → M σ β} {m m' : Machine σ} {a : α} {e : RuntimeError}
  {out : Except RuntimeError α} {end_ : Except RuntimeError β}

theorem ok_iff : Gives x m (.ok a) m' ↔ x m = .ok a m' := by
  unfold Gives attempt
  cases x m with
  | ok b m₁ => simp
  | error f m₁ => cases f <;> simp

theorem error_iff : Gives x m (.error e) m' ↔ x m = .error (.error e) m' := by
  unfold Gives attempt
  cases x m with
  | ok b m₁ => simp
  | error f m₁ => cases f <;> simp

theorem pure_iff : Gives (pure a : M σ α) m out m' ↔ out = .ok a ∧ m' = m := by
  show EStateM.Result.ok (.ok a) m = .ok out m' ↔ _
  rw [EStateM.Result.ok.injEq, eq_comm, @eq_comm _ m]

theorem rethrow_iff : Gives (rethrow e : M σ α) m out m' ↔ out = .error e ∧ m' = m := by
  show EStateM.Result.ok (.error e) m = .ok out m' ↔ _
  rw [EStateM.Result.ok.injEq, eq_comm, @eq_comm _ m]

theorem fail_iff {fault : Fault} :
    Gives (fail fault : M σ α) m out m' ↔ out = .error ⟨fault, m.pos⟩ ∧ m' = m := by
  show EStateM.Result.ok (.error ⟨fault, m.pos⟩) m = .ok out m' ↔ _
  rw [EStateM.Result.ok.injEq, eq_comm, @eq_comm _ m]

/-- One computation after another: the second one takes over unless the first one fails. -/
theorem bind_iff : Gives (x >>= f) m end_ m' ↔
    (∃ a m₁, Gives x m (.ok a) m₁ ∧ Gives (f a) m₁ end_ m') ∨
      ∃ e, Gives x m (.error e) m' ∧ end_ = .error e := by
  simp only [ok_iff, error_iff]
  constructor
  · intro h
    cases hx : x m with
    | ok a m₁ =>
      rw [Gives, attempt, M.bind_ok hx] at h
      exact .inl ⟨a, m₁, rfl, h⟩
    | error failure m₁ =>
      rw [Gives, attempt, M.bind_error hx] at h
      cases failure with
      | error e =>
        cases h
        exact .inr ⟨e, rfl, rfl⟩
      | outOfFuel => cases h
  · rintro (⟨a, m₁, hx, next⟩ | ⟨e, hx, rfl⟩)
    · rwa [Gives, attempt, M.bind_ok hx]
    · rw [Gives, attempt, M.bind_error hx]

/-- What is done after an attempt. -/
theorem attempt_bind_iff {f : Except RuntimeError α → M σ β} :
    Gives (attempt x >>= f) m end_ m' ↔
      ∃ first m₁, Gives x m first m₁ ∧ Gives (f first) m₁ end_ m' := by
  rw [bind_iff]
  constructor
  · rintro (⟨first, m₁, h, next⟩ | ⟨e, h, -⟩)
    · exact ⟨first, m₁, ok_iff.1 h, next⟩
    · -- an attempt does not fail
      rw [error_iff, attempt] at h
      cases hx : x m with
      | ok => simp [hx] at h
      | error failure => cases failure <;> simp [hx] at h
  · rintro ⟨first, m₁, h, next⟩
    exact .inl ⟨first, m₁, ok_iff.2 h, next⟩

theorem modify_bind_iff {g : Machine σ → Machine σ} {f : Unit → M σ β} :
    Gives (modify g >>= f) m end_ m' ↔ Gives (f ()) (g m) end_ m' := Iff.rfl

theorem get_bind_iff {f : Machine σ → M σ β} :
    Gives (get >>= f) m end_ m' ↔ Gives (f m) m end_ m' := Iff.rfl

end Gives

/-! ### Which errors a handler takes -/

mutual

/-- What stands in a value and in the tuples in it, from left to right. -/
def Value.leaves : Value → List Value
  | .tuple _ items => Value.allLeaves items
  | v => [v]

/-- What stands in some values. -/
def Value.allLeaves : List Value → List Value
  | [] => []
  | v :: vs => v.leaves ++ Value.allLeaves vs

end

/-- Whether an error is of a class or of one that derives from it. -/
def IsOf (m : Machine σ) (e : RuntimeError) (c : Address) : Prop :=
  ∃ k, errorClass? m e = some k ∧ m.heap.isSubclass k c = true

/-- Whether a value is an exception class, and the error is not of it. -/
def PassesBy (m : Machine σ) (e : RuntimeError) (v : Value) : Prop :=
  ∃ c, v = .ref c ∧ m.heap.isExceptionClass c = true ∧ ¬IsOf m e c

/-- Whether the first class among those named that could decide is one that the error is of. -/
def Takes (m : Machine σ) (e : RuntimeError) (v : Value) : Prop :=
  ∃ before c after, v.leaves = before ++ .ref c :: after ∧ (∀ u ∈ before, PassesBy m e u) ∧
    m.heap.isExceptionClass c = true ∧ IsOf m e c

/-- Whether all that is named are exception classes that the error is not of. -/
def Declines (m : Machine σ) (e : RuntimeError) (v : Value) : Prop :=
  ∀ u ∈ v.leaves, PassesBy m e u

/-- Whether something that is no exception class is named before any class that the error is of. -/
def Refuses (m : Machine σ) (e : RuntimeError) (v : Value) : Prop :=
  ∃ before u after, v.leaves = before ++ u :: after ∧ (∀ u ∈ before, PassesBy m e u) ∧
    ∀ c, u = .ref c → m.heap.isExceptionClass c = false

section

variable {m : Machine σ} {e : RuntimeError}

theorem catchesOne?_append : ∀ as bs : List Value, catchesOne? m e (as ++ bs) =
    if catchesOne? m e as = some false then catchesOne? m e bs else catchesOne? m e as
  | [], bs => rfl
  | a :: as, bs => by
    rw [List.cons_append, catchesOne?, catchesOne?, catchesOne?_append as bs]
    cases catches? m e a with
    | none => rfl
    | some b => cases b <;> rfl

mutual

/-- Tuples in tuples are asked as if all in them stood in one. -/
theorem catchesOne?_leaves : ∀ v : Value, catchesOne? m e v.leaves = catches? m e v
  | .tuple _ items => by rw [Value.leaves, catches?, catchesOne?_allLeaves items]
  | .none | .bool _ | .int _ | .float _ | .str _ | .range _ _ _ | .builtin _ | .ref _ => by
    rw [Value.leaves, catchesOne?]
    · split <;> simp_all [catchesOne?]
    · simp

theorem catchesOne?_allLeaves : ∀ vs : List Value,
    catchesOne? m e (Value.allLeaves vs) = catchesOne? m e vs
  | [] => rfl
  | v :: vs => by
    rw [Value.allLeaves, catchesOne?_append, catchesOne?_leaves v, catchesOne?_allLeaves vs,
      catchesOne?]
    cases catches? m e v with
    | none => rfl
    | some b => cases b <;> rfl

end

/-- The list says no if everything in it does. -/
theorem catchesOne?_eq_false_iff : ∀ us : List Value,
    catchesOne? m e us = some false ↔ ∀ u ∈ us, catches? m e u = some false
  | [] => by simp [catchesOne?]
  | u :: us => by
    rw [catchesOne?, List.forall_mem_cons, ← catchesOne?_eq_false_iff us]
    split <;> simp_all

/-- Any other answer is that of the first in the list that does not say no. -/
theorem catchesOne?_eq_iff {answer : Option Bool} (h : answer ≠ some false) : ∀ us : List Value,
    catchesOne? m e us = answer ↔ ∃ before u after, us = before ++ u :: after ∧
      (∀ x ∈ before, catches? m e x = some false) ∧ catches? m e u = answer
  | [] => by simp [catchesOne?, h.symm]
  | v :: vs => by
    by_cases hv : catches? m e v = some false
    · rw [catchesOne?, hv]
      refine (catchesOne?_eq_iff h vs).trans ⟨?_, ?_⟩
      · rintro ⟨before, u, after, rfl, hb, hu⟩
        exact ⟨v :: before, u, after, rfl, List.forall_mem_cons.2 ⟨hv, hb⟩, hu⟩
      · rintro ⟨_ | ⟨_, before⟩, u, after, eq, hb, hu⟩
        · cases eq
          exact absurd (hu.symm.trans hv) h
        · cases eq
          exact ⟨before, u, after, rfl, (List.forall_mem_cons.1 hb).2, hu⟩
    · have first : catchesOne? m e (v :: vs) = catches? m e v := by
        rw [catchesOne?]
        split <;> simp_all
      rw [first]
      constructor
      · exact fun hu => ⟨[], v, vs, rfl, by simp, hu⟩
      · rintro ⟨_ | ⟨_, before⟩, u, after, eq, hb, hu⟩
        · cases eq
          exact hu
        · cases eq
          exact absurd (List.forall_mem_cons.1 hb).1 hv

/-! What the answers mean for a value that is no tuple. -/

section

variable {u : Value} (hu : ∀ mark items, u ≠ .tuple mark items)
include hu

theorem catches?_eq_true_iff : catches? m e u = some true ↔
    ∃ c, u = .ref c ∧ m.heap.isExceptionClass c = true ∧ IsOf m e c := by
  cases u with
  | ref c =>
    rw [catches?]
    split <;> simp_all [IsOf, Option.any_eq_true]
  | tuple mark items => exact absurd rfl (hu mark items)
  | _ => simp [catches?]

theorem catches?_eq_false_iff : catches? m e u = some false ↔ PassesBy m e u := by
  cases u with
  | ref c =>
    rw [catches?]
    split <;> simp_all [PassesBy, IsOf, Option.any_eq_false]
  | tuple mark items => exact absurd rfl (hu mark items)
  | _ => simp [catches?, PassesBy]

theorem catches?_eq_none_iff : catches? m e u = none ↔
    ∀ c, u = .ref c → m.heap.isExceptionClass c = false := by
  cases u with
  | ref c =>
    rw [catches?]
    split <;> simp_all
  | tuple mark items => exact absurd rfl (hu mark items)
  | _ => simp [catches?]

end

mutual

theorem Value.ne_tuple_of_mem_leaves : ∀ v : Value, ∀ u ∈ v.leaves, ∀ mark items,
    u ≠ .tuple mark items
  | .tuple _ items => by
    rw [Value.leaves]
    exact Value.ne_tuple_of_mem_allLeaves items
  | .none | .bool _ | .int _ | .float _ | .str _ | .range _ _ _ | .builtin _ | .ref _ => by
    simp [Value.leaves]

theorem Value.ne_tuple_of_mem_allLeaves : ∀ vs : List Value, ∀ u ∈ Value.allLeaves vs,
    ∀ mark items, u ≠ .tuple mark items
  | [] => by simp [Value.allLeaves]
  | v :: vs => by
    rw [Value.allLeaves, List.forall_mem_append]
    exact ⟨Value.ne_tuple_of_mem_leaves v, Value.ne_tuple_of_mem_allLeaves vs⟩

end

theorem passesBy_iff_of_leaves {v : Value} {before after : List Value} {u : Value}
    (hv : v.leaves = before ++ u :: after) :
    (∀ x ∈ before, catches? m e x = some false) ↔ ∀ x ∈ before, PassesBy m e x :=
  forall₂_congr fun x hx => catches?_eq_false_iff
    (v.ne_tuple_of_mem_leaves x (hv ▸ List.mem_append_left _ hx))

theorem catches_iff_takes {v : Value} : catches? m e v = some true ↔ Takes m e v := by
  rw [← catchesOne?_leaves, catchesOne?_eq_iff (by simp)]
  constructor
  · rintro ⟨before, u, after, hv, passed, taken⟩
    have leaf := v.ne_tuple_of_mem_leaves u (by simp [hv])
    obtain ⟨c, rfl, hc, of⟩ := (catches?_eq_true_iff leaf).1 taken
    exact ⟨before, c, after, hv, (passesBy_iff_of_leaves hv).1 passed, hc, of⟩
  · rintro ⟨before, c, after, hv, passed, hc, of⟩
    exact ⟨before, .ref c, after, hv, (passesBy_iff_of_leaves hv).2 passed,
      (catches?_eq_true_iff (by simp)).2 ⟨c, rfl, hc, of⟩⟩

theorem catches_iff_declines {v : Value} : catches? m e v = some false ↔ Declines m e v := by
  rw [← catchesOne?_leaves, catchesOne?_eq_false_iff]
  exact forall₂_congr fun u hu => catches?_eq_false_iff (v.ne_tuple_of_mem_leaves u hu)

theorem catches_iff_refuses {v : Value} : catches? m e v = none ↔ Refuses m e v := by
  rw [← catchesOne?_leaves, catchesOne?_eq_iff (by simp)]
  refine exists_congr fun before => exists_congr fun u => exists_congr fun after =>
    and_congr_right fun hv => and_congr (passesBy_iff_of_leaves hv)
      (catches?_eq_none_iff (v.ne_tuple_of_mem_leaves u (by simp [hv])))

end

/-! ### The parts of a statement -/

variable (r : Runner σ)

/-- Comes to a handler. -/
def reachHandler (h : Handler) : M σ Unit := do
  goTo h.pos
  markLine r h.pos.line false none

/-- Binds the name that a handler gives to the error, if it gives one. -/
def bindError (h : Handler) (e : RuntimeError) : M σ Unit := do
  match h.binding with
  | some x => assignName x (← exceptionObject e)
  | none => pure ()

/-- Removes that name, if it is still there. -/
def unbindError (h : Handler) : M σ Unit := do
  match h.binding with
  | some x => do let _ ← attempt (deleteName (σ := σ) x)
  | none => pure ()

/-- Goes on with what has been under way. -/
def resume : Except RuntimeError α → M σ α
  | .ok a => pure a
  | .error e => rethrow e

theorem Gives.resume_iff {pending out : Except RuntimeError α} {m m' : Machine σ} :
    Gives (resume pending) m out m' ↔ out = pending ∧ m' = m := by
  cases pending with
  | ok => exact Gives.pure_iff
  | error => exact Gives.rethrow_iff

theorem runHandler_eq (h : Handler) (e : RuntimeError) : runHandler r h e = (do
    bindError h e
    let result ← whileHandling e (r.block h.body)
    unbindError h
    resume result) := by
  unfold runHandler bindError unbindError
  cases h.binding with
  | none =>
    simp only [pure_bind]
    exact bind_congr fun result => by cases result <;> rfl
  | some x =>
    simp only [bind_assoc, pure_bind]
    exact bind_congr fun _ => bind_congr fun _ => bind_congr fun result => bind_congr fun _ => by
      cases result <;> rfl

/-- How a handler ends that has taken the error `e`: its name is bound, its body runs while the
error counts as being handled, and its name is removed. -/
inductive Handles (e : RuntimeError) (h : Handler) (m : Machine σ) :
    Except RuntimeError Flow → Machine σ → Prop
  /-- The name could not be bound. -/
  | unbound {f m'} (bound : Gives (bindError h e) m (.error f) m') : Handles e h m (.error f) m'
  | runs {m₁ m₂ out m'} (bound : Gives (bindError h e) m (.ok ()) m₁)
      (body : Gives (r.block h.body) { m₁ with handled := e :: m₁.handled } out m₂)
      (freed : Gives (unbindError h) { m₂ with handled := m₂.handled.tail } (.ok ()) m') :
      Handles e h m out m'

/-- How it ends when the error `e` is offered to handlers. -/
inductive Offers (e : RuntimeError) :
    List Handler → Machine σ → Except RuntimeError Flow → Machine σ → Prop
  /-- No handler is left; the error goes on. -/
  | propagates {m} : Offers e [] m (.error e) m
  /-- The observer of the run gave up. -/
  | unreached {h hs m f m'} (reached : Gives (reachHandler r h) m (.error f) m') :
      Offers e (h :: hs) m (.error f) m'
  /-- A handler without a class takes every error. -/
  | bare {h hs m m₁ out m'} (filter : h.filter = none)
      (reached : Gives (reachHandler r h) m (.ok ()) m₁) (handles : Handles r e h m₁ out m') :
      Offers e (h :: hs) m out m'
  /-- What the handler asks for has failed itself. -/
  | unfiltered {h hs m x m₁ f m'} (filter : h.filter = some x)
      (reached : Gives (reachHandler r h) m (.ok ()) m₁)
      (failed : Gives (r.eval x) m₁ (.error f) m') : Offers e (h :: hs) m (.error f) m'
  | takes {h hs m x m₁ v m₂ out m'} (filter : h.filter = some x)
      (reached : Gives (reachHandler r h) m (.ok ()) m₁)
      (asked : Gives (r.eval x) m₁ (.ok v) m₂) (takes : Takes m₂ e v)
      (handles : Handles r e h m₂ out m') : Offers e (h :: hs) m out m'
  | declines {h hs m x m₁ v m₂ out m'} (filter : h.filter = some x)
      (reached : Gives (reachHandler r h) m (.ok ()) m₁)
      (asked : Gives (r.eval x) m₁ (.ok v) m₂) (declines : Declines m₂ e v)
      (rest : Offers e hs m₂ out m') : Offers e (h :: hs) m out m'
  | refuses {h hs m x m₁ v m₂} (filter : h.filter = some x)
      (reached : Gives (reachHandler r h) m (.ok ()) m₁)
      (asked : Gives (r.eval x) m₁ (.ok v) m₂) (refuses : Refuses m₂ e v) :
      Offers e (h :: hs) m (.error ⟨.type .notCatchable, m₂.pos⟩) m₂

/-- How the parts of a statement in front of `finally` end. -/
inductive Guards (body : List Stmt) (handlers : List Handler) (orelse : List Stmt)
    (m : Machine σ) : Except RuntimeError Flow → Machine σ → Prop
  /-- The body ends normally, and `else` takes over; its errors meet no handler. -/
  | finishes {m₁ out m'} (ran : Gives (r.block body) m (.ok .normal) m₁)
      (rest : Gives (r.block orelse) m₁ out m') : Guards body handlers orelse m out m'
  | jumps {flow m'} (jump : flow ≠ .normal) (ran : Gives (r.block body) m (.ok flow) m') :
      Guards body handlers orelse m (.ok flow) m'
  | fails {e m₁ out m'} (ran : Gives (r.block body) m (.error e) m₁)
      (offers : Offers r e handlers m₁ out m') : Guards body handlers orelse m out m'

/-- How a statement ends where `pending` is under way when it comes to `finally`. -/
inductive Closes (pending : Except RuntimeError Flow) (m : Machine σ) :
    List Stmt → Except RuntimeError Flow → Machine σ → Prop
  /-- There is no such part. -/
  | absent : Closes pending m [] pending m
  | resumes {finalbody m'} (present : finalbody ≠ [])
      (ran : Gives (r.block finalbody) m (.ok .normal) m') :
      Closes pending m finalbody pending m'
  | replaces {finalbody out m'} (present : finalbody ≠ []) (other : out ≠ .ok .normal)
      (ran : Gives (r.block finalbody) m out m') : Closes pending m finalbody out m'

theorem Gives.whileHandling_bind_iff {x : M σ α} {f : Except RuntimeError α → M σ β}
    {e : RuntimeError} {m m' : Machine σ} {out : Except RuntimeError β} :
    Gives (whileHandling e x >>= f) m out m' ↔ ∃ result m₁,
      Gives x { m with handled := e :: m.handled } result m₁ ∧
        Gives (f result) { m₁ with handled := m₁.handled.tail } out m' := by
  simp only [whileHandling, bind_assoc, Gives.modify_bind_iff, Gives.attempt_bind_iff, pure_bind]

theorem Gives.unbindError_bind_iff {h : Handler} {x : M σ α} {m m' : Machine σ}
    {out : Except RuntimeError α} : Gives (do unbindError h; x) m out m' ↔
      ∃ m₁, Gives (unbindError h) m (.ok ()) m₁ ∧ Gives x m₁ out m' := by
  rw [Gives.bind_iff]
  constructor
  · rintro (⟨⟨⟩, m₁, freed, next⟩ | ⟨f, freed, -⟩)
    · exact ⟨m₁, freed, next⟩
    · -- removing the name does not fail
      unfold unbindError at freed
      cases hb : h.binding with
      | none => simp [hb, Gives.pure_iff] at freed
      | some x => simp only [hb, Gives.attempt_bind_iff, Gives.pure_iff] at freed; simp at freed
  · rintro ⟨m₁, freed, next⟩
    exact .inl ⟨(), m₁, freed, next⟩

theorem runHandler_iff {e : RuntimeError} {h : Handler} {m m' : Machine σ}
    {out : Except RuntimeError Flow} :
    Gives (runHandler r h e) m out m' ↔ Handles r e h m out m' := by
  rw [runHandler_eq, Gives.bind_iff]
  simp only [Gives.whileHandling_bind_iff, Gives.unbindError_bind_iff, Gives.resume_iff]
  constructor
  · rintro (⟨⟨⟩, m₁, bound, result, m₂, body, m₃, freed, rfl, rfl⟩ | ⟨f, bound, rfl⟩)
    · exact .runs bound body freed
    · exact .unbound bound
  · rintro (bound | ⟨bound, body, freed⟩)
    · exact .inr ⟨_, bound, rfl⟩
    · exact .inl ⟨(), _, bound, _, _, body, _, freed, rfl, rfl⟩

theorem matchesFilter_iff {e : RuntimeError} {x : Expr} {m m' : Machine σ}
    {answer : Except RuntimeError Bool} : Gives (matchesFilter r e (some x)) m answer m' ↔
      (∃ f, Gives (r.eval x) m (.error f) m' ∧ answer = .error f) ∨
        ∃ v, Gives (r.eval x) m (.ok v) m' ∧ (Takes m' e v ∧ answer = .ok true ∨
          Declines m' e v ∧ answer = .ok false ∨
          Refuses m' e v ∧ answer = .error ⟨.type .notCatchable, m'.pos⟩) := by
  simp only [matchesFilter, Gives.bind_iff (x := r.eval x), Gives.get_bind_iff]
  constructor
  · rintro (⟨v, m₁, asked, decided⟩ | ⟨f, failed, rfl⟩)
    · cases answered : catches? m₁ e v with
      | none =>
        simp only [answered, Gives.fail_iff] at decided
        obtain ⟨rfl, rfl⟩ := decided
        exact .inr ⟨v, asked, .inr (.inr ⟨catches_iff_refuses.1 answered, rfl⟩)⟩
      | some b =>
        simp only [answered, Gives.pure_iff] at decided
        obtain ⟨rfl, rfl⟩ := decided
        cases b with
        | false => exact .inr ⟨v, asked, .inr (.inl ⟨catches_iff_declines.1 answered, rfl⟩)⟩
        | true => exact .inr ⟨v, asked, .inl ⟨catches_iff_takes.1 answered, rfl⟩⟩
    · exact .inl ⟨f, failed, rfl⟩
  · rintro (⟨f, failed, rfl⟩ | ⟨v, asked, ⟨h, rfl⟩ | ⟨h, rfl⟩ | ⟨h, rfl⟩⟩)
    · exact .inr ⟨f, failed, rfl⟩
    · refine .inl ⟨v, m', asked, ?_⟩
      simp only [catches_iff_takes.2 h, Gives.pure_iff, and_self]
    · refine .inl ⟨v, m', asked, ?_⟩
      simp only [catches_iff_declines.2 h, Gives.pure_iff, and_self]
    · refine .inl ⟨v, m', asked, ?_⟩
      simp only [catches_iff_refuses.2 h, Gives.fail_iff, and_self]

theorem handle_cons (e : RuntimeError) (h : Handler) (hs : List Handler) :
    handle r e (h :: hs) = (do
      reachHandler r h
      let taken ← matchesFilter r e h.filter
      if taken then runHandler r h e else handle r e hs) := by
  rw [handle]
  simp only [reachHandler, bind_assoc]

/-- What is done with the answer of a handler that names classes. -/
theorem handle_cons_iff {e : RuntimeError} {h : Handler} {hs : List Handler} {x : Expr}
    {m m' : Machine σ} {out : Except RuntimeError Flow} (hx : h.filter = some x) :
    Gives (handle r e (h :: hs)) m out m' ↔
      (∃ f, Gives (reachHandler r h) m (.error f) m' ∧ out = .error f) ∨
        ∃ m₁, Gives (reachHandler r h) m (.ok ()) m₁ ∧
          ((∃ f, Gives (r.eval x) m₁ (.error f) m' ∧ out = .error f) ∨
            ∃ v m₂, Gives (r.eval x) m₁ (.ok v) m₂ ∧
              (Takes m₂ e v ∧ Gives (runHandler r h e) m₂ out m' ∨
                Declines m₂ e v ∧ Gives (handle r e hs) m₂ out m' ∨
                Refuses m₂ e v ∧ out = .error ⟨.type .notCatchable, m₂.pos⟩ ∧ m' = m₂)) := by
  rw [handle_cons, hx, Gives.bind_iff]
  simp only [Gives.bind_iff (x := matchesFilter r e (some x)), matchesFilter_iff]
  constructor
  · rintro (⟨⟨⟩, m₁, reached, ⟨taken, m₂, asked, next⟩ | ⟨f, asked, rfl⟩⟩ | ⟨f, reached, rfl⟩)
    · obtain ⟨f, -, ⟨⟩⟩ | ⟨v, gave, ⟨h, ⟨⟩⟩ | ⟨h, ⟨⟩⟩ | ⟨-, ⟨⟩⟩⟩ := asked
      · exact .inr ⟨m₁, reached, .inr ⟨v, m₂, gave, .inl ⟨h, next⟩⟩⟩
      · exact .inr ⟨m₁, reached, .inr ⟨v, m₂, gave, .inr (.inl ⟨h, next⟩)⟩⟩
    · obtain ⟨_, failed, ⟨⟩⟩ | ⟨v, gave, ⟨-, ⟨⟩⟩ | ⟨-, ⟨⟩⟩ | ⟨h, ⟨⟩⟩⟩ := asked
      · exact .inr ⟨m₁, reached, .inl ⟨f, failed, rfl⟩⟩
      · exact .inr ⟨m₁, reached, .inr ⟨v, m', gave, .inr (.inr ⟨h, rfl, rfl⟩)⟩⟩
    · exact .inl ⟨f, reached, rfl⟩
  · rintro (⟨f, reached, rfl⟩ | ⟨m₁, reached, ⟨f, failed, rfl⟩ | ⟨v, m₂, gave, next⟩⟩)
    · exact .inr ⟨f, reached, rfl⟩
    · exact .inl ⟨(), m₁, reached, .inr ⟨f, .inl ⟨f, failed, rfl⟩, rfl⟩⟩
    · refine .inl ⟨(), m₁, reached, ?_⟩
      obtain ⟨h, next⟩ | ⟨h, next⟩ | ⟨h, rfl, rfl⟩ := next
      · exact .inl ⟨true, m₂, .inr ⟨v, gave, .inl ⟨h, rfl⟩⟩, next⟩
      · exact .inl ⟨false, m₂, .inr ⟨v, gave, .inr (.inl ⟨h, rfl⟩)⟩, next⟩
      · exact .inr ⟨_, .inr ⟨v, gave, .inr (.inr ⟨h, rfl⟩)⟩, rfl⟩

theorem handle_iff {e : RuntimeError} : ∀ {hs : List Handler} {m m' : Machine σ}
    {out : Except RuntimeError Flow}, Gives (handle r e hs) m out m' ↔ Offers r e hs m out m'
  | [], m, m', out => by
    rw [handle, Gives.rethrow_iff]
    constructor
    · rintro ⟨rfl, rfl⟩
      exact .propagates
    · rintro ⟨⟩
      exact ⟨rfl, rfl⟩
  | h :: hs, m, m', out => by
    cases hf : h.filter with
    | none =>
      rw [handle_cons, hf, Gives.bind_iff]
      simp only [matchesFilter, pure_bind, if_true, runHandler_iff]
      constructor
      · rintro (⟨⟨⟩, m₁, reached, handles⟩ | ⟨f, reached, rfl⟩)
        · exact .bare hf reached handles
        · exact .unreached reached
      · rintro offers
        cases offers with
        | unreached reached => exact .inr ⟨_, reached, rfl⟩
        | bare _ reached handles => exact .inl ⟨(), _, reached, handles⟩
        | unfiltered filter | takes filter | declines filter | refuses filter =>
          cases hf.symm.trans filter
    | some x =>
      rw [handle_cons_iff r hf]
      simp only [runHandler_iff, handle_iff]
      constructor
      · rintro (⟨f, reached, rfl⟩ | ⟨m₁, reached, ⟨f, failed, rfl⟩ | ⟨v, m₂, gave, next⟩⟩)
        · exact .unreached reached
        · exact .unfiltered hf reached failed
        · obtain ⟨takes, handles⟩ | ⟨declines, rest⟩ | ⟨refuses, rfl, rfl⟩ := next
          · exact .takes hf reached gave takes handles
          · exact .declines hf reached gave declines rest
          · exact .refuses hf reached gave refuses
      · intro offers
        cases offers with
        | unreached reached => exact .inl ⟨_, reached, rfl⟩
        | bare filter => cases hf.symm.trans filter
        | unfiltered filter reached failed =>
          cases hf.symm.trans filter
          exact .inr ⟨_, reached, .inl ⟨_, failed, rfl⟩⟩
        | takes filter reached gave takes handles =>
          cases hf.symm.trans filter
          exact .inr ⟨_, reached, .inr ⟨_, _, gave, .inl ⟨takes, handles⟩⟩⟩
        | declines filter reached gave declines rest =>
          cases hf.symm.trans filter
          exact .inr ⟨_, reached, .inr ⟨_, _, gave, .inr (.inl ⟨declines, rest⟩)⟩⟩
        | refuses filter reached gave refuses =>
          cases hf.symm.trans filter
          exact .inr ⟨_, reached, .inr ⟨_, _, gave, .inr (.inr ⟨refuses, rfl, rfl⟩)⟩⟩

theorem execGuarded_iff {body orelse : List Stmt} {handlers : List Handler} {m m' : Machine σ}
    {out : Except RuntimeError Flow} : Gives (execGuarded r body handlers orelse) m out m' ↔
      Guards r body handlers orelse m out m' := by
  rw [execGuarded, Gives.attempt_bind_iff]
  constructor
  · rintro ⟨_ | _ | _ | _ | _, m₁, ran, next⟩
    · exact .fails ran ((handle_iff r).1 next)
    · exact .finishes ran next
    all_goals
      obtain ⟨rfl, rfl⟩ := Gives.pure_iff.1 next
      exact .jumps (by simp) ran
  · rintro (⟨ran, rest⟩ | ⟨jump, ran⟩ | ⟨ran, offers⟩)
    · exact ⟨_, _, ran, rest⟩
    · refine ⟨_, _, ran, ?_⟩
      split <;> simp_all [Gives.pure_iff]
    · exact ⟨_, _, ran, (handle_iff r).2 offers⟩

theorem execTry_iff {body orelse finalbody : List Stmt} {handlers : List Handler}
    {m m' : Machine σ} {out : Except RuntimeError Flow} :
    Gives (execTry r body handlers orelse finalbody) m out m' ↔ ∃ pending m₁,
      Guards r body handlers orelse m pending m₁ ∧ Closes r pending m₁ finalbody out m' := by
  cases finalbody with
  | nil =>
    refine (execGuarded_iff r).trans ⟨fun h => ⟨out, m', h, .absent⟩, ?_⟩
    rintro ⟨_, _, h, ⟨⟩⟩
    · exact h
    · contradiction
    · contradiction
  | cons s ss =>
    rw [execTry, List.isEmpty_cons, if_neg (by simp), Gives.attempt_bind_iff]
    simp only [execGuarded_iff]
    refine exists_congr fun pending => exists_congr fun m₁ => and_congr_right fun _ => ?_
    rw [Gives.bind_iff]
    constructor
    · rintro (⟨flow, m₂, ran, next⟩ | ⟨e, ran, rfl⟩)
      · cases flow with
        | normal =>
          have resumed : Gives (resume pending) m₂ out m' := by cases pending <;> exact next
          obtain ⟨rfl, rfl⟩ := Gives.resume_iff.1 resumed
          exact .resumes (by simp) ran
        | _ =>
          obtain ⟨rfl, rfl⟩ := Gives.pure_iff.1 next
          exact .replaces (by simp) (by simp) ran
      · exact .replaces (by simp) (by simp) ran
    · intro closes
      cases closes with
      | resumes _ ran =>
        refine .inl ⟨.normal, _, ran, ?_⟩
        cases out with
        | ok => exact Gives.pure_iff.2 ⟨rfl, rfl⟩
        | error => exact Gives.rethrow_iff.2 ⟨rfl, rfl⟩
      | replaces _ other ran =>
        cases out with
        | error e => exact .inr ⟨e, ran, rfl⟩
        | ok flow =>
          refine .inl ⟨flow, _, ran, ?_⟩
          cases flow with
          | normal => exact absurd rfl other
          | _ => exact Gives.pure_iff.2 ⟨rfl, rfl⟩

/-- Whether all that stands in a value is exception classes. -/
def Value.NamesClasses (h : Heap) (v : Value) : Prop :=
  ∀ u ∈ v.leaves, ∃ c, u = .ref c ∧ h.isExceptionClass c = true

section

variable {m : Machine σ} {e : RuntimeError} {v : Value} (hv : v.NamesClasses m.heap)
include hv

theorem declines_iff : Declines m e v ↔ ∀ c, .ref c ∈ v.leaves → ¬IsOf m e c := by
  constructor
  · intro h c hc of
    obtain ⟨_, ⟨⟩, -, not⟩ := h _ hc
    exact not of
  · intro h u hu
    obtain ⟨c, rfl, hc⟩ := hv u hu
    exact ⟨c, rfl, hc, h c hu⟩

theorem not_refuses : ¬Refuses m e v := by
  rintro ⟨before, u, after, split, -, h⟩
  obtain ⟨c, rfl, hc⟩ := hv u (by simp [split])
  exact absurd (h c rfl) (by simp [hc])

theorem takes_iff : Takes m e v ↔ ∃ c, .ref c ∈ v.leaves ∧ IsOf m e c := by
  constructor
  · rintro ⟨before, c, after, split, -, -, of⟩
    exact ⟨c, by simp [split], of⟩
  · rintro ⟨c, hc, of⟩
    -- one of the three answers is given, and it is none of the others
    rw [← catches_iff_takes]
    cases answered : catches? m e v with
    | none => exact absurd (catches_iff_refuses.1 answered) (not_refuses hv)
    | some b =>
      cases b with
      | true => rfl
      | false => exact absurd of ((declines_iff hv).1 (catches_iff_declines.1 answered) c hc)

end

/-- A `try` statement ends as its parts say, whatever they are: what stands in front of `finally`
leaves something under way, and `finally` closes the statement. A handler that names exception
classes takes an error if it is of one of them, and lets it pass if not. -/
theorem try_gives_iff (body orelse finalbody : List Stmt) (handlers : List Handler) (pos : Pos)
    (m m' : Machine σ) (out : Except RuntimeError Flow) :
    (Gives (execAction r (.try_ body handlers orelse finalbody) pos) m out m' ↔ ∃ pending m₁,
      Guards r body handlers orelse m pending m₁ ∧ Closes r pending m₁ finalbody out m') ∧
    ∀ (n : Machine σ) (e : RuntimeError) (v : Value), v.NamesClasses n.heap →
      (Takes n e v ↔ ∃ c, .ref c ∈ v.leaves ∧ IsOf n e c) ∧
      (Declines n e v ↔ ∀ c, .ref c ∈ v.leaves → ¬IsOf n e c) ∧ ¬Refuses n e v :=
  ⟨execTry_iff r, fun _ _ _ hv => ⟨takes_iff hv, declines_iff hv, not_refuses hv⟩⟩

/-- `except (KeyError, LookupError)` takes an index that is out of range, by the second class. -/
theorem try_gives_iff_lookupError :
    let m := Machine.start ()
    let v := Value.tuple 0 [.ref 2130710536, .ref 2130710534]
    v.NamesClasses m.heap ∧ Takes m ⟨.index .popEmpty, ⟨1, 1⟩⟩ v := by
  intro m v
  have leaves : v.leaves = [.ref 2130710536, .ref 2130710534] := by
    simp [v, Value.leaves, Value.allLeaves]
  have names : v.NamesClasses m.heap := by
    rw [Value.NamesClasses, leaves]
    simp only [List.mem_cons, List.not_mem_nil, or_false, forall_eq_or_imp, forall_eq]
    exact ⟨⟨_, rfl, by decide +kernel⟩, _, rfl, by decide +kernel⟩
  have asked := (try_gives_iff (quiet 1) [] [] [] [] ⟨1, 1⟩ m m (.ok .normal)).2 m
    ⟨.index .popEmpty, ⟨1, 1⟩⟩ v names
  refine ⟨names, asked.1.2 ?_⟩
  exact ⟨2130710534, by simp [leaves], 2130710535, by decide +kernel, by decide +kernel⟩

end Stepwise
