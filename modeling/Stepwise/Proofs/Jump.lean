import Stepwise.Proofs.Balance
import Stepwise.Proofs.Handling

/-!
# Jumps

Where jumps end. A loop takes the `break` and the `continue` of its own body, and a function takes
`return`; the frame of a body takes whatever is left. A `return` elsewhere is an error, but a
`break` or a `continue` outside of every loop is none: it ends the body it stands in, and the
statements behind it are skipped without a message (`frame_ends`).

## The model

`Stmt.strays` says of a statement whether a `break` or a `continue` stands in it that no loop in it
takes. That such a jump leaves a statement only if it stands there is proved of everything that is
done in a frame of a given kind (`Stays`): a computation comes back to the same frame, by
`task_balanced`, and its result satisfies a predicate.
-/

namespace Stepwise.Script

/-! ### Jumps that no loop takes -/

mutual

/-- Whether a `break` or `continue` stands in a statement that no loop in it takes. -/
def Stmt.strays : Stmt → Bool
  | .mk action _ _ => action.strays

/-- Whether a `break` or `continue` stands in what a statement does that no loop in it takes. The
`else` of a loop is not in the loop. -/
def Action.strays : Action → Bool
  | .break_ | .continue_ => true
  | .if_ _ body orelse => blockStrays body || blockStrays orelse
  | .while_ _ _ orelse | .for_ _ _ _ orelse => blockStrays orelse
  | .try_ body handlers orelse finalbody =>
    blockStrays body || handlersStray handlers || blockStrays orelse || blockStrays finalbody
  | .expr _ | .assign _ _ | .augAssign _ _ _ | .pass | .return_ _ | .delete _ | .global _
  | .nonlocal _ | .assert _ _ | .raise _ | .import_ _ | .importFrom _ _ | .functionDef _
  | .classDef _ => false

/-- Whether such a jump stands in one of some handlers. -/
def handlersStray : List Handler → Bool
  | [] => false
  | .mk _ _ body _ :: handlers => blockStrays body || handlersStray handlers

/-- Whether such a jump stands in one of some statements. -/
def blockStrays : List Stmt → Bool
  | [] => false
  | s :: ss => s.strays || blockStrays ss

end

theorem blockStrays_eq : ∀ ss : List Stmt, blockStrays ss = ss.any Stmt.strays
  | [] => by rw [blockStrays, List.any_nil]
  | s :: ss => by rw [blockStrays, List.any_cons, blockStrays_eq ss]

end Stepwise.Script

namespace Stepwise

open Script Coupling

variable {σ α β : Type}

/-- Whether something in a frame that runs `k` may end like this, where `strays` says whether there
is a `break` or a `continue` in it that no loop takes. -/
def Flow.Within (k : FrameKind) (strays : Bool) : Flow → Prop
  | .normal => True
  | .return_ _ => k = .function
  | .break_ | .continue_ => strays = true

theorem Flow.Within.mono {k : FrameKind} {a b : Bool} {flow : Flow} (h : flow.Within k a)
    (hab : a = true → b = true) : flow.Within k b := by
  cases flow with
  | normal => trivial
  | return_ => exact h
  | break_ | continue_ => exact hab h

/-- What a loop passes on of the end of its body. -/
theorem Flow.Within.return_ {k : FrameKind} {a b : Bool} {v : Value}
    (h : (Flow.return_ v).Within k a) : (Flow.return_ v).Within k b := h

/-! ### Staying in a frame -/

/-- Whether the innermost frame runs `k`. -/
def Machine.Runs (m : Machine σ) (k : FrameKind) : Prop := m.stack.head?.map Frame.kind = some k

/-- A machine in the same posture is in the same frame. -/
theorem Machine.Runs.of_posture {m m' : Machine σ} {k : FrameKind} (h : m.Runs k)
    (same : m'.posture = m.posture) : m'.Runs k := by
  have kinds : m'.stack.head?.map Frame.kind = m.stack.head?.map Frame.kind := by
    have := congrArg (fun p : Posture => p.frames.head?.map Role.kind) same
    simpa only [Machine.posture, List.head?_map, Option.map_map, Function.comp_def, Frame.role]
      using this
  exact kinds.trans h

/-- Whether a computation comes back to a frame that runs `k`, unless the fuel was too small, and
its result satisfies `P` if it has one. -/
inductive Lands (k : FrameKind) (P : α → Prop) : EStateM.Result Failure (Machine σ) α → Prop
  | ok {a m} (result : P a) (runs : m.Runs k) : Lands k P (.ok a m)
  | error {e m} (runs : m.Runs k) : Lands k P (.error (.error e) m)
  | outOfFuel {m} : Lands k P (.error .outOfFuel m)

/-- Whether a computation in a frame that runs `k` stays in it, with a result that satisfies
`P`. -/
def Stays (k : FrameKind) (P : α → Prop) (x : M σ α) : Prop := ∀ m, m.Runs k → Lands k P (x m)

namespace Stays

variable {k : FrameKind} {P : α → Prop} {Q : β → Prop} {x : M σ α} {f : α → M σ β}

theorem pure {a : α} (h : P a) : Stays k P (pure a : M σ α) := fun _ hm => .ok h hm

theorem fail {fault : Fault} : Stays k P (fail fault : M σ α) := fun _ hm => .error hm

theorem rethrow {e : RuntimeError} : Stays k P (rethrow e : M σ α) := fun _ hm => .error hm

theorem stop : Stays k P (throw .outOfFuel : M σ α) := fun _ _ => .outOfFuel

theorem bind (hx : Stays k P x) (hf : ∀ a, P a → Stays k Q (f a)) : Stays k Q (x >>= f) := by
  intro m hm
  show Lands k Q (EStateM.bind x f m)
  unfold EStateM.bind
  have first := hx m hm
  revert first
  generalize x m = rx
  intro first
  cases first with
  | ok h hm' => exact hf _ h _ hm'
  | error hm' => exact .error hm'
  | outOfFuel => exact .outOfFuel

theorem attempt (hx : Stays k P x) :
    Stays k (fun out => ∀ a, out = .ok a → P a) (attempt x) := by
  intro m hm
  unfold Stepwise.attempt
  have first := hx m hm
  revert first
  generalize x m = rx
  intro first
  cases first with
  | ok h hm' => exact .ok (by rintro _ ⟨⟩; exact h) hm'
  | error hm' => exact .ok (by rintro _ ⟨⟩) hm'
  | outOfFuel => exact .outOfFuel

/-- What depends on the machine, which stays as it is. -/
theorem get {f : Machine σ → M σ β} (hf : ∀ m, m.Runs k → Stays k Q (f m)) :
    Stays k Q (get >>= f) := fun m hm => hf m hm m hm

theorem getHeap {f : Heap → M σ β} (hf : ∀ h, Stays k Q (f h)) : Stays k Q (getHeap >>= f) :=
  .get fun m _ => hf m.heap

theorem frame {f : Option Frame → M σ β}
    (hf : ∀ o, o.map Frame.kind = some k → Stays k Q (f o)) : Stays k Q (frame? >>= f) :=
  .get fun m hm => hf m.stack.head? hm

theorem modify {g : Machine σ → Machine σ} (hg : ∀ m, (g m).stack = m.stack) :
    Stays k (fun _ => True) (modify g : M σ Unit) := fun m hm => by
  refine .ok trivial ?_
  rw [Machine.Runs, hg]
  exact hm

theorem whileHandling {e : RuntimeError} (hx : Stays k P x) :
    Stays k (fun out => ∀ a, out = .ok a → P a) (whileHandling e x) := by
  refine (modify (g := fun m => { m with handled := e :: m.handled }) fun _ => rfl).bind
    fun _ _ => hx.attempt.bind fun _ hout => ?_
  exact (modify (g := fun m => { m with handled := m.handled.tail }) fun _ => rfl).bind
    fun _ _ => .pure hout

/-- What keeps the posture stays in the frame. -/
theorem of_leaves (h : ∀ m, Leaves (fun m' => m'.posture = m.posture) (x m)) :
    Stays k (fun _ => True) x := by
  intro m hm
  have left := h m
  revert left
  generalize x m = rx
  intro left
  cases left with
  | ok same => exact .ok trivial (hm.of_posture same)
  | error same => exact .error (hm.of_posture same)
  | outOfFuel => exact .outOfFuel

/-- What is coupled with itself by its balance stays in the frame. -/
theorem of_sim {A : Rel α α}
    (h : ∀ c, balance.coupling.Sim c (World.diagonal fun _ => True) A x x) :
    Stays k (fun _ => True) x :=
  of_leaves fun _ => (Account.leaves_of_sim (T := balance) (h _) (knows_all _) rfl).mono
    fun _ h => h.2

end Stays

/-- How a statement may end in a frame that runs `k`. -/
abbrev StaysIn (k : FrameKind) (strays : Bool) (x : M σ Flow) : Prop :=
  Stays k (Flow.Within k strays) x

namespace Stays

variable {k : FrameKind} {P Q : α → Prop} {x : M σ α}

theorem mono (h : Stays k P x) (hPQ : ∀ a, P a → Q a) : Stays k Q x := by
  have given := h.bind (f := Pure.pure) fun a ha => pure (hPQ a ha)
  rwa [bind_pure] at given

/-- One of two computations. -/
theorem ite {c : Prop} [Decidable c] {y : M σ α} (hx : Stays k P x) (hy : Stays k P y) :
    Stays k P (if c then x else y) := by
  split
  · exact hx
  · exact hy

end Stays

/-! ### Statements -/

section

variable {tell : Nat → Moment → M σ Unit} (ht : Steady tell) {fuel : Nat} {k : FrameKind}

theorem stays_goTo {pos : Pos} : Stays k (fun _ => True) (goTo pos : M σ Unit) :=
  .modify fun _ => rfl

section

include ht

theorem stays_eval (e : Expr) : Stays k (fun _ => True) ((runner tell (pure ()) fuel).eval e) :=
  .of_leaves fun m => task_balanced ht fuel (.eval e) m

theorem stays_truthy (v : Value) :
    Stays k (fun _ => True) (truthy (runner tell (pure ()) fuel) v) :=
  .of_sim fun _ => truthy_sim (runner_rel (tell_balanced ht) fuel) (Diagonal.refl v)

theorem stays_mark (line : Nat) (force : Bool) (condition : Option Expr) : Stays k (fun _ => True)
    (markLine (runner tell (pure ()) fuel) line force condition) :=
  .of_sim fun _ => markLine_balanced ht fuel

theorem stays_revisit (pos : Pos) :
    Stays k (fun _ => True) (revisit (runner tell (pure ()) fuel) pos) :=
  stays_goTo.bind fun _ _ => stays_mark ht _ _ _

theorem stays_raise (e : Option Expr) :
    StaysIn k false (execRaise (runner tell (pure ()) fuel) e) := by
  have hr := runner_rel (tell_balanced ht) fuel
  cases e with
  | none =>
    refine .get fun m _ => ?_
    split
    · exact .rethrow
    · exact .fail
  | some e =>
    refine (stays_eval ht e).bind fun v _ => ?_
    refine (Stays.of_sim fun _ => raisedObject_sim hr (Diagonal.refl v)).bind fun object _ => ?_
    refine .get fun m _ => ?_
    split
    · exact .fail
    · refine (Stays.of_sim fun _ => exceptionMessage_sim hr (Diagonal.refl object)).bind
        fun message _ => ?_
      exact .get fun m _ => .fail

theorem stays_return (value : Option Expr) :
    StaysIn k false (execReturn (runner tell (pure ()) fuel) value) := by
  have hr := runner_rel (tell_balanced ht) fuel
  refine Stays.frame fun o ho => ?_
  rw [ho]
  cases k with
  | function =>
    refine (Stays.of_sim fun _ => evalOption_sim hr (every_of (fun _ => trivial) _)).bind
      fun v _ => ?_
    exact .pure rfl
  | module | class_ => exact .fail

theorem stays_simple (a : Action) (pos : Pos) :
    Stays k (fun _ => True) (execSimple (runner tell (pure ()) fuel) a pos) :=
  .of_sim fun _ => execSimple_sim (runner_rel (tell_balanced ht) fuel) pos trivial
    (every_of (fun _ => trivial) _)

end

variable (hs : ∀ s : Stmt, StaysIn k s.strays ((runner tell (pure ()) fuel).run (.exec s)))

section

include hs

theorem stays_block : ∀ ss : List Stmt,
    StaysIn k (blockStrays ss) ((runner tell (pure ()) fuel).block ss)
  | [] => .pure trivial
  | s :: ss => by
    rw [blockStrays]
    refine (hs s).bind fun flow hflow => ?_
    cases flow with
    | normal => exact (stays_block ss).mono fun _ h => h.mono fun h => by rw [h, Bool.or_true]
    | break_ | continue_ | return_ =>
      exact .pure (hflow.mono fun h => by rw [h, Bool.true_or])

/-- A part of something that strays if the part does. -/
theorem stays_part (ss : List Stmt) {strays : Bool} (h : blockStrays ss = true → strays = true) :
    StaysIn k strays ((runner tell (pure ()) fuel).block ss) :=
  (stays_block hs ss).mono fun _ hflow => hflow.mono h

/-- The body of a handler, with what is done before and after it. -/
theorem stays_runHandler (h : Handler) (e : RuntimeError) :
    StaysIn k (blockStrays h.body) (runHandler (runner tell (pure ()) fuel) h e) := by
  have bound : Stays k (fun _ => True) (bindError h e : M σ Unit) := by
    unfold bindError
    split
    · exact (Stays.of_sim fun _ => exceptionObject_sim (Diagonal.refl e)).bind fun v _ =>
        .of_sim fun _ => assignName_sim trivial trivial (Diagonal.refl v)
    · exact .pure trivial
  have freed : Stays k (fun _ => True) (unbindError h : M σ Unit) := by
    unfold unbindError
    split
    · exact (Stays.of_sim fun _ => deleteName_sim trivial _).attempt.bind fun _ _ => .pure trivial
    · exact .pure trivial
  rw [runHandler_eq]
  refine bound.bind fun _ _ => ?_
  have handled : Stays k (fun out => ∀ flow, out = .ok flow → flow.Within k (blockStrays h.body))
      (whileHandling e ((runner tell (pure ()) fuel).block h.body)) :=
    (stays_block hs h.body).whileHandling
  refine handled.bind fun result hresult => freed.bind fun _ _ => ?_
  cases result with
  | ok flow => exact .pure (hresult flow rfl)
  | error e => exact .rethrow

end

include ht hs

/-- A loop takes the jumps of its body, and passes on those of its `else`. -/
theorem stays_while (test : Expr) (body orelse : List Stmt) (pos : Pos) : ∀ n : Nat,
    StaysIn k (blockStrays orelse)
      (whileLoop (runner tell (pure ()) fuel) test body orelse pos n)
  | 0 => .stop
  | n + 1 => by
    have again : StaysIn k (blockStrays orelse) (do
        revisit (runner tell (pure ()) fuel) pos
        whileLoop (runner tell (pure ()) fuel) test body orelse pos n) :=
      (stays_revisit ht pos).bind fun _ _ => stays_while test body orelse pos n
    rw [whileLoop]
    refine (stays_eval ht test).bind fun v _ => (stays_truthy ht v).bind fun b _ => ?_
    refine .ite ((stays_block hs body).bind fun flow hflow => ?_) (stays_block hs orelse)
    cases flow with
    | normal | continue_ => exact again
    | break_ => exact .pure trivial
    | return_ => exact .pure hflow.return_

theorem stays_for (target : Expr) (body orelse : List Stmt) (pos : Pos) : ∀ (n : Nat) (s : Supply),
    StaysIn k (blockStrays orelse)
      (forLoop (runner tell (pure ()) fuel) target body orelse pos n s)
  | 0, _ => .stop
  | n + 1, s => by
    rw [forLoop]
    refine .getHeap fun h => ?_
    split
    · exact stays_block hs orelse
    next v s _ =>
      have again : StaysIn k (blockStrays orelse) (do
          revisit (runner tell (pure ()) fuel) pos
          forLoop (runner tell (pure ()) fuel) target body orelse pos n s) :=
        (stays_revisit ht pos).bind fun _ _ => stays_for target body orelse pos n s
      refine Stays.bind (P := fun _ => True)
        (.of_leaves fun m => task_balanced ht fuel (.assign target v) m) fun _ _ => ?_
      refine (stays_block hs body).bind fun flow hflow => ?_
      cases flow with
      | normal | continue_ => exact again
      | break_ => exact .pure trivial
      | return_ => exact .pure hflow.return_

theorem stays_handle (e : RuntimeError) : ∀ handlers : List Handler,
    StaysIn k (handlersStray handlers) (handle (runner tell (pure ()) fuel) e handlers)
  | [] => .rethrow
  | h :: handlers => by
    have strays : handlersStray (h :: handlers) =
        (blockStrays h.body || handlersStray handlers) := by
      cases h
      rw [handlersStray, Handler.body]
    rw [strays, handle]
    refine stays_goTo.bind fun _ _ => (stays_mark ht _ _ _).bind fun _ _ => ?_
    refine (Stays.of_sim fun _ => matchesFilter_sim (runner_rel (tell_balanced ht) fuel)
      (Diagonal.refl e) (every_of (fun _ => trivial) _)).bind fun taken _ => ?_
    refine .ite ?_ ?_
    · exact (stays_runHandler hs h e).mono fun _ hf => hf.mono fun h => by rw [h, Bool.true_or]
    · exact (stays_handle e handlers).mono fun _ hf => hf.mono fun h => by rw [h, Bool.or_true]

theorem stays_try (body : List Stmt) (handlers : List Handler) (orelse finalbody : List Stmt) :
    StaysIn k (Action.try_ body handlers orelse finalbody).strays
      (execTry (runner tell (pure ()) fuel) body handlers orelse finalbody) := by
  have guarded : StaysIn k (Action.try_ body handlers orelse finalbody).strays
      (execGuarded (runner tell (pure ()) fuel) body handlers orelse) := by
    rw [Action.strays, execGuarded]
    refine (stays_block hs body).attempt.bind fun out hout => ?_
    cases out with
    | error e => exact (stays_handle ht hs e handlers).mono fun _ hf => hf.mono fun h => by simp [h]
    | ok flow =>
      have ended := (hout flow rfl).mono (b := blockStrays body || handlersStray handlers ||
        blockStrays orelse || blockStrays finalbody) fun h => by simp [h]
      cases flow with
      | normal => exact stays_part hs _ fun h => by simp [h]
      | break_ | continue_ | return_ => exact .pure ended
  have closing : StaysIn k (Action.try_ body handlers orelse finalbody).strays
      ((runner tell (pure ()) fuel).block finalbody) :=
    stays_part hs _ fun h => by simp [Action.strays, h]
  rw [execTry]
  refine .ite guarded (guarded.attempt.bind fun out hout => closing.bind fun flow hflow => ?_)
  cases flow with
  | normal =>
    cases out with
    | ok flow => exact .pure (hout flow rfl)
    | error e => exact .rethrow
  | break_ | continue_ | return_ => exact .pure hflow

theorem stays_action (a : Action) (pos : Pos) :
    StaysIn k a.strays (execAction (runner tell (pure ()) fuel) a pos) := by
  have simple : StaysIn k a.strays (do
      execSimple (runner tell (pure ()) fuel) a pos
      return .normal) := (stays_simple ht a pos).bind fun _ _ => .pure trivial
  cases a with
  | break_ | continue_ => exact .pure rfl
  | return_ value => exact stays_return ht value
  | raise e => exact stays_raise ht e
  | if_ test body orelse =>
    rw [Action.strays]
    refine (stays_eval ht test).bind fun v _ => (stays_truthy ht v).bind fun b _ => ?_
    exact .ite (stays_part hs _ fun h => by rw [h, Bool.true_or])
      (stays_part hs _ fun h => by rw [h, Bool.or_true])
  | while_ test body orelse => exact stays_while ht hs test body orelse pos _
  | for_ target items body orelse =>
    refine (stays_eval ht items).bind fun v _ => ?_
    refine (Stays.of_sim fun _ => supplyOf_sim (runner_rel (tell_balanced ht) fuel)
      (Diagonal.refl v)).bind fun supply _ => ?_
    exact stays_for ht hs target body orelse pos _ supply
  | try_ body handlers orelse finalbody => exact stays_try ht hs body handlers orelse finalbody
  | _ => exact simple

end

/-- A statement ends normally, with a `return` in a function, or with a jump out of a loop that
stands in it and that no loop in it takes. -/
theorem stays_exec {tell : Nat → Moment → M σ Unit} (ht : Steady tell) {k : FrameKind} :
    ∀ (fuel : Nat) (s : Stmt), StaysIn k s.strays ((runner tell (pure ()) fuel).run (.exec s))
  | 0, _ => .stop
  | fuel + 1, .mk action pos stop => by
    refine stays_goTo.bind fun _ _ => (stays_mark ht _ _ _).bind fun _ _ => ?_
    exact stays_action ht (stays_exec ht fuel) action pos

/-! ### Frames -/

/-- Doing statements one after the other, each of which ends normally. -/
inductive Executes (r : Runner σ) : List Stmt → Machine σ → Machine σ → Prop
  | nil {m} : Executes r [] m m
  | cons {s ss m m₁ m'} (first : r.run (.exec s) m = .ok .normal m₁)
      (rest : Executes r ss m₁ m') : Executes r (s :: ss) m m'

namespace Executes

variable {r : Runner σ} {ss : List Stmt} {m m' : Machine σ}

/-- What a block gives whose first statements have ended normally. -/
theorem block_append {done : List Stmt} {m₁ : Machine σ} (h : Executes r done m m₁)
    (ss : List Stmt) : r.block (done ++ ss) m = r.block ss m₁ := by
  induction h with
  | nil => rfl
  | cons first _ ih =>
    rw [List.cons_append, Runner.block, M.bind_ok first]
    exact ih

theorem block_eq (h : Executes r ss m m') : r.block ss m = .ok .normal m' := by
  rw [← List.append_nil ss, h.block_append]
  rfl

end Executes

/-- A block ends behind its last statement, or with the first that does not end normally. -/
theorem executes_or_of_block {r : Runner σ} {flow : Flow} {m' : Machine σ} :
    ∀ {ss : List Stmt} {m : Machine σ}, r.block ss m = .ok flow m' →
      flow = .normal ∧ Executes r ss m m' ∨ flow ≠ .normal ∧ ∃ done s rest m₁,
        ss = done ++ s :: rest ∧ Executes r done m m₁ ∧ r.run (.exec s) m₁ = .ok flow m'
  | [], m, h => by
    cases h
    exact .inl ⟨rfl, .nil⟩
  | s :: ss, m, h => by
    rw [Runner.block] at h
    cases first : r.run (.exec s) m with
    | error failure m₁ =>
      rw [M.bind_error first] at h
      cases h
    | ok flow₁ m₁ =>
      rw [M.bind_ok first] at h
      cases flow₁ with
      | normal =>
        rcases executes_or_of_block h with ⟨rfl, rest⟩ | ⟨jump, done, t, rest, m₂, rfl, run, last⟩
        · exact .inl ⟨rfl, .cons first rest⟩
        · exact .inr ⟨jump, s :: done, t, rest, m₂, rfl, .cons first run, last⟩
      | break_ | continue_ | return_ =>
        cases h
        exact .inr ⟨nofun, [], s, ss, m, rfl, .nil, first⟩

/-- How a body ends without an error in a frame that runs `k`, and the flow that is left. -/
inductive Ends (r : Runner σ) (k : FrameKind) (body : List Stmt) (m m' : Machine σ) : Flow → Prop
  /-- All of the body has been executed. -/
  | whole (executes : Executes r body m m') : Ends r k body m m' .normal
  /-- A function has returned. -/
  | returns {done s rest m₁ v} (split : body = done ++ s :: rest) (executes : Executes r done m m₁)
      (returned : r.run (.exec s) m₁ = .ok (.return_ v) m') (function : k = .function) :
      Ends r k body m m' (.return_ v)
  /-- A statement has jumped out of a loop that is not there; what is behind it is skipped. -/
  | skips {done s rest m₁ flow} (split : body = done ++ s :: rest) (executes : Executes r done m m₁)
      (jumped : r.run (.exec s) m₁ = .ok flow m') (jump : flow = .break_ ∨ flow = .continue_)
      (strays : s.strays = true) : Ends r k body m m' flow

/-- What a frame gives whose body has ended. -/
def Flow.result : Flow → Value
  | .return_ v => v
  | .normal | .break_ | .continue_ => .none

namespace Ends

variable {r : Runner σ} {k : FrameKind} {body : List Stmt} {m m' : Machine σ} {flow : Flow}

theorem block_eq (h : Ends r k body m m' flow) : r.block body m = .ok flow m' := by
  cases h with
  | whole executes => exact executes.block_eq
  | returns split executes returned =>
    rw [split, executes.block_append, Runner.block, M.bind_ok returned]
    rfl
  | skips split executes jumped jump =>
    rw [split, executes.block_append, Runner.block, M.bind_ok jumped]
    rcases jump with rfl | rfl <;> rfl

/-- A body in which no jump strays is executed to its end, or a function returns from it. -/
theorem of_not_strays (h : Ends r k body m m' flow) (tidy : blockStrays body = false) :
    flow = .normal ∧ Executes r body m m' ∨ k = .function ∧ ∃ v, flow = .return_ v := by
  cases h with
  | whole executes => exact .inl ⟨rfl, executes⟩
  | returns _ _ _ function => exact .inr ⟨function, _, rfl⟩
  | @skips done s rest _ _ split _ _ _ strays =>
    rw [blockStrays_eq, split, List.any_append, List.any_cons, strays] at tidy
    simp at tidy

end Ends

section

variable {tell : Nat → Moment → M σ Unit} (ht : Steady tell) {fuel : Nat} {k : FrameKind}

include ht in
theorem Executes.runs {ss : List Stmt} {m m' : Machine σ}
    (h : Executes (runner tell (pure ()) fuel) ss m m') (hm : m.Runs k) : m'.Runs k := by
  induction h with
  | nil => exact hm
  | @cons s ss m m₁ m' first _ ih =>
    have stays := stays_exec ht fuel s m hm
    rw [first] at stays
    cases stays with | ok _ runs => exact ih runs

/-- Nothing is executed behind a `break`. -/
theorem not_executes_break {pos : Pos} {stop : Nat} {ss : List Stmt} {m m' : Machine σ} :
    ¬Executes (runner tell (pure ()) fuel) (.mk .break_ pos stop :: ss) m m' := by
  intro executes
  cases executes with | cons first rest =>
  cases fuel with
  | zero => cases first
  | succ fuel =>
    obtain ⟨_, _, -, h⟩ | ⟨_, -, ⟨⟩⟩ := Gives.bind_iff.1 (Gives.ok_iff.2 first)
    obtain ⟨_, _, -, h⟩ | ⟨_, -, ⟨⟩⟩ := Gives.bind_iff.1 h
    cases (Gives.pure_iff.1 h).1

include ht in
/-- A body that comes to a result in a frame ends in one of the three ways. -/
theorem ends_iff {body : List Stmt} {m m' : Machine σ} {flow : Flow} (hm : m.Runs k) :
    (runner tell (pure ()) fuel).block body m = .ok flow m' ↔
      Ends (runner tell (pure ()) fuel) k body m m' flow := by
  refine ⟨fun h => ?_, Ends.block_eq⟩
  rcases executes_or_of_block h with
    ⟨rfl, executes⟩ | ⟨jump, done, s, rest, m₁, split, executes, last⟩
  · exact .whole executes
  have stays := stays_exec ht fuel s m₁ (executes.runs ht hm)
  rw [last] at stays
  cases stays with | ok within _ =>
  cases flow with
  | normal => exact absurd rfl jump
  | return_ v => exact .returns split executes last within
  | break_ => exact .skips split executes last (.inl rfl) within
  | continue_ => exact .skips split executes last (.inr rfl) within

end

/-- Opens a frame and tells the observer. -/
def openFrame (r : Runner σ) (f : Frame) : M σ Unit := do
  pushFrame f
  r.notify ⟨.call, none⟩

/-- Tells the observer that the running frame is left, and closes it. -/
def leaveFrame (r : Runner σ) : M σ Unit := do
  r.notify ⟨.return_, none⟩
  closeFrame

/-- A frame gives a result if its body does, and nothing goes wrong when it is opened or left. -/
theorem runFrame_eq_ok_iff (r : Runner σ) {f : Frame} {body : List Stmt} {m m' : Machine σ}
    {v : Value} : runFrame r f body m = .ok v m' ↔ m.stack.length < recursionLimit ∧
      ∃ m₁ m₂ m₃ flow, openFrame r f m = .ok () m₁ ∧ r.block body m₁ = .ok flow m₂ ∧
        leaveFrame r m₂ = .ok () m₃ ∧ v = flow.result ∧ m' = { m₃ with pos := m.pos } := by
  by_cases limit : m.stack.length < recursionLimit
  · rw [runFrame_eq r f body limit, ← Gives.ok_iff]
    simp only [limit, true_and]
    constructor
    · intro h
      obtain ⟨_, m₁, opened, h⟩ | ⟨_, -, ⟨⟩⟩ := Gives.bind_iff.1 h
      obtain ⟨out, m₂, ran, h⟩ := Gives.attempt_bind_iff.1 h
      obtain ⟨_, m₃, left, h⟩ | ⟨_, -, ⟨⟩⟩ := Gives.bind_iff.1 h
      cases out with
      | error e => cases (Gives.rethrow_iff.1 h).1
      | ok flow =>
        refine ⟨m₁, m₂, m₃, flow, Gives.ok_iff.1 opened, Gives.ok_iff.1 ran,
          Gives.ok_iff.1 left, ?_⟩
        cases flow <;> cases h <;> exact ⟨rfl, rfl⟩
    · rintro ⟨m₁, m₂, m₃, flow, opened, ran, left, rfl, rfl⟩
      refine Gives.bind_iff.2 (.inl ⟨_, m₁, Gives.ok_iff.2 opened, ?_⟩)
      refine Gives.attempt_bind_iff.2 ⟨_, m₂, Gives.ok_iff.2 ran, ?_⟩
      refine Gives.bind_iff.2 (.inl ⟨_, m₃, Gives.ok_iff.2 left, ?_⟩)
      cases flow <;> rfl
  · have refused : runFrame r f body m = (do releaseScope f; fail .recursion) m := by
      show (if m.stack.length ≥ recursionLimit then _ else _ : M σ Value) m = _
      rw [if_pos (Nat.not_lt.1 limit)]
    rw [refused, ← Gives.ok_iff]
    simp only [limit, false_and, iff_false]
    intro h
    obtain ⟨_, m₁, -, h⟩ | ⟨_, -, ⟨⟩⟩ := Gives.bind_iff.1 h
    cases (Gives.fail_iff.1 h).1

theorem openFrame_runs {tell : Nat → Moment → M σ Unit} (ht : Steady tell) {fuel : Nat} {f : Frame}
    {m m₁ : Machine σ} (h : openFrame (runner tell (pure ()) fuel) f m = .ok () m₁) :
    m₁.Runs f.kind := by
  have opened : Settles (fun _ m' => m'.posture = m.posture.opened f)
      (openFrame (runner tell (pure ()) fuel) f m) := openFrame_balanced ht fuel f m
  rw [h] at opened
  cases opened with
  | ok same =>
    have pushed : ({ m with stack := f :: m.stack } : Machine σ).Runs f.kind := rfl
    exact pushed.of_posture same

/-- A frame comes to a result exactly if its body ends in one of the three ways. -/
theorem runFrame_iff_ends (observe : Observer σ) (fuel : Nat) {f : Frame} {body : List Stmt}
    {m m' : Machine σ} {v : Value} : runFrame (watched observe fuel) f body m = .ok v m' ↔
      m.stack.length < recursionLimit ∧ ∃ m₁ m₂ m₃ flow,
        openFrame (watched observe fuel) f m = .ok () m₁ ∧
        Ends (watched observe fuel) f.kind body m₁ m₂ flow ∧
        leaveFrame (watched observe fuel) m₂ = .ok () m₃ ∧
        v = flow.result ∧ m' = { m₃ with pos := m.pos } := by
  have ht := askObserver_steady observe
  rw [runFrame_eq_ok_iff]
  refine and_congr_right fun _ => exists_congr fun m₁ => exists_congr fun m₂ =>
    exists_congr fun m₃ => exists_congr fun flow => and_congr_right fun opened => ?_
  rw [watched, ends_iff ht (openFrame_runs ht opened)]

/-- A frame comes to a result exactly if its body has been executed to its end, or has been left by
a `return` of its function, or by a `break` or a `continue` that no loop takes. The last is no
error: the statements behind it are skipped, and the run goes on as if the body had ended. If no
jump stands outside of the loops of a body, none reaches the end of its frame; a program of that
kind that comes to its end has executed all of its statements. -/
theorem frame_ends (observe : Observer σ) (fuel : Nat) :
    (∀ f body m v m', runFrame (watched observe fuel) f body m = .ok v m' ↔
      m.stack.length < recursionLimit ∧ ∃ m₁ m₂ m₃ flow,
        openFrame (watched observe fuel) f m = .ok () m₁ ∧
        Ends (watched observe fuel) f.kind body m₁ m₂ flow ∧
        leaveFrame (watched observe fuel) m₂ = .ok () m₃ ∧
        v = flow.result ∧ m' = { m₃ with pos := m.pos }) ∧
    (∀ k body m m' flow, Ends (watched observe fuel) k body m m' flow → blockStrays body = false →
      flow = .normal ∧ Executes (watched observe fuel) body m m' ∨
        k = .function ∧ ∃ v, flow = .return_ v) ∧
    ∀ p m m', runProgram (watched observe fuel) p m = .ok () m' → ∃ m₁ m₂ flow,
      openFrame (watched observe fuel) (Frame.start moduleName .module m.globals 0) m = .ok () m₁ ∧
      Ends (watched observe fuel) .module p m₁ m₂ flow ∧
      (blockStrays p = false → Executes (watched observe fuel) p m₁ m₂) := by
  refine ⟨fun _ _ _ _ _ => runFrame_iff_ends observe fuel,
    fun _ _ _ _ _ h tidy => h.of_not_strays tidy, fun p m m' h => ?_⟩
  obtain ⟨v, m₀, h, -⟩ | ⟨_, -, ⟨⟩⟩ := Gives.bind_iff.1 (Gives.get_bind_iff.1 (Gives.ok_iff.2 h))
  obtain ⟨-, m₁, m₂, m₃, flow, opened, ends, -⟩ :=
    (runFrame_iff_ends observe fuel).1 (Gives.ok_iff.1 h)
  refine ⟨m₁, m₂, flow, opened, ends, fun tidy => ?_⟩
  rcases ends.of_not_strays tidy with ⟨-, executes⟩ | ⟨⟨⟩, -⟩
  exact executes

/-- The program `break` and `pass` comes to its end, and `pass` is not executed. -/
theorem frame_ends_break :
    let program : Program := [.mk .break_ ⟨1, 1⟩ 1, .mk .pass ⟨2, 1⟩ 2]
    let r := watched (fun _ _ => .note ()) 1
    ∃ m', runProgram r program (Machine.start ()) = .ok () m' ∧ ∃ m₁ m₂ flow,
      Ends r .module program m₁ m₂ flow ∧ ¬Executes r program m₁ m₂ := by
  intro program r
  have run : ∃ m', runProgram r program (Machine.start ()) = .ok () m' := ⟨_, rfl⟩
  obtain ⟨m', run⟩ := run
  obtain ⟨m₁, m₂, flow, -, ends, -⟩ := (frame_ends (fun _ _ => .note ()) 1).2.2 program _ m' run
  exact ⟨m', run, m₁, m₂, flow, ends, not_executes_break⟩

end Stepwise
