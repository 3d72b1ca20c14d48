import Stepwise.Proofs.Branch
import Stepwise.Proofs.Handling
import Stepwise.Proofs.Loops

/-!
# Turns of loops

A loop is a sequence of turns, each of which begins with one evaluation of the header: a `while` has
its condition evaluated, a `for` fetches an item (`whileLoop_eq`, `execFor_eq`). So the header is
evaluated as often as a turn is begun (`headerEvaluations`). Of the fetches of a `for` only the last
one may find nothing (`fetches_eq`).

## The model

`loop` goes round for both kinds of loops; what a turn does is a parameter. A turn that goes on has
run the body and come back to the header, so `Turns` leads from one evaluation of the header to a
later one.
-/

namespace Stepwise

open Script

variable {σ α β : Type}

/-! ### Turns of a loop -/

/-- Goes round in turns, each of which ends the loop or tells where the next one begins. -/
def loop (turn : α → M σ (Flow ⊕ α)) : (fuel : Nat) → α → M σ Flow
  | 0, _ => throw .outOfFuel
  | fuel + 1, a => do
    match ← turn a with
    | .inl flow => return flow
    | .inr b => loop turn fuel b

/-- How many turns are begun. -/
def turnsBegun (turn : α → M σ (Flow ⊕ α)) : (fuel : Nat) → α → Machine σ → Nat
  | 0, _, _ => 0
  | fuel + 1, a, m => 1 + match turn a m with
    | .ok (.inr b) m' => turnsBegun turn fuel b m'
    | _ => 0

/-- Going round `n` times, after which the loop begins another turn. -/
inductive Turns (turn : α → M σ (Flow ⊕ α)) : (n : Nat) → α → Machine σ → α → Machine σ → Prop
  | none {a m} : Turns turn 0 a m a m
  | next {n a m b m₁ c m'} (first : turn a m = .ok (.inr b) m₁) (rest : Turns turn n b m₁ c m') :
    Turns turn (n + 1) a m c m'

section

variable (r : Runner σ)

/-- Runs the body of a loop, which goes on at `next` if the body neither breaks nor returns. -/
def pass (body : List Stmt) (pos : Pos) (next : α) : M σ (Flow ⊕ α) := do
  match ← r.block body with
  | .normal | .continue_ => do
    revisit r pos
    return .inr next
  | .break_ => return .inl .normal
  | .return_ v => return .inl (.return_ v)

/-- A turn of a `while`: it begins with the condition. -/
def whileTurn (e : Expr) (body orelse : List Stmt) (pos : Pos) : M σ (Flow ⊕ Unit) := do
  if ← test r e then pass r body pos () else return .inl (← r.block orelse)

/-- A turn of a `for`: it begins by fetching an item, if there is one. -/
def forTurn (target : Expr) (body orelse : List Stmt) (pos : Pos) (s : Supply) :
    M σ (Flow ⊕ Supply) := do
  match nextItem? (← getHeap) s with
  | none => return .inl (← r.block orelse)
  | some (v, s) => do
    r.assign target v
    pass r body pos s

/-- A pass that does not end the loop goes on where it should. -/
theorem pass_next {body : List Stmt} {pos : Pos} {next b : α} {m m' : Machine σ}
    (gives : Gives (pass r body pos next) m (.ok (.inr b)) m') : b = next := by
  obtain ⟨flow, m₁, -, gives⟩ | ⟨e, -, failed⟩ := Gives.bind_iff.1 gives
  · have again (gives : Gives (do revisit r pos; return .inr next : M σ (Flow ⊕ α)) m₁
        (.ok (.inr b)) m') : b = next := by
      obtain ⟨-, m₂, -, gives⟩ | ⟨e, -, failed⟩ := Gives.bind_iff.1 gives
      · exact Sum.inr.inj (Except.ok.inj (Gives.pure_iff.1 gives).1)
      · cases failed
    cases flow with
    | normal | continue_ => exact again gives
    | break_ | return_ => cases (Gives.pure_iff.1 gives).1
  · cases failed

theorem forTurn_none {target : Expr} {body orelse : List Stmt} {pos : Pos} {s : Supply}
    {m : Machine σ} (exhausted : nextItem? m.heap s = none) :
    forTurn r target body orelse pos s m =
      (do return .inl (← r.block orelse) : M σ (Flow ⊕ Supply)) m := by
  rw [forTurn, getHeap_bind, exhausted]

theorem forTurn_some {target : Expr} {body orelse : List Stmt} {pos : Pos} {s next : Supply}
    {v : Value} {m : Machine σ} (fetched : nextItem? m.heap s = some (v, next)) :
    forTurn r target body orelse pos s m = (do r.assign target v; pass r body pos next) m := by
  rw [forTurn, getHeap_bind, fetched]

/-- The next turn of a `for` is about what is left when an item has been fetched. -/
theorem forTurn_next {target : Expr} {body orelse : List Stmt} {pos : Pos} {s next : Supply}
    {m m' : Machine σ} (turned : forTurn r target body orelse pos s m = .ok (.inr next) m') :
    ∃ v, nextItem? m.heap s = some (v, next) := by
  cases fetched : nextItem? m.heap s with
  | none =>
    rw [forTurn_none r fetched] at turned
    obtain ⟨flow, m₁, -, gives⟩ | ⟨e, -, failed⟩ := Gives.bind_iff.1 (Gives.ok_iff.2 turned)
    · cases (Gives.pure_iff.1 gives).1
    · cases failed
  | some found =>
    obtain ⟨v, rest⟩ := found
    rw [forTurn_some r fetched] at turned
    obtain ⟨-, m₁, -, gives⟩ | ⟨e, -, failed⟩ := Gives.bind_iff.1 (Gives.ok_iff.2 turned)
    · obtain rfl := pass_next r gives
      exact ⟨v, rfl⟩
    · cases failed

/-- Where a `for` gets its items from. -/
def forSupply (items : Expr) : M σ Supply := do supplyOf r (← r.eval items)

theorem pass_bind (body : List Stmt) (pos : Pos) (next : α) (f : Flow ⊕ α → M σ β) :
    pass r body pos next >>= f = (do
      match ← r.block body with
      | .normal | .continue_ => do
        revisit r pos
        f (.inr next)
      | .break_ => f (.inl .normal)
      | .return_ v => f (.inl (.return_ v))) := by
  simp only [pass, bind_assoc]
  refine bind_congr fun flow => ?_
  cases flow <;> simp

theorem whileLoop_eq (e : Expr) (body orelse : List Stmt) (pos : Pos) : ∀ fuel : Nat,
    whileLoop r e body orelse pos fuel = loop (fun _ => whileTurn r e body orelse pos) fuel ()
  | 0 => rfl
  | fuel + 1 => by
    rw [whileLoop, loop, whileLoop_eq e body orelse pos fuel]
    generalize loop (fun _ => whileTurn r e body orelse pos) fuel = rest
    simp only [whileTurn, test, bind_assoc]
    refine bind_congr fun v => bind_congr fun b => ?_
    cases b with
    | false => simp
    | true =>
      simp only [if_true]
      refine Eq.trans (bind_congr fun flow => ?_) (pass_bind r body pos () _).symm
      cases flow <;> rfl

theorem forLoop_eq (target : Expr) (body orelse : List Stmt) (pos : Pos) :
    ∀ (fuel : Nat) (s : Supply),
    forLoop r target body orelse pos fuel s = loop (forTurn r target body orelse pos) fuel s
  | 0, _ => rfl
  | fuel + 1, s => by
    rw [forLoop, loop, funext (forLoop_eq target body orelse pos fuel)]
    generalize loop (forTurn r target body orelse pos) fuel = rest
    simp only [forTurn, bind_assoc]
    refine bind_congr fun h => ?_
    cases nextItem? h s with
    | none => simp
    | some next =>
      simp only [bind_assoc]
      refine bind_congr fun _ => Eq.trans (bind_congr fun flow => ?_) (pass_bind r body pos _ _).symm
      cases flow <;> rfl

theorem execFor_eq (target items : Expr) (body orelse : List Stmt) (pos : Pos) :
    execFor r target items body orelse pos =
      forSupply r items >>= loop (forTurn r target body orelse pos) r.bound := by
  rw [execFor, forSupply, bind_assoc]
  simp only [forLoop_eq]

/-- What comes of the fetches of a `for`: the items that it fetches one after the other, and at last
nothing if none is left. -/
def fetches (turn : Supply → M σ (Flow ⊕ Supply)) :
    (fuel : Nat) → Supply → Machine σ → List (Option Value)
  | 0, _, _ => []
  | fuel + 1, s, m => (nextItem? m.heap s).map (·.1) :: match turn s m with
    | .ok (.inr s') m' => fetches turn fuel s' m'
    | _ => []

theorem length_fetches (turn : Supply → M σ (Flow ⊕ Supply)) : ∀ (fuel : Nat) (s : Supply)
    (m : Machine σ), (fetches turn fuel s m).length = turnsBegun turn fuel s m
  | 0, _, _ => rfl
  | fuel + 1, s, m => by
    rw [fetches, turnsBegun, List.length_cons, Nat.add_comm]
    rcases turn s m with ⟨_ | next, m'⟩ | _
    · rfl
    · exact congrArg (1 + ·) (length_fetches turn fuel next m')
    · rfl

/-- Only the last fetch may find nothing. -/
theorem fetches_eq (target : Expr) (body orelse : List Stmt) (pos : Pos) :
    ∀ (fuel : Nat) (s : Supply) (m : Machine σ), ∃ vs : List Value,
      fetches (forTurn r target body orelse pos) fuel s m = vs.map some ∨
        fetches (forTurn r target body orelse pos) fuel s m = vs.map some ++ [none]
  | 0, _, _ => ⟨[], .inl rfl⟩
  | fuel + 1, s, m => by
    rw [fetches]
    rcases turned : forTurn r target body orelse pos s m with ⟨_ | next, m'⟩ | _
    case ok.inr =>
      obtain ⟨v, fetched⟩ := forTurn_next r turned
      obtain ⟨vs, further⟩ := fetches_eq target body orelse pos fuel next m'
      rw [fetched]
      exact ⟨v :: vs, further.imp (congrArg (some v :: ·)) (congrArg (some v :: ·))⟩
    all_goals cases nextItem? m.heap s with
    | none => exact ⟨[], .inr rfl⟩
    | some found => exact ⟨[found.1], .inl rfl⟩

/-- How often a loop evaluates its header, from the machine in which it has come to its line: a
`while` for each time that it evaluates its condition, a `for` for each time that it fetches an item
or finds that there is none left. A `for` that does not come to its first fetch, since its items
cannot be listed, has evaluated its header once, in vain. -/
def loopEvaluations (pos : Pos) (m : Machine σ) : Action → Nat
  | .while_ e body orelse => turnsBegun (fun _ => whileTurn r e body orelse pos) r.bound () m
  | .for_ target items body orelse =>
    match forSupply r items m with
    | .ok supply m => (fetches (forTurn r target body orelse pos) r.bound supply m).length
    | .error _ _ => 1
  | _ => 0

/-- How often a loop evaluates its header, in the run of the statement from the machine `m`. -/
def headerEvaluations (s : Stmt) (m : Machine σ) : Nat :=
  match arrive r s m with
  | .ok _ m => loopEvaluations r s.pos m s.action
  | .error _ _ => 0

theorem headerEvaluations_eq {s : Stmt} {m m₁ : Machine σ} (arrived : arrive r s m = .ok () m₁) :
    headerEvaluations r s m = loopEvaluations r s.pos m₁ s.action := by
  rw [headerEvaluations, arrived]

end

/-! ### Loops over all of their items -/

section

variable (r : Runner σ) (target : Expr) (body orelse : List Stmt) (pos : Pos) (s : Supply)
  (m : Machine σ)

/-- Whether the body of a `for` never breaks, returns or raises, from where the loop is about to
fetch: whenever an item has been fetched and assigned, it ends normally or by `continue`. -/
structure GoesOn : Prop where
  flows {k s' m' v next out m''} (turns : Turns (forTurn r target body orelse pos) k s m s' m')
    (fetched : nextItem? m'.heap s' = some (v, next))
    (gives : Gives (do r.assign target v; r.block body) m' out m'') :
    out = .ok .normal ∨ out = .ok .continue_

/-- Whether some items are those that a `for` goes over: at each fetch the next of them is due. A
list to which the body appends supplies what is in it in the end. -/
structure Supplies (vs : List Value) : Prop where
  lists : s.Lists vs
  due {k s' m'} (turns : Turns (forTurn r target body orelse pos) k s m s' m') :
    s'.Due m'.heap (vs.drop k)

end

section

variable {r : Runner σ} {target : Expr} {body orelse : List Stmt} {pos : Pos} {s s₁ : Supply}
  {v : Value} {vs : List Value} {m m' : Machine σ}

theorem GoesOn.next (h : GoesOn r target body orelse pos s m)
    (turned : forTurn r target body orelse pos s m = .ok (.inr s₁) m') :
    GoesOn r target body orelse pos s₁ m' where
  flows turns := h.flows (.next turned turns)

theorem Supplies.next (h : Supplies r target body orelse pos s m (v :: vs))
    (turned : forTurn r target body orelse pos s m = .ok (.inr s.rest) m') :
    Supplies r target body orelse pos s.rest m' vs where
  lists := (h.lists.next_cons (h.due .none)).2
  due turns := h.due (.next turned turns)

theorem GoesOn.of_exhausted (exhausted : nextItem? m.heap s = none) :
    GoesOn r target body orelse pos s m where
  flows turns fetched _ := by
    cases turns with
    | none => cases exhausted.symm.trans fetched
    | next first =>
      obtain ⟨v, again⟩ := forTurn_next r first
      cases exhausted.symm.trans again

theorem GoesOn.of_fetched {flow : Flow} {m₁ : Machine σ}
    (fetched : nextItem? m.heap s = some (v, s₁))
    (ran : (do r.assign target v; r.block body) m = .ok flow m₁)
    (on : flow = .normal ∨ flow = .continue_)
    (turned : forTurn r target body orelse pos s m = .ok (.inr s₁) m')
    (rest : GoesOn r target body orelse pos s₁ m') : GoesOn r target body orelse pos s m where
  flows turns again gives := by
    cases turns with
    | none =>
      cases fetched.symm.trans again
      cases (Gives.ok_iff.2 ran).symm.trans gives
      exact on.imp (congrArg _) (congrArg _)
    | next first turns =>
      cases turned.symm.trans first
      exact rest.flows turns again gives

theorem Supplies.of_exhausted (exhausted : nextItem? m.heap s = none) (lists : s.Lists [])
    (due : s.Due m.heap []) : Supplies r target body orelse pos s m [] where
  lists := lists
  due turns := by
    cases turns with
    | none => exact due
    | next first =>
      obtain ⟨v, again⟩ := forTurn_next r first
      cases exhausted.symm.trans again

theorem Supplies.of_fetched (lists : s.Lists (v :: vs)) (due : s.Due m.heap (v :: vs))
    (turned : forTurn r target body orelse pos s m = .ok (.inr s₁) m')
    (rest : Supplies r target body orelse pos s₁ m' vs) :
    Supplies r target body orelse pos s m (v :: vs) where
  lists := lists
  due turns := by
    cases turns with
    | none => exact due
    | next first turns =>
      cases turned.symm.trans first
      exact rest.due turns

/-- What a loop fetches until there is nothing left is what it goes over. -/
theorem Supplies.eq : ∀ {vs ws : List Value} {fuel : Nat} {s : Supply} {m : Machine σ},
    Supplies r target body orelse pos s m ws →
    fetches (forTurn r target body orelse pos) fuel s m = vs.map some ++ [none] → vs = ws
  | vs, _, 0, _, _, _, fetched => by simp [fetches] at fetched
  | [], ws, fuel + 1, s, m, h, fetched => by
    have exhausted := Option.map_eq_none_iff.1 (List.cons_eq_cons.1 fetched).1
    cases ws with
    | nil => rfl
    | cons w ws =>
      rw [(h.lists.next_cons (h.due .none)).1] at exhausted
      cases exhausted
  | v :: vs, ws, fuel + 1, s, m, h, fetched => by
    obtain ⟨found, further⟩ := List.cons_eq_cons.1 fetched
    obtain ⟨⟨v, next⟩, item, rfl⟩ := Option.map_eq_some_iff.1 found
    cases ws with
    | nil =>
      rw [h.lists.next_nil (h.due .none)] at item
      cases item
    | cons w ws =>
      have first := (h.lists.next_cons (h.due .none)).1
      obtain ⟨rfl, rfl⟩ := Prod.mk.inj (Option.some.inj (item.symm.trans first))
      rcases turned : forTurn r target body orelse pos s m with ⟨_ | next, m₁⟩ | _
      · simp [turned] at further
      · obtain ⟨_, again⟩ := forTurn_next r turned
        obtain ⟨-, rfl⟩ := Prod.mk.inj (Option.some.inj (item.symm.trans again))
        rw [turned] at further
        rw [(h.next turned).eq further]
      · simp [turned] at further

end

end Stepwise
