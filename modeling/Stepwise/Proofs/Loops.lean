import Stepwise.Proofs.Drift
import Stepwise.Proofs.Progression

/-!
# Comprehensions and loops

A comprehension evaluates its element where the corresponding nest of `for` and `if` statements runs
its innermost block. Beside such a nest (`nest`), both made to write down what the names that they
bind stand for whenever they come to the element (`look`), a comprehension writes down the same
(`comprehension_visits`), if each loop goes through the items as they are when it starts. A `for`
statement does so, but for lists: it looks at a list again for every item, and so sees what becomes
of it meanwhile, while a comprehension goes through a copy. The two still visit the same as long as
they are in step (`InStep`): whenever an item is due in a list, it is the one that has been copied.

## The model

What runs of a nest depend on is cut into blocks: a `Block` says what a runner does, by its fuel.
The blocks of the statements of a nest are those of its loops and conditions with whatever is in
the middle (`nestBlock_of`), so that the middle may write something down. A `for` statement may get
its items from elsewhere than those of scripts do (`Source`).

The nest needs more fuel than the comprehension, for its loops go round and its statements are
levels of their own: what is said of it holds from some fuel on (`RunsBeside`). It also moves about
in the script, while the comprehension stays where it is, so the two runs are adrift.
-/

namespace Stepwise

open Script Coupling

variable {σ : Type}

/-! ### One run beside another -/

section

variable {α β γ δ : Type} {m m' : Machine σ}

/-- How a run ends beside another one that is elsewhere: with the same, in the form `φ` gives it, or
with the same fault. Nothing is said if the first one is out of fuel. -/
inductive Beside (φ : α → β) : EStateM.Result Failure (Machine σ) α →
    EStateM.Result Failure (Machine σ) β → Prop
  | outOfFuel {m y} : Beside φ (.error .outOfFuel m) y
  | ok {a m m'} (H : Adrift .adrift m m') : Beside φ (.ok a m) (.ok (φ a) m')
  | error {e e' m m'} (fault : e.fault = e'.fault) (H : Adrift .adrift m m') :
    Beside φ (.error (.error e) m) (.error (.error e') m')

theorem Beside.bind {x : M σ α} {y : M σ β} {φ : α → β} {f : α → M σ γ} {g : β → M σ δ}
    {ψ : γ → δ} (h : Beside φ (x m) (y m'))
    (hf : ∀ a m₁ m₁', x m = .ok a m₁ → Adrift .adrift m₁ m₁' →
      Beside ψ (f a m₁) (g (φ a) m₁')) : Beside ψ ((x >>= f) m) ((y >>= g) m') := by
  show Beside ψ (EStateM.bind x f m) (EStateM.bind y g m')
  unfold EStateM.bind
  revert h hf
  generalize x m = rx, y m' = ry
  intro h hf
  cases h with
  | outOfFuel => exact .outOfFuel
  | ok H => exact hf _ _ _ rfl H
  | error fault H => exact .error fault H

/-- From some fuel on, the second computation does what the first one does, wherever it is. -/
def RunsBeside (x : M σ α) (y : Nat → M σ β) (φ : α → β) (m : Machine σ) : Prop :=
  ∃ k, ∀ fuel, k ≤ fuel → ∀ m', Adrift .adrift m m' → Beside φ (x m) (y fuel m')

namespace RunsBeside

variable {x : M σ α} {y : Nat → M σ β} {φ : α → β}

/-- Runners with enough fuel do the same. -/
theorem of_sim {A : Rel α α} [Rigid A] {y : Nat → M σ α} {n : Nat}
    (h : ∀ fuel, n ≤ fuel → (drift σ).Sim () .adrift A x (y fuel)) : RunsBeside x y id m := by
  refine ⟨n, fun fuel le m' H => ?_⟩
  have agree := h fuel le m m' H
  revert agree
  generalize x m = rx, y fuel m' = ry
  intro agree
  cases agree with
  | left _ | stop _ => exact .outOfFuel
  | right h | lost h => exact h.elim
  | ok _ h H =>
    obtain rfl := Rigid.eq H.rigid h
    exact .ok (H.world ▸ H)
  | error _ h H => exact .error (Rigid.eq H.rigid h.1) (H.world ▸ H)

theorem pure (a : α) : RunsBeside (pure a) (fun _ => Pure.pure (φ a)) φ m :=
  ⟨0, fun _ _ _ H => .ok H⟩

theorem bind {f : α → M σ γ} {g : Nat → β → M σ δ} {ψ : γ → δ} (hx : RunsBeside x y φ m)
    (hf : ∀ a m₁, x m = .ok a m₁ → RunsBeside (f a) (fun fuel => g fuel (φ a)) ψ m₁) :
    RunsBeside (x >>= f) (fun fuel => y fuel >>= g fuel) ψ m := by
  obtain ⟨k, hx⟩ := hx
  cases result : x m with
  | error e m₁ =>
    refine ⟨k, fun fuel le m' H => (hx fuel le m' H).bind fun a _ _ h _ => ?_⟩
    cases result.symm.trans h
  | ok a m₁ =>
    obtain ⟨k', hf⟩ := hf a m₁ result
    refine ⟨max k k', fun fuel le m' H => ?_⟩
    refine (hx fuel (Nat.max_le.1 le).1 m' H).bind fun a' m₂ m₂' h H => ?_
    cases result.symm.trans h
    exact hf fuel (Nat.max_le.1 le).2 m₂' H

/-- A first step that makes no difference, on the right only. -/
theorem after {z : Nat → M σ Unit}
    (h : ∀ fuel m', Adrift .adrift m m' → ∃ m₁, z fuel m' = .ok () m₁ ∧ Adrift .adrift m m₁)
    (hx : RunsBeside x y φ m) : RunsBeside x (fun fuel => z fuel >>= fun _ => y fuel) φ m := by
  obtain ⟨k, hx⟩ := hx
  refine ⟨k, fun fuel le m' H => ?_⟩
  obtain ⟨m₁, step, H₁⟩ := h fuel m' H
  show Beside φ (x m) ((z fuel >>= fun _ => y fuel) m')
  rw [M.bind_ok step]
  exact hx fuel le m₁ H₁

/-- To go somewhere else makes no difference. -/
theorem goTo (hx : RunsBeside x y φ m) (pos : Pos) :
    RunsBeside x (fun fuel => do Stepwise.goTo pos; y fuel) φ m :=
  hx.after fun _ _ H => ⟨_, rfl, H.goTo pos⟩

/-- To mark a line makes no difference. -/
theorem markLine (hx : RunsBeside x y φ m) (line : Nat) (force : Bool) (condition : Option Expr) :
    RunsBeside x (fun fuel => do Stepwise.markLine (quiet fuel) line force condition; y fuel) φ m :=
  hx.after fun fuel m' H => ⟨_, by rw [markLine_quiet]; rfl, H.toLine line⟩

theorem of_outOfFuel {m₁ : Machine σ} (h : x m = .error .outOfFuel m₁) : RunsBeside x y φ m :=
  ⟨0, fun _ _ _ _ => h ▸ .outOfFuel⟩

/-- A computation that only looks at the machine, beside its value. -/
theorem known {a : α} (h : x m = .ok a m) : RunsBeside x (fun _ => Pure.pure (φ a)) φ m :=
  ⟨0, fun _ _ _ H => h ▸ .ok H⟩

/-- The heap is the same on both sides. -/
theorem getHeap {g : Nat → Heap → M σ β} (h : RunsBeside x (fun fuel => g fuel m.heap) φ m) :
    RunsBeside x (fun fuel => Stepwise.getHeap >>= g fuel) φ m := by
  obtain ⟨k, h⟩ := h
  refine ⟨k, fun fuel le m' H => ?_⟩
  show Beside φ (x m) (g fuel m'.heap m')
  exact H.heap ▸ h fuel le m' H

/-- What is done with little fuel does not matter. -/
theorem congr {y' : Nat → M σ β} {k : Nat} (h : ∀ fuel, k ≤ fuel → y fuel = y' fuel)
    (hx : RunsBeside x y' φ m) : RunsBeside x y φ m := by
  obtain ⟨k', hx⟩ := hx
  refine ⟨max k k', fun fuel le m' H => ?_⟩
  rw [h fuel (Nat.max_le.1 le).1]
  exact hx fuel (Nat.max_le.1 le).2 m' H

/-- One level less of fuel does not matter. -/
theorem of_succ (h : RunsBeside x (fun fuel => y (fuel + 1)) φ m) : RunsBeside x y φ m := by
  obtain ⟨k, h⟩ := h
  refine ⟨k + 1, fun fuel le m' H => ?_⟩
  obtain ⟨fuel, rfl⟩ := Nat.exists_eq_add_of_le' (Nat.le_trans (Nat.le_add_left 1 k) le)
  exact h fuel (Nat.le_of_succ_le_succ le) m' H

/-- A value in another form. -/
theorem map {f : α → γ} {ψ : γ → β} (hx : RunsBeside x y φ m) (hf : ∀ a, ψ (f a) = φ a) :
    RunsBeside (do let a ← x; return f a) y ψ m := by
  have h := hx.bind (f := fun a => return f a) (g := fun _ b => return b) (ψ := ψ)
    fun a _ _ => hf a ▸ .pure (f a)
  simpa only [bind_pure] using h

/-- On the right the value may be given another form. -/
theorem mapRight {f : β → δ} (hx : RunsBeside x y φ m) :
    RunsBeside x (fun fuel => do return f (← y fuel)) (f ∘ φ) m := by
  have h := hx.bind (f := fun a => return a) (g := fun _ b => return f b) (ψ := f ∘ φ)
    fun a _ _ => .pure a
  simpa only [bind_pure] using h

end RunsBeside

end

/-! ### Where items come from -/

namespace Supply

/-- A supply of items that have been listed. Only what stands in a list is known when the time for
it comes. -/
inductive Lists : Supply → List Value → Prop
  | range {next stop step fuel ns}
    (walked : walk (fun n => some (rangeNext step n)) stop step fuel next [] = some ns) :
    Lists (.range next stop step) (ns.map .int)
  | list (a n vs) : Lists (.list a n) vs
  | items (vs) : Lists (.items vs) vs

/-- What a supply has left when it has given an item. -/
def rest : Supply → Supply
  | .range next stop step => .range (rangeNext step next) stop step
  | .list a n => .list a (n + 1)
  | .items vs => .items vs.tail

/-- Whether the next item that a supply of some items gives is the first of them: a list may have
changed, and a range without a step does not end. -/
def Due (h : Heap) (vs : List Value) : Supply → Prop
  | .range _ _ step => step ≠ 0
  | .list a n => (h.list? a).bind (·[n]?) = vs.head?
  | .items _ => True

variable {h : Heap} {s : Supply} {v : Value} {vs : List Value}

theorem Lists.next_nil (listed : s.Lists []) (due : s.Due h []) : nextItem? h s = none := by
  generalize hvs : ([] : List Value) = vs at listed due
  cases listed with
  | range walked =>
    obtain ⟨done, -⟩ | ⟨_, _, _, -, -, -, rfl⟩ := walk_eq_some walked
    · exact if_neg (Bool.eq_false_iff.1 done)
    · cases hvs
  | list a n =>
    subst hvs
    exact Option.map_eq_none_iff.2 due
  | items =>
    subst hvs
    rfl

theorem Lists.next_cons (listed : s.Lists (v :: vs)) (due : s.Due h (v :: vs)) :
    nextItem? h s = some (v, s.rest) ∧ s.rest.Lists vs := by
  generalize hvs : v :: vs = all at listed due
  cases listed with
  | range walked =>
    obtain ⟨-, rfl⟩ | ⟨_, _, _, more, leads, rest, rfl⟩ := walk_eq_some walked
    · cases hvs
    · obtain ⟨rfl, rfl⟩ := List.cons_eq_cons.1 hvs
      cases leads
      exact ⟨if_pos more, .range rest⟩
  | list a n =>
    subst hvs
    refine ⟨?_, .list ..⟩
    show ((h.list? a).bind (·[n]?)).map _ = _
    rw [show (h.list? a).bind (·[n]?) = some v from due]
    rfl
  | items =>
    subst hvs
    exact ⟨rfl, .items vs⟩

end Supply

/-- Where a `for` statement may get the items of a value from, that a comprehension lists. -/
structure Source (σ : Type) where
  /-- Where the items of a value come from. -/
  supply : Runner σ → Value → M σ Supply
  /-- The supply of a value, given its items. -/
  first : Heap → Value → List Value → Supply
  beside : ∀ n v (m : Machine σ),
    RunsBeside ((quiet n).iterate v) (fun fuel => supply (quiet fuel) v) (first m.heap v) m
  lists : ∀ {n v vs} {m m' : Machine σ}, (quiet n).iterate v m = .ok vs m' →
    (first m.heap v vs).Lists vs

/-- The items as they are at the start. -/
def Source.copied : Source σ where
  supply r v := do return .items (← r.iterate v)
  first _ _ vs := .items vs
  beside n v _ := (RunsBeside.of_sim (n := n) fun _ le =>
    (quiet_rel le).iterate (Diagonal.refl v)).mapRight
  lists _ := .items _

/-- The supply of a value, given its items: lists are looked at, and ranges counted. -/
def supplyFor (h : Heap) (v : Value) (vs : List Value) : Supply :=
  match v with
  | .range start stop step => .range start stop step
  | .ref a => if (h.list? a).isSome then .list a 0 else .items vs
  | _ => .items vs

theorem iterate_list {n : Nat} {m : Machine σ} {a : Address} {is : Array Value}
    (h : m.heap.list? a = some is) : (quiet (n + 1)).iterate (.ref a) m = .ok is.toList m := by
  show (getHeap >>= _) m = _
  rw [getHeap_bind, Heap.list?_eq_some.1 h]
  rfl

theorem supplyOf_beside (n : Nat) (v : Value) (m : Machine σ) :
    RunsBeside ((quiet n).iterate v) (fun fuel => supplyOf (quiet fuel) v) (supplyFor m.heap v)
      m := by
  have listed := Source.copied.beside n v m
  cases n with
  | zero => exact .of_outOfFuel rfl
  | succ n =>
    cases v with
    | range start stop step =>
      cases walked : walkFrom (fun n => some (rangeNext step n)) start stop step with
      | none => exact .of_outOfFuel (itemsOfRange_none walked m)
      | some ns => exact .known (itemsOfRange_some walked m)
    | ref a =>
      refine .getHeap ?_
      cases found : m.heap.list? a with
      | none =>
        have first : supplyFor m.heap (.ref a) = .items := by
          funext vs
          simp [supplyFor, found]
        simp only [first]
        exact listed
      | some is =>
        have first : supplyFor m.heap (.ref a) is.toList = .list a 0 := by
          simp [supplyFor, found]
        exact first ▸ .known (iterate_list found)
    | _ => exact listed

theorem supplyFor_lists {n : Nat} {v : Value} {vs : List Value} {m m' : Machine σ}
    (h : (quiet n).iterate v m = .ok vs m') : (supplyFor m.heap v vs).Lists vs := by
  cases v with
  | range start stop step =>
    cases n with
    | zero => cases h
    | succ n =>
      change itemsOfRange start stop step m = _ at h
      cases walked : walkFrom (fun n => some (rangeNext step n)) start stop step with
      | none =>
        rw [itemsOfRange_none walked] at h
        cases h
      | some ns =>
        rw [itemsOfRange_some walked] at h
        cases h
        exact .range walked
  | ref a =>
    simp only [supplyFor]
    split
    · exact .list ..
    · exact .items vs
  | _ => exact .items vs

/-- What a `for` statement does: it looks at a list again for every item, and counts a range. -/
def Source.live : Source σ where
  supply := supplyOf
  first := supplyFor
  beside := supplyOf_beside
  lists := supplyFor_lists

/-! ### Nests of statements -/

/-- The first part of a `for` or `if` statement, up to its colon. -/
inductive Head where
  | for_ (target items : Expr)
  | if_ (test : Expr)

/-- Where a statement is: where it starts, and the last line it covers. -/
abbrev Site := Pos × Nat

/-- What stands before the element of a comprehension, read as heads of statements. -/
def heads (clauses : List Clause) : List Head :=
  clauses.flatMap fun c => .for_ c.target c.items :: c.conditions.map .if_

/-- A nest of statements, one inside the other, with a block in the middle. -/
def nest (middle : List Stmt) : List (Head × Site) → List Stmt
  | [] => middle
  | (.for_ target items, pos, last) :: hs => [.mk (.for_ target items (nest middle hs) []) pos last]
  | (.if_ test, pos, last) :: hs => [.mk (.if_ test (nest middle hs) []) pos last]

/-- Statements that evaluate expressions, one after the other. -/
def evaluations (parts : List (Expr × Site)) : List Stmt :=
  parts.map fun p => .mk (.expr p.1) p.2.1 p.2.2

/-- What is done in a block, by the fuel of the runner. -/
abbrev Block (σ : Type) := Nat → M σ Flow

/-- The block of some statements. -/
def Block.of (ss : List Stmt) : Block σ := fun fuel => (quiet fuel).block ss

/-- An `if` statement without `else`. -/
def ifBlock (test : Expr) (pos : Pos) (body : Block σ) : Block σ
  | 0 => throw .outOfFuel
  | fuel + 1 => do
    goTo pos
    markLine (quiet fuel) pos.line false (some test)
    if ← truthy (quiet fuel) (← (quiet fuel).eval test) then body fuel else return .normal

/-- The rounds of a `for` statement without `else`. -/
def rounds (r : Runner σ) (target : Expr) (body : M σ Flow) (pos : Pos) :
    (fuel : Nat) → Supply → M σ Flow
  | 0, _ => throw .outOfFuel
  | fuel + 1, supply => do
    match nextItem? (← getHeap) supply with
    | none => return .normal
    | some (v, supply) => do
      r.assign target v
      match ← body with
      | .normal | .continue_ => do
        revisit r pos
        rounds r target body pos fuel supply
      | .break_ => return .normal
      | .return_ v => return .return_ v

/-- A `for` statement without `else` that gets its items from some source. -/
def forBlock (source : Runner σ → Value → M σ Supply) (target items : Expr) (pos : Pos)
    (body : Block σ) : Block σ
  | 0 => throw .outOfFuel
  | fuel + 1 => do
    goTo pos
    markLine (quiet fuel) pos.line false none
    let supply ← source (quiet fuel) (← (quiet fuel).eval items)
    rounds (quiet fuel) target (body fuel) pos fuel supply

/-- A nest of statements, with anything in the middle. -/
def nestBlock (source : Runner σ → Value → M σ Supply) (middle : Block σ) :
    List (Head × Site) → Block σ
  | [] => middle
  | (.for_ target items, pos, _) :: hs =>
    forBlock source target items pos (nestBlock source middle hs)
  | (.if_ test, pos, _) :: hs => ifBlock test pos (nestBlock source middle hs)

/-- A block of one statement. -/
theorem Block.of_single (s : Stmt) (fuel : Nat) :
    (Block.of [s] fuel : M σ Flow) = (quiet fuel).run (.exec s) := by
  show ((quiet fuel).run (.exec s) >>= fun flow => _) = _
  conv_rhs => rw [← bind_pure ((quiet fuel).run (.exec s))]
  congr
  funext flow
  cases flow <;> rfl

theorem rounds_of (r : Runner σ) (target : Expr) (body : List Stmt) (pos : Pos) :
    ∀ fuel supply, rounds r target (r.block body) pos fuel supply =
      forLoop r target body [] pos fuel supply
  | 0, _ => rfl
  | fuel + 1, supply => by
    simp only [rounds, forLoop, rounds_of r target body pos fuel]
    rfl

theorem ifBlock_of (test : Expr) (pos : Pos) (last : Nat) (body : List Stmt) :
    (ifBlock test pos (.of body) : Block σ) = .of [.mk (.if_ test body []) pos last] := by
  funext fuel
  rw [Block.of_single]
  cases fuel with
  | zero => rfl
  | succ fuel => rfl

theorem forBlock_of (target items : Expr) (pos : Pos) (last : Nat) (body : List Stmt) :
    (forBlock supplyOf target items pos (.of body) : Block σ) =
      .of [.mk (.for_ target items body []) pos last] := by
  funext fuel
  rw [Block.of_single]
  cases fuel with
  | zero => rfl
  | succ fuel =>
    simp only [forBlock, Block.of, rounds_of]
    rfl

/-- With a block of statements in the middle, a nest is the nest of the statements. -/
theorem nestBlock_of (middle : List Stmt) : ∀ hs : List (Head × Site),
    (nestBlock supplyOf (.of middle) hs : Block σ) = .of (nest middle hs)
  | [] => rfl
  | (.for_ target items, pos, last) :: hs => by
    rw [nestBlock, nestBlock_of middle hs, forBlock_of target items pos last, nest]
  | (.if_ test, pos, last) :: hs => by
    rw [nestBlock, nestBlock_of middle hs, ifBlock_of test pos last, nest]

/-! ### In step -/

/-- Does `emit` if all of some conditions hold. -/
def passing {α : Type} (r : Runner σ) (conditions : List Expr) (emit : α → M σ α) (acc : α) :
    M σ α := do
  if ← allHold r conditions then emit acc else return acc

theorem forItems_cons {α : Type} (r : Runner σ) (c : Clause) (emit : α → M σ α) (v : Value)
    (vs : List Value) (acc : α) : forItems r c emit (v :: vs) acc = (do
      r.assign c.target v
      let acc ← passing r c.conditions emit acc
      forItems r c emit vs acc) := by
  simp only [forItems, passing, bind_assoc]
  congr
  funext _
  congr
  funext b
  cases b <;> simp

theorem passing_cons {α : Type} (r : Runner σ) (e : Expr) (es : List Expr) (emit : α → M σ α)
    (acc : α) : passing r (e :: es) emit acc = (do
      if ← truthy r (← r.eval e) then passing r es emit acc else return acc) := by
  simp only [passing, allHold, bind_assoc]
  congr
  funext v
  congr
  funext b
  cases b <;> simp

/-- What is said of the value and the machine if a computation comes to a value. -/
def Afterwards {α : Type} (x : M σ α) (m : Machine σ) (P : α → Machine σ → Prop) : Prop :=
  match x m with
  | .ok a m' => P a m'
  | .error _ _ => True

theorem Afterwards.of_ok {α : Type} {x : M σ α} {m m' : Machine σ} {a : α}
    {P : α → Machine σ → Prop} (h : Afterwards x m P) (ok : x m = .ok a m') : P a m' := by
  rwa [Afterwards, ok] at h

section

variable {α : Type} (source : Source σ) (r : Runner σ) (emit : α → M σ α)

/-- Whether each of some items is the one that is due when its time comes, and no further one at the
end. The first item is bound and `pass` is done, and then it is the time of the next one. -/
def ItemsInStep (bind : Value → M σ Unit) (pass : α → M σ α) (Within : α → Machine σ → Prop) :
    List Value → Supply → α → Machine σ → Prop
  | [], s, _, m => s.Due m.heap []
  | v :: vs, s, acc, m => s.Due m.heap (v :: vs) ∧ Afterwards (bind v) m fun _ m =>
    Within acc m ∧ Afterwards (pass acc) m fun acc m =>
      ItemsInStep bind pass Within vs s.rest acc m

/-- Whether a comprehension keeps in step with the loops: whenever it goes on to an item, or finds
that there are no more, so would a `for` statement that gets its items from a source. -/
def InStep : List Clause → α → Machine σ → Prop
  | [], _, _ => True
  | c :: cs, acc, m => Afterwards (r.eval c.items) m fun v m₁ =>
    Afterwards (r.iterate v) m₁ fun vs m₂ =>
      ItemsInStep (r.assign c.target) (passing r c.conditions (forClauses r emit cs))
        (fun acc m => Afterwards (allHold r c.conditions) m fun held m =>
          held = true → InStep cs acc m)
        vs (source.first m₁.heap v vs) acc m₂

end

/-! ### Blocks beside comprehensions -/

section

variable {α : Type} {source : Source σ} {n : Nat} {emit : α → M σ α} {middle : Block σ}
  {m : Machine σ}

theorem RunsBeside.eval (e : Expr) :
    RunsBeside ((quiet n).eval e) (fun fuel => (quiet fuel).eval e) id m :=
  .of_sim fun _ le => (quiet_rel le).eval (every_of (fun _ => trivial) _)

theorem RunsBeside.truthy (v : Value) :
    RunsBeside (Stepwise.truthy (quiet n) v) (fun fuel => Stepwise.truthy (quiet fuel) v) id m :=
  .of_sim (A := Same) fun _ le => truthy_sim (quiet_rel le) (Diagonal.refl v)

theorem RunsBeside.assign (target : Expr) (v : Value) :
    RunsBeside ((quiet n).assign target v) (fun fuel => (quiet fuel).assign target v) id m :=
  .of_sim fun _ le => (quiet_rel le).assign trivial (every_of (fun _ => trivial) _)
    (fun _ _ => trivial) (Diagonal.refl v)

/-- Conditions of a clause, beside the `if` statements. -/
theorem passing_beside {x : α → M σ α} {rest : List Head} : ∀ {es : List Expr}
    {hs : List (Head × Site)} {acc : α} {m : Machine σ}, hs.map (·.1) = es.map .if_ ++ rest →
    (∀ hs m', hs.map (·.1) = rest → allHold (quiet n) es m = .ok true m' →
      RunsBeside (x acc) (nestBlock source.supply middle hs) (fun _ => .normal) m') →
    RunsBeside (passing (quiet n) es x acc) (nestBlock source.supply middle hs) (fun _ => .normal) m
  | [], hs, acc, m, same, inner => inner hs m same rfl
  | e :: es, hs, acc, m, same, inner => by
    obtain ⟨⟨-, pos, last⟩, hs, rfl, rfl, others⟩ := List.map_eq_cons_iff.1 same
    rw [passing_cons]
    refine .of_succ (.goTo (.markLine ?_ _ _ _) _)
    refine (RunsBeside.eval e).bind fun v m₁ value => ?_
    refine (RunsBeside.truthy v).bind fun b m₂ truth => ?_
    cases b with
    | false => exact .pure acc
    | true =>
      refine passing_beside others fun hs m' same held => inner hs m' same ?_
      rw [allHold, M.bind_ok value, M.bind_ok truth]
      exact held

/-- A `for` statement that has gone round `done` times goes on, with enough fuel. -/
theorem RunsBeside.round {β : Type} {x : M σ β} {φ : β → Flow} {target : Expr} {body : Block σ}
    {pos : Pos} {s : Supply} {done : Nat} (h : RunsBeside x (fun fuel =>
      rounds (quiet fuel) target (body fuel) pos (fuel - (done + 1) + 1) s) φ m) :
    RunsBeside x (fun fuel => rounds (quiet fuel) target (body fuel) pos (fuel - done) s) φ m :=
  h.congr (k := done + 1) fun fuel le => by
    rw [show fuel - (done + 1) + 1 = fuel - done by omega]

/-- The items that a clause goes through, beside the rounds of the `for` statement. -/
theorem forItems_beside {c : Clause} {body : Block σ} (pos : Pos) {x : α → M σ α}
    {Within : α → Machine σ → Prop}
    (inner : ∀ acc m, Within acc m →
      RunsBeside (passing (quiet n) c.conditions x acc) body (fun _ => .normal) m) :
    ∀ {vs : List Value} {s : Supply} {acc : α} {m : Machine σ} (done : Nat), s.Lists vs →
      ItemsInStep ((quiet n).assign c.target) (passing (quiet n) c.conditions x) Within vs s acc m →
      RunsBeside (forItems (quiet n) c x vs acc)
        (fun fuel => rounds (quiet fuel) c.target (body fuel) pos (fuel - done) s)
        (fun _ => .normal) m
  | [], s, acc, m, done, listed, inStep => by
    refine .round (.getHeap ?_)
    simp only [listed.next_nil inStep]
    exact .pure acc
  | v :: vs, s, acc, m, done, listed, ⟨due, inStep⟩ => by
    obtain ⟨next, listed⟩ := listed.next_cons due
    rw [forItems_cons]
    refine .round (.getHeap ?_)
    simp only [next]
    refine (RunsBeside.assign c.target v).bind fun _ m₁ bound => ?_
    obtain ⟨within, inStep⟩ := inStep.of_ok bound
    refine (inner acc m₁ within).bind fun acc' m₂ passed => ?_
    have others := forItems_beside pos inner (done + 1) listed (inStep.of_ok passed)
    have again := RunsBeside.goTo (.markLine others pos.line true none) pos
    simpa only [revisit, bind_assoc] using again

/-- The clauses of a comprehension, beside the nest of their statements. -/
theorem forClauses_beside
    (inner : ∀ acc m, RunsBeside (emit acc) middle (fun _ => .normal) m) :
    ∀ {clauses : List Clause} {hs : List (Head × Site)} {acc : α} {m : Machine σ},
      hs.map (·.1) = heads clauses → InStep source (quiet n) emit clauses acc m →
      RunsBeside (forClauses (quiet n) emit clauses acc) (nestBlock source.supply middle hs)
        (fun _ => .normal) m
  | [], hs, acc, m, same, _ => by
    obtain rfl := List.map_eq_nil_iff.1 same
    exact inner acc m
  | c :: cs, hs, acc, m, same, inStep => by
    obtain ⟨⟨-, pos, last⟩, hs, rfl, rfl, others⟩ := List.map_eq_cons_iff.1 same
    refine .of_succ (.goTo (.markLine ?_ _ _ _) _)
    refine (RunsBeside.eval c.items).bind fun v m₁ value => ?_
    refine (source.beside n v m₁).bind fun vs m₂ items => ?_
    refine forItems_beside pos (fun acc m within => ?_) 0 (source.lists items)
      ((inStep.of_ok value).of_ok items)
    exact passing_beside others fun hs m' same held =>
      forClauses_beside inner same (within.of_ok held rfl)

end

/-! ### Copied items -/

section

variable {α : Type} {r : Runner σ} {emit : α → M σ α}

theorem Afterwards.of_forall {x : M σ α} {m : Machine σ} {P : α → Machine σ → Prop}
    (h : ∀ a m, P a m) : Afterwards x m P := by
  unfold Afterwards
  split
  · exact h _ _
  · trivial

theorem itemsInStep_copied {bind : Value → M σ Unit} {pass : α → M σ α}
    {Within : α → Machine σ → Prop} (within : ∀ acc m, Within acc m) : ∀ {vs vs' : List Value}
    {acc : α} {m : Machine σ}, ItemsInStep bind pass Within vs (.items vs') acc m
  | [], _, _, _ => trivial
  | _ :: _, _, _, _ => ⟨trivial, .of_forall fun _ _ =>
    ⟨within _ _, .of_forall fun _ _ => itemsInStep_copied within⟩⟩

/-- Items that do not change are always in step. -/
theorem inStep_copied : ∀ {clauses : List Clause} {acc : α} {m : Machine σ},
    InStep .copied r emit clauses acc m
  | [], _, _ => trivial
  | _ :: _, _, _ => .of_forall fun _ _ => .of_forall fun _ _ => itemsInStep_copied fun _ _ =>
    .of_forall fun _ _ _ => inStep_copied

end

/-! ### What is visited -/

/-- What some names stand for, one after the other. -/
abbrev Bindings := List (Option Value)

/-- Writes down what the names that some clauses bind stand for. -/
def look (clauses : List Clause) : M (List Bindings) Unit :=
  modify fun m =>
    { m with log := m.log ++ [(allTargetNames [] (clauses.map (·.target))).map m.lookup?] }

/-- Evaluates the parts of the element of a comprehension and does something with their values. -/
def gather {α : Type} (r : Runner σ) (parts : List Expr) (collect : α → List Value → α) (acc : α) :
    M σ α := do
  return collect acc (← r.evalAll parts)

/-- The values that a comprehension gives are those of its element. -/
theorem comprehensionItems_eq (r : Runner σ) (element : Expr) (clauses : List Clause) :
    comprehensionItems r element clauses = (do
      let items ← comprehension r clauses (gather r [element] fun items vs => vs ++ items) []
      return items.reverse) := by
  have gathered : (gather r [element] fun items vs => vs ++ items) =
      fun items => do return (← r.eval element) :: items := by
    funext items
    simp only [gather, Runner.evalAll, bind_assoc, pure_bind]
    rfl
  rw [gathered]
  rfl

/-- The entries that a comprehension gives are those of its key and its value. -/
theorem comprehensionEntries_eq (r : Runner σ) (key value : Expr) (clauses : List Clause) :
    comprehensionEntries r key value clauses = (do
      let entries ← comprehension r clauses
        (gather r [key, value] fun entries vs => (argument vs 0, argument vs 1) :: entries) []
      return entries.reverse) := by
  have gathered :
      (gather r [key, value] fun entries vs => (argument vs 0, argument vs 1) :: entries) =
        fun entries => do
          let k ← r.eval key
          return (k, ← r.eval value) :: entries := by
    funext entries
    simp only [gather, Runner.evalAll, bind_assoc, pure_bind]
    rfl
  rw [gathered]
  rfl

/-- What a comprehension does for its element, after writing down what its names stand for. -/
def seenElement {α : Type} (r : Runner (List Bindings)) (clauses : List Clause)
    (parts : List Expr) (collect : α → List Value → α) (acc : α) : M (List Bindings) α := do
  look clauses
  gather r parts collect acc

/-- A comprehension that writes down what its names stand for whenever it comes to its element. -/
def seenComprehension {α : Type} (r : Runner (List Bindings)) (clauses : List Clause)
    (parts : List Expr) (collect : α → List Value → α) (start : α) : M (List Bindings) α :=
  comprehension r clauses (seenElement r clauses parts collect) start

/-- The middle of a nest, after writing down what the names of the clauses stand for. -/
def seenMiddle (clauses : List Clause) (parts : List (Expr × Site)) : Block (List Bindings) :=
  fun fuel => do
    look clauses
    Block.of (evaluations parts) fuel

/-- A nest that writes down what the names of the clauses stand for whenever it comes to its
middle. -/
def seenNest (source : Source (List Bindings)) (clauses : List Clause)
    (parts : List (Expr × Site)) (hs : List (Head × Site)) : Block (List Bindings) :=
  nestBlock source.supply (seenMiddle clauses parts) hs

/-- How two runs end alike, one of which gives a value where the other one just goes on: with that,
or with the same fault, and what they have written down is the same. -/
inductive EndsAlike {α : Type} : EStateM.Result Failure (Machine σ) α →
    EStateM.Result Failure (Machine σ) Flow → Prop
  | ok {a m m'} (log : m.log = m'.log) : EndsAlike (.ok a m) (.ok .normal m')
  | error {e e' m m'} (fault : e.fault = e'.fault) (log : m.log = m'.log) :
    EndsAlike (.error (.error e) m) (.error (.error e') m')

/-- The end of a comprehension, given that of its clauses. -/
theorem endsAlike_comprehension {α : Type} {r : Runner σ} {emit : α → M σ α}
    {clauses : List Clause} {start : α} {m : Machine σ}
    {y : EStateM.Result Failure (Machine σ) Flow}
    (ends : ∀ m', comprehension r clauses emit start m ≠ .error .outOfFuel m')
    (h : Beside (fun _ => .normal) (forClauses r emit clauses start m) y) :
    EndsAlike (comprehension r clauses emit start m) y := by
  revert ends h
  show (∀ m', EStateM.bind (attempt (forClauses r emit clauses start)) _ m ≠ _) → _ →
    EndsAlike (EStateM.bind (attempt (forClauses r emit clauses start)) _ m) y
  unfold EStateM.bind attempt
  generalize forClauses r emit clauses start m = result
  intro ends h
  cases h with
  | outOfFuel => exact absurd rfl (ends _)
  | ok H => exact .ok H.log
  | error fault H => exact .error fault H.log

theorem look_beside (clauses : List Clause) {m : Machine (List Bindings)} :
    RunsBeside (look clauses) (fun _ => look clauses) id m :=
  .of_sim (A := Same) (n := 0) fun _ _ => Adrift.step_sim fun m m' H => by
    have bound (names : List String) : names.map m.lookup? = names.map m'.lookup? :=
      List.map_congr_left fun x _ => H.lookup? x
    exact { H with near := { H.near with }, log := by rw [bound, H.log] }

/-- An expression, beside the statement that evaluates it. -/
theorem evaluation_beside {n : Nat} {m : Machine σ} (e : Expr) (pos : Pos) (last : Nat) :
    RunsBeside ((quiet n).eval e) (fun fuel => (quiet fuel).run (.exec (.mk (.expr e) pos last)))
      (fun _ => .normal) m :=
  .of_succ (.goTo (.markLine (((RunsBeside.eval e).mapRight (f := fun _ => ())).mapRight
    (f := fun _ => Flow.normal)) _ _ _) _)

theorem evaluations_beside {n : Nat} : ∀ {parts : List (Expr × Site)} {m : Machine σ},
    RunsBeside ((quiet n).evalAll (parts.map (·.1))) (Block.of (evaluations parts))
      (fun _ => Flow.normal) m
  | [], _ => .pure []
  | (e, pos, last) :: ps, m => by
    refine (evaluation_beside e pos last).bind fun v m₁ _ => ?_
    exact evaluations_beside.map fun _ => rfl

theorem seenElement_beside {α : Type} {n : Nat} {clauses : List Clause}
    {parts : List (Expr × Site)} {collect : α → List Value → α} {acc : α}
    {m : Machine (List Bindings)} :
    RunsBeside (seenElement (quiet n) clauses (parts.map (·.1)) collect acc)
      (seenMiddle clauses parts) (fun _ => .normal) m :=
  (look_beside clauses).bind fun _ _ _ => evaluations_beside.map fun _ => rfl

/-- Comprehensions visit what loops visit, if each loop goes through the items that there are when
it starts. For every machine, every comprehension and every way to write the corresponding nest of
`for` and `if` statements around the parts of its element: if the comprehension comes to an end,
then from some fuel on the nest of loops over copies comes to the same end, and whenever the element
and the middle of the nest were run, the names that the comprehension binds have stood for the same.
So it is with the `for` statements of the script, as long as each item that is due in a list is the
one that the comprehension has copied. -/
theorem comprehension_visits {α : Type} (n : Nat) (clauses : List Clause)
    (parts : List (Expr × Site)) (collect : α → List Value → α) (start : α)
    (m : Machine (List Bindings)) (hs : List (Head × Site)) (same : hs.map (·.1) = heads clauses)
    (ends : ∀ m', seenComprehension (quiet n) clauses (parts.map (·.1)) collect start m ≠
      .error .outOfFuel m') :
    (∃ k, ∀ fuel, k ≤ fuel → EndsAlike
      (seenComprehension (quiet n) clauses (parts.map (·.1)) collect start m)
      (seenNest .copied clauses parts hs fuel m)) ∧
    (InStep .live (quiet n) (seenElement (quiet n) clauses (parts.map (·.1)) collect) clauses
        start m →
      ∃ k, ∀ fuel, k ≤ fuel → EndsAlike
        (seenComprehension (quiet n) clauses (parts.map (·.1)) collect start m)
        (seenNest .live clauses parts hs fuel m)) := by
  have visits {source : Source (List Bindings)} (inStep : InStep source (quiet n)
      (seenElement (quiet n) clauses (parts.map (·.1)) collect) clauses start m) :
      ∃ k, ∀ fuel, k ≤ fuel → EndsAlike
        (seenComprehension (quiet n) clauses (parts.map (·.1)) collect start m)
        (seenNest source clauses parts hs fuel m) := by
    obtain ⟨k, h⟩ := forClauses_beside (fun _ _ => seenElement_beside) same inStep
    exact ⟨k, fun fuel le => endsAlike_comprehension ends (h fuel le m (.refl m))⟩
  exact ⟨visits inStep_copied, visits⟩

/-- A module in which `l` is a list of one item. -/
def oneListed : Machine (List Bindings) :=
  { Machine.start [] with
    heap := ⟨#[some (.scope ⟨.ofList [("l", .ref (Heap.base + 1))], none⟩),
      some (.list #[.int 1])], 0⟩
    globals := Heap.base
    stack := [Frame.start moduleName .module Heap.base 1] }

/-- `for x in l if x < 3` -/
def belowThree : List Clause :=
  [⟨.name "x", .name "l", [.compare (.name "x") [(.lt, .int 3)]]⟩]

/-- The same as a `for` statement with an `if` statement inside. -/
def belowThreeNest : List (Head × Site) :=
  [(.for_ (.name "x") (.name "l"), ⟨1, 1⟩, 3),
    (.if_ (.compare (.name "x") [(.lt, .int 3)]), ⟨2, 5⟩, 3)]

/-- The runs of `[x for x in l if x < 3]` and of the nest end alike. -/
theorem comprehension_visits_one :
    ∃ k, ∀ fuel, k ≤ fuel → EndsAlike
      (seenComprehension (quiet 8) belowThree [.name "x"] (fun vs v => v ++ vs) [] oneListed)
      (seenNest .live belowThree [(.name "x", ⟨3, 9⟩, 3)] belowThreeNest fuel oneListed) :=
  (comprehension_visits 8 belowThree [(.name "x", ⟨3, 9⟩, 3)] (fun vs v => v ++ vs) [] oneListed
    belowThreeNest rfl nofun).2 ⟨rfl, (fun _ => trivial), rfl⟩

/-- `l.append(x + 1)` -/
def pushNext : Expr :=
  .call (.attribute (.name "l") "append") [.positional (.binary .add (.name "x") (.int 1))]

/-- If the element makes the list longer, the nest comes to what is new, and the comprehension does
not. -/
example :
    (∃ a m, seenComprehension (quiet 8) belowThree [pushNext] (fun _ _ => ()) () oneListed =
      .ok a m ∧ m.log = [[some (.int 1)]]) ∧
    ∃ m, seenNest .live belowThree [(pushNext, ⟨3, 9⟩, 3)] belowThreeNest 12 oneListed =
      .ok .normal m ∧ m.log = [[some (.int 1)], [some (.int 2)]] :=
  ⟨⟨_, _, rfl, rfl⟩, _, rfl, rfl⟩

end Stepwise
