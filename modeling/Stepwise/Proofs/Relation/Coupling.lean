import Stepwise.Eval.Stmt
import Stepwise.Proofs.Relation.Machine

/-!
# Couplings

Two runs that do the same. A `Coupling` relates the machines of two runs, and a computation on one
side goes with a computation on the other (`Sim`) if from related machines both give related
results, or both fail with related errors, and leave related machines in a larger world, or both run
out of fuel. Some couplings let one of them run out of fuel alone (`Left`, `Right`), and then
nothing is said of the other one.

## The model

A coupling is an abstract relation with one closure law for each way in which the evaluator touches
a machine (`Lawful`): making and changing objects, printing, moving on, opening brackets. From these
laws every function of the evaluator goes with itself, function by function, in the modules on top
of this one. Properties of single runs come out of couplings of a run with itself.

Not every coupling allows everything: `changes` says whether objects may be changed, `executes`
whether statements may run, and `phrase` which parts of programs are evaluated at all. A context
(`Ctx`) holds what stays fixed while a part of the runs goes on, such as the frames around. A
coupling may be `confined` to one frame: then no function of the script is entered, and no name is
bound but by a comprehension (`whileBound`).

The runs need not even do the same all the way: in a lopsided coupling the left run may give up,
with an error that nothing in it catches, where the right one goes on.
-/

namespace Stepwise

open Script

/-- A way to relate the machines of two runs. -/
structure Coupling (σ τ : Type) where
  /-- What stays fixed while a part of the runs goes on. -/
  Ctx : Type
  /-- The relation. -/
  Holds : Ctx → World → Machine σ → Machine τ → Prop
  /-- The parts of programs that are evaluated. -/
  phrase : Phrase → Prop
  /-- The lines that the running frame reports itself. -/
  line : Ctx → Nat → Prop
  /-- Whether objects may be changed. -/
  changes : Prop
  /-- Whether statements may run. -/
  executes : Prop
  /-- Names that stand for harmless functions. -/
  harmless : String → Prop
  /-- Values that may be called. -/
  Tame : Value → Prop
  /-- Names that may be bound. -/
  binds : Ctx → String → Prop := fun _ _ => True
  /-- Where objects are that may be changed in any way. Elsewhere a built-in class without attributes
  stays one. -/
  own : Address → Prop := fun _ => True
  /-- Whether the runs stay in one frame, and give back the names that they bind in it. -/
  confined : Prop := False
  /-- Whether the left run may give up where the right one goes on. -/
  lopsided : Prop
  /-- Whether the left run may run out of fuel alone. -/
  Left : Prop
  /-- Whether the right run may run out of fuel alone. -/
  Right : Prop
  /-- What is said of machines that are out of fuel. -/
  Stops : Machine σ → Machine τ → Prop
  stops : ∀ {c w m m'}, Holds c w m m' → Stops m m'
  slack : lopsided → Left

variable {σ τ : Type}

/-- Whether an error is one that no expression catches: neither the end of an iteration nor a
missing attribute. -/
def RuntimeError.Lasts (e : RuntimeError) : Prop :=
  e.fault.kind ≠ "StopIteration" ∧ e.fault.isAttribute = false

/-- Results that come to nothing, whatever expression is around. -/
inductive Lost {α : Type} : EStateM.Result Failure (Machine σ) α → Prop
  | error {e m} (h : RuntimeError.Lasts e) : Lost (.error (.error e) m)
  | outOfFuel {m} : Lost (.error .outOfFuel m)

namespace Lost

variable {α β : Type} {e : RuntimeError} {m : Machine σ}

theorem rethrow (h : e.Lasts) : Lost (Stepwise.rethrow e m : EStateM.Result _ _ α) := .error h

theorem fail {f : Fault} (hk : f.kind ≠ "StopIteration") (ha : f.isAttribute = false) :
    Lost (Stepwise.fail f m : EStateM.Result _ _ α) := .error ⟨hk, ha⟩

theorem failType (f : String → TypeFault) (v : Value) :
    Lost (Stepwise.failType f v m : EStateM.Result _ _ α) := .error ⟨by simp [Fault.kind], rfl⟩

theorem bind {x : M σ α} (h : Lost (x m)) (f : α → M σ β) : Lost ((x >>= f) m) := by
  show Lost (EStateM.bind x f m)
  unfold EStateM.bind
  revert h
  generalize x m = rx
  intro h
  cases h with
  | error he => exact .error he
  | outOfFuel => exact .outOfFuel

theorem bind_ok {x : M σ α} {a : α} {m' : Machine σ} {f : α → M σ β} (h : x m = .ok a m')
    (hf : Lost (f a m')) : Lost ((x >>= f) m) := by
  show Lost (EStateM.bind x f m)
  unfold EStateM.bind
  rw [h]
  exact hf

end Lost

/-- Related results in related machines; nothing if one run is out of fuel alone, or if the left run
has given up. -/
inductive Agree (C : Coupling σ τ) (c : C.Ctx) (w : World) {α β : Type} (A : Rel α β) :
    EStateM.Result Failure (Machine σ) α → EStateM.Result Failure (Machine τ) β → Prop
  | left {m y} (h : C.Left) : Agree C c w A (.error .outOfFuel m) y
  | right {x m} (h : C.Right) : Agree C c w A x (.error .outOfFuel m)
  | stop {m m'} (h : C.Stops m m') : Agree C c w A (.error .outOfFuel m) (.error .outOfFuel m')
  | lost {e m y} (hl : C.lopsided) (he : RuntimeError.Lasts e) :
    Agree C c w A (.error (.error e) m) y
  | ok {w' a b m m'} (hw : w ≤ w') (h : A w' a b) (hm : C.Holds c w' m m') :
    Agree C c w A (.ok a m) (.ok b m')
  | error {w' e e' m m'} (hw : w ≤ w') (h : ErrorRel w' e e') (hm : C.Holds c w' m m') :
    Agree C c w A (.error (.error e) m) (.error (.error e') m')

namespace Agree

variable {α β : Type} {C : Coupling σ τ} {c : C.Ctx} {w w' : World} {A B : Rel α β}
  {x : EStateM.Result Failure (Machine σ) α} {y : EStateM.Result Failure (Machine τ) β}

theorem grow (hw : w ≤ w') (h : Agree C c w' A x y) : Agree C c w A x y := by
  cases h with
  | left h => exact .left h
  | right h => exact .right h
  | stop h => exact .stop h
  | lost hl he => exact .lost hl he
  | ok hw' h hm => exact .ok (hw.trans hw') h hm
  | error hw' h hm => exact .error (hw.trans hw') h hm

/-- Results in a weaker relation. -/
theorem mono (h : Agree C c w A x y) (hAB : ∀ w' a b, w ≤ w' → A w' a b → B w' a b) :
    Agree C c w B x y := by
  cases h with
  | left h => exact .left h
  | right h => exact .right h
  | stop h => exact .stop h
  | lost hl he => exact .lost hl he
  | ok hw ha hm => exact .ok hw (hAB _ _ _ hw ha) hm
  | error hw he hm => exact .error hw he hm

/-- A left run that has come to nothing. -/
theorem of_lost (hl : C.lopsided) (h : Lost x) : Agree C c w A x y := by
  cases h with
  | error he => exact .lost hl he
  | outOfFuel => exact .left (C.slack hl)

end Agree

namespace Coupling

variable {α β γ δ : Type} {C : Coupling σ τ} {c : C.Ctx} {w w' : World}
variable {A : Rel α β} {B : Rel γ δ}

/-- How often loops may go round on both sides: equally often, or more often on the right if the
left run may run out of fuel alone. -/
inductive Rounds (C : Coupling σ τ) : Nat → Nat → Prop
  | stop : Rounds C 0 0
  | left (h : C.Left) (n' : Nat) : Rounds C 0 n'
  | round {n n'} (h : Rounds C n n') : Rounds C (n + 1) (n' + 1)

theorem Rounds.refl : ∀ n, C.Rounds n n
  | 0 => .stop
  | n + 1 => .round (refl n)

theorem Rounds.of_le (h : C.Left) : ∀ {n n'}, n ≤ n' → C.Rounds n n'
  | 0, n', _ => .left h n'
  | _ + 1, _ + 1, le => .round (of_le h (Nat.le_of_succ_le_succ le))

/-- From related machines two computations come to related results. -/
def Sim (C : Coupling σ τ) (c : C.Ctx) (w : World) (A : Rel α β) (x : M σ α) (y : M τ β) :
    Prop :=
  ∀ m m', C.Holds c w m m' → Agree C c w A (x m) (y m')

namespace Sim

/-! ### Results and errors -/

theorem pure {a : α} {b : β} (h : A w a b) : C.Sim c w A (pure a) (pure b) :=
  fun _ _ hm => .ok le_rfl h hm

theorem bind {x : M σ α} {y : M τ β} {f : α → M σ γ} {g : β → M τ δ} (hx : C.Sim c w A x y)
    (hf : ∀ w' a b, w ≤ w' → A w' a b → C.Sim c w' B (f a) (g b)) :
    C.Sim c w B (x >>= f) (y >>= g) := by
  intro m m' hm
  have h := hx m m' hm
  show Agree C c w B (EStateM.bind x f m) (EStateM.bind y g m')
  unfold EStateM.bind
  revert h
  generalize x m = rx, y m' = ry
  intro h
  cases h with
  | left h => exact .left h
  | right h => exact .right h
  | stop h => exact .stop h
  | lost hl he => exact .lost hl he
  | ok hw h hm => exact (hf _ _ _ hw h _ _ hm).grow hw
  | error hw h hm => exact .error hw h hm

theorem map {x : M σ α} {y : M τ β} {f : α → γ} {g : β → δ} (hx : C.Sim c w A x y)
    (hf : ∀ w' a b, w ≤ w' → A w' a b → B w' (f a) (g b)) :
    C.Sim c w B (f <$> x) (g <$> y) := by
  rw [map_eq_pure_bind, map_eq_pure_bind]
  exact hx.bind fun w' a b hw h => .pure (hf w' a b hw h)

/-- A weaker relation of the results. -/
theorem mono {A' : Rel α β} {x : M σ α} {y : M τ β} (hx : C.Sim c w A x y)
    (h : ∀ w' a b, w ≤ w' → A w' a b → A' w' a b) : C.Sim c w A' x y :=
  fun m m' hm => (hx m m' hm).mono h

theorem stop : C.Sim c w A (throw .outOfFuel : M σ α) (throw .outOfFuel : M τ β) :=
  fun _ _ hm => .stop (C.stops hm)

theorem left {y : M τ β} (h : C.Left) : C.Sim c w A (throw .outOfFuel : M σ α) y :=
  fun _ _ _ => .left h

theorem rethrow {e e' : RuntimeError} (h : ErrorRel w e e') :
    C.Sim c w A (rethrow e) (Stepwise.rethrow e') :=
  fun _ _ hm => .error le_rfl h hm

/-- What is done after an attempt, if it does not catch what the left run gives up with. -/
theorem attempt_bind {x : M σ α} {y : M τ β} {f : Except RuntimeError α → M σ γ}
    {g : Except RuntimeError β → M τ δ} (hx : C.Sim c w A x y)
    (hl : C.lopsided → ∀ e m, RuntimeError.Lasts e → Lost (f (.error e) m))
    (hf : ∀ w' r r', w ≤ w' → AttemptRel A w' r r' → C.Sim c w' B (f r) (g r')) :
    C.Sim c w B (Stepwise.attempt x >>= f) (Stepwise.attempt y >>= g) := by
  intro m m' hm
  have h := hx m m' hm
  show Agree C c w B (EStateM.bind (Stepwise.attempt x) f m)
    (EStateM.bind (Stepwise.attempt y) g m')
  unfold EStateM.bind Stepwise.attempt
  revert h
  generalize x m = rx, y m' = ry
  intro h
  cases h with
  | left h => exact .left h
  | right h => exact .right h
  | stop h => exact .stop h
  | lost hlop he => exact .of_lost hlop (hl hlop _ _ he)
  | ok hw h hm => exact (hf _ _ _ hw (.ok h) _ _ hm).grow hw
  | error hw h hm => exact (hf _ _ _ hw (.error h) _ _ hm).grow hw

theorem attempt {x : M σ α} {y : M τ β} (hx : C.Sim c w A x y) (hl : ¬C.lopsided) :
    C.Sim c w (AttemptRel A) (attempt x) (Stepwise.attempt y) := by
  have h := attempt_bind (B := AttemptRel A) hx (fun h => absurd h hl) fun _ _ _ _ => pure
  rwa [bind_pure, bind_pure] at h

theorem enough {a : Option α} {b : Option β} (h : OptionRel A w a b) :
    C.Sim c w A (enough a) (Stepwise.enough b) := by
  cases h with
  | none => exact stop
  | some h => exact pure h

/-! ### Choices and loops -/

theorem ite {p q : Prop} [Decidable p] [Decidable q] {x y : M σ α} {x' y' : M τ β} (h : p ↔ q)
    (hx : p → C.Sim c w A x x') (hy : ¬p → C.Sim c w A y y') :
    C.Sim c w A (if p then x else y) (if q then x' else y') := by
  by_cases hp : p
  · rw [if_pos hp, if_pos (h.1 hp)]
    exact hx hp
  · rw [if_neg hp, if_neg (fun hq => hp (h.2 hq))]
    exact hy hp

theorem mapM [Grows A] [Grows B] {as : List α} {bs : List β} {f : α → M σ γ} {g : β → M τ δ}
    (h : ListRel A w as bs)
    (hf : ∀ w' a b, w ≤ w' → A w' a b → C.Sim c w' B (f a) (g b)) :
    C.Sim c w (ListRel B) (as.mapM f) (bs.mapM g) := by
  induction as generalizing bs w with
  | nil =>
    cases h
    exact pure .nil
  | cons a as ih =>
    cases h with
    | cons hab t =>
      rw [List.mapM_cons, List.mapM_cons]
      refine (hf w _ _ le_rfl hab).bind fun w₁ x y h₁ hx => ?_
      refine (ih (up h₁ t : ListRel A w₁ _ _) fun w' a b hw => hf w' a b (h₁.trans hw)).bind
        fun w₂ xs ys h₂ hxs => ?_
      exact pure (.cons (up h₂ hx) hxs)

theorem foldlM [Grows A] {as : List α} {bs : List β} {f : γ → α → M σ γ} {g : δ → β → M τ δ}
    {m : γ} {n : δ} (h : ListRel A w as bs) (hm : B w m n)
    (hf : ∀ w' m n a b, w ≤ w' → B w' m n → A w' a b → C.Sim c w' B (f m a) (g n b)) :
    C.Sim c w B (as.foldlM f m) (bs.foldlM g n) := by
  induction as generalizing bs w m n with
  | nil =>
    cases h
    exact pure hm
  | cons a as ih =>
    cases h with
    | cons hab t =>
      rw [List.foldlM_cons, List.foldlM_cons]
      refine (hf w _ _ _ _ le_rfl hm hab).bind fun w₁ x y h₁ hx => ?_
      exact ih (up h₁ t : ListRel A w₁ _ _) hx
        fun w' m n a b hw => hf w' m n a b (h₁.trans hw)

/-! ### Brackets -/

/-- What is written while its container is marked. -/
theorem whileWriting_within {a a' : Address} {x : M σ α} {y : M τ β} {m : Machine σ} {m' : Machine τ}
    {c' : C.Ctx}
    (enter : C.Holds c' w { m with writing := a :: m.writing } { m' with writing := a' :: m'.writing })
    (leave : ∀ {w' m m'}, w ≤ w' → C.Holds c' w' m m' → C.Holds c w'
      { m with writing := m.writing.tail } { m' with writing := m'.writing.tail })
    (h : C.Sim c' w A x y) :
    Agree C c w A (Stepwise.whileWriting a x m) (Stepwise.whileWriting a' y m') := by
  have inside := h _ _ enter
  show Agree C c w A (EStateM.bind (Stepwise.attempt x) _ _) (EStateM.bind (Stepwise.attempt y) _ _)
  unfold EStateM.bind Stepwise.attempt
  revert inside
  generalize x _ = rx, y _ = ry
  intro inside
  cases inside with
  | left h => exact .left h
  | right h => exact .right h
  | stop h => exact .stop h
  | lost hl he => exact .lost hl he
  | ok hw h hm => exact .ok hw h (leave hw hm)
  | error hw h hm => exact .error hw h (leave hw hm)

theorem whileWriting {a a' : Address} {x : M σ α} {y : M τ β} {m : Machine σ} {m' : Machine τ}
    (bracket : ∃ c',
      C.Holds c' w { m with writing := a :: m.writing } { m' with writing := a' :: m'.writing } ∧
        ∀ {w' m m'}, w ≤ w' → C.Holds c' w' m m' → C.Holds c w'
          { m with writing := m.writing.tail } { m' with writing := m'.writing.tail })
    (h : ∀ c', C.Sim c' w A x y) :
    Agree C c w A (Stepwise.whileWriting a x m) (Stepwise.whileWriting a' y m') :=
  let ⟨c', enter, leave⟩ := bracket
  whileWriting_within enter leave (h c')

/-- What is done while an error is being handled. -/
theorem whileHandling_within {e e' : RuntimeError} {x : M σ α} {y : M τ β}
    (bracket : ∀ {m m'}, C.Holds c w m m' → ∃ c',
      C.Holds c' w { m with handled := e :: m.handled } { m' with handled := e' :: m'.handled } ∧
        (∀ {w' m m'}, w ≤ w' → C.Holds c' w' m m' → C.Holds c w'
          { m with handled := m.handled.tail } { m' with handled := m'.handled.tail }) ∧
        C.Sim c' w A x y)
    (upright : ¬C.lopsided) :
    C.Sim c w (AttemptRel A) (Stepwise.whileHandling e x) (Stepwise.whileHandling e' y) := by
  intro m m' hm
  obtain ⟨c', enter, leave, h⟩ := bracket hm
  have inside := h _ _ enter
  show Agree C c w (AttemptRel A) (EStateM.bind (Stepwise.attempt x) _ _)
    (EStateM.bind (Stepwise.attempt y) _ _)
  unfold EStateM.bind Stepwise.attempt
  revert inside
  generalize x _ = rx, y _ = ry
  intro inside
  cases inside with
  | left h => exact .left h
  | right h => exact .right h
  | stop h => exact .stop h
  | lost hl => exact absurd hl upright
  | ok hw h hm => exact .ok hw (.ok h) (leave hw hm)
  | error hw h hm => exact .ok hw (.error h) (leave hw hm)

theorem whileHandling {e e' : RuntimeError} {x : M σ α} {y : M τ β}
    (bracket : ∀ {m m'}, C.Holds c w m m' → ∃ c',
      C.Holds c' w { m with handled := e :: m.handled } { m' with handled := e' :: m'.handled } ∧
        ∀ {w' m m'}, w ≤ w' → C.Holds c' w' m m' → C.Holds c w'
          { m with handled := m.handled.tail } { m' with handled := m'.handled.tail })
    (upright : ¬C.lopsided) (h : ∀ c', C.Sim c' w A x y) :
    C.Sim c w (AttemptRel A) (Stepwise.whileHandling e x) (Stepwise.whileHandling e' y) :=
  whileHandling_within
    (fun hm => let ⟨c', enter, leave⟩ := bracket hm; ⟨c', enter, leave, h c'⟩) upright

/-! ### Looking at the machine -/

theorem get {f : Machine σ → M σ α} {g : Machine τ → M τ β}
    (h : ∀ m m', C.Holds c w m m' → C.Sim c w A (f m) (g m')) :
    C.Sim c w A (get >>= f) (MonadState.get >>= g) :=
  fun m m' hm => h m m' hm m m' hm

theorem getHeap {f : Heap → M σ α} {g : Heap → M τ β}
    (h : ∀ m m', C.Holds c w m m' → C.Sim c w A (f m.heap) (g m'.heap)) :
    C.Sim c w A (getHeap >>= f) (Stepwise.getHeap >>= g) :=
  fun m m' hm => h m m' hm m m' hm

/-- What is done on the heap that is looked at. -/
theorem getHeap_here {f : Heap → M σ α} {g : Heap → M τ β}
    (h : ∀ m m', C.Holds c w m m' → Agree C c w A (f m.heap m) (g m'.heap m')) :
    C.Sim c w A (Stepwise.getHeap >>= f) (Stepwise.getHeap >>= g) := h

end Sim

end Coupling

/-! ### Names that are bound for a time -/

/-- The names that a comprehension binds. -/
def Script.Expr.boundNames : Expr → List String
  | .listComp _ clauses | .setComp _ clauses | .dictComp _ _ clauses =>
    allTargetNames [] (clauses.map (·.target))
  | _ => []

mutual

/-- The names that a target adds. -/
theorem mem_targetNames {x : String} {names : List String} : ∀ {e : Expr},
    x ∈ targetNames names e ↔ x ∈ names ∨ x ∈ targetNames [] e
  | .name y => by
    simp only [targetNames, List.contains_eq_mem, decide_eq_true_eq, List.not_mem_nil, if_false,
      List.nil_append, List.mem_singleton]
    split
    case isTrue old =>
      have same : x = y → x ∈ names := fun h => h ▸ old
      exact ⟨.inl, fun h => h.elim id same⟩
    case isFalse => rw [List.mem_append, List.mem_singleton]
  | .tuple items | .list items => by
    rw [targetNames, targetNames, mem_allTargetNames, @mem_allTargetNames x [] items]
    simp
  | .none | .bool _ | .int _ | .float _ | .str _ | .fstring _ | .attribute _ _ | .subscript _ _
  | .slice _ _ _ | .call _ _ | .unary _ _ | .binary _ _ _ | .compare _ _ | .boolOp _ _ _
  | .ifElse _ _ _ | .lambda _ | .set _ | .dict _ | .listComp _ _ | .setComp _ _
  | .dictComp _ _ _ => by
    simp [targetNames]

theorem mem_allTargetNames {x : String} {names : List String} : ∀ {es : List Expr},
    x ∈ allTargetNames names es ↔ x ∈ names ∨ ∃ e ∈ es, x ∈ targetNames [] e
  | [] => by simp [allTargetNames]
  | e :: es => by
    rw [allTargetNames, @mem_allTargetNames x _ es, mem_targetNames]
    simp [or_assoc]

end

/-- Does `x`, and then gives names of the running frame back what they stood for. -/
def whileBound {α : Type} (names : List String) (x : M σ α) : M σ α := do
  let m ← get
  let vars := ((m.heap.scope? m.currentScope).map (·.vars)).getD .empty
  let saved := names.map fun x => (x, vars.get? x)
  let result ← attempt x
  changeHeap (·.modifyScope m.currentScope (saved.foldl restore ·))
  match result with
  | .ok a => return a
  | .error e => rethrow e

/-! ### Laws -/

/-- Whether an argument is no key function. -/
def Script.Argument.isKeyless : Argument → Bool
  | .keyword name _ => name != "key"
  | _ => true

/-- Expressions that change nothing by themselves: they make no function, bind no name and call
nothing but harmless functions without a key function. -/
def Script.Expr.Calm (harmless : String → Prop) : Expr → Prop
  | .lambda _ | .listComp _ _ | .setComp _ _ | .dictComp _ _ _ => False
  | .call func args => ∃ x, func = .name x ∧ harmless x ∧ ∀ a ∈ args, a.isKeyless = true
  | _ => True

/-- The special methods that are called to look at a value. -/
def specialMethods : List String :=
  ["__bool__", "__len__", "__repr__", "__str__", "__eq__", "__ne__", "__lt__", "__le__", "__gt__",
    "__ge__", "__contains__", "__iter__", "__next__", "__getitem__", "__call__", "__init__",
    "__add__", "__radd__", "__sub__", "__rsub__", "__mul__", "__rmul__", "__truediv__",
    "__rtruediv__", "__floordiv__", "__rfloordiv__", "__mod__", "__rmod__", "__pow__", "__rpow__",
    "__and__", "__rand__", "__or__", "__ror__", "__xor__", "__rxor__", "__lshift__",
    "__rlshift__", "__rshift__", "__rrshift__", "__neg__", "__pos__", "__invert__", "__abs__"]

/-- Whether a value is neither a built-in nor a built-in method. -/
def Inert (h : Heap) : Value → Prop
  | .builtin _ => False
  | .ref a => ∀ receiver name, h.get? a ≠ some (.nativeMethod receiver name)
  | _ => True

/-- Objects of one kind that agree in all that a change leaves alone. -/
inductive Like : Object → Object → Prop
  | refl (o) : Like o o
  | list (items items') : Like (.list items) (.list items')
  | dict (t t') : Like (.dict t) (.dict t')
  | set (t t') : Like (.set t) (.set t')
  | inst {i i'} (cls : i.cls = i'.cls) : Like (.inst i) (.inst i')
  | cls {c c'} (name : c.name = c'.name) (bases : c.bases = c'.bases) (mro : c.mro = c'.mro)
    (builtin : c.builtin = c'.builtin) : Like (.cls c) (.cls c')
  | scope {s s'} (parent : s.parent = s'.parent) : Like (.scope s) (.scope s')

/-- Whether an object is one of the data of a script: neither a class nor a scope. -/
def Object.isData : Object → Bool
  | .cls _ | .scope _ => false
  | _ => true

/-- Whether an object is a list, a dictionary or a set. -/
def Object.isContainer : Object → Bool
  | .list _ | .dict _ | .set _ => true
  | _ => false

/-- Whether there is a list, a dictionary or a set at an address. -/
def Heap.hasContainer (h : Heap) (a : Address) : Bool := (h.get? a).any Object.isContainer

/-- Changes that leave built-in classes without attributes as they are. -/
def SparesBuiltins (f : Object → Object) : Prop :=
  ∀ k : Class, k.builtin = true → k.attrs = .empty → f (.cls k) = .cls k

/-- Changes of objects that keep related objects related and leave their kinds alone. -/
structure Edit (w : World) (f f' : Object → Object) : Prop where
  rel : ∀ {o o'}, ObjectRel w o o' → ObjectRel w (f o) (f' o')
  left : ∀ o, Like o (f o)
  right : ∀ o, Like o (f' o)

/-- Changes of a frame that leave alone what runs in it and what an observer is told of it. -/
structure Amends (g : Frame → Frame) : Prop where
  rel : ∀ {w f f'}, FrameRel w f f' → FrameRel w (g f) (g f')
  event : ∀ f kind, (g f).event kind = f.event kind
  owner : ∀ f, (g f).owner = f.owner
  receiver : ∀ f, (g f).receiver = f.receiver
  reported : ∀ f, (g f).reported = f.reported

/-- What is related in a coupling may be touched in every way in which the evaluator does. -/
class Coupling.Lawful (C : Coupling σ τ) : Prop where
  near : ∀ {c w m m'}, C.Holds c w m m' → Near w m m'
  phrase : ∀ {c w m m'}, C.executes → C.Holds c w m m' → w.phrase = C.phrase
  knows : ∀ {c w m m' n}, C.changes → C.Holds c w m m' → C.phrase n → w.phrase n
  changes : C.executes → C.changes
  calm : C.changes ∨ ∀ e, C.phrase (.expr e) → e.Calm C.harmless
  harmless : ∀ {c w m m' x}, C.Holds c w m m' → C.harmless x →
    ∃ b, m.lookup? x = some (.builtin b) ∧ b.isPure = true
  executes : ∀ {c w m m'}, C.Holds c w m m' → m.inspecting = false → C.executes ∨ C.confined
  roams : C.executes → ¬C.confined := by exact fun _ h => h
  binds : ∀ c x, C.confined ∨ C.binds c x := by exact fun _ _ => .inr trivial
  tame : C.changes → ∀ v, C.Tame v
  special : ∀ {c w m m' a name v}, C.Holds c w m m' → name ∈ specialMethods →
    m.heap.classLookup? a name = some v → C.Tame v.1
  inert : ∀ {c w m m' v}, C.Holds c w m m' → C.Tame v → C.changes ∨ Inert m.heap v
  upright : C.changes → ¬C.lopsided
  inspecting : ∀ {c w m m'}, C.Holds c w m m' →
    m.inspecting = m'.inspecting ∨ C.lopsided ∧ m.inspecting = true
  filed : ∀ {c w m m' v v' k}, C.Holds c w m m' → ValueRel w v v' → m.heap.key? v = some k →
    ∃ w', w ≤ w' ∧ w'.filed k v ∧ C.Holds c w' m m'
  alloc : ∀ {c w o o'}, ObjectRel w o o' → o.isData = true →
    C.Sim c w AddrRel (alloc o) (alloc o')
  allocClass : ∀ {c w bases bases'} name, C.executes → ListRel AddrRel w bases bases' →
    C.Sim c w AddrRel (allocClass name bases) (allocClass name bases')
  tuple : ∀ {c w items items'}, ValuesRel w items items' →
    C.Sim c w ValueRel (makeTuple items) (makeTuple items')
  edit : ∀ {c w a a' f f'}, C.changes → w.place a a' → Edit w f f' →
    (C.confined → ∀ s, f (.scope s) = .scope s) → C.own a ∨ SparesBuiltins f →
    C.Sim c w Same (changeHeap (·.modify a f)) (changeHeap (·.modify a' f'))
  owns : ∀ {c w m m'}, C.Holds c w m m' → C.own m.heap.next := by exact fun _ => trivial
  assign : ∀ {c w x v v'}, C.confined → C.binds c x → ValueRel w v v' →
    C.Sim c w Same (assignName x v) (assignName x v') := by exact fun h => h.elim
  bound : ∀ {c w e} {α β : Type} {A : Rel α β} {x : M σ α} {y : M τ β}, C.confined →
    C.phrase (.expr e) →
    (∀ c' w', w ≤ w' → (∀ n ∈ e.boundNames, C.binds c' n) → C.Sim c' w' A x y) →
    C.Sim c w A (whileBound e.boundNames x) (whileBound e.boundNames y) := by exact fun h => h.elim
  emit : ∀ {c w} text, C.changes → C.Sim c w Same (emit text) (emit text)
  goTo : ∀ {c w pos pos'}, C.executes → (w.located → pos = pos') →
    C.Sim c w Same (goTo pos) (goTo pos')
  amend : ∀ {c w g}, C.executes → Amends g → (∀ f, (g f).captured = f.captured) →
    C.Sim c w Same (changeFrame g) (changeFrame g)
  capture : ∀ {c w}, C.changes → C.Sim c w (OptionRel KeptRel) capturedScope capturedScope
  enlist : ∀ {c w a a'} name, C.executes → w.addr a a' →
    C.Sim c w Same (enlist name a) (enlist name a')
  writing : ∀ {c w a a' m m'} {α β : Type} {A : Rel α β} {x : M σ α} {y : M τ β},
    C.Holds c w m m' → m.heap.hasContainer a = true → w.addr a a' →
    (∀ c' w', w ≤ w' → (∀ n, C.line c n → C.line c' n) → C.Sim c' w' A x y) →
    Agree C c w A (whileWriting a x m) (whileWriting a' y m')
  handling : ∀ {c w e e'} {α β : Type} {A : Rel α β} {x : M σ α} {y : M τ β}, C.executes →
    ErrorRel w e e' → (∀ c' w', w ≤ w' → (∀ n, C.line c n → C.line c' n) → C.Sim c' w' A x y) →
    C.Sim c w (AttemptRel A) (whileHandling e x) (whileHandling e' y)

/-- Where statements run, any name may be bound. -/
theorem Coupling.Lawful.free {C : Coupling σ τ} [hC : C.Lawful] (hx : C.executes) (c : C.Ctx)
    (name : String) : C.binds c name :=
  (hC.binds c name).resolve_left (hC.roams hx)

end Stepwise
