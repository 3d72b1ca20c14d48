import Stepwise.Format.Spec
import Stepwise.Number.Integer
import Stepwise.Number.Literal
import Stepwise.Number.Real
import Stepwise.Proofs.Relation.Runner

/-!
# Faults of numbers and texts

The arithmetic of the script language and the formatting of numbers and texts know nothing of
objects, so their faults hold no values (`Plain`), and what they compute is the same on both sides.
-/

namespace Stepwise

open Script Coupling

/-- A result, or a fault that holds no value. -/
inductive Plain {α : Type} : Except Fault α → Prop
  | ok (a : α) : Plain (.ok a)
  | error {f : Fault} (h : f.isPlain = true) : Plain (.error f)

namespace Plain

variable {α β : Type}

theorem bind {x : Except Fault α} {f : α → Except Fault β} (h : Plain x) (hf : ∀ a, Plain (f a)) :
    Plain (x >>= f) := by
  cases h with
  | ok a => exact hf a
  | error h => exact .error h

/-! ### Integers -/

theorem exact (n : Int) : Plain (Stepwise.exact n) := by
  unfold Stepwise.exact
  split
  · exact .ok _
  · exact .error rfl

theorem modularPow (b e m : Int) : Plain (Stepwise.modularPow b e m) := by
  unfold Stepwise.modularPow
  split
  · exact .error rfl
  split
  · exact .error rfl
  split
  · exact .ok _
  · exact .error rfl

theorem gcdStep (g n : Int) : Plain (Stepwise.gcdStep g n) := .exact _

theorem factorial (n : Int) : Plain (Stepwise.factorial n) := by
  unfold Stepwise.factorial
  split
  · exact .error rfl
  split
  · exact .error rfl
  · exact .ok _

/-! ### Doubles -/

theorem floatPow (a b : Float) : Plain (Stepwise.floatPow a b) := by
  unfold Stepwise.floatPow
  split
  · exact .error rfl
  split
  · exact .error rfl
  dsimp only
  split
  · exact .error rfl
  · exact .ok _

theorem floatOp (op : BinaryOp) (left right : String) (a b : Float) :
    Plain (Stepwise.floatOp op left right a b) := by
  cases op with
  | add | sub | mul => exact .ok _
  | div | floorDiv | mod =>
    unfold Stepwise.floatOp
    dsimp only
    split
    · exact .error rfl
    · exact .ok _
  | pow => exact .floatPow a b
  | bitAnd | bitOr | bitXor | shl | shr => exact .error rfl

theorem floatToInt (x : Float) : Plain (Stepwise.floatToInt x) := by
  unfold Stepwise.floatToInt
  split
  · exact .error rfl
  split
  · exact .error rfl
  dsimp only
  split
  · exact .ok _
  · exact .error rfl

/-! ### Texts -/

theorem parseInt (text : String) (base : Int) : Plain (Stepwise.parseInt text base) := by
  have whole (n : Int) : Plain (if fits n then .ok n else .error (.overflow .integer)) := by
    split
    · exact .ok _
    · exact .error rfl
  unfold Stepwise.parseInt
  split
  · exact .error rfl
  dsimp only
  split
  · exact .error rfl
  split
  · exact .error rfl
  · exact whole _

theorem parseFloat (text : String) : Plain (Stepwise.parseFloat text) := by
  unfold Stepwise.parseFloat
  dsimp only
  split
  · exact .ok _
  split
  · exact .ok _
  split
  · exact .ok _
  · exact .error rfl

theorem ofText (s : Spec) (text : String) : Plain (s.ofText text) := by
  unfold Spec.ofText
  split
  · exact .error rfl
  split
  · exact .error rfl
  · exact .ok _

theorem ofInteger (s : Spec) (type : String) (n : Int) : Plain (s.ofInteger type n) := by
  unfold Spec.ofInteger
  split
  · exact .error rfl
  split
  · split
    · exact .ok _
    · exact .error rfl
  · split
    · exact .ok _
    · exact .error rfl

theorem ofFloat (s : Spec) (type : String) (x : Float) : Plain (s.ofFloat type x) := by
  unfold Spec.ofFloat
  split
  · exact .error rfl
  · exact .ok _

end Plain

/-! ### Steps of arithmetic -/

/-- Steps of which no fault holds a value. -/
def Mild {α : Type} (x : Steps α) : Prop := ∀ f, x.run = some (.error f) → f.isPlain = true

namespace Mild

variable {α β : Type}

theorem pure (a : α) : Mild (Pure.pure a) := nofun

theorem throw {f : Fault} (h : f.isPlain = true) : Mild (MonadExcept.throw f : Steps α)
  | _, rfl => h

theorem step (x : Option α) : Mild (liftM x) := by
  cases x with
  | none => exact nofun
  | some a => exact nofun

theorem checked : ∀ x : Option Int, Mild (Stepwise.checked x)
  | some n => .pure n
  | none => .throw rfl

theorem bind {x : Steps α} {f : α → Steps β} (h : Mild x) (hf : ∀ a, Mild (f a)) :
    Mild (x >>= f) := by
  rcases hx : x.run with _ | (e | a)
  · have : (x >>= f).run = none := by rw [ExceptT.run_bind, hx]; rfl
    intro e he
    rw [this] at he
    exact nomatch he
  · have : (x >>= f).run = some (.error e) := by rw [ExceptT.run_bind, hx]; rfl
    intro e' he
    rw [this] at he
    cases he
    exact h e hx
  · have : (x >>= f).run = (f a).run := by rw [ExceptT.run_bind, hx]; rfl
    intro e he
    rw [this] at he
    exact hf a e he

theorem floorQuotient (a b : Int) : Mild (Stepwise.floorQuotient a b) := by
  unfold Stepwise.floorQuotient
  split
  · exact .throw rfl
  refine (checked _).bind fun q => (step _).bind fun r => ?_
  split
  · exact .step _
  · exact .pure _

theorem floorRemainder (a b : Int) : Mild (Stepwise.floorRemainder a b) := by
  unfold Stepwise.floorRemainder
  split
  · exact .throw rfl
  dsimp only
  split
  · exact .step _
  · exact .pure _

theorem wholePower (a b : Int) : Mild (Stepwise.wholePower a b) := by
  unfold Stepwise.wholePower
  split
  · exact .pure _
  split
  · exact (step _).bind fun _ => .pure _
  split
  · exact .checked _
  · exact .throw rfl

theorem shiftLeft (a b : Int) : Mild (Stepwise.shiftLeft a b) := by
  unfold Stepwise.shiftLeft
  split
  · exact .throw rfl
  split
  · exact .pure _
  split
  · exact .throw rfl
  refine (step _).bind fun shifted => (step _).bind fun back => ?_
  split
  · exact .pure _
  · exact .throw rfl

theorem shiftRight (a b : Int) : Mild (Stepwise.shiftRight a b) := by
  unfold Stepwise.shiftRight
  split
  · exact .throw rfl
  split
  · exact .pure _
  · exact .step _

end Mild

/-! ### Both sides -/

variable {σ τ : Type} {C : Coupling σ τ} [hC : C.Lawful] {c : C.Ctx} {w : World}

theorem lift_same {α : Type} {x : Except Fault α} (h : Plain x) :
    C.Sim c w Same (lift x) (lift x) := by
  cases h with
  | ok a => exact .pure rfl
  | error h => exact fail_sim (.plain h)

/-- An operation on integers gives a number, the same on both sides. -/
theorem intOp_sim (op : BinaryOp) (a b : Int) :
    C.Sim c w ValueRel (lift (intOp op a b)) (lift (intOp op a b)) := by
  have whole {x : Steps Int} (h : Mild x) :
      let out := (Value.int <$> x).run.getD (.error (.overflow .integer))
      C.Sim c w ValueRel (lift out) (lift out) := by
    rcases hx : x.run with _ | (f | n)
    · have : (Value.int <$> x).run = none := by rw [ExceptT.run_map, hx]; rfl
      rw [this]
      exact fail_sim (.plain rfl)
    · have : (Value.int <$> x).run = some (.error f) := by rw [ExceptT.run_map, hx]; rfl
      rw [this]
      exact fail_sim (.plain (h f hx))
    · have : (Value.int <$> x).run = some (.ok (.int n)) := by rw [ExceptT.run_map, hx]; rfl
      rw [this]
      exact .pure (.int n)
  unfold intOp intSteps
  cases op with
  | add | sub | mul => exact whole (.checked _)
  | div =>
    dsimp only
    split
    · exact fail_sim (.plain rfl)
    · exact .pure (.float _)
  | floorDiv => exact whole (.floorQuotient a b)
  | mod => exact whole (.floorRemainder a b)
  | pow =>
    dsimp only
    split
    · exact whole (.wholePower a b)
    split
    · exact fail_sim (.plain rfl)
    · exact .pure (.float _)
  | bitAnd | bitOr | bitXor => exact .pure (.int _)
  | shl => exact whole (.shiftLeft a b)
  | shr => exact whole (.shiftRight a b)

end Stepwise
