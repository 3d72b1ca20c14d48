import Stepwise.Proofs.Relation.Account

/-!
# Computations of single runs

An account of a run says what each computation leaves behind (`leaves_of_sim`). Some computations
end without an error whatever happens inside of them (`Settles`): events, brackets and inquiries.
-/

namespace Stepwise

open Script Coupling

variable {σ α β : Type}

/-- Whether a computation leaves a machine that satisfies `P`, unless the fuel was too small. -/
inductive Leaves (P : Machine σ → Prop) : EStateM.Result Failure (Machine σ) α → Prop
  | ok {a m} (h : P m) : Leaves P (.ok a m)
  | error {e m} (h : P m) : Leaves P (.error (.error e) m)
  | outOfFuel {m} : Leaves P (.error .outOfFuel m)

theorem Leaves.mono {P Q : Machine σ → Prop} {r : EStateM.Result Failure (Machine σ) α}
    (h : Leaves P r) (hPQ : ∀ m, P m → Q m) : Leaves Q r := by
  cases h with
  | ok h => exact .ok (hPQ _ h)
  | error h => exact .error (hPQ _ h)
  | outOfFuel => exact .outOfFuel

theorem Leaves.bind {P Q : Machine σ → Prop} {x : M σ α} {f : α → M σ β} {m : Machine σ}
    (h : Leaves P (x m)) (hf : ∀ {a m}, P m → Leaves Q (f a m)) (hPQ : ∀ m, P m → Q m) :
    Leaves Q ((x >>= f) m) := by
  show Leaves Q (EStateM.bind x f m)
  unfold EStateM.bind
  revert h
  generalize x m = rx
  intro h
  cases h with
  | ok h => exact hf h
  | error h => exact .error (hPQ _ h)
  | outOfFuel => exact .outOfFuel

/-- Whether a computation comes to an end without an error, unless the fuel was too small, and
what it gives and leaves satisfies `P`. -/
inductive Settles (P : α → Machine σ → Prop) : EStateM.Result Failure (Machine σ) α → Prop
  | ok {a m} (h : P a m) : Settles P (.ok a m)
  | outOfFuel {m} : Settles P (.error .outOfFuel m)

namespace Settles

variable {P : α → Machine σ → Prop} {m : Machine σ} {x : M σ α} {f : α → M σ β}

theorem mono {r : EStateM.Result Failure (Machine σ) α} {Q : α → Machine σ → Prop}
    (h : Settles P r) (hPQ : ∀ {a m}, P a m → Q a m) : Settles Q r := by
  cases h with
  | ok h => exact .ok (hPQ h)
  | outOfFuel => exact .outOfFuel

theorem bind {Q : β → Machine σ → Prop} (h : Settles P (x m))
    (hf : ∀ {a m}, P a m → Settles Q (f a m)) : Settles Q ((x >>= f) m) := by
  show Settles Q (EStateM.bind x f m)
  unfold EStateM.bind
  revert h
  generalize x m = rx
  intro h
  cases h with
  | ok h => exact hf h
  | outOfFuel => exact .outOfFuel

/-- What is done after a computation that settles. -/
theorem leaves {Q : Machine σ → Prop} (h : Settles P (x m))
    (hf : ∀ {a m}, P a m → Leaves Q (f a m)) : Leaves Q ((x >>= f) m) := by
  show Leaves Q (EStateM.bind x f m)
  unfold EStateM.bind
  revert h
  generalize x m = rx
  intro h
  cases h with
  | ok h => exact hf h
  | outOfFuel => exact .outOfFuel

theorem toLeaves {Q : Machine σ → Prop} {r : EStateM.Result Failure (Machine σ) α}
    (h : Settles (fun _ => Q) r) : Leaves Q r := by
  cases h with
  | ok h => exact .ok h
  | outOfFuel => exact .outOfFuel

end Settles

/-- An attempt settles. -/
theorem Leaves.attempt {P : Machine σ → Prop} {x : M σ α} {m : Machine σ} (h : Leaves P (x m)) :
    Settles (fun _ => P) (attempt x m) := by
  unfold Stepwise.attempt
  revert h
  generalize x m = rx
  intro h
  cases h with
  | ok h => exact .ok h
  | error h => exact .ok h
  | outOfFuel => exact .outOfFuel

instance (o : Outcome) : Decidable (o = .outOfFuel) :=
  match o with
  | .outOfFuel => isTrue rfl
  | .finished | .failed _ => isFalse nofun

/-- What a run leaves at its end. -/
theorem Leaves.outcome {P : Machine σ → Prop} {x : M σ α} {m : Machine σ} (h : Leaves P (x m)) :
    (outcome x m).1 = .outOfFuel ∨ P (outcome x m).2 := by
  unfold Stepwise.outcome
  revert h
  generalize x m = rx
  intro h
  cases h with
  | ok h => exact .inr h
  | error h => exact .inr h
  | outOfFuel => exact .inl rfl

namespace Account

variable {T : Account σ} {c : T.Ctx} {A : Rel α α} {x : M σ α}

/-- What fits a machine before a computation fits what it leaves. -/
theorem leaves_of_sim {m : Machine σ} (h : T.coupling.Sim c (World.diagonal T.known) A x x)
    (hk : m.heap.Knows T.known) (hf : T.Fits c m) :
    Leaves (fun m' => m'.heap.Knows T.known ∧ T.Fits c m') (x m) := by
  have inside := h m m ⟨rfl, rfl, hk, hf⟩
  revert inside
  generalize x m = rx
  intro inside
  cases inside with
  | left h | right h => exact h.elim
  | stop _ => exact .outOfFuel
  | lost hl => exact hl.elim
  | ok _ _ hm => exact .ok ⟨hm.knows, hm.fits⟩
  | error _ _ hm => exact .error ⟨hm.knows, hm.fits⟩

/-- A computation that leaves what fits, coupled with itself. -/
theorem sim_of_leaves [Diagonal A] {w : World}
    (h : ∀ m, m.heap.Knows T.known → T.Fits c m →
      Leaves (fun m' => m'.heap.Knows T.known ∧ T.Fits c m') (x m)) :
    T.coupling.Sim c w A x x := by
  rintro m _ ⟨rfl, rfl, hk, hf⟩
  have hx := h m hk hf
  revert hx
  generalize x m = rx
  intro hx
  cases hx with
  | ok h => exact .ok le_rfl (Diagonal.refl _) ⟨rfl, rfl, h.1, h.2⟩
  | error h => exact .error le_rfl (Diagonal.refl _) ⟨rfl, rfl, h.1, h.2⟩
  | outOfFuel => exact .stop trivial

end Account

end Stepwise
