import Stepwise.Proofs.Syntax
import Stepwise.Trace.Pure

/-!
# Parts of pure expressions

All parts of a pure expression are pure expressions: there is no function among them.
-/

namespace Stepwise.Script

/-- Whether a part is a pure expression. -/
def Phrase.Pure (harmless : String → Bool) : Phrase → Prop
  | .expr e => e.isPure harmless = true
  | _ => False

variable {harmless : String → Bool}

/-- A pure expression reports no line. -/
theorem Phrase.Pure.line? {n : Phrase} (h : n.Pure harmless) : n.line? = none := by
  cases n with
  | expr => rfl
  | _ => cases h

mutual

theorem pure_parts : ∀ {e : Expr}, e.isPure harmless = true → Every (Phrase.Pure harmless) e.parts
  | .none, _ | .bool _, _ | .int _, _ | .float _, _ | .str _, _ | .name _, _ => by
    simp [Expr.parts, Phrase.Pure, Expr.isPure]
  | .fstring fields, h => by
    rw [Expr.parts, every_cons]
    exact ⟨h, pure_fieldParts (by rwa [Expr.isPure] at h)⟩
  | .tuple items, h | .list items, h | .set items, h => by
    rw [Expr.parts, every_cons]
    exact ⟨h, pure_allParts (by rwa [Expr.isPure] at h)⟩
  | .dict pairs, h => by
    rw [Expr.parts, every_cons]
    exact ⟨h, pure_pairParts (by rwa [Expr.isPure] at h)⟩
  | .attribute object name, h | .unary _ object, h => by
    rw [Expr.parts, every_cons]
    exact ⟨h, pure_parts (by rwa [Expr.isPure] at h)⟩
  | .subscript left right, h | .binary _ left right, h | .boolOp _ left right, h => by
    have both := h
    rw [Expr.isPure, Bool.and_eq_true] at both
    rw [Expr.parts, every_cons, every_append]
    exact ⟨h, pure_parts both.1, pure_parts both.2⟩
  | .slice lower upper step, h => by
    have all := h
    rw [Expr.isPure, Bool.and_eq_true, Bool.and_eq_true] at all
    rw [Expr.parts, every_cons, every_append, every_append]
    exact ⟨h, ⟨pure_optionParts all.1.1, pure_optionParts all.1.2⟩, pure_optionParts all.2⟩
  | .compare left rest, h => by
    have both := h
    rw [Expr.isPure, Bool.and_eq_true] at both
    rw [Expr.parts, every_cons, every_append]
    exact ⟨h, pure_parts both.1, pure_restParts both.2⟩
  | .ifElse test body orelse, h => by
    have all := h
    rw [Expr.isPure, Bool.and_eq_true, Bool.and_eq_true] at all
    rw [Expr.parts, every_cons, every_append, every_append]
    exact ⟨h, ⟨pure_parts all.1.1, pure_parts all.1.2⟩, pure_parts all.2⟩
  | .call (.name f) args, h => by
    have both := h
    rw [Expr.isPure, Bool.and_eq_true] at both
    rw [Expr.parts, every_cons, every_append]
    refine ⟨h, ?_, pure_argumentParts both.2⟩
    simp [Expr.parts, Phrase.Pure, Expr.isPure]

theorem pure_fieldParts : ∀ {fields : List FieldPart}, partsPure harmless fields = true →
    Every (Phrase.Pure harmless) (fieldParts fields)
  | [], _ => every_nil
  | .text _ :: fields, h => by
    rw [partsPure] at h
    rw [fieldParts]
    exact pure_fieldParts h
  | .field value _ _ :: fields, h => by
    rw [partsPure, Bool.and_eq_true] at h
    rw [fieldParts, every_append]
    exact ⟨pure_parts h.1, pure_fieldParts h.2⟩

theorem pure_allParts : ∀ {es : List Expr}, allPure harmless es = true →
    Every (Phrase.Pure harmless) (allParts es)
  | [], _ => every_nil
  | _ :: _, h => by
    rw [allPure, Bool.and_eq_true] at h
    rw [allParts, every_append]
    exact ⟨pure_parts h.1, pure_allParts h.2⟩

theorem pure_pairParts : ∀ {ps : List (Expr × Expr)}, pairsPure harmless ps = true →
    Every (Phrase.Pure harmless) (pairParts ps)
  | [], _ => every_nil
  | (_, _) :: _, h => by
    rw [pairsPure, Bool.and_eq_true, Bool.and_eq_true] at h
    rw [pairParts, every_append, every_append]
    exact ⟨⟨pure_parts h.1.1, pure_parts h.1.2⟩, pure_pairParts h.2⟩

theorem pure_optionParts : ∀ {o : Option Expr}, optionPure harmless o = true →
    Every (Phrase.Pure harmless) (optionParts o)
  | none, _ => every_nil
  | some _, h => pure_parts h

theorem pure_restParts : ∀ {rest : List (CompareOp × Expr)}, restPure harmless rest = true →
    Every (Phrase.Pure harmless) (restParts rest)
  | [], _ => every_nil
  | (_, _) :: _, h => by
    rw [restPure, Bool.and_eq_true] at h
    rw [restParts, every_append]
    exact ⟨pure_parts h.1, pure_restParts h.2⟩

theorem pure_argumentParts : ∀ {args : List Argument}, argumentsPure harmless args = true →
    Every (Phrase.Pure harmless) (argumentParts args)
  | [], _ => every_nil
  | .positional _ :: _, h | .keyword _ _ :: _, h | .star _ :: _, h => by
    rw [argumentsPure, Bool.and_eq_true] at h
    rw [argumentParts, every_append]
    exact ⟨pure_parts h.1, pure_argumentParts h.2⟩

end

end Stepwise.Script
