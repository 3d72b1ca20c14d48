import Mathlib.Logic.Relation
import Stepwise.Proofs.Position
import Stepwise.Script.Parse.Stmt

/-!
# Readers go on

A reader of trees only goes on in the list of tokens (`Parse.Goes`), and a reader of expressions
reads at least the token that it begins at, which is part of the text (`Parse.Eats`). Both are shown
from the parts of each reader; what readers for the inner expressions do is assumed there, and the
budget ties the knot (`exprAt_eats`).
-/

namespace Stepwise.Script

open Relation

variable {α β : Type}

/-- Whether a cursor comes to another one by reading tokens. -/
def Cursor.Onward : Cursor → Cursor → Prop := ReflTransGen fun c c' => c.next = c'

namespace Cursor.Onward

variable {c c' c'' : Cursor}

theorem refl (c : Cursor) : c.Onward c := ReflTransGen.refl

theorem next (c : Cursor) : c.Onward c.next := ReflTransGen.single rfl

theorem trans (h : c.Onward c') (h' : c'.Onward c'') : c.Onward c'' := ReflTransGen.trans h h'

end Cursor.Onward

namespace Parse

/-- Whether all that a reader comes to from `c` satisfies `Q`. -/
def Yields (p : Parse α) (c : Cursor) (Q : α → Cursor → Prop) : Prop :=
  ∀ a c', p.run c = .ok (a, c') → Q a c'

namespace Yields

variable {p : Parse α} {f : α → Parse β} {c : Cursor} {a : α} {Q R : α → Cursor → Prop}
  {S : β → Cursor → Prop}

theorem pure (h : Q a c) : Yields (Pure.pure a) c Q := by
  intro b c' eq
  cases eq
  exact h

theorem bind (hp : Yields p c R) (hf : ∀ a c', R a c' → Yields (f a) c' S) :
    Yields (p >>= f) c S := by
  intro b c' eq
  rw [StateT.run_bind] at eq
  obtain ⟨⟨a, c₁⟩, first, next⟩ := bind_eq_ok.1 eq
  exact hf a c₁ (hp a c₁ first) b c' next

theorem imp (h : Yields p c R) (weaker : ∀ a c', R a c' → Q a c') : Yields p c Q :=
  fun a c' eq => weaker a c' (h a c' eq)

theorem and (h : Yields p c Q) (h' : Yields p c R) : Yields p c fun a c' => Q a c' ∧ R a c' :=
  fun a c' eq => ⟨h a c' eq, h' a c' eq⟩

theorem ite {b : Prop} [Decidable b] {q : Parse α} (yes : b → Yields p c Q)
    (no : ¬b → Yields q c Q) : Yields (if b then p else q) c Q := by
  split
  · exact yes ‹_›
  · exact no ‹_›

theorem get_bind {f : Cursor → Parse β} (h : Yields (f c) c S) : Yields (get >>= f) c S := h

theorem failAt {pos : Pos} {e : ParseProblem} : Yields (Parse.failAt pos e : Parse α) c Q := by
  rintro a c' ⟨⟩

theorem fail {e : ParseProblem} : Yields (Parse.fail e : Parse α) c Q := by
  rintro a c' ⟨⟩

theorem peek_bind {f : TokenKind → Parse β} (h : Yields (f c.token.kind) c S) :
    Yields (peek >>= f) c S := h

theorem pos_bind {f : Pos → Parse β} (h : Yields (f c.token.pos) c S) : Yields (pos >>= f) c S := h

theorem ahead_bind {q : TokenKind → Bool} {f : Bool → Parse β}
    (h : Yields (f (q c.token.kind)) c S) : Yields (ahead q >>= f) c S := h

theorem advance_bind {f : Unit → Parse β} (h : Yields (f ()) c.next S) :
    Yields (advance >>= f) c S := h

theorem acceptIf_bind {q : TokenKind → Bool} {f : Bool → Parse β}
    (yes : q c.token.kind = true → Yields (f true) c.next S)
    (no : q c.token.kind = false → Yields (f false) c S) : Yields (acceptIf q >>= f) c S := by
  rw [acceptIf, bind_assoc]
  refine ahead_bind ?_
  cases h : q c.token.kind with
  | true => exact yes h
  | false => exact no h

theorem expectIf_bind {q : TokenKind → Bool} {what : String} {f : Unit → Parse β}
    (h : q c.token.kind = true → Yields (f ()) c.next S) : Yields (expectIf q what >>= f) c S := by
  rw [expectIf, bind_assoc]
  refine acceptIf_bind h fun _ => ?_
  rintro a c' ⟨⟩

end Yields

/-! ### Readers of single tokens and of lists -/

/-- Whether a reader only goes on. -/
class Goes (p : Parse α) : Prop where
  onward : ∀ c, Yields p c fun _ c' => c.Onward c'

section

variable {p q : Parse α} {f : α → Parse β}

instance (a : α) : Goes (pure a : Parse α) := ⟨fun c => .pure (.refl c)⟩

theorem Goes.bind (hp : Goes p) (hf : ∀ a, Goes (f a)) : Goes (p >>= f) := ⟨fun c =>
  (hp.onward c).bind fun a c₁ h => ((hf a).onward c₁).imp fun _ _ => h.trans⟩

instance [hp : Goes p] [hf : ∀ a, Goes (f a)] : Goes (p >>= f) := hp.bind hf

instance {g : α → β} [Goes p] : Goes (g <$> p) := by
  rw [← bind_pure_comp]
  infer_instance

instance {b : Prop} [Decidable b] [hp : Goes p] [hq : Goes q] : Goes (if b then p else q) := by
  split
  · exact hp
  · exact hq

instance : Goes get := ⟨fun c => Yields.get_bind (f := Pure.pure) (.pure (.refl c))⟩

instance {pos : Pos} {e : ParseProblem} : Goes (failAt pos e : Parse α) := ⟨fun _ => .failAt⟩

instance {e : ParseProblem} : Goes (fail e : Parse α) := ⟨fun _ => .fail⟩

instance : Goes advance := ⟨fun c => by
  rintro _ _ ⟨⟩
  exact .next c⟩

instance : Goes pos := by
  unfold pos
  infer_instance

instance : Goes peek := by
  unfold peek
  infer_instance

instance {q : TokenKind → Bool} : Goes (ahead q) := by
  unfold ahead
  infer_instance

instance {m : Punct} : Goes (sees m) := by
  unfold sees
  infer_instance

instance {k : Keyword} : Goes (seesWord k) := by
  unfold seesWord
  infer_instance

instance {q : TokenKind → Bool} : Goes (acceptIf q) := by
  unfold acceptIf
  infer_instance

instance {m : Punct} : Goes (accept m) := by
  unfold accept
  infer_instance

instance {k : Keyword} : Goes (acceptWord k) := by
  unfold acceptWord
  infer_instance

instance {q : TokenKind → Bool} {what : String} : Goes (expectIf q what) := by
  unfold expectIf
  infer_instance

instance {m : Punct} {what : String} : Goes (expect m what) := by
  unfold expect
  infer_instance

instance {k : Keyword} {what : String} : Goes (expectWord k what) := by
  unfold expectWord
  infer_instance

instance : Goes identifier := by
  unfold identifier
  refine .bind inferInstance fun k => ?_
  split <;> infer_instance

instance goes_skipNewlines (fuel : Nat) : Goes (skipNewlines fuel) := by
  induction fuel with
  | zero =>
    unfold skipNewlines
    infer_instance
  | succ fuel ih =>
    unfold skipNewlines
    infer_instance

instance goes_moreItems {item : Parse α} {ends : Parse Bool} [Goes item] [Goes ends] (fuel : Nat) :
    Goes (moreItems item ends fuel) := by
  induction fuel with
  | zero =>
    unfold moreItems
    infer_instance
  | succ fuel ih =>
    unfold moreItems
    infer_instance

end

/-- What is read first only goes on. -/
theorem Yields.goes_bind {p : Parse α} [hp : Goes p] {f : α → Parse β} {c : Cursor}
    {S : β → Cursor → Prop} (hf : ∀ a c', c.Onward c' → Yields (f a) c' S) :
    Yields (p >>= f) c S :=
  (hp.onward c).bind hf

/-! ### Parts of expressions -/

section

variable {budget : Nat} {self : Level → Parse Expr} [∀ l, Goes (self l)]

-- a reader has more parts than instances are sought for by default
set_option synthInstance.maxSize 2048

instance : Goes (expressionList budget self) := by
  unfold expressionList
  infer_instance

instance : Goes (targetList budget self) := by
  unfold targetList
  infer_instance

instance goes_conditions (fuel : Nat) : Goes (conditions self fuel) := by
  induction fuel with
  | zero =>
    unfold conditions
    infer_instance
  | succ fuel ih =>
    unfold conditions
    infer_instance

instance goes_clauses (fuel : Nat) : Goes (clauses budget self fuel) := by
  induction fuel with
  | zero =>
    unfold clauses
    infer_instance
  | succ fuel ih =>
    unfold clauses
    infer_instance

instance {annotated : Bool} {ps : Params} : Goes (namedParam self annotated ps) := by
  unfold namedParam
  dsimp only
  infer_instance

instance {annotated : Bool} {ps : Params} : Goes (parameter self annotated ps) := by
  unfold parameter
  repeat' first | infer_instance | refine .bind inferInstance fun _ => ?_ | split

instance goes_parameters {closing : Punct} {annotated : Bool} (fuel : Nat) {ps : Params} :
    Goes (parameters self closing annotated fuel ps) := by
  induction fuel generalizing ps with
  | zero =>
    unfold parameters
    infer_instance
  | succ fuel ih =>
    unfold parameters
    infer_instance

instance : Goes (lambda budget self) := by
  unfold lambda
  infer_instance

instance : Goes (argument budget self) := by
  unfold argument
  dsimp only
  repeat' first | infer_instance | refine .bind inferInstance fun _ => ?_ | split

instance goes_arguments (fuel : Nat) : Goes (arguments budget self fuel) := by
  induction fuel with
  | zero =>
    unfold arguments
    infer_instance
  | succ fuel ih =>
    unfold arguments
    infer_instance

instance : Goes (sliceBound self) := by
  unfold sliceBound
  infer_instance

instance : Goes (sliceItem self) := by
  unfold sliceItem
  refine .bind inferInstance fun colon => ?_
  cases colon <;>
  · refine .bind inferInstance fun lower => ?_
    cases lower <;> infer_instance

instance : Goes (subscript budget self) := by
  unfold subscript
  infer_instance

instance : Goes (parenthesized budget self) := by
  unfold parenthesized
  infer_instance

instance : Goes (listDisplay budget self) := by
  unfold listDisplay
  infer_instance

instance : Goes (dictItem self) := by
  unfold dictItem
  infer_instance

instance : Goes (braceDisplay budget self) := by
  unfold braceDisplay
  infer_instance

omit [∀ l, Goes (self l)] in
instance goes_strings (fuel : Nat) {formatted : Bool} {parts : List FieldPart} :
    Goes (strings budget self formatted parts fuel) := by
  induction fuel generalizing formatted parts with
  | zero =>
    unfold strings
    infer_instance
  | succ fuel ih =>
    unfold strings
    repeat' first | infer_instance | refine .bind inferInstance fun _ => ?_ | split

instance goes_trailers (fuel : Nat) {e : Expr} : Goes (trailers budget self fuel e) := by
  induction fuel generalizing e with
  | zero =>
    unfold trailers
    infer_instance
  | succ fuel ih =>
    unfold trailers
    infer_instance

end

/-! ### Expressions -/

/-- Whether a reader goes over the token ahead at least, and this is part of the text. -/
def Eats (p : Parse α) (c : Cursor) : Prop :=
  Yields p c fun _ c' => c.token.kind.isSolid = true ∧ c.next.Onward c'

theorem Eats.goes {p : Parse α} (h : ∀ c, Eats p c) : Goes p := ⟨fun c =>
  (h c).imp fun _ _ eaten => (Cursor.Onward.next c).trans eaten.2⟩

theorem Eats.bind {p : Parse α} {f : α → Parse β} {c : Cursor} (hp : Eats p c)
    (hf : ∀ a, Goes (f a)) : Eats (p >>= f) c :=
  Yields.bind hp fun a c₁ h => ((hf a).onward c₁).imp fun _ _ on => ⟨h.1, h.2.trans on⟩

/-- A reader that starts with reading a token of the text. -/
theorem Eats.advance {f : Unit → Parse β} {c : Cursor} (solid : c.token.kind.isSolid = true)
    (hf : Goes (f ())) : Eats (advance >>= f) c :=
  Yields.advance_bind ((hf.onward c.next).imp fun _ _ on => ⟨solid, on⟩)

/-- A reader that tries to read a token of the text first. -/
theorem Eats.acceptIf {q : TokenKind → Bool} {f : Bool → Parse β} {c : Cursor}
    (solid : q c.token.kind = true → c.token.kind.isSolid = true) (yes : Goes (f true))
    (no : Eats (f false) c) : Eats (acceptIf q >>= f) c :=
  Yields.acceptIf_bind (fun h => (yes.onward c.next).imp fun _ _ on => ⟨solid h, on⟩) fun _ => no

theorem isSolid_of_isKeyword {k : TokenKind} {w : Keyword} (h : k.isKeyword w = true) :
    k.isSolid = true := by
  cases k <;> first | rfl | cases h

theorem isSolid_of_unaryOp? {k : TokenKind} {op : UnaryOp} (h : unaryOp? k = some op) :
    k.isSolid = true := by
  cases k <;> first | rfl | cases h

section

variable {budget : Nat} {self : Level → Parse Expr} [∀ l, Goes (self l)] (c : Cursor)

set_option synthInstance.maxSize 2048

omit [∀ l, Goes (self l)] in
variable {c} in
theorem strings_eats (h : (∃ s, c.token.kind = .str s) ∨ ∃ raw, c.token.kind = .fstring raw)
    {formatted : Bool} {parts : List FieldPart} : ∀ fuel,
    Eats (strings budget self formatted parts fuel) c
  | 0 => by
    unfold strings
    exact Yields.fail
  | fuel + 1 => by
    unfold strings
    refine Yields.peek_bind ?_
    split
    · next s h => exact Eats.advance (by rw [h]; rfl) inferInstance
    · next raw h =>
      refine Yields.pos_bind (Eats.advance (by rw [h]; rfl) ?_)
      split <;> infer_instance
    · next notStr notFstring =>
      rcases h with ⟨s, h⟩ | ⟨raw, h⟩
      · exact absurd h (notStr s)
      · exact absurd h (notFstring raw)

theorem atom_eats : Eats (atom budget self) c := by
  unfold atom
  refine Yields.peek_bind ?_
  split
  case h_3 s h => exact strings_eats (.inl ⟨s, h⟩) budget
  case h_4 raw h => exact strings_eats (.inr ⟨raw, h⟩) budget
  case h_12 => exact Yields.fail
  all_goals
    next h => exact Eats.advance (by rw [h]; rfl) inferInstance

instance : Goes (atom budget self) := Eats.goes atom_eats

theorem power_eats : Eats (power budget self) c := by
  unfold power
  exact (atom_eats c).bind inferInstance

theorem factor_eats : Eats (factor budget self) c := by
  unfold factor
  refine Yields.peek_bind ?_
  split
  · next op h => exact Eats.advance (isSolid_of_unaryOp? h) inferInstance
  · exact power_eats c

instance : Goes (factor budget self) := Eats.goes factor_eats

instance goes_binaryTail {level : BinaryLevel} {operand : Parse Expr} [Goes operand]
    (fuel : Nat) {left : Expr} : Goes (binaryTail level operand fuel left) := by
  induction fuel generalizing left with
  | zero =>
    unfold binaryTail
    infer_instance
  | succ fuel ih =>
    unfold binaryTail
    refine .bind inferInstance fun k => ?_
    split <;> infer_instance

theorem binary_eats : ∀ (levels : List BinaryLevel) (c : Cursor), Eats (binary budget self levels) c
  | [], c => factor_eats c
  | level :: tighter, c => by
    have : Goes (binary budget self tighter) := Eats.goes (binary_eats tighter)
    exact (binary_eats tighter c).bind inferInstance

instance {levels : List BinaryLevel} : Goes (binary budget self levels) :=
  Eats.goes (binary_eats levels)

instance goes_comparisons (fuel : Nat) : Goes (comparisons budget self fuel) := by
  induction fuel with
  | zero =>
    unfold comparisons
    infer_instance
  | succ fuel ih =>
    unfold comparisons
    repeat' first | infer_instance | refine .bind inferInstance fun _ => ?_ | split

theorem comparison_eats : Eats (comparison budget self) c := by
  unfold comparison
  refine (binary_eats _ c).bind fun left => .bind inferInstance fun rest => ?_
  split <;> infer_instance

instance : Goes (comparison budget self) := Eats.goes comparison_eats

theorem negation_eats : Eats (negation budget self) c := by
  unfold negation
  exact Eats.acceptIf isSolid_of_isKeyword inferInstance (comparison_eats c)

instance : Goes (negation budget self) := Eats.goes negation_eats

instance goes_boolTail {word : Keyword} {op : BoolOp} {operand : Parse Expr} [Goes operand]
    (fuel : Nat) {left : Expr} : Goes (boolTail word op operand fuel left) := by
  induction fuel generalizing left with
  | zero =>
    unfold boolTail
    infer_instance
  | succ fuel ih =>
    unfold boolTail
    infer_instance

theorem conjunction_eats : Eats (conjunction budget self) c := by
  unfold conjunction
  exact (negation_eats c).bind inferInstance

instance : Goes (conjunction budget self) := Eats.goes conjunction_eats

theorem disjunction_eats : Eats (disjunction budget self) c := by
  unfold disjunction
  exact (conjunction_eats c).bind inferInstance

instance : Goes (disjunction budget self) := Eats.goes disjunction_eats

variable {c} in
theorem lambda_eats (h : c.token.kind.isKeyword .lambda = true) : Eats (lambda budget self) c := by
  unfold lambda
  exact Yields.pos_bind (Eats.advance (isSolid_of_isKeyword h) inferInstance)

theorem expression_eats : Eats (expression budget self) c := by
  unfold expression
  refine Yields.ahead_bind ?_
  split
  · next h => exact lambda_eats h
  · exact (disjunction_eats c).bind inferInstance

theorem level_eats (l : Level) : Eats (level budget self l) c := by
  cases l with
  | expression => exact expression_eats c
  | disjunction => exact disjunction_eats c
  | negation => exact negation_eats c
  | bitOr => exact binary_eats _ c
  | factor => exact factor_eats c

theorem expressionList_eats (first : Eats (self .expression) c) :
    Eats (expressionList budget self) c := by
  unfold expressionList
  exact first.bind inferInstance

end

/-- Every reader of expressions goes over a token of the text. -/
theorem exprAt_eats : ∀ (budget : Nat) (l : Level) (c : Cursor), Eats (exprAt budget l) c
  | 0, _, _ => Yields.fail
  | budget + 1, l, c => by
    have (l : Level) : Goes (exprAt budget l) := Eats.goes (exprAt_eats budget l)
    exact level_eats c l

instance {budget : Nat} {l : Level} : Goes (exprAt budget l) := Eats.goes (exprAt_eats budget l)

/-! ### Simple statements -/

section

variable {budget : Nat}

instance : Goes (expr budget) := by
  unfold expr
  infer_instance

instance : Goes (operand budget) := by
  unfold operand
  infer_instance

theorem exprList_eats (c : Cursor) : Eats (exprList budget) c :=
  expressionList_eats c (exprAt_eats budget .expression c)

instance : Goes (exprList budget) := Eats.goes exprList_eats

instance goes_moreNames (fuel : Nat) : Goes (moreNames fuel) := by
  induction fuel with
  | zero =>
    unfold moreNames
    infer_instance
  | succ fuel ih =>
    unfold moreNames
    infer_instance

instance : Goes (nameList budget) := by
  unfold nameList
  infer_instance

instance goes_dottedTail (fuel : Nat) {name : String} : Goes (dottedTail fuel name) := by
  induction fuel generalizing name with
  | zero =>
    unfold dottedTail
    infer_instance
  | succ fuel ih =>
    unfold dottedTail
    infer_instance

instance : Goes (dottedName budget) := by
  unfold dottedName
  infer_instance

instance {name : Parse String} [Goes name] : Goes (importName name) := by
  unfold importName
  infer_instance

instance {name : Parse String} {ends : Parse Bool} [Goes name] [Goes ends] :
    Goes (moreImports budget name ends) := by
  unfold moreImports
  infer_instance

set_option synthInstance.maxSize 2048

instance : Goes (fromImport budget) := by
  unfold fromImport
  dsimp only
  infer_instance

instance goes_moreSides (fuel : Nat) : Goes (moreSides budget fuel) := by
  induction fuel with
  | zero =>
    unfold moreSides
    infer_instance
  | succ fuel ih =>
    unfold moreSides
    infer_instance

instance goes_bases (fuel : Nat) : Goes (bases budget fuel) := by
  induction fuel with
  | zero =>
    unfold bases
    infer_instance
  | succ fuel ih =>
    unfold bases
    infer_instance

theorem expressionStatement_eats (c : Cursor) : Eats (expressionStatement budget) c := by
  unfold expressionStatement
  refine Yields.pos_bind ((exprList_eats c).bind fun first => ?_)
  dsimp only
  repeat' first | infer_instance | refine .bind inferInstance fun _ => ?_ | split

theorem simpleStatement_eats (c : Cursor) : Eats (simpleStatement budget) c := by
  unfold simpleStatement
  refine Yields.peek_bind ?_
  split
  case h_12 => exact expressionStatement_eats c
  all_goals
    next h => exact Eats.advance (by rw [h]; rfl) inferInstance

end

end Parse

end Stepwise.Script
