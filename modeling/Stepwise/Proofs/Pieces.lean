import Stepwise.Proofs.Standing

/-!
# Where expressions are placed

The lambdas that are read of an expression lie on the lines that it is read from, however deep they
stand in it (`Expr.Lies`, `exprAt_reads`). The fields of f-strings are no part of this: they are
read from texts of their own.

## The model

A cursor is behind some pieces of trees (`Cursor.Behind`) if these lie between a line that all the
tokens ahead are below and the line that the cursor remembers. A reader puts its result together of
the pieces that it is behind and of those that it reads itself (`Parse.Reads`), so one rule for each
way to go on leads through all the readers. Only two of them look at a line: that of lambdas and
that of statements, each at the token that it begins with.
-/

namespace Stepwise.Script

/-! ### Trees on lines -/

/-- Whether the lambdas in an expression lie on the lines from `n` to `m`. The value of a lambda lies
on the lines of the one statement in its body, which starts where the lambda does. -/
inductive Expr.Lies : Nat → Nat → Expr → Prop where
  | lambda {n m last : Nat} {fn : FunctionDef} {value : Expr} :
    fn.body = [.mk (.return_ (some value)) fn.pos last] →
    n ≤ fn.pos.line → fn.pos.line ≤ last → last ≤ m → value.Lies fn.pos.line last →
    (∀ x ∈ (Expr.lambda fn).operands, x.Lies n m) → Expr.Lies n m (.lambda fn)
  | other {n m : Nat} {e : Expr} : (∀ fn, e ≠ .lambda fn) → (∀ x ∈ e.operands, x.Lies n m) →
    Expr.Lies n m e

/-- The places that the clauses of a statement, or what it defines, are given. -/
def Action.places : Action → List Pos
  | .functionDef fn => [fn.pos]
  | .classDef cls => [cls.pos]
  | .try_ _ handlers _ _ => handlers.map Handler.pos
  | _ => []

/-- Whether a statement and all the statements in its suites lie on their lines. -/
inductive Stmt.Placed : Stmt → Prop where
  | mk {s : Stmt} : s.line ≤ s.endLine →
    (∀ q ∈ s.action.places, s.line ≤ q.line ∧ q.line ≤ s.endLine) →
    (∀ e ∈ s.action.exprs, e.Lies s.line s.endLine) →
    (∀ body ∈ s.action.suites, ∀ u ∈ body, u.Placed) → s.Placed

theorem Expr.Lies.mono {n m m' : Nat} {e : Expr} (h : e.Lies n m) (le : m ≤ m') : e.Lies n m' := by
  induction h with
  | lambda body start line last value _ _ ih =>
    exact .lambda body start line (last.trans le) value fun x hx => ih x hx le
  | other notLambda _ ih => exact .other notLambda fun x hx => ih x hx le

/-- The statement in the body of a lambda lies on its lines. -/
theorem Expr.Lies.body {n m : Nat} {fn : FunctionDef} (h : (Expr.lambda fn).Lies n m) :
    ∀ u ∈ fn.body, u.Placed ∧ u.pos = fn.pos ∧ u.endLine ≤ m := by
  cases h with
  | other notLambda => exact absurd rfl (notLambda fn)
  | lambda body start line last value =>
    rw [body]
    refine List.forall_mem_singleton.2 ⟨.mk line (by simp [Stmt.action, Action.places]) ?_ ?_, rfl,
      last⟩
    · exact List.forall_mem_singleton.2 value
    · simp [Stmt.action, Action.suites]

theorem Expr.Lies.line {n m : Nat} {fn : FunctionDef} (h : (Expr.lambda fn).Lies n m) :
    n ≤ fn.pos.line ∧ fn.pos.line ≤ m := by
  cases h with
  | other notLambda => exact absurd rfl (notLambda fn)
  | lambda _ start line last => exact ⟨start, line.trans last⟩

theorem Expr.Lies.operands {n m : Nat} {e : Expr} (h : e.Lies n m) :
    ∀ x ∈ e.operands, x.Lies n m := by
  cases h with
  | lambda _ _ _ _ _ defaults => exact defaults
  | other _ operands => exact operands

/-! ### Pieces -/

/-- What trees are put together of. -/
inductive Piece where
  /-- The place of a token. -/
  | place (q : Pos)
  | expr (e : Expr)
  | stmt (s : Stmt)

/-- Whether a piece lies on the lines from `n` to `m`. -/
def Piece.Lies (n m : Nat) : Piece → Prop
  | .place q => n ≤ q.line ∧ q.line ≤ m
  | .expr e => e.Lies n m
  | .stmt s => s.Placed

theorem Piece.Lies.mono {n m m' : Nat} {k : Piece} (h : k.Lies n m) (le : m ≤ m') :
    k.Lies n m' := by
  cases k with
  | place q => exact ⟨h.1, h.2.trans le⟩
  | expr e => exact Expr.Lies.mono h le
  | stmt s => exact h

/-- Data that is put together of pieces. -/
class Pieced (α : Type) where
  /-- The pieces. -/
  pieces : α → List Piece

open Pieced

section

variable {α β : Type}

instance : Pieced Expr := ⟨fun e => [.expr e]⟩

instance : Pieced Stmt := ⟨fun s => [.stmt s]⟩

instance [Pieced α] : Pieced (Option α) := ⟨fun o => o.toList.flatMap pieces⟩

instance [Pieced α] : Pieced (List α) := ⟨fun xs => xs.flatMap pieces⟩

instance [Pieced α] [Pieced β] : Pieced (α × β) := ⟨fun x => pieces x.1 ++ pieces x.2⟩

/-- An operator is no piece. -/
instance : Pieced CompareOp := ⟨fun _ => []⟩

instance : Pieced Clause := ⟨fun c => c.exprs.map .expr⟩

instance : Pieced Argument := ⟨fun a => [.expr a.value]⟩

instance : Pieced Parse.Params := ⟨fun ps => (ps.params.filterMap Param.default).map .expr⟩

instance : Pieced Handler := ⟨fun h => .place h.pos :: (pieces h.filter ++ pieces h.body)⟩

instance : Pieced Action :=
  ⟨fun a => a.places.map .place ++ a.exprs.map .expr ++ pieces a.suites⟩

@[simp, grind =] theorem pieces_expr (e : Expr) : pieces e = [.expr e] := rfl

@[simp, grind =] theorem pieces_exprs (es : List Expr) : pieces es = es.map .expr :=
  List.flatMap_pure_eq_map ..

@[simp, grind =] theorem pieces_none [Pieced α] : pieces (none : Option α) = [] := rfl

@[simp, grind =] theorem pieces_some [Pieced α] (a : α) : pieces (some a) = pieces a :=
  List.append_nil _

@[simp, grind =] theorem pieces_nil [Pieced α] : pieces ([] : List α) = [] := rfl

@[simp, grind =] theorem pieces_cons [Pieced α] (a : α) (more : List α) :
    pieces (a :: more) = pieces a ++ pieces more := rfl

@[simp, grind =] theorem pieces_pair [Pieced α] [Pieced β] (a : α) (b : β) :
    pieces (a, b) = pieces a ++ pieces b := rfl

@[simp, grind =] theorem pieces_clause (target items : Expr) (conditions : List Expr) :
    pieces (Clause.mk target items conditions) =
      .expr target :: .expr items :: conditions.map .expr := rfl

@[simp, grind =] theorem pieces_clauses (clauses : List Clause) :
    pieces clauses = (clauses.flatMap Clause.exprs).map .expr :=
  (List.map_flatMap ..).symm

@[simp, grind =] theorem pieces_arguments (args : List Argument) :
    pieces args = (args.map Argument.value).map .expr := by
  rw [List.map_map]
  exact List.flatMap_pure_eq_map ..

@[simp, grind =] theorem pieces_pairs (pairs : List (Expr × Expr)) :
    pieces pairs = (pairs.flatMap fun pair => [pair.1, pair.2]).map .expr := by
  rw [List.map_flatMap]
  rfl

@[simp, grind =] theorem pieces_rest (rest : List (CompareOp × Expr)) :
    pieces rest = (rest.map (·.2)).map .expr := by
  rw [List.map_map]
  exact List.flatMap_pure_eq_map ..

@[simp, grind =] theorem pieces_params (ps : Parse.Params) :
    pieces ps = (ps.params.filterMap Param.default).map .expr := rfl

@[simp, grind =] theorem pieces_stmt (s : Stmt) : pieces s = [.stmt s] := rfl

@[simp, grind =] theorem pieces_stmts (ss : List Stmt) : pieces ss = ss.map .stmt :=
  List.flatMap_pure_eq_map ..

@[simp, grind =] theorem pieces_handler (h : Handler) :
    pieces h = .place h.pos :: (pieces h.filter ++ h.body.map .stmt) := by
  rw [← pieces_stmts]
  rfl

@[simp, grind =] theorem pieces_argument (a : Argument) : pieces a = [.expr a.value] := rfl

end

/-! ### Cursors behind pieces -/

variable {α β : Type} {n : Nat} {known : List Piece} {c c' : Cursor}

/-- What is known of a cursor behind some pieces, from the line `n` on. -/
structure Cursor.Behind (n : Nat) (known : List Piece) (c : Cursor) : Prop where
  fits : ∃ top, c.Fits top
  ahead : ∀ l ∈ c.lines, n ≤ l
  known : ∀ k ∈ known, k.Lies n c.lastLine

namespace Cursor.Behind

theorem onward (h : c.Behind n known) (on : c.Onward c') : c'.Behind n known := by
  obtain ⟨⟨top, fits⟩, ahead, known⟩ := h
  obtain ⟨fits', le⟩ := fits.onward on
  exact ⟨⟨top, fits'⟩, fun l hl => ahead l (on.lines hl), fun k hk => (known k hk).mono le⟩

theorem imp {known' : List Piece} (h : c.Behind n known)
    (made : ∀ k ∈ known', k.Lies n c.lastLine) : c.Behind n known' :=
  ⟨h.fits, h.ahead, made⟩

theorem append {known' : List Piece} (h' : c.Behind n known') (h : c.Behind n known) :
    c.Behind n (known' ++ known) :=
  h.imp (List.forall_mem_append.2 ⟨h'.known, h.known⟩)

/-- The place of a token of the text is a piece, once the token is read. -/
theorem place (h : c.Behind n known) (solid : c.token.kind.isSolid = true) :
    c.next.Behind n (.place c.token.pos :: known) := by
  obtain ⟨top, fits⟩ := h.fits
  have next := h.onward (.next c)
  refine next.imp (List.forall_mem_cons.2 ⟨⟨?_, fits.token_le solid⟩, next.known⟩)
  exact h.ahead _ (token_mem_lines solid)

/-- From a token of the text on, all that is ahead is below the line of the token. -/
theorem restart (h : c.Behind n known) (solid : c.token.kind.isSolid = true) :
    c.Behind c.token.pos.line [] := by
  obtain ⟨top, fits⟩ := h.fits
  refine ⟨h.fits, fun l hl => ?_, nofun⟩
  obtain ⟨t, ht, -, rfl⟩ := mem_lines.1 hl
  obtain ⟨u, us, _⟩ := c
  obtain ⟨down, -⟩ := fits
  cases down with
  | ends eof => simp [TokenKind.isSolid_eq, eof] at solid
  | layout layout => simp [TokenKind.isSolid_eq, layout] at solid
  | solid _ _ line _ down =>
    rcases List.mem_cons.1 ht with rfl | ht
    · exact le_rfl
    · exact line.trans (down.line_le t ht)

end Cursor.Behind

/-! ### Readers of pieces -/

/-- Whether an expression is a lambda itself. -/
def Expr.isLambda : Expr → Bool
  | .lambda _ => true
  | _ => false

/-- Whether a piece is among those that are known, or an expression over them. -/
inductive Piece.Made (known : List Piece) : Piece → Prop where
  | known {k : Piece} : k ∈ known → Piece.Made known k
  | node {e : Expr} : e.isLambda = false → (∀ x ∈ e.operands, .expr x ∈ known) →
    Piece.Made known (.expr e)

theorem Cursor.Behind.made (h : c.Behind n known) {k : Piece} (hk : k.Made known) :
    k.Lies n c.lastLine := by
  cases hk with
  | known hk => exact h.known k hk
  | node notLambda operands =>
    refine Expr.Lies.other (fun fn eq => ?_) fun x hx => h.known _ (operands x hx)
    rw [eq] at notLambda
    cases notLambda

namespace Parse

/-- Whether a reader that is behind the pieces `known` adds those of its result. -/
class Reads [Pieced α] (known : List Piece) (p : Parse α) : Prop where
  reads : ∀ n c, c.Behind n known →
    Yields p c fun a c' => c.Onward c' ∧ c'.Behind n (pieces a ++ known)

namespace Reads

variable [Pieced α] [Pieced β] {p q : Parse α} {f : α → Parse β} {a : α}

theorem made (h : ∀ k ∈ pieces a, k.Made known) : Reads known (pure a : Parse α) :=
  ⟨fun _ c behind => .pure ⟨.refl c,
    .append (behind.imp fun k hk => behind.made (h k hk)) behind⟩⟩

/-- A result of which all pieces are known. -/
theorem gathered (h : ∀ k ∈ pieces a, k ∈ known) : Reads known (pure a : Parse α) :=
  made fun k hk => .known (h k hk)

/-- An expression of which all operands are known. -/
theorem node {e : Expr} (notLambda : e.isLambda = false)
    (operands : ∀ x ∈ e.operands, .expr x ∈ known) : Reads known (pure e : Parse Expr) :=
  made (List.forall_mem_singleton.2 (.node notLambda operands))

/-- What is read is a piece of what is read later. -/
theorem bind (hp : Reads known p) (hf : ∀ a, Reads (pieces a ++ known) (f a)) :
    Reads known (p >>= f) := ⟨fun n c behind => by
  refine (hp.reads n c behind).bind fun a c₁ ⟨on₁, behind₁⟩ => ?_
  refine ((hf a).reads n c₁ behind₁).imp fun b c₂ ⟨on₂, behind₂⟩ => ⟨on₁.trans on₂, ?_⟩
  have all := List.forall_mem_append.1 behind₂.known
  exact .append (behind₂.imp all.1) ((behind₁.onward on₂).imp fun k hk =>
    all.2 k (List.mem_append_right _ hk))⟩

/-- What is read first is no piece. -/
theorem skip {α : Type} {p : Parse α} {f : α → Parse β} [hp : Goes p]
    (hf : ∀ a, Reads known (f a)) : Reads known (p >>= f) := ⟨fun n c behind =>
  (hp.onward c).bind fun a c₁ on₁ => ((hf a).reads n c₁ (behind.onward on₁)).imp
    fun _ _ ⟨on₂, behind₂⟩ => ⟨on₁.trans on₂, behind₂⟩⟩

/-- An expression over known ones is known. -/
theorem add {e : Expr} (h : Reads (.expr e :: known) p) (notLambda : e.isLambda = false)
    (operands : ∀ x ∈ e.operands, .expr x ∈ known) : Reads known p := ⟨fun n c behind => by
  have made := behind.made (.node notLambda operands)
  refine (h.reads n c (behind.imp (List.forall_mem_cons.2 ⟨made, behind.known⟩))).imp ?_
  rintro a c' ⟨on, behind'⟩
  refine ⟨on, behind'.imp fun k hk => behind'.known k ?_⟩
  simp only [List.mem_append, List.mem_cons] at hk ⊢
  exact hk.imp_right .inr⟩

theorem ite {b : Prop} [Decidable b] (hp : Reads known p) (hq : Reads known q) :
    Reads known (if b then p else q) := by
  split
  · exact hp
  · exact hq

theorem some (hp : Reads known p) : Reads known (Option.some <$> p) := by
  rw [← bind_pure_comp]
  exact hp.bind fun a => gathered (by grind)

theorem none : Reads known (pure Option.none : Parse (Option α)) := gathered (by simp)

theorem nil : Reads known (pure [] : Parse (List α)) := gathered (by simp)

theorem cons {more : List α} : Reads (pieces more ++ (pieces a ++ known)) (pure (a :: more)) :=
  gathered (by grind)

instance {e : ParseProblem} : Reads known (fail e : Parse α) := ⟨fun _ _ _ => .fail⟩

instance {pos : Pos} {e : ParseProblem} : Reads known (failAt pos e : Parse α) :=
  ⟨fun _ _ _ => .failAt⟩

/-- Items with commas between them. -/
theorem moreItems {item : Parse α} {ends : Parse Bool} [Goes ends]
    (hi : ∀ known, Reads known item) : ∀ (fuel : Nat) (known : List Piece),
    Reads known (Parse.moreItems item ends fuel)
  | 0, _ => by
    unfold Parse.moreItems
    infer_instance
  | fuel + 1, known => by
    unfold Parse.moreItems
    refine .skip fun comma => .ite (.skip fun ended => .ite .nil ?_) .nil
    exact (hi _).bind fun x => (Reads.moreItems hi fuel _).bind fun more => .cons

end Reads

/-! ### Parts of expressions -/

section

variable {budget : Nat} {self : Level → Parse Expr} (hs : ∀ l known, Reads known (self l))

include hs

theorem expressionList_reads : Reads known (expressionList budget self) := by
  unfold expressionList
  refine (hs _ _).bind fun first => .skip fun comma => .ite ?_ (.gathered (by simp))
  refine (Reads.moreItems (hs _) _ _).bind fun more => .node rfl ?_
  grind [Expr.operands]

theorem targetList_reads : Reads known (targetList budget self) := by
  unfold targetList
  dsimp only
  refine .skip fun start => (hs _ _).bind fun first => .skip fun comma => ?_
  simp only [pure_bind]
  refine .ite ?_ (.ite (.gathered (by simp)) inferInstance)
  refine (Reads.moreItems (hs _) _ _).bind fun more => .ite (.node rfl ?_) inferInstance
  grind [Expr.operands]

theorem conditions_reads : ∀ (fuel : Nat) (known : List Piece), Reads known (conditions self fuel)
  | 0, _ => by
    unfold conditions
    infer_instance
  | fuel + 1, known => by
    unfold conditions
    refine .skip fun word => .ite ?_ .nil
    exact (hs _ _).bind fun e => (conditions_reads fuel _).bind fun more => .cons

theorem clauses_reads : ∀ (fuel : Nat) (known : List Piece), Reads known (clauses budget self fuel)
  | 0, _ => by
    unfold clauses
    infer_instance
  | fuel + 1, known => by
    unfold clauses
    refine .skip fun word => .ite ?_ .nil
    refine (targetList_reads hs).bind fun target => .skip fun _ => (hs _ _).bind fun items => ?_
    refine (conditions_reads hs _ _).bind fun conds => (clauses_reads fuel _).bind fun more => ?_
    exact .gathered (by grind)

theorem namedParam_reads {annotated : Bool} {ps : Params} (hps : ∀ k ∈ pieces ps, k ∈ known) :
    Reads known (namedParam self annotated ps) := by
  unfold namedParam
  refine .skip fun start => .skip fun name => ?_
  extract_lets finish rest
  have finish_reads {known : List Piece} (default : Option Expr) (hps : ∀ k ∈ pieces ps, k ∈ known)
      (hd : ∀ k ∈ pieces default, k ∈ known) : Reads known (finish default) := by
    have made : Reads known (pure { ps with params := ps.params ++ [Param.mk name default] }) := by
      refine .gathered fun k hk => ?_
      cases default <;> grind [Param.default]
    exact .ite (.skip fun _ => .ite (.skip fun _ => made) made) (.ite (.skip fun _ => made) made)
  have rest_reads {known : List Piece} (hps : ∀ k ∈ pieces ps, k ∈ known) :
      Reads known (rest ()) := by
    refine .skip fun eq => .ite ((hs _ _).some.bind fun default => ?_) ?_
    · exact finish_reads default (by grind) (by grind)
    · exact finish_reads none hps (List.forall_mem_nil _)
  refine .ite (.skip fun colon => .ite ((hs _ _).bind fun e => ?_) ?_) ?_
  · exact rest_reads (by grind)
  · exact rest_reads hps
  · exact rest_reads hps

theorem parameter_reads {annotated : Bool} {ps : Params} (hps : ∀ k ∈ pieces ps, k ∈ known) :
    Reads known (parameter self annotated ps) := by
  unfold parameter
  refine .skip fun stars => .ite (.skip fun name => .gathered hps) ?_
  refine .skip fun star => .ite (.skip fun kind => ?_) (namedParam_reads hs hps)
  split
  · exact .skip fun name => .gathered hps
  · exact .gathered hps

theorem parameters_reads {closing : Punct} {annotated : Bool} : ∀ (fuel : Nat)
    (known : List Piece) {ps : Params}, (∀ k ∈ pieces ps, k ∈ known) →
    Reads known (parameters self closing annotated fuel ps)
  | 0, _, _, _ => by
    unfold parameters
    infer_instance
  | fuel + 1, known, ps, hps => by
    unfold parameters
    refine .skip fun closed => .ite (.gathered hps) ?_
    refine (parameter_reads hs hps).bind fun ps' => .skip fun comma => .ite ?_ ?_
    · exact parameters_reads fuel _ (by grind)
    · exact .gathered (by grind)

/-- A lambda starts at the token that it is read from, and its value ends where it does. -/
theorem lambda_reads (behind : c.Behind n known) (word : c.token.kind.isKeyword .lambda = true) :
    Yields (lambda budget self) c fun a c' => c.Onward c' ∧ c'.Behind n (pieces a ++ known) := by
  have solid := isSolid_of_isKeyword word
  unfold lambda
  refine Yields.pos_bind (Yields.advance_bind ?_)
  have here := behind.onward (.next c)
  have start := ((behind.place solid).known _ (.head _)).1
  -- the value is behind the token `lambda` too, where all that is ahead is below its line
  have inner := (behind.restart solid).place solid
  refine ((parameters_reads hs _ known (by simp)).reads n _ here).bind fun ps c₁ ⟨on₁, behind₁⟩ => ?_
  refine Yields.goes_bind fun _ c₂ on₂ => ?_
  have between := on₁.trans on₂
  refine ((hs _ _).reads _ c₂ (inner.onward between)).bind fun value c₃ ⟨on₃, behind₃⟩ => ?_
  refine Yields.get_bind (.pure ⟨((Cursor.Onward.next c).trans between).trans on₃, ?_⟩)
  have outer := behind₁.onward (on₂.trans on₃)
  have line := (behind₃.known (.place c.token.pos) (by simp)).2
  have placed : Piece.Lies n c₃.lastLine (.expr (.lambda (.mk "<lambda>" ps.params ps.vararg
      ps.kwarg [.mk (.return_ (some value)) c.token.pos c₃.lastLine] c.token.pos))) := by
    refine Expr.Lies.lambda rfl start line le_rfl ?_ fun x hx => ?_
    · exact behind₃.known (.expr value) (by simp)
    · exact outer.known (.expr x) (List.mem_append_left _ (List.mem_map_of_mem hx))
  exact outer.imp (List.forall_mem_cons.2 ⟨placed, fun k hk =>
    outer.known k (List.mem_append_right _ hk)⟩)

theorem argument_reads : Reads known (argument budget self) := by
  unfold argument
  dsimp only
  refine .skip fun star => .ite ((hs _ _).bind fun e => .gathered (by grind [Argument.value])) ?_
  refine .skip fun stars => .ite (.skip fun _ => ?_) ?_
  all_goals
    refine .skip fun kind => .skip fun cursor => ?_
    split
    · refine .skip fun _ => .skip fun _ => (hs _ _).bind fun e => .gathered ?_
      grind [Argument.value]
    · refine (hs _ _).bind fun e => .skip fun word => .ite ?_ (.gathered ?_)
      · refine (clauses_reads hs _ _).bind fun cs => .made ?_
        refine List.forall_mem_singleton.2 (.node (e := .listComp e cs) rfl ?_)
        grind [Expr.operands]
      · grind [Argument.value]

theorem arguments_reads : ∀ (fuel : Nat) (known : List Piece),
    Reads known (arguments budget self fuel)
  | 0, _ => by
    unfold arguments
    infer_instance
  | fuel + 1, known => by
    unfold arguments
    refine .skip fun closed => .ite .nil ?_
    refine (argument_reads hs).bind fun a => .skip fun comma => .ite ?_ (.gathered (by grind))
    exact (arguments_reads fuel _).bind fun more => .cons

theorem sliceBound_reads : Reads known (sliceBound self) := by
  unfold sliceBound
  exact .skip fun ended => .ite .none (hs _ _).some

theorem sliceItem_reads : Reads known (sliceItem self) := by
  unfold sliceItem
  refine .skip fun colon => ?_
  extract_lets rest
  have slice (lower : Option Expr) : Reads (pieces lower ++ known) (rest lower) := by
    refine .skip fun colon => .ite ?_ ?_
    · refine (sliceBound_reads hs).bind fun upper => .skip fun colon => .ite ?_ ?_
      · refine (sliceBound_reads hs).bind fun step => .node rfl ?_
        cases lower <;> cases upper <;> cases step <;> grind [Expr.operands]
      · refine .node rfl ?_
        cases lower <;> cases upper <;> grind [Expr.operands]
    · cases lower with
      | none => exact inferInstanceAs (Reads _ (Parse.fail _))
      | some e => exact .gathered (by grind)
  refine .ite ?_ ?_
  · exact slice none
  · exact (hs _ _).some.bind slice

theorem subscript_reads : Reads known (subscript budget self) := by
  unfold subscript
  refine (sliceItem_reads hs).bind fun first => .skip fun comma => .ite ?_ (.gathered (by grind))
  refine (Reads.moreItems (fun _ => sliceItem_reads hs) _ _).bind fun more => .node rfl ?_
  grind [Expr.operands]

/-! ### Atoms -/

theorem parenthesized_reads : Reads known (parenthesized budget self) := by
  unfold parenthesized
  refine .skip fun closed => .ite (.node rfl (by simp [Expr.operands])) ?_
  refine (hs _ _).bind fun first => .skip fun word => .ite ?_ (.skip fun comma => .ite ?_ ?_)
  · refine (clauses_reads hs _ _).bind fun cs => .skip fun _ => .node rfl ?_
    grind [Expr.operands]
  · refine (Reads.moreItems (hs _) _ _).bind fun more => .skip fun _ => .node rfl ?_
    grind [Expr.operands]
  · exact .skip fun _ => .gathered (by grind)

theorem listDisplay_reads : Reads known (listDisplay budget self) := by
  unfold listDisplay
  refine .skip fun closed => .ite (.node rfl (by simp [Expr.operands])) ?_
  refine (hs _ _).bind fun first => .skip fun word => .ite ?_ ?_
  · refine (clauses_reads hs _ _).bind fun cs => .skip fun _ => .node rfl ?_
    grind [Expr.operands]
  · refine (Reads.moreItems (hs _) _ _).bind fun more => .skip fun _ => .node rfl ?_
    grind [Expr.operands]

theorem dictItem_reads : Reads known (dictItem self) := by
  unfold dictItem
  exact (hs _ _).bind fun key => .skip fun _ => (hs _ _).bind fun value => .gathered (by grind)

theorem braceDisplay_reads : Reads known (braceDisplay budget self) := by
  unfold braceDisplay
  refine .skip fun closed => .ite (.node rfl (by simp [Expr.operands])) ?_
  refine (hs _ _).bind fun first => .skip fun colon => .ite ?_ (.skip fun word => .ite ?_ ?_)
  · refine (hs _ _).bind fun value => .skip fun word => .ite ?_ ?_
    · refine (clauses_reads hs _ _).bind fun cs => .skip fun _ => .node rfl ?_
      grind [Expr.operands]
    · refine (Reads.moreItems (fun _ => dictItem_reads hs) _ _).bind fun more => .skip fun _ => ?_
      refine .node rfl ?_
      grind [Expr.operands]
  · refine (clauses_reads hs _ _).bind fun cs => .skip fun _ => .node rfl ?_
    grind [Expr.operands]
  · refine (Reads.moreItems (hs _) _ _).bind fun more => .skip fun _ => .node rfl ?_
    grind [Expr.operands]

omit hs in
/-- What stands in the fields of an f-string is read from other texts, so it is no piece. -/
theorem strings_reads : ∀ (fuel : Nat) {formatted : Bool} {parts : List FieldPart},
    Reads known (strings budget self formatted parts fuel)
  | 0, _, _ => by
    unfold strings
    infer_instance
  | fuel + 1, formatted, parts => by
    unfold strings
    refine .skip fun kind => ?_
    split
    · exact .skip fun _ => strings_reads fuel
    · refine .skip fun start => .skip fun _ => ?_
      split
      · exact strings_reads fuel
      · infer_instance
    · cases formatted <;> exact .node rfl (by simp [Expr.operands])

theorem atom_reads : Reads known (atom budget self) := by
  unfold atom
  refine .skip fun kind => ?_
  split
  case h_3 | h_4 => exact strings_reads budget
  case h_9 => exact .skip fun _ => parenthesized_reads hs
  case h_10 => exact .skip fun _ => listDisplay_reads hs
  case h_11 => exact .skip fun _ => braceDisplay_reads hs
  case h_12 => infer_instance
  all_goals exact .skip fun _ => .node rfl (by simp [Expr.operands])

/-! ### Operators -/

theorem trailers_reads : ∀ (fuel : Nat) (known : List Piece) {e : Expr}, .expr e ∈ known →
    Reads known (trailers budget self fuel e)
  | 0, _, _, _ => by
    unfold trailers
    infer_instance
  | fuel + 1, known, e, he => by
    unfold trailers
    refine .skip fun dot => .ite (.skip fun name => ?_) (.skip fun bracket => .ite ?_ ?_)
    · refine .add (trailers_reads fuel _ (.head _)) rfl ?_
      grind [Expr.operands]
    · refine (arguments_reads hs _ _).bind fun args => .skip fun _ => ?_
      refine .add (trailers_reads fuel _ (.head _)) rfl ?_
      grind [Expr.operands]
    · refine .skip fun bracket => .ite ?_ (.gathered (by grind))
      refine (subscript_reads hs).bind fun index => .skip fun _ => ?_
      refine .add (trailers_reads fuel _ (.head _)) rfl ?_
      grind [Expr.operands]

theorem power_reads : Reads known (power budget self) := by
  unfold power
  refine (atom_reads hs).bind fun e => (trailers_reads hs _ _ (.head _)).bind fun base => ?_
  refine .skip fun stars => .ite ((hs _ _).bind fun exponent => .node rfl ?_) ?_
  · grind [Expr.operands]
  · exact .gathered (by grind)

omit hs in
theorem applyUnary_made {op : UnaryOp} {e : Expr} (he : .expr e ∈ known) :
    (Piece.expr (applyUnary op e)).Made known := by
  unfold applyUnary
  split
  · exact .node rfl (by simp [Expr.operands])
  · exact .node rfl (by simp [Expr.operands])
  · exact .node rfl (by simpa [Expr.operands] using he)

theorem factor_reads : Reads known (factor budget self) := by
  unfold factor
  refine .skip fun kind => ?_
  split
  · refine .skip fun _ => (hs _ _).bind fun e => .made ?_
    exact List.forall_mem_singleton.2 (applyUnary_made (.head _))
  · exact power_reads hs

omit hs in
theorem binaryTail_reads {level : BinaryLevel} {operand : Parse Expr}
    (ho : ∀ known, Reads known operand) : ∀ (fuel : Nat) (known : List Piece) {left : Expr},
    .expr left ∈ known → Reads known (binaryTail level operand fuel left)
  | 0, _, _, _ => by
    unfold binaryTail
    infer_instance
  | fuel + 1, known, left, hl => by
    unfold binaryTail
    refine .skip fun kind => ?_
    split
    · refine .skip fun _ => (ho _).bind fun right => ?_
      refine .add (binaryTail_reads ho fuel _ (.head _)) rfl ?_
      grind [Expr.operands]
    · exact .gathered (by grind)

theorem binary_reads : ∀ (levels : List BinaryLevel) (known : List Piece),
    Reads known (binary budget self levels)
  | [], _ => factor_reads hs
  | _ :: tighter, _ => (binary_reads tighter _).bind fun _ =>
    binaryTail_reads (binary_reads tighter) _ _ (.head _)

theorem comparisons_reads : ∀ (fuel : Nat) (known : List Piece),
    Reads known (comparisons budget self fuel)
  | 0, _ => by
    unfold comparisons
    infer_instance
  | fuel + 1, known => by
    unfold comparisons
    dsimp only
    refine .skip fun kind => .skip fun cursor => ?_
    split
    · have next {known : List Piece} {op : CompareOp} : Reads known (do
          let e ← binary budget self binaryLevels
          return (op, e) :: (← comparisons budget self fuel)) :=
        (binary_reads hs _ _).bind fun e => (comparisons_reads fuel _).bind fun more =>
          .gathered (by grind)
      exact .skip fun _ => .ite (.skip fun _ => next) next
    · exact .nil

theorem comparison_reads : Reads known (comparison budget self) := by
  unfold comparison
  refine (binary_reads hs _ _).bind fun left => (comparisons_reads hs _ _).bind fun rest => ?_
  split
  · exact .gathered (by grind)
  · refine .node rfl ?_
    grind [Expr.operands]

theorem negation_reads : Reads known (negation budget self) := by
  unfold negation
  refine .skip fun word => .ite ((hs _ _).bind fun e => .node rfl ?_) (comparison_reads hs)
  grind [Expr.operands]

omit hs in
theorem boolTail_reads {word : Keyword} {op : BoolOp} {operand : Parse Expr}
    (ho : ∀ known, Reads known operand) : ∀ (fuel : Nat) (known : List Piece) {left : Expr},
    .expr left ∈ known → Reads known (boolTail word op operand fuel left)
  | 0, _, _, _ => by
    unfold boolTail
    infer_instance
  | fuel + 1, known, left, hl => by
    unfold boolTail
    refine .skip fun accepted => .ite ((ho _).bind fun right => ?_) (.gathered (by grind))
    refine .add (boolTail_reads ho fuel _ (.head _)) rfl ?_
    grind [Expr.operands]

theorem conjunction_reads : Reads known (conjunction budget self) := by
  unfold conjunction
  exact (negation_reads hs).bind fun left =>
    boolTail_reads (fun _ => negation_reads hs) _ _ (.head _)

theorem disjunction_reads : Reads known (disjunction budget self) := by
  unfold disjunction
  exact (conjunction_reads hs).bind fun left =>
    boolTail_reads (fun _ => conjunction_reads hs) _ _ (.head _)

theorem expression_reads : Reads known (expression budget self) := ⟨fun n c behind => by
  unfold expression
  refine Yields.ahead_bind (Yields.ite (lambda_reads hs behind) fun _ => ?_)
  have conditional : Reads known (do
      let body ← disjunction budget self
      if ← acceptWord .if then
        let test ← disjunction budget self
        expectWord .else "in conditional expression"
        return .ifElse test body (← self .expression)
      else return body) := by
    refine (disjunction_reads hs).bind fun body => .skip fun word => .ite ?_ (.gathered (by grind))
    refine (disjunction_reads hs).bind fun test => .skip fun _ => (hs _ _).bind fun orelse => ?_
    refine .node rfl ?_
    grind [Expr.operands]
  exact conditional.reads n c behind⟩

theorem level_reads (l : Level) : Reads known (level budget self l) := by
  cases l with
  | expression => exact expression_reads hs
  | disjunction => exact disjunction_reads hs
  | negation => exact negation_reads hs
  | bitOr => exact binary_reads hs _ _
  | factor => exact factor_reads hs

end

/-- Whatever is read of an expression lies on its lines, however deep it stands. -/
theorem exprAt_reads : ∀ (budget : Nat) (l : Level) (known : List Piece),
    Reads known (exprAt budget l)
  | 0, _, _ => inferInstanceAs (Reads _ (Parse.fail _))
  | budget + 1, l, _ => level_reads (exprAt_reads budget) l

end Parse

end Stepwise.Script
