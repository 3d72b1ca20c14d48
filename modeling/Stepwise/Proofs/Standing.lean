import Stepwise.Proofs.Span
import Stepwise.Proofs.Syntax

/-!
# What stands in a statement

Every part of a program is carried by a statement that it stands in: it is the statement itself, a
clause of it, the function or class that it defines, or one of its expressions, at any depth. Only
the fields of f-strings are left out: each is a text of its own, with lines of its own
(`blockParts_located`).

## The model

An expression stands in a statement as an operand of other ones (`Expr.operands`) that starts from
the expressions that the statement has itself (`Action.exprs`). The suites of a statement hold
further statements, and so does the body of a lambda; both count as statements of the program
(`Enclosed`).
-/

namespace Stepwise.Script

/-! ### Operands -/

/-- The expressions of a clause. -/
def Clause.exprs : Clause → List Expr
  | .mk target items conditions => target :: items :: conditions

/-- What an argument passes. -/
def Argument.value : Argument → Expr
  | .positional value | .keyword _ value | .star value => value

/-- The value in a piece of an f-string. -/
def FieldPart.value? : FieldPart → Option Expr
  | .text _ => none
  | .field value _ _ => some value

/-- The expressions that stand in an expression directly. Of a lambda these are the defaults; what
stands in the fields of an f-string is not among them. -/
def Expr.operands : Expr → List Expr
  | .none | .bool _ | .int _ | .float _ | .str _ | .name _ | .fstring _ => []
  | .tuple items | .list items | .set items => items
  | .dict pairs => pairs.flatMap fun pair => [pair.1, pair.2]
  | .listComp element clauses | .setComp element clauses =>
    element :: clauses.flatMap Clause.exprs
  | .dictComp key value clauses => key :: value :: clauses.flatMap Clause.exprs
  | .attribute object _ => [object]
  | .subscript object index => [object, index]
  | .slice lower upper step => lower.toList ++ upper.toList ++ step.toList
  | .call func args => func :: args.map Argument.value
  | .unary _ operand => [operand]
  | .binary _ left right | .boolOp _ left right => [left, right]
  | .compare left rest => left :: rest.map (·.2)
  | .ifElse test body orelse => [test, body, orelse]
  | .lambda fn => fn.params.filterMap Param.default

/-- The values in the fields of an f-string. -/
def Expr.fields : Expr → List Expr
  | .fstring parts => parts.filterMap FieldPart.value?
  | _ => []

/-- The expressions that a statement has itself, those in its suites left out. -/
def Action.exprs : Action → List Expr
  | .expr e => [e]
  | .assign targets value => targets ++ [value]
  | .augAssign target _ value => [target, value]
  | .return_ value | .raise value => value.toList
  | .delete targets => targets
  | .assert test message => test :: message.toList
  | .if_ test _ _ | .while_ test _ _ => [test]
  | .for_ target items _ _ => [target, items]
  | .functionDef fn => fn.params.filterMap Param.default
  | .classDef cls => cls.bases
  | .try_ _ handlers _ _ => handlers.filterMap Handler.filter
  | .pass | .break_ | .continue_ | .global _ | .nonlocal _ | .import_ _ | .importFrom _ _ => []

/-- The `except` clauses of a statement. -/
def Action.handlers : Action → List Handler
  | .try_ _ handlers _ _ => handlers
  | _ => []

/-! ### Places in a program -/

/-- The expressions that stand in a statement, at any depth, but for those in its suites. -/
inductive Stmt.Shows (s : Stmt) : Expr → Prop where
  | own {e : Expr} : e ∈ s.action.exprs → s.Shows e
  | operand {e x : Expr} : s.Shows e → x ∈ e.operands → s.Shows x

/-- The statements of a program, at any depth. -/
inductive Enclosed (p : Program) : Stmt → Prop where
  | main {s : Stmt} : s ∈ p → Enclosed p s
  | suite {s u : Stmt} {body : List Stmt} : Enclosed p s → body ∈ s.action.suites → u ∈ body →
    Enclosed p u
  | lambda {s u : Stmt} {fn : FunctionDef} : Enclosed p s → s.Shows (.lambda fn) → u ∈ fn.body →
    Enclosed p u

/-- Whether a statement is the innermost one that a part of a program belongs to. -/
inductive Stmt.Carries (s : Stmt) : Phrase → Prop where
  | self : s.Carries (.stmt s)
  | clause {h : Handler} : h ∈ s.action.handlers → s.Carries (.handler h)
  | function {d : FunctionDef} : s.action = .functionDef d → s.Carries (.function d)
  | cls {d : ClassDef} : s.action = .classDef d → s.Carries (.cls d)
  | lambda {fn : FunctionDef} : s.Shows (.lambda fn) → s.Carries (.function fn)
  | expr {e : Expr} : s.Shows e → s.Carries (.expr e)

/-- Whether a part of a program stands in a field of an f-string. -/
def InField (p : Program) (n : Phrase) : Prop :=
  ∃ s e, Enclosed p s ∧ s.Shows e ∧ ∃ v ∈ e.fields, n ∈ v.parts

/-- Whether a part of a program belongs to a statement of it, or to a field. -/
def Located (p : Program) (n : Phrase) : Prop :=
  InField p n ∨ ∃ s, Enclosed p s ∧ s.Carries n

/-! ### Parts, one level at a time -/

section

variable {n : Phrase}

theorem mem_allParts {es : List Expr} : n ∈ allParts es ↔ ∃ e ∈ es, n ∈ e.parts := by
  induction es with
  | nil => simp [allParts]
  | cons e es ih => simp [allParts, ih]

theorem mem_blockParts {ss : List Stmt} : n ∈ blockParts ss ↔ ∃ s ∈ ss, n ∈ s.parts := by
  induction ss with
  | nil => simp [blockParts]
  | cons s ss ih => simp [blockParts, ih]

theorem mem_optionParts {o : Option Expr} : n ∈ optionParts o ↔ ∃ e ∈ o.toList, n ∈ e.parts := by
  cases o <;> simp [optionParts]

theorem mem_fieldParts {fields : List FieldPart} :
    n ∈ fieldParts fields ↔ ∃ e ∈ fields.filterMap FieldPart.value?, n ∈ e.parts := by
  induction fields with
  | nil => simp [fieldParts]
  | cons f fields ih => cases f <;> simp_all [fieldParts, FieldPart.value?]

theorem mem_pairParts {pairs : List (Expr × Expr)} :
    n ∈ pairParts pairs ↔ ∃ e ∈ pairs.flatMap fun pair => [pair.1, pair.2], n ∈ e.parts := by
  induction pairs with
  | nil => simp [pairParts]
  | cons pair pairs ih => simp [pairParts, ih, or_and_right, exists_or]

theorem mem_restParts {rest : List (CompareOp × Expr)} :
    n ∈ restParts rest ↔ ∃ e ∈ rest.map (·.2), n ∈ e.parts := by
  induction rest with
  | nil => simp [restParts]
  | cons r rest ih => simp [restParts, ih]

theorem mem_clauseParts {clauses : List Clause} :
    n ∈ clauseParts clauses ↔ ∃ e ∈ clauses.flatMap Clause.exprs, n ∈ e.parts := by
  induction clauses with
  | nil => simp [clauseParts]
  | cons c clauses ih =>
    cases c
    simp [clauseParts, ih, Clause.exprs, mem_allParts, or_and_right, exists_or]

theorem mem_argumentParts {args : List Argument} :
    n ∈ argumentParts args ↔ ∃ e ∈ args.map Argument.value, n ∈ e.parts := by
  induction args with
  | nil => simp [argumentParts]
  | cons a args ih => cases a <;> simp [argumentParts, ih, Argument.value]

theorem mem_paramParts {params : List Param} :
    n ∈ paramParts params ↔ ∃ e ∈ params.filterMap Param.default, n ∈ e.parts := by
  induction params with
  | nil => simp [paramParts]
  | cons q params ih =>
    obtain ⟨_, d⟩ := q
    cases d <;> simp [paramParts, optionParts, ih, Param.default]

/-- A part of an expression is the expression, or a part of what stands in it. -/
theorem Expr.mem_parts {e : Expr} (h : n ∈ e.parts) :
    n = .expr e ∨ (∃ x ∈ e.operands, n ∈ x.parts) ∨ (∃ v ∈ e.fields, n ∈ v.parts) ∨
      ∃ fn, e = .lambda fn ∧ (n = .function fn ∨ n ∈ blockParts fn.body) := by
  cases e with
  | lambda fn =>
    obtain ⟨name, params, vararg, kwarg, body, pos⟩ := fn
    simp only [Expr.parts, FunctionDef.parts, List.mem_cons, List.mem_append, mem_paramParts] at h
    rcases h with rfl | rfl | h | h
    · exact .inl rfl
    · exact .inr (.inr (.inr ⟨_, rfl, .inl rfl⟩))
    · exact .inr (.inl h)
    · exact .inr (.inr (.inr ⟨_, rfl, .inr h⟩))
  | fstring fields =>
    rw [Expr.parts, List.mem_cons, mem_fieldParts] at h
    exact h.imp_right fun h => .inr (.inl h)
  | _ =>
    simpa [Expr.parts, Expr.operands, Expr.fields, mem_allParts, mem_optionParts, mem_pairParts,
      mem_restParts, mem_clauseParts, mem_argumentParts, or_and_right, exists_or, or_assoc] using h

theorem mem_handlerParts {hs : List Handler} : n ∈ handlerParts hs ↔
    ∃ k ∈ hs, n = .handler k ∨ (∃ e, k.filter = some e ∧ n ∈ e.parts) ∨ n ∈ blockParts k.body := by
  induction hs with
  | nil => simp [handlerParts]
  | cons k hs ih =>
    obtain ⟨filter, binding, body, pos⟩ := k
    simp [handlerParts, mem_optionParts, ih, Handler.filter, Handler.body, or_assoc]

/-- A part of a statement is the statement, or a part of what stands in it. -/
theorem Stmt.mem_parts {s : Stmt} (h : n ∈ s.parts) :
    n = .stmt s ∨ (∃ e ∈ s.action.exprs, n ∈ e.parts) ∨
      (∃ body ∈ s.action.suites, n ∈ blockParts body) ∨
      (∃ k ∈ s.action.handlers, n = .handler k) ∨
      (∃ d, s.action = .functionDef d ∧ n = .function d) ∨
      ∃ d, s.action = .classDef d ∧ n = .cls d := by
  obtain ⟨action, pos, endLine⟩ := s
  rw [Stmt.parts, List.mem_cons] at h
  refine h.imp_right fun h => ?_
  simp only [Stmt.action]
  cases action with
  | functionDef d =>
    obtain ⟨name, params, vararg, kwarg, body, pos⟩ := d
    simp only [Action.parts, FunctionDef.parts, List.mem_cons, List.mem_append,
      mem_paramParts] at h
    rcases h with rfl | h | h
    · exact .inr (.inr (.inr (.inl ⟨_, rfl, rfl⟩)))
    · exact .inl h
    · exact .inr (.inl ⟨body, .head _, h⟩)
  | classDef d =>
    obtain ⟨name, bases, body, pos⟩ := d
    simp only [Action.parts, ClassDef.parts, List.mem_cons, List.mem_append, mem_allParts] at h
    rcases h with rfl | h | h
    · exact .inr (.inr (.inr (.inr ⟨_, rfl, rfl⟩)))
    · exact .inl h
    · exact .inr (.inl ⟨body, .head _, h⟩)
  | try_ body handlers orelse finalbody =>
    simp only [Action.parts, List.mem_append, mem_handlerParts] at h
    rcases h with ((h | ⟨k, hk, h | ⟨e, he, h⟩ | h⟩) | h) | h
    · exact .inr (.inl ⟨body, by simp [Action.suites], h⟩)
    · exact .inr (.inr (.inl ⟨k, hk, h⟩))
    · exact .inl ⟨e, List.mem_filterMap.2 ⟨k, hk, he⟩, h⟩
    · refine .inr (.inl ⟨k.body, ?_, h⟩)
      simp only [Action.suites, List.mem_cons]
      exact .inr (.inr (.inr (List.mem_map_of_mem hk)))
    · exact .inr (.inl ⟨orelse, by simp [Action.suites], h⟩)
    · exact .inr (.inl ⟨finalbody, by simp [Action.suites], h⟩)
  | pass | break_ | continue_ | global | nonlocal | import_ | importFrom =>
    simp [Action.parts] at h
  | _ =>
    simpa [Action.parts, Action.exprs, Action.suites, Action.handlers, mem_allParts,
      mem_optionParts, or_and_right, exists_or, or_assoc] using h

end

/-! ### What stands in something is smaller -/

theorem sizeOf_default {params : List Param} {x : Expr}
    (hx : x ∈ params.filterMap Param.default) : sizeOf x < sizeOf params := by
  obtain ⟨⟨name, d⟩, hq, h⟩ := List.mem_filterMap.1 hx
  have smaller := List.sizeOf_lt_of_mem hq
  obtain rfl : d = some x := h
  simp only [Param.mk.sizeOf_spec, Option.some.sizeOf_spec] at smaller
  omega

theorem sizeOf_clause {clauses : List Clause} {x : Expr}
    (hx : x ∈ clauses.flatMap Clause.exprs) : sizeOf x < sizeOf clauses := by
  obtain ⟨⟨target, items, conditions⟩, hc, h⟩ := List.mem_flatMap.1 hx
  have smaller := List.sizeOf_lt_of_mem hc
  simp only [Clause.mk.sizeOf_spec] at smaller
  simp only [Clause.exprs, List.mem_cons] at h
  rcases h with rfl | rfl | h
  · omega
  · omega
  · have := List.sizeOf_lt_of_mem h
    omega

/-- An operand is smaller than what it stands in. -/
theorem Expr.sizeOf_operand {e x : Expr} (hx : x ∈ e.operands) : sizeOf x < sizeOf e := by
  cases e with
  | lambda fn =>
    obtain ⟨name, params, vararg, kwarg, body, pos⟩ := fn
    have smaller : sizeOf x < sizeOf params := sizeOf_default hx
    simp only [Expr.lambda.sizeOf_spec, FunctionDef.mk.sizeOf_spec]
    omega
  | tuple items | list items | set items =>
    have smaller : sizeOf x < sizeOf items := List.sizeOf_lt_of_mem hx
    simp only [Expr.tuple.sizeOf_spec, Expr.list.sizeOf_spec, Expr.set.sizeOf_spec]
    omega
  | dict pairs =>
    obtain ⟨⟨k, v⟩, hp, h⟩ := List.mem_flatMap.1 hx
    have smaller := List.sizeOf_lt_of_mem hp
    simp only [Prod.mk.sizeOf_spec] at smaller
    simp only [Expr.dict.sizeOf_spec]
    simp only [List.mem_cons, List.not_mem_nil, or_false] at h
    rcases h with rfl | rfl <;> omega
  | listComp element clauses | setComp element clauses =>
    simp only [Expr.listComp.sizeOf_spec, Expr.setComp.sizeOf_spec]
    rcases List.mem_cons.1 hx with rfl | h
    · omega
    · have := sizeOf_clause h
      omega
  | dictComp key value clauses =>
    simp only [Expr.operands, List.mem_cons] at hx
    simp only [Expr.dictComp.sizeOf_spec]
    rcases hx with rfl | rfl | h
    · omega
    · omega
    · have := sizeOf_clause h
      omega
  | slice lower upper step =>
    simp only [Expr.operands, List.mem_append, Option.mem_toList] at hx
    simp only [Expr.slice.sizeOf_spec]
    rcases hx with (rfl | rfl) | rfl <;> simp only [Option.some.sizeOf_spec] <;> omega
  | call func args =>
    simp only [Expr.call.sizeOf_spec]
    rcases List.mem_cons.1 hx with rfl | h
    · omega
    · obtain ⟨a, ha, rfl⟩ := List.mem_map.1 h
      have := List.sizeOf_lt_of_mem ha
      cases a <;> simp_all [Argument.value] <;> omega
  | compare left rest =>
    simp only [Expr.compare.sizeOf_spec]
    rcases List.mem_cons.1 hx with rfl | h
    · omega
    · obtain ⟨⟨op, r⟩, hr, rfl⟩ := List.mem_map.1 h
      have := List.sizeOf_lt_of_mem hr
      simp only [Prod.mk.sizeOf_spec] at this
      show sizeOf r < _
      omega
  | none | bool | int | float | str | name | fstring => simp [Expr.operands] at hx
  | _ =>
    simp only [Expr.operands, List.mem_cons, List.not_mem_nil, or_false] at hx
    rcases hx with rfl | rfl | rfl <;> simp <;> omega

theorem sizeOf_optional {o : Option Expr} {x : Expr} (hx : x ∈ o.toList) :
    sizeOf x < sizeOf o := by
  obtain rfl := Option.mem_toList.1 hx
  simp

/-- An expression of a statement is smaller than the statement. -/
theorem Stmt.sizeOf_expr {s : Stmt} {e : Expr} (he : e ∈ s.action.exprs) :
    sizeOf e < sizeOf s := by
  obtain ⟨action, pos, endLine⟩ := s
  suffices sizeOf e < sizeOf action by
    rw [Stmt.mk.sizeOf_spec]
    omega
  simp only [Stmt.action] at he
  cases action with
  | functionDef fn =>
    obtain ⟨name, params, vararg, kwarg, body, pos⟩ := fn
    have smaller : sizeOf e < sizeOf params := sizeOf_default he
    simp only [Action.functionDef.sizeOf_spec, FunctionDef.mk.sizeOf_spec]
    omega
  | classDef cls =>
    obtain ⟨name, bases, body, pos⟩ := cls
    have smaller : sizeOf e < sizeOf bases := List.sizeOf_lt_of_mem he
    simp only [Action.classDef.sizeOf_spec, ClassDef.mk.sizeOf_spec]
    omega
  | try_ body handlers orelse finalbody =>
    obtain ⟨⟨filter, binding, body', pos⟩, hk, h⟩ := List.mem_filterMap.1 he
    have smaller := List.sizeOf_lt_of_mem hk
    obtain rfl : filter = some e := h
    simp only [Handler.mk.sizeOf_spec, Option.some.sizeOf_spec] at smaller
    simp only [Action.try_.sizeOf_spec]
    omega
  | assign targets value =>
    simp only [Action.assign.sizeOf_spec]
    rcases List.mem_append.1 he with h | h
    · have := List.sizeOf_lt_of_mem h
      omega
    · obtain rfl := List.mem_singleton.1 h
      omega
  | delete targets =>
    have smaller : sizeOf e < sizeOf targets := List.sizeOf_lt_of_mem he
    simp only [Action.delete.sizeOf_spec]
    omega
  | return_ value | raise value =>
    have smaller := sizeOf_optional (o := value) he
    simp only [Action.return_.sizeOf_spec, Action.raise.sizeOf_spec]
    omega
  | assert test message =>
    simp only [Action.assert.sizeOf_spec]
    rcases List.mem_cons.1 he with rfl | h
    · omega
    · have := sizeOf_optional h
      omega
  | pass | break_ | continue_ | global | nonlocal | import_ | importFrom =>
    simp [Action.exprs] at he
  | _ =>
    simp only [Action.exprs, List.mem_cons, List.not_mem_nil, or_false] at he
    rcases he with rfl | rfl <;> simp <;> omega

/-- A statement in a suite is smaller than the statement that the suite belongs to. -/
theorem Stmt.sizeOf_suite {s u : Stmt} {body : List Stmt} (hb : body ∈ s.action.suites)
    (hu : u ∈ body) : sizeOf u < sizeOf s := by
  obtain ⟨action, pos, endLine⟩ := s
  suffices sizeOf body ≤ sizeOf action by
    have smaller := List.sizeOf_lt_of_mem hu
    rw [Stmt.mk.sizeOf_spec]
    omega
  simp only [Stmt.action] at hb
  cases action with
  | functionDef fn =>
    obtain ⟨name, params, vararg, kwarg, body, pos⟩ := fn
    obtain rfl := List.mem_singleton.1 hb
    simp only [Action.functionDef.sizeOf_spec, FunctionDef.mk.sizeOf_spec]
    omega
  | classDef cls =>
    obtain ⟨name, bases, body, pos⟩ := cls
    obtain rfl := List.mem_singleton.1 hb
    simp only [Action.classDef.sizeOf_spec, ClassDef.mk.sizeOf_spec]
    omega
  | try_ body handlers orelse finalbody =>
    simp only [Action.suites, List.mem_cons] at hb
    simp only [Action.try_.sizeOf_spec]
    rcases hb with rfl | rfl | rfl | hb
    · omega
    · omega
    · omega
    · obtain ⟨⟨filter, binding, body', pos⟩, hk, rfl⟩ := List.mem_map.1 hb
      have smaller := List.sizeOf_lt_of_mem hk
      simp only [Handler.mk.sizeOf_spec] at smaller
      simp only [Handler.body]
      omega
  | if_ | while_ | for_ =>
    simp only [Action.suites, List.mem_cons, List.not_mem_nil, or_false] at hb
    simp only [Action.if_.sizeOf_spec, Action.while_.sizeOf_spec, Action.for_.sizeOf_spec]
    rcases hb with rfl | rfl <;> omega
  | _ => simp [Action.suites] at hb

/-- The body of a lambda is smaller than the lambda. -/
theorem FunctionDef.sizeOf_body {fn : FunctionDef} {u : Stmt} (hu : u ∈ fn.body) :
    sizeOf u < sizeOf (Expr.lambda fn) := by
  obtain ⟨name, params, vararg, kwarg, body, pos⟩ := fn
  have smaller : sizeOf u < sizeOf body := List.sizeOf_lt_of_mem hu
  simp only [Expr.lambda.sizeOf_spec, FunctionDef.mk.sizeOf_spec]
  omega

/-! ### Every part stands somewhere -/

mutual

/-- The parts of an expression that stands in a statement of the program. -/
theorem Stmt.Shows.located {p : Program} {s : Stmt} (hs : Enclosed p s) {e : Expr}
    (he : s.Shows e) : ∀ n ∈ e.parts, Located p n := by
  intro n hn
  rcases Expr.mem_parts hn with rfl | ⟨x, hx, hn⟩ | ⟨v, hv, hn⟩ | ⟨fn, eq, hn⟩
  · exact .inr ⟨s, hs, .expr he⟩
  · have := Expr.sizeOf_operand hx
    exact (Stmt.Shows.operand he hx).located hs n hn
  · exact .inl ⟨s, e, hs, he, v, hv, hn⟩
  · have shown : s.Shows (.lambda fn) := eq ▸ he
    rcases hn with rfl | hn
    · exact .inr ⟨s, hs, .lambda shown⟩
    · obtain ⟨u, hu, hn⟩ := mem_blockParts.1 hn
      have : sizeOf u < sizeOf e := eq ▸ FunctionDef.sizeOf_body hu
      exact (Enclosed.lambda hs shown hu).located n hn
termination_by sizeOf e

/-- The parts of a statement of the program. -/
theorem Enclosed.located {p : Program} {s : Stmt} (hs : Enclosed p s) :
    ∀ n ∈ s.parts, Located p n := by
  intro n hn
  rcases Stmt.mem_parts hn with rfl | ⟨e, he, hn⟩ | ⟨body, hb, hn⟩ | ⟨k, hk, rfl⟩ | ⟨d, hd, rfl⟩ |
    ⟨d, hd, rfl⟩
  · exact .inr ⟨s, hs, .self⟩
  · have := Stmt.sizeOf_expr he
    exact (Stmt.Shows.own he).located hs n hn
  · obtain ⟨u, hu, hn⟩ := mem_blockParts.1 hn
    have := Stmt.sizeOf_suite hb hu
    exact (Enclosed.suite hs hb hu).located n hn
  · exact .inr ⟨s, hs, .clause hk⟩
  · exact .inr ⟨s, hs, .function hd⟩
  · exact .inr ⟨s, hs, .cls hd⟩
termination_by sizeOf s

end

/-- Every part of a program belongs to a statement of it, or to a field of an f-string. -/
theorem blockParts_located {p : Program} {n : Phrase} (hn : n ∈ blockParts p) : Located p n := by
  obtain ⟨s, hs, hn⟩ := mem_blockParts.1 hn
  exact (Enclosed.main hs).located n hn

end Stepwise.Script
