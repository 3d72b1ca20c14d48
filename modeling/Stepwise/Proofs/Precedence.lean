import Stepwise.Proofs.Grammar

/-!
# Reading expressions back

The reader of expressions reads every text of the grammar as the expression that it says
(`parseExpr_spells`), so the grammar is unambiguous (`Says.unique`), and an expression that is put
into words and written down is read back as it was (`parseExpr_words`).

## The model

What a reader does depends on the kinds of the tokens ahead only, so a run of a reader is a matter
of the words ahead before and after it (`Reads`). Every level has its reader (`reader`); one that
groups to the left reads an operand of the next level and then goes round once for each operator
(`tail`). An induction on what is said shows for all levels at once that the words are read in front
of whatever does not go on with them (`Readable`). For a level that groups to the left this is not
enough to go on with: there the words have been read when the level is about to go round again
(`Loops`), with more rounds left than there are words behind.
-/

namespace Stepwise.Script

open Stepwise.Text

variable {α β : Type}

/-! ### Readers and the words ahead -/

/-- The words ahead of a cursor. -/
def Cursor.kinds (c : Cursor) : List TokenKind := c.token.kind :: c.rest.map (·.kind)

theorem Cursor.second?_eq {c : Cursor} {k : TokenKind} {ks : List TokenKind}
    (h : c.kinds = k :: ks) : c.second? = ks.head? := by
  obtain ⟨-, rfl⟩ := List.cons.inj h
  rw [Cursor.second?, List.head?_map]

/-- Whether a reader that has the words `ks` ahead gives `a` and has `ks'` ahead then. -/
def Reads (p : Parse α) (ks : List TokenKind) (a : α) (ks' : List TokenKind) : Prop :=
  ∀ c : Cursor, c.kinds = ks → ∃ c' : Cursor, c'.kinds = ks' ∧ p.run c = .ok (a, c')

namespace Reads

variable {p : Parse α} {f : α → Parse β} {a : α} {b : β} {t w : TokenKind}
  {ks ks' ks'' ts : List TokenKind}

theorem pure : Reads (Pure.pure a) ks a ks := fun c h => ⟨c, h, rfl⟩

theorem bind (hp : Reads p ks a ks') (hf : Reads (f a) ks' b ks'') : Reads (p >>= f) ks b ks'' := by
  intro c h
  obtain ⟨c₁, h₁, r₁⟩ := hp c h
  obtain ⟨c₂, h₂, r₂⟩ := hf c₁ h₁
  refine ⟨c₂, h₂, ?_⟩
  rw [StateT.run_bind, r₁]
  exact r₂

theorem map {g : α → β} (hp : Reads p ks a ks') : Reads (g <$> p) ks (g a) ks' := by
  rw [← bind_pure_comp]
  exact hp.bind pure

/-- What is ahead of the cursor is known. -/
theorem get_bind {f : Cursor → Parse β} (h : ∀ c : Cursor, c.kinds = ks → Reads (f c) ks b ks') :
    Reads (get >>= f) ks b ks' := fun c hc => h c hc c hc

theorem peek : Reads Parse.peek (t :: ts) t (t :: ts) :=
  get_bind fun c h => by
    cases h
    exact pure

theorem ahead {q : TokenKind → Bool} : Reads (Parse.ahead q) (t :: ts) (q t) (t :: ts) :=
  peek.bind pure

/-- The last word ahead stays there, so only those in front of it are read. -/
theorem advance (h : ks ≠ []) : Reads Parse.advance (w :: ks) () ks := by
  intro c hc
  refine ⟨c.next, ?_, rfl⟩
  obtain ⟨token, _ | ⟨t', rest⟩, line⟩ := c
  · cases hc
    exact absurd rfl h
  · cases hc
    rfl

theorem acceptIf {q : TokenKind → Bool} (hw : q w = true) (h : ks ≠ []) :
    Reads (Parse.acceptIf q) (w :: ks) true ks := by
  refine ahead.bind ?_
  rw [if_pos hw]
  exact (advance h).bind pure

theorem acceptIf_not {q : TokenKind → Bool} (h : q t = false) :
    Reads (Parse.acceptIf q) (t :: ts) false (t :: ts) := by
  refine ahead.bind ?_
  rw [if_neg (by simp [h])]
  exact pure

theorem expectIf {q : TokenKind → Bool} {what : String} (hw : q w = true) (h : ks ≠ []) :
    Reads (Parse.expectIf q what) (w :: ks) () ks :=
  (acceptIf hw h).bind pure

theorem identifier {x : String} (h : ks ≠ []) : Reads Parse.identifier (.ident x :: ks) x ks :=
  peek.bind ((advance h).bind pure)

end Reads

/-! ### The readers of the levels -/

open Parse

/-- The reader of a level, where expressions inside expressions are read with the budget `b`. -/
def reader (b : Nat) : Nat → Parse Expr
  | 0 | 1 | 2 => expression b (exprAt b)
  | 3 => disjunction b (exprAt b)
  | 4 => conjunction b (exprAt b)
  | 5 => negation b (exprAt b)
  | 6 => comparison b (exprAt b)
  | 14 => power b (exprAt b)
  | 15 => do trailers b (exprAt b) b (← atom b (exprAt b))
  | 16 => atom b (exprAt b)
  | l => Parse.binary b (exprAt b) (binaryLevels.drop (l - 7))

/-- The operators of a level that groups to the left, as the reader has them. -/
def operators (l : Nat) : BinaryLevel := (binaryLevels.drop (l - 7)).headD []

/-- What a level that groups to the left does behind its first operand, for at most so many
operators. -/
def tail (b : Nat) : Nat → (fuel : Nat) → Expr → Parse Expr
  | 3 => boolTail .or .or (reader b 4)
  | 4 => boolTail .and .and (reader b 5)
  | 15 => trailers b (exprAt b)
  | l => binaryTail (operators l) (reader b (l + 1))

/-- The levels that group to the left. -/
def leftLevels : List Nat := [3, 4, 7, 8, 9, 10, 11, 12, 15]

theorem reader_left {b l : Nat} (h : l ∈ leftLevels) :
    reader b l = reader b (l + 1) >>= tail b l b := by
  simp only [leftLevels, List.mem_cons, List.not_mem_nil, or_false] at h
  rcases h with rfl | rfl | rfl | rfl | rfl | rfl | rfl | rfl | rfl <;> rfl

/-- The number of a level at which expressions are read inside others. -/
def Level.rank : Level → Nat
  | .expression => 1
  | .disjunction => 3
  | .negation => 5
  | .bitOr => 7
  | .factor => 13

theorem exprAt_succ (b : Nat) (l : Level) : exprAt (b + 1) l = reader b l.rank := by
  cases l <;> rfl

theorem isPunct_of_binding {t : TokenKind} {p : Punct}
    (h : t.binding < (TokenKind.punct p).binding) : t.isPunct p = false := by
  cases t with
  | punct p' =>
    refine decide_eq_false ?_
    rintro rfl
    exact Nat.lt_irrefl _ h
  | _ => rfl

theorem isKeyword_of_binding {t : TokenKind} {k : Keyword}
    (h : t.binding < (TokenKind.keyword k).binding) : t.isKeyword k = false := by
  cases t with
  | keyword k' =>
    refine decide_eq_false ?_
    rintro rfl
    exact Nat.lt_irrefl _ h
  | _ => rfl

theorem mem_operators {l : Nat} {x : Punct × BinaryOp} (hl : 7 ≤ l) (h : x ∈ operators l) :
    x.1 = x.2.mark ∧ x.2.level = l := by
  have table : ∀ k < 6, ∀ x ∈ operators (7 + k), x.1 = x.2.mark ∧ x.2.level = 7 + k := by decide
  obtain ⟨k, rfl⟩ := Nat.exists_eq_add_of_le hl
  by_cases hk : k < 6
  · exact table k hk x h
  · have none : operators (7 + k) = [] := by
      rw [operators, List.drop_eq_nil_of_le]
      · rfl
      · show 6 ≤ _
        omega
    simp [none] at h

/-- The operator that a level reads has its level. -/
theorem binding_of_op? {l : Nat} {t : TokenKind} {op : BinaryOp} (hl : 7 ≤ l)
    (h : (operators l).op? t = some op) : t.binding = l := by
  cases t with
  | punct p =>
    obtain ⟨before, after, eq, -⟩ := List.lookup_eq_some_iff.1 h
    have mem : (p, op) ∈ operators l := by simp [eq]
    obtain ⟨mark, rfl⟩ := mem_operators hl mem
    rw [show p = op.mark from mark]
    cases op <;> rfl
  | _ => cases h

theorem tail_done {b l m : Nat} {e : Expr} {t : TokenKind} {ts : List TokenKind}
    (hl : l ∈ leftLevels) (ht : t.binding < l) :
    Reads (tail b l (m + 1) e) (t :: ts) e (t :: ts) := by
  have binary : ∀ l operand, 7 ≤ l → t.binding < l →
      Reads (binaryTail (operators l) operand (m + 1) e) (t :: ts) e (t :: ts) := by
    intro l operand hl ht
    refine Reads.peek.bind ?_
    cases h : (operators l).op? t with
    | none => exact Reads.pure
    | some op => exact absurd (binding_of_op? hl h) (Nat.ne_of_lt ht)
  simp only [leftLevels, List.mem_cons, List.not_mem_nil, or_false] at hl
  rcases hl with rfl | rfl | rfl | rfl | rfl | rfl | rfl | rfl | rfl
  · exact (Reads.acceptIf_not (isKeyword_of_binding (k := .or) ht)).bind Reads.pure
  · exact (Reads.acceptIf_not (isKeyword_of_binding (k := .and) ht)).bind Reads.pure
  iterate 6 exact binary _ _ (by decide) ht
  · exact (Reads.acceptIf_not (isPunct_of_binding (p := .dot) ht)).bind <|
      (Reads.acceptIf_not (isPunct_of_binding (p := .lparen) ht)).bind <|
      (Reads.acceptIf_not (isPunct_of_binding (p := .lbracket) ht)).bind Reads.pure

theorem op?_mark {op : BinaryOp} (ne : op ≠ .pow) :
    (operators op.level).op? (.punct op.mark) = some op := by
  cases op <;> first | rfl | exact absurd rfl ne

section

variable {b m : Nat} {e e' a : Expr} {ws ks : List TokenKind} {t : TokenKind} {ts : List TokenKind}

/-- A level that groups to the left goes on with an operator and an operand of the next level. -/
theorem tail_binary {op : BinaryOp} (ne : op ≠ .pow)
    (operand : Reads (reader b (op.level + 1)) (ws ++ t :: ts) e' (t :: ts))
    (rest : Reads (tail b op.level m (.binary op e e')) (t :: ts) a ks) :
    Reads (tail b op.level (m + 1) e) (.punct op.mark :: (ws ++ t :: ts)) a ks := by
  have tail_eq : tail b op.level =
      binaryTail (operators op.level) (reader b (op.level + 1)) := by
    cases op <;> rfl
  rw [tail_eq] at rest ⊢
  refine Reads.peek.bind ?_
  rw [op?_mark ne]
  exact (Reads.advance (by simp)).bind (operand.bind rest)

theorem tail_boolOp {op : BoolOp}
    (operand : Reads (reader b (op.level + 1)) (ws ++ t :: ts) e' (t :: ts))
    (rest : Reads (tail b op.level m (.boolOp op e e')) (t :: ts) a ks) :
    Reads (tail b op.level (m + 1) e) (.keyword op.keyword :: (ws ++ t :: ts)) a ks := by
  cases op <;>
    exact (Reads.acceptIf (by decide) (by simp)).bind (operand.bind rest)

end

/-- Whether a level that groups to the left reads the words `ws` as `e` before it goes on: the
rounds that are left then are more than the words behind. -/
def Loops (b l : Nat) (ws : List TokenKind) (e : Expr) : Prop :=
  ∀ n, ws.length ≤ n → ∃ m, n < m + ws.length ∧ ∀ {t ts}, t.binding ≤ l → ∀ {a ks},
    Reads (tail b l m e) (t :: ts) a ks →
      Reads (reader b (l + 1) >>= tail b l n) (ws ++ t :: ts) a ks

/-- Whether a level reads the words `ws` as `e`, in front of everything that does not go on with
them. -/
structure Readable (l : Nat) (ws : List TokenKind) (e : Expr) : Prop where
  reads : ∀ {b}, ws.length ≤ b → ∀ {t ts}, t.binding < l →
    Reads (reader b l) (ws ++ t :: ts) e (t :: ts)
  loops : l ∈ leftLevels → ∀ {b}, ws.length ≤ b → Loops b l ws e

namespace Readable

variable {l : Nat} {ws : List TokenKind} {e : Expr}

theorem of_loops (hl : l ∈ leftLevels) (h : ∀ {b}, ws.length ≤ b → Loops b l ws e) :
    Readable l ws e where
  reads {b} hb t ts ht := by
    obtain ⟨m, hm, go⟩ := h hb b hb
    rw [reader_left hl]
    obtain ⟨m, rfl⟩ := Nat.exists_eq_add_one.2 (show 0 < m by omega)
    exact go (Nat.le_of_lt ht) (tail_done hl ht)
  loops _ := h

theorem of_reads (hl : l ∉ leftLevels) (h : ∀ {b}, ws.length ≤ b → ∀ {t ts}, t.binding < l →
    Reads (reader b l) (ws ++ t :: ts) e (t :: ts)) : Readable l ws e where
  reads := h
  loops hl' := absurd hl' hl

/-- An expression inside another one is read with what is left of the budget. -/
theorem self (lv : Level) (h : Readable lv.rank ws e) {b : Nat} (hb : ws.length < b)
    {t : TokenKind} {ts : List TokenKind} (ht : t.binding < lv.rank) :
    Reads (exprAt b lv) (ws ++ t :: ts) e (t :: ts) := by
  obtain ⟨b, rfl⟩ := Nat.exists_eq_add_one.2 (show 0 < b by omega)
  rw [exprAt_succ]
  exact h.reads (by omega) ht

end Readable

/-! ### What starts an expression, and what does not go on with it -/

theorem Says.begin {l : Nat} {ws : List TokenKind} {e : Expr} (h : Says l ws e)
    (ks : List TokenKind) : ∃ w ks', ws ++ ks = w :: ks' ∧ Starts l w := by
  obtain ⟨w, rest, rfl, starts⟩ := h.head
  exact ⟨w, rest ++ ks, rfl, starts⟩

theorem Says.length_pos {l : Nat} {ws : List TokenKind} {e : Expr} (h : Says l ws e) :
    0 < ws.length := by
  obtain ⟨w, rest, rfl, -⟩ := h.head
  exact Nat.succ_pos _

theorem Says.level_le {l : Nat} {ws : List TokenKind} {e : Expr} (h : Says l ws e) : l ≤ 16 := by
  induction h with
  | loosen _ ih => omega
  | @unary op => exact Nat.le_trans op.level_range.2 (by decide)
  | @binary op => exact Nat.le_trans op.level_range.2 (by decide)
  | @boolOp op => exact Nat.le_trans op.level_range.2 (by decide)
  | _ => decide

theorem Starts.isPunct {l : Nat} {w : TokenKind} (h : Starts l w) {p : Punct}
    (hp : p ∉ [.lparen, .lbracket, .minus, .plus, .tilde]) : w.isPunct p = false := by
  cases h with
  | name => rfl
  | round | square =>
    refine decide_eq_false ?_
    rintro rfl
    exact hp (by decide)
  | @op op =>
    cases op with
    | not => rfl
    | _ =>
      refine decide_eq_false ?_
      rintro rfl
      exact hp (by decide)

theorem Starts.isKeyword {l : Nat} {w : TokenKind} (h : Starts l w) {k : Keyword}
    (hk : k = .not → 5 < l) : w.isKeyword k = false := by
  cases h with
  | name | round | square => rfl
  | @op op hl =>
    cases op with
    | not =>
      refine decide_eq_false ?_
      rintro rfl
      exact absurd (hk rfl) (Nat.not_lt.2 hl)
    | _ => rfl

theorem Starts.unaryOp? {l : Nat} {w : TokenKind} (h : Starts l w) (hl : 13 < l) :
    unaryOp? w = none := by
  cases h with
  | name | round | square => rfl
  | @op op h => exact absurd (Nat.le_trans h op.level_range.2) (Nat.not_le.2 hl)

theorem compareOp?_of_binding {t : TokenKind} (h : t.binding < 6) (second : Option TokenKind) :
    compareOp? t second = none := by
  unfold compareOp?
  split <;> first | rfl | exact absurd h (by decide)

/-! ### Every level reads what tighter ones read -/

section

variable {l b : Nat} {ws : List TokenKind} {e : Expr} {t : TokenKind} {ts : List TokenKind}

theorem Readable.loosen_left (hl : l ∈ leftLevels) (said : Says (l + 1) ws e)
    (h : Readable (l + 1) ws e) : Readable l ws e :=
  of_loops hl fun {b} hb n _ => by
    have := said.length_pos
    exact ⟨n, by omega, fun ht _ _ rest => (h.reads hb (Nat.lt_succ_of_le ht)).bind rest⟩

theorem reads_expression {w : TokenKind} {ks : List TokenKind}
    (notLambda : w.isKeyword .lambda = false) (h : Reads (reader b 3) (w :: ks) e (t :: ts))
    (ht : t.binding < 2) : Reads (reader b 2) (w :: ks) e (t :: ts) := by
  have notIf : t.isKeyword .if = false := isKeyword_of_binding ht
  refine Reads.ahead.bind ?_
  rw [if_neg (by simp [notLambda])]
  exact h.bind ((Reads.acceptIf_not notIf).bind Reads.pure)

theorem reads_negation {w : TokenKind} {ks : List TokenKind} (notNot : w.isKeyword .not = false)
    (h : Reads (reader b 6) (w :: ks) e (t :: ts)) : Reads (reader b 5) (w :: ks) e (t :: ts) :=
  (Reads.acceptIf_not notNot).bind h

theorem reads_comparison {ks : List TokenKind} (hb : 0 < b)
    (h : Reads (reader b 7) ks e (t :: ts)) (ht : t.binding < 6) :
    Reads (reader b 6) ks e (t :: ts) := by
  have none : Reads (comparisons b (exprAt b) b) (t :: ts) [] (t :: ts) := by
    obtain ⟨k, rfl⟩ := Nat.exists_eq_add_one.2 hb
    refine Reads.peek.bind (Reads.get_bind fun c _ => ?_)
    rw [compareOp?_of_binding ht]
    exact Reads.pure
  exact h.bind (none.bind Reads.pure)

theorem reads_factor {w : TokenKind} {ks : List TokenKind} (notSign : unaryOp? w = none)
    (h : Reads (reader b 14) (w :: ks) e (t :: ts)) : Reads (reader b 13) (w :: ks) e (t :: ts) := by
  refine Reads.peek.bind ?_
  rw [notSign]
  exact h

theorem reads_power {ks : List TokenKind} (h : Reads (reader b 15) ks e (t :: ts))
    (ht : t.binding < 14) : Reads (reader b 14) ks e (t :: ts) := by
  have notPower : t.isPunct .doubleStar = false := isPunct_of_binding ht
  show Reads (power b (exprAt b)) _ _ _
  rw [power, ← bind_assoc]
  exact h.bind ((Reads.acceptIf_not notPower).bind Reads.pure)

theorem Readable.loosen (said : Says (l + 1) ws e) (h : Readable (l + 1) ws e) :
    Readable l ws e := by
  by_cases hl : l ∈ leftLevels
  · exact h.loosen_left hl said
  · refine of_reads hl fun {b} hb t ts ht => ?_
    have := said.level_le
    have cases : l = 0 ∨ l = 1 ∨ l = 2 ∨ l = 5 ∨ l = 6 ∨ l = 13 ∨ l = 14 := by
      simp only [leftLevels, List.mem_cons, List.not_mem_nil, or_false] at hl
      omega
    have read : Reads (reader b (l + 1)) (ws ++ t :: ts) e (t :: ts) :=
      h.reads hb (Nat.lt_succ_of_lt ht)
    have budget : 0 < b := Nat.lt_of_lt_of_le said.length_pos hb
    obtain ⟨w, rest, rfl, starts⟩ := said.head
    rcases cases with rfl | rfl | rfl | rfl | rfl | rfl | rfl
    · exact absurd ht (Nat.not_lt_zero _)
    · exact read
    · exact reads_expression (starts.isKeyword (by decide)) read ht
    · exact reads_negation (starts.isKeyword (by decide)) read
    · exact reads_comparison budget read ht
    · exact reads_factor (starts.unaryOp? (by decide)) read
    · exact reads_power read ht

end

/-! ### Operators -/

section

variable {l b : Nat} {ws ws' ws'' : List TokenKind} {e e' e'' : Expr}

theorem TokenKind.binding_ne (t : TokenKind) : t.binding ≠ 1 ∧ t.binding ≠ 13 := by
  cases t with
  | punct p => cases p <;> decide
  | keyword k => cases k <;> decide
  | _ => simp [binding]

theorem Readable.unary {op : UnaryOp} (said : Says op.level ws e) (h : Readable op.level ws e) :
    Readable op.level (op.word :: ws) (.unary op e) := by
  cases op with
  | not =>
    refine .of_reads (by decide) fun {b} hb t ts ht => ?_
    exact (Reads.acceptIf rfl (by simp)).bind
      ((Readable.self .negation h hb ht).bind Reads.pure)
  | neg | pos | invert =>
    refine .of_reads (by decide) fun {b} hb t ts ht => ?_
    refine Reads.peek.bind ((Reads.advance (by simp)).bind
      ((Readable.self .factor h hb ht).bind ?_))
    rw [said.applyUnary]
    exact Reads.pure

theorem Readable.pow (h : Readable 15 ws e) (h' : Readable 13 ws' e') :
    Readable 14 (ws ++ .punct .doubleStar :: ws') (.binary .pow e e') := by
  refine .of_reads (by decide) fun {b} hb t ts ht => ?_
  have : t.binding < 13 := Nat.lt_of_le_of_ne (Nat.le_of_lt_succ ht) t.binding_ne.2
  simp only [List.length_append, List.length_cons] at hb
  rw [List.append_assoc, List.cons_append]
  show Reads (power b (exprAt b)) _ _ _
  rw [power, ← bind_assoc]
  refine (h.reads (by omega) (by decide)).bind ?_
  exact (Reads.acceptIf rfl (by simp)).bind
    ((Readable.self .factor h' (by omega) this).bind Reads.pure)

/-- A level that groups to the left goes on with the words `us` in one round. -/
theorem Readable.onward {w : TokenKind} {us : List TokenKind} (left : l ∈ leftLevels)
    (h : Readable l ws e) (hw : w.binding ≤ l)
    (step : ∀ {b m}, us.length < b → ∀ {t ts}, t.binding ≤ l → ∀ {a ks},
      Reads (tail b l m e') (t :: ts) a ks →
        Reads (tail b l (m + 1) e) (w :: (us ++ t :: ts)) a ks) :
    Readable l (ws ++ w :: us) e' := by
  refine .of_loops left fun {b} hb n hn => ?_
  simp only [List.length_append, List.length_cons] at hb hn
  obtain ⟨m, hm, go⟩ := h.loops left (b := b) (by omega) n (by omega)
  obtain ⟨m, rfl⟩ := Nat.exists_eq_add_one.2 (show 0 < m by omega)
  refine ⟨m, by simp only [List.length_append, List.length_cons]; omega, fun ht a ks rest => ?_⟩
  rw [List.append_assoc, List.cons_append]
  exact go hw (step (by omega) ht rest)

theorem Readable.binary {op : BinaryOp} (ne : op ≠ .pow) (h : Readable op.level ws e)
    (h' : Readable (op.level + 1) ws' e') :
    Readable op.level (ws ++ .punct op.mark :: ws') (.binary op e e') :=
  h.onward (by cases op <;> first | decide | exact absurd rfl ne) (by cases op <;> decide)
    fun hb _ _ ht _ _ rest =>
      tail_binary ne (h'.reads (Nat.le_of_lt hb) (Nat.lt_succ_of_le ht)) rest

theorem Readable.boolOp {op : BoolOp} (h : Readable op.level ws e)
    (h' : Readable (op.level + 1) ws' e') :
    Readable op.level (ws ++ .keyword op.keyword :: ws') (.boolOp op e e') :=
  h.onward (by cases op <;> decide) (by cases op <;> decide) fun hb _ _ ht _ _ rest =>
    tail_boolOp (h'.reads (Nat.le_of_lt hb) (Nat.lt_succ_of_le ht)) rest

theorem Readable.ifElse (said : Says 3 ws' e') (h : Readable 3 ws e) (h' : Readable 3 ws' e')
    (h'' : Readable 1 ws'' e'') :
    Readable 2 (ws' ++ .keyword .if :: (ws ++ .keyword .else :: ws'')) (.ifElse e e' e'') := by
  refine .of_reads (by decide) fun {b} hb t ts ht => ?_
  simp only [List.length_append, List.length_cons] at hb
  obtain ⟨w, rest, rfl, starts⟩ := said.head
  have notLambda : w.isKeyword .lambda = false := starts.isKeyword (by decide)
  have last : t.binding < 1 := Nat.lt_of_le_of_ne (Nat.le_of_lt_succ ht) t.binding_ne.1
  simp only [List.append_assoc, List.cons_append]
  refine Reads.ahead.bind ?_
  rw [if_neg (by simp [notLambda])]
  refine (h'.reads (by omega) (by decide)).bind ((Reads.acceptIf rfl (by simp)).bind ?_)
  refine (h.reads (by omega) (by decide)).bind ((Reads.expectIf rfl (by simp)).bind ?_)
  exact (Readable.self .expression h'' (by omega) last).bind Reads.pure

end

/-! ### Chains of comparisons -/

/-- The comparison that words stand for, in front of an operand. -/
theorem compareOp?_words (op : CompareOp) {w : TokenKind} (h : Starts 7 w) : ∃ v more,
    op.words = v :: more ∧ v.binding = 6 ∧
      ((more = [] ∧ compareOp? v (some w) = some (op, false)) ∨
        ∃ v', more = [v'] ∧ compareOp? v (some v') = some (op, true)) := by
  cases op with
  | notIn | isNot => exact ⟨_, _, rfl, rfl, .inr ⟨_, rfl, rfl⟩⟩
  | is =>
    refine ⟨_, _, rfl, rfl, .inl ⟨rfl, ?_⟩⟩
    cases h with
    | name | round | square => rfl
    | @op op hl =>
      cases op with
      | not => exact absurd hl (by decide)
      | _ => rfl
  | _ => exact ⟨_, _, rfl, rfl, .inl ⟨rfl, rfl⟩⟩

section

variable {b : Nat}

/-- The words of a chain of comparisons behind its first operand. -/
def chainWords (rest : List (CompareOp × List TokenKind × Expr)) : List TokenKind :=
  rest.flatMap fun r => r.1.words ++ r.2.1

/-- What follows an operand is another comparison or what follows the chain. -/
theorem chainWords_follow {t : TokenKind} (ts : List TokenKind) (ht : t.binding < 6) :
    ∀ rest : List (CompareOp × List TokenKind × Expr), ∃ t' ts',
      chainWords rest ++ t :: ts = t' :: ts' ∧ t'.binding < 7
  | [] => ⟨t, ts, rfl, by omega⟩
  | (op, ws, e) :: rest => by
    obtain ⟨v, more, eq, binding, -⟩ := compareOp?_words op (.name (x := ""))
    exact ⟨v, _, by rw [chainWords, List.flatMap_cons, eq]; rfl, by omega⟩

theorem reads_comparisons {t : TokenKind} (ts : List TokenKind) (ht : t.binding < 6) :
    ∀ {rest : List (CompareOp × List TokenKind × Expr)} {n : Nat},
      (∀ r ∈ rest, Says 7 r.2.1 r.2.2) → (∀ r ∈ rest, Readable 7 r.2.1 r.2.2) →
      (chainWords rest).length ≤ b → (chainWords rest).length < n →
      Reads (comparisons b (exprAt b) n) (chainWords rest ++ t :: ts)
        (rest.map fun r => (r.1, r.2.2)) (t :: ts)
  | [], n, _, _, _, hn => by
    obtain ⟨n, rfl⟩ := Nat.exists_eq_add_one.2 (show 0 < n by omega)
    refine Reads.peek.bind (Reads.get_bind fun c _ => ?_)
    rw [compareOp?_of_binding ht]
    exact Reads.pure
  | (op, ws, e) :: rest, n, allSaid, allRead, hb, hn => by
    obtain ⟨said, moreSaid⟩ := List.forall_mem_cons.1 allSaid
    obtain ⟨readable, moreRead⟩ := List.forall_mem_cons.1 allRead
    obtain ⟨w, ws', rfl, starts⟩ := said.head
    obtain ⟨v, more, eq, -, known⟩ := compareOp?_words op starts
    have split : chainWords ((op, w :: ws', e) :: rest) =
        v :: (more ++ ((w :: ws') ++ chainWords rest)) := by
      simp [chainWords, eq]
    rw [split] at hb hn ⊢
    simp only [List.length_cons, List.length_append] at hb hn
    obtain ⟨n, rfl⟩ := Nat.exists_eq_add_one.2 (show 0 < n by omega)
    have others := reads_comparisons (n := n) ts ht moreSaid moreRead (by omega) (by omega)
    obtain ⟨t', ts', follow, ht'⟩ := chainWords_follow ts ht rest
    rw [follow] at others
    have operand : Reads (reader b 7) ((w :: ws') ++ t' :: ts') e (t' :: ts') :=
      readable.reads (by simp only [List.length_cons]; omega) ht'
    simp only [List.cons_append, List.append_assoc, follow]
    refine Reads.peek.bind (Reads.get_bind fun c hc => ?_)
    rw [Cursor.second?_eq hc]
    obtain ⟨rfl, known⟩ | ⟨v', rfl, known⟩ := known
    · rw [List.nil_append, List.head?_cons, known]
      exact (Reads.advance (by simp)).bind (operand.bind (others.bind Reads.pure))
    · rw [List.singleton_append, List.head?_cons, known]
      exact (Reads.advance (by simp)).bind
        ((Reads.advance (by simp)).bind (operand.bind (others.bind Reads.pure)))

theorem Readable.compare {ws : List TokenKind} {e : Expr}
    {rest : List (CompareOp × List TokenKind × Expr)} (h : Readable 7 ws e) (hw : 0 < ws.length)
    (ne : rest ≠ []) (said : ∀ r ∈ rest, Says 7 r.2.1 r.2.2)
    (readable : ∀ r ∈ rest, Readable 7 r.2.1 r.2.2) :
    Readable 6 (ws ++ chainWords rest) (.compare e (rest.map fun r => (r.1, r.2.2))) := by
  refine .of_reads (by decide) fun {b} hb t ts ht => ?_
  rw [List.length_append] at hb
  have others := reads_comparisons (b := b) (n := b) ts ht said readable (by omega) (by omega)
  obtain ⟨t', ts', follow, ht'⟩ := chainWords_follow ts ht rest
  rw [follow] at others
  rw [List.append_assoc, follow]
  refine (h.reads (by omega) ht').bind (others.bind ?_)
  cases rest with
  | nil => exact absurd rfl ne
  | cons r rest => exact Reads.pure

end

/-! ### Items between brackets -/

/-- Whether a word ends an item: a comma or the closing bracket. -/
def EndsItem (closer : Punct) (t : TokenKind) : Prop := t = .punct .comma ∨ t = .punct closer

/-- Whether a reader reads an item in front of everything that ends it. -/
def ReadsItem (closer : Punct) (item : Parse Expr) (i : Item) : Prop :=
  ∀ t ts, EndsItem closer t → Reads item (i.1 ++ t :: ts) i.2 (t :: ts)

/-- The items behind the first one, each with its comma. -/
def behind (items : List Item) : List TokenKind :=
  (items.map (·.1)).flatMap (.punct .comma :: ·)

section

variable {closer : Punct}

theorem EndsItem.binding {t : TokenKind} (h : EndsItem closer t) (hc : closer.closes = true) :
    t.binding < 1 := by
  obtain rfl | rfl := h
  · decide
  · cases closer <;> first | decide | cases hc

theorem EndsItem.isPunct {t : TokenKind} (h : EndsItem closer t) (hc : closer.closes = true)
    {p : Punct} (comma : p ≠ .comma) (hp : p.closes = false) : t.isPunct p = false := by
  obtain rfl | rfl := h
  · exact decide_eq_false comma
  · refine decide_eq_false ?_
    rintro rfl
    exact Bool.eq_false_iff.1 hp hc

theorem EndsItem.isKeyword {t : TokenKind} (h : EndsItem closer t) (k : Keyword) :
    t.isKeyword k = false := by
  obtain rfl | rfl := h <;> rfl

theorem Starts.not_closer {w : TokenKind} (h : Starts 1 w) (hc : closer.closes = true) :
    w.isPunct closer = false := by
  cases closer <;> first | exact h.isPunct (by decide) | cases hc

/-- What follows an item is the comma of the next one or the closing bracket. -/
theorem behind_follow (closer : Punct) (items : List Item) (ts : List TokenKind) :
    ∃ t ks, behind items ++ .punct closer :: ts = t :: ks ∧ EndsItem closer t := by
  cases items with
  | nil => exact ⟨_, _, rfl, .inr rfl⟩
  | cons i items => exact ⟨_, _, rfl, .inl rfl⟩

theorem length_behind_cons (i : Item) (items : List Item) :
    (behind (i :: items)).length = 1 + i.1.length + (behind items).length := by
  simp [behind]
  omega

theorem length_le_behind : ∀ {items : List Item}, ∀ i ∈ items,
    i.1.length ≤ (behind items).length
  | j :: items, i, h => by
    rw [length_behind_cons]
    obtain rfl | h := List.mem_cons.1 h
    · omega
    · have := length_le_behind i h
      omega

theorem length_le_commas {items : List Item} (i : Item) (h : i ∈ items) :
    i.1.length ≤ (commas (items.map (·.1))).length := by
  cases items with
  | nil => cases h
  | cons j items =>
    rw [show commas ((j :: items).map (·.1)) = j.1 ++ behind items from rfl, List.length_append]
    obtain rfl | h := List.mem_cons.1 h
    · omega
    · have := length_le_behind i h
      omega

theorem length_le_series {items : List Item} (i : Item) (h : i ∈ items) :
    i.1.length ≤ (series (items.map (·.1))).length := by
  refine Nat.le_trans (length_le_commas i h) ?_
  unfold series
  split
  · simp [*, commas]
  · exact Nat.le_refl _

/-- Items are read with what is left of the budget. -/
theorem reads_items {b : Nat} {items : List Item} (hc : closer.closes = true)
    (readable : ∀ i ∈ items, Readable 1 i.1 i.2) (hb : ∀ i ∈ items, i.1.length < b) :
    ∀ i ∈ items, ReadsItem closer (exprAt b .expression) i :=
  fun i hi _ _ ends => (readable i hi).self .expression (hb i hi) (ends.binding hc)

section

variable {item : Parse Expr} (ts : List TokenKind) (hc : closer.closes = true)
include hc

theorem reads_moreItems : ∀ {items : List Item} {n : Nat}, (∀ i ∈ items, Says 1 i.1 i.2) →
    (∀ i ∈ items, ReadsItem closer item i) → (behind items).length < n →
    Reads (moreItems item (sees closer) n) (behind items ++ .punct closer :: ts)
      (items.map (·.2)) (.punct closer :: ts)
  | [], n + 1, _, _, _ => by
    have notComma : (TokenKind.punct closer).isPunct .comma = false := by
      cases closer <;> first | rfl | cases hc
    exact (Reads.acceptIf_not notComma).bind Reads.pure
  | i :: items, n + 1, allSaid, allRead, hn => by
    obtain ⟨said, moreSaid⟩ := List.forall_mem_cons.1 allSaid
    obtain ⟨readable, moreRead⟩ := List.forall_mem_cons.1 allRead
    rw [length_behind_cons] at hn
    have others := reads_moreItems (n := n) moreSaid moreRead (by omega)
    obtain ⟨t, ks, follow, ends⟩ := behind_follow closer items ts
    have split : behind (i :: items) ++ .punct closer :: ts = .punct .comma :: (i.1 ++ t :: ks) := by
      rw [← follow, ← List.append_assoc]
      rfl
    have first := readable t ks ends
    obtain ⟨w, ks', begin, starts⟩ := said.begin (t :: ks)
    rw [follow] at others
    rw [begin] at split first
    rw [split]
    refine (Reads.acceptIf rfl (by simp)).bind (Reads.ahead.bind ?_)
    rw [if_neg (by simp [starts.not_closer hc])]
    exact first.bind (others.bind Reads.pure)

variable {i : Item} {items : List Item} {n : Nat}

/-- What is left of a list behind its first item. -/
theorem reads_commas (said : ∀ j ∈ i :: items, Says 1 j.1 j.2)
    (readable : ∀ j ∈ i :: items, ReadsItem closer item j)
    (hn : (commas ((i :: items).map (·.1))).length ≤ n) :
    ∃ t ks, commas ((i :: items).map (·.1)) ++ .punct closer :: ts = i.1 ++ t :: ks ∧
      EndsItem closer t ∧
      Reads (moreItems item (sees closer) n) (t :: ks) (items.map (·.2)) (.punct closer :: ts) := by
  have split : commas ((i :: items).map (·.1)) = i.1 ++ behind items := rfl
  obtain ⟨said, moreSaid⟩ := List.forall_mem_cons.1 said
  have := said.length_pos
  rw [split, List.length_append] at hn
  have others := reads_moreItems ts hc (n := n) moreSaid (List.forall_mem_cons.1 readable).2
    (by omega)
  obtain ⟨t, ks, follow, ends⟩ := behind_follow closer items ts
  rw [follow] at others
  exact ⟨t, ks, by rw [split, List.append_assoc, follow], ends, others⟩

/-- What is left of a tuple behind its first item. -/
theorem reads_series (said : ∀ j ∈ i :: items, Says 1 j.1 j.2)
    (readable : ∀ j ∈ i :: items, ReadsItem closer item j)
    (hn : (series ((i :: items).map (·.1))).length ≤ n) :
    ∃ ks, series ((i :: items).map (·.1)) ++ .punct closer :: ts = i.1 ++ .punct .comma :: ks ∧
      Reads (moreItems item (sees closer) n) (.punct .comma :: ks) (items.map (·.2))
        (.punct closer :: ts) := by
  cases items with
  | nil =>
    refine ⟨.punct closer :: ts, by simp [series], ?_⟩
    simp only [series, List.map_cons, List.map_nil, List.length_append, List.length_singleton] at hn
    obtain ⟨n, rfl⟩ : ∃ k, n = k + 1 := ⟨n - 1, by omega⟩
    refine (Reads.acceptIf rfl (by simp)).bind (Reads.ahead.bind ?_)
    rw [if_pos (by simp [TokenKind.isPunct])]
    exact Reads.pure
  | cons j items =>
    obtain ⟨t, ks, split, -, others⟩ := reads_commas ts hc said readable hn
    have comma : t :: ks = .punct .comma :: (j.1 ++ (behind items ++ .punct closer :: ts)) := by
      refine List.append_cancel_left (split.symm.trans ?_)
      simp [commas, behind]
    rw [comma] at split others
    exact ⟨_, split, others⟩

end

end

/-! ### Atoms -/

section

variable {ws : List TokenKind} {e : Expr} {items : List Item}

theorem Readable.name {x : String} : Readable 16 [.ident x] (.name x) :=
  .of_reads (by decide) fun _ _ _ _ => Reads.peek.bind ((Reads.advance (by simp)).bind Reads.pure)

theorem Readable.group (said : Says 1 ws e) (h : Readable 1 ws e) :
    Readable 16 (bracketed .lparen ws .rparen) e := by
  refine .of_reads (by decide) fun {b} hb t ts _ => ?_
  simp only [bracketed, List.length_cons, List.length_append] at hb
  simp only [bracketed, List.cons_append, List.append_assoc, List.nil_append]
  have inside : Reads (exprAt b .expression) (ws ++ .punct .rparen :: t :: ts) e
      (.punct .rparen :: t :: ts) := h.self .expression (by omega) (by decide)
  obtain ⟨w, ks, begin, starts⟩ := said.begin (.punct .rparen :: t :: ts)
  rw [begin] at inside ⊢
  refine Reads.peek.bind ((Reads.advance (by simp)).bind ?_)
  refine (Reads.acceptIf_not (starts.isPunct (by decide))).bind (inside.bind ?_)
  exact Reads.ahead.bind (Reads.ahead.bind ((Reads.expectIf rfl (by simp)).bind Reads.pure))

theorem Readable.tuple (said : ∀ i ∈ items, Says 1 i.1 i.2)
    (readable : ∀ i ∈ items, Readable 1 i.1 i.2) :
    Readable 16 (bracketed .lparen (series (items.map (·.1))) .rparen)
      (.tuple (items.map (·.2))) := by
  refine .of_reads (by decide) fun {b} hb t ts _ => ?_
  simp only [bracketed, List.length_cons, List.length_append] at hb
  simp only [bracketed, List.cons_append, List.append_assoc, List.nil_append]
  refine Reads.peek.bind ((Reads.advance (by simp)).bind ?_)
  cases items with
  | nil => exact (Reads.acceptIf rfl (by simp)).bind Reads.pure
  | cons i items =>
    have inside := reads_items (b := b) (show Punct.rparen.closes = true from rfl) readable
      fun j hj => by have := length_le_series j hj; omega
    obtain ⟨ks, split, others⟩ := reads_series (n := b) (t :: ts) rfl said inside (by omega)
    have first := inside i List.mem_cons_self (.punct .comma) ks (.inl rfl)
    obtain ⟨w, ks', begin, starts⟩ := (said i List.mem_cons_self).begin (.punct .comma :: ks)
    rw [begin] at split first
    rw [split]
    refine (Reads.acceptIf_not (starts.isPunct (by decide))).bind (first.bind ?_)
    refine Reads.ahead.bind (Reads.ahead.bind ?_)
    exact others.bind ((Reads.expectIf rfl (by simp)).bind Reads.pure)

theorem Readable.list (said : ∀ i ∈ items, Says 1 i.1 i.2)
    (readable : ∀ i ∈ items, Readable 1 i.1 i.2) :
    Readable 16 (bracketed .lbracket (commas (items.map (·.1))) .rbracket)
      (.list (items.map (·.2))) := by
  refine .of_reads (by decide) fun {b} hb t ts _ => ?_
  simp only [bracketed, List.length_cons, List.length_append] at hb
  simp only [bracketed, List.cons_append, List.append_assoc, List.nil_append]
  refine Reads.peek.bind ((Reads.advance (by simp)).bind ?_)
  cases items with
  | nil => exact (Reads.acceptIf rfl (by simp)).bind Reads.pure
  | cons i items =>
    have inside := reads_items (b := b) (show Punct.rbracket.closes = true from rfl) readable
      fun j hj => by have := length_le_commas j hj; omega
    obtain ⟨t', ks, split, ends, others⟩ := reads_commas (n := b) (t :: ts) rfl said inside (by omega)
    have first := inside i List.mem_cons_self t' ks ends
    obtain ⟨w, ks', begin, starts⟩ := (said i List.mem_cons_self).begin (t' :: ks)
    rw [begin] at split first
    rw [split]
    refine (Reads.acceptIf_not (starts.isPunct (by decide))).bind (first.bind ?_)
    refine Reads.ahead.bind ?_
    rw [if_neg (by simp [ends.isKeyword])]
    exact others.bind ((Reads.expectIf rfl (by simp)).bind Reads.pure)

end

/-! ### Trailers -/

section

variable {b : Nat} {ws : List TokenKind} {e : Expr} {items : List Item}

theorem Readable.access {x : String} (h : Readable 15 ws e) :
    Readable 15 (ws ++ [.punct .dot, .ident x]) (.attribute e x) :=
  h.onward (by decide) (by decide) fun _ _ _ _ _ _ rest =>
    (Reads.acceptIf rfl (by simp)).bind ((Reads.identifier (by simp)).bind rest)

theorem reads_sliceItem {i : Item} (said : Says 1 i.1 i.2)
    (h : ReadsItem .rbracket (exprAt b .expression) i) :
    ReadsItem .rbracket (sliceItem (exprAt b)) i := by
  intro t ts ends
  have first := h t ts ends
  have notColon : t.isPunct .colon = false := ends.isPunct rfl (by decide) rfl
  obtain ⟨w, ks, begin, starts⟩ := said.begin (t :: ts)
  rw [begin] at first ⊢
  refine Reads.ahead.bind ?_
  rw [if_neg (by simp [starts.isPunct])]
  exact first.map.bind ((Reads.acceptIf_not notColon).bind Reads.pure)

/-- A subscript is read if what stands between its brackets is. -/
theorem Readable.indexed {us : List TokenKind} {index : Expr} (h : Readable 15 ws e)
    (inside : ∀ {b}, us.length < b → ∀ ts,
      Reads (Parse.subscript b (exprAt b)) (us ++ .punct .rbracket :: ts) index
        (.punct .rbracket :: ts)) :
    Readable 15 (ws ++ bracketed .lbracket us .rbracket) (.subscript e index) := by
  refine h.onward (by decide) (by decide) fun {b m} hb t ts _ a ks rest => ?_
  rw [List.length_append] at hb
  rw [List.append_assoc]
  refine (Reads.acceptIf_not rfl).bind ((Reads.acceptIf_not rfl).bind ?_)
  refine (Reads.acceptIf rfl (by simp)).bind ((inside (by omega) (t :: ts)).bind ?_)
  exact (Reads.expectIf rfl (by simp)).bind rest

theorem Readable.subscript {ws' : List TokenKind} {e' : Expr} (h : Readable 15 ws e)
    (said : Says 1 ws' e') (h' : Readable 1 ws' e') :
    Readable 15 (ws ++ bracketed .lbracket ws' .rbracket) (.subscript e e') :=
  h.indexed fun {b} hb ts => by
    have item : ReadsItem .rbracket (exprAt b .expression) (ws', e') := fun _ _ ends =>
      h'.self .expression hb (ends.binding rfl)
    have index := reads_sliceItem (i := (ws', e')) said item (.punct .rbracket) ts (.inr rfl)
    exact index.bind (Reads.ahead.bind Reads.pure)

theorem Readable.subscripts (h : Readable 15 ws e) (ne : items ≠ [])
    (said : ∀ i ∈ items, Says 1 i.1 i.2) (readable : ∀ i ∈ items, Readable 1 i.1 i.2) :
    Readable 15 (ws ++ bracketed .lbracket (series (items.map (·.1))) .rbracket)
      (.subscript e (.tuple (items.map (·.2)))) :=
  h.indexed fun {b} hb ts => by
    cases items with
    | nil => exact absurd rfl ne
    | cons i items =>
      have inside := reads_items (b := b) (show Punct.rbracket.closes = true from rfl) readable
        fun j hj => Nat.lt_of_le_of_lt (length_le_series j hj) hb
      have slices : ∀ j ∈ i :: items, ReadsItem .rbracket (sliceItem (exprAt b)) j :=
        fun j hj => reads_sliceItem (said j hj) (inside j hj)
      obtain ⟨ks, split, others⟩ := reads_series (n := b) ts rfl said slices (Nat.le_of_lt hb)
      have first := slices i List.mem_cons_self (.punct .comma) ks (.inl rfl)
      rw [split]
      exact first.bind (Reads.ahead.bind (others.bind Reads.pure))

/-- No word behind the first one of an argument is `=`, so that no name is taken for that of a
parameter. -/
theorem Says.second_ne_eq {l : Nat} {ks ts : List TokenKind} {w t : TokenKind}
    (said : Says l ws e) (ends : EndsItem .rparen t) (h : ws ++ t :: ts = w :: ks) :
    ks.head? ≠ some (.punct .eq) := by
  obtain ⟨v, more, rfl, -⟩ := said.head
  have speakable := (List.forall_mem_cons.1 said.speakable).2
  obtain ⟨-, rfl⟩ := List.cons.inj h
  intro hh
  cases more with
  | nil =>
    obtain rfl | rfl := ends
    · cases hh
    · cases hh
  | cons u more =>
    cases hh
    exact (speakable _ List.mem_cons_self).2 rfl

theorem reads_argument {i : Item} (said : Says 1 i.1 i.2)
    (h : ReadsItem .rparen (exprAt b .expression) i) {t : TokenKind} (ts : List TokenKind)
    (ends : EndsItem .rparen t) :
    Reads (Parse.argument b (exprAt b)) (i.1 ++ t :: ts) (.positional i.2) (t :: ts) := by
  have value := h t ts ends
  obtain ⟨w, ks, begin, starts⟩ := said.begin (t :: ts)
  have plain := said.second_ne_eq ends begin
  rw [begin] at value ⊢
  refine (Reads.acceptIf_not (starts.isPunct (by decide))).bind (Reads.ahead.bind ?_)
  rw [if_neg (by simp [starts.isPunct])]
  refine Reads.peek.bind (Reads.get_bind fun c hc => ?_)
  rw [Cursor.second?_eq hc]
  split
  · exact absurd ‹_› plain
  · refine value.bind (Reads.ahead.bind ?_)
    rw [if_neg (by simp [ends.isKeyword])]
    exact Reads.pure

theorem reads_arguments (ts : List TokenKind) : ∀ {args : List Item} {n : Nat},
    (∀ i ∈ args, Says 1 i.1 i.2) → (∀ i ∈ args, ReadsItem .rparen (exprAt b .expression) i) →
    (commas (args.map (·.1))).length < n →
    Reads (arguments b (exprAt b) n) (commas (args.map (·.1)) ++ .punct .rparen :: ts)
      (args.map (.positional ·.2)) (.punct .rparen :: ts)
  | [], n + 1, _, _, _ => Reads.ahead.bind Reads.pure
  | [i], n + 1, said, readable, _ => by
    have one : commas ([i].map (·.1)) = i.1 := by simp [commas]
    have first := reads_argument (said i List.mem_cons_self) (readable i List.mem_cons_self) ts
      (.inr rfl)
    obtain ⟨w, ks, begin, starts⟩ := (said i List.mem_cons_self).begin (.punct .rparen :: ts)
    rw [one]
    rw [begin] at first ⊢
    refine Reads.ahead.bind ?_
    rw [if_neg (by simp [starts.isPunct])]
    exact first.bind ((Reads.acceptIf_not rfl).bind Reads.pure)
  | i :: j :: args, n + 1, allSaid, allRead, hn => by
    obtain ⟨said, moreSaid⟩ := List.forall_mem_cons.1 allSaid
    obtain ⟨readable, moreRead⟩ := List.forall_mem_cons.1 allRead
    have split : commas ((i :: j :: args).map (·.1)) =
        i.1 ++ .punct .comma :: commas ((j :: args).map (·.1)) := commas_cons_cons _ _ _
    rw [split, List.length_append, List.length_cons] at hn
    have others := @reads_arguments ts (j :: args) n moreSaid moreRead (by omega)
    have first := reads_argument said readable
      (commas ((j :: args).map (·.1)) ++ .punct .rparen :: ts) (.inl rfl)
    obtain ⟨w, ks, begin, starts⟩ := said.begin
      (.punct .comma :: (commas ((j :: args).map (·.1)) ++ .punct .rparen :: ts))
    rw [split, List.append_assoc, List.cons_append]
    rw [begin] at first ⊢
    refine Reads.ahead.bind ?_
    rw [if_neg (by simp [starts.isPunct])]
    exact first.bind ((Reads.acceptIf rfl (by simp)).bind (others.bind Reads.pure))

theorem Readable.call (h : Readable 15 ws e) (said : ∀ i ∈ items, Says 1 i.1 i.2)
    (readable : ∀ i ∈ items, Readable 1 i.1 i.2) :
    Readable 15 (ws ++ bracketed .lparen (commas (items.map (·.1))) .rparen)
      (.call e (items.map (.positional ·.2))) := by
  refine h.onward (by decide) (by decide) fun {b m} hb t ts _ a ks rest => ?_
  rw [List.length_append] at hb
  have inside := reads_items (b := b) (show Punct.rparen.closes = true from rfl) readable
    fun j hj => by have := length_le_commas j hj; omega
  have args := reads_arguments (n := b) (t :: ts) said inside (by omega)
  rw [List.append_assoc]
  refine (Reads.acceptIf_not rfl).bind ((Reads.acceptIf rfl (by simp)).bind (args.bind ?_))
  exact (Reads.expectIf rfl (by simp)).bind rest

end

/-! ### Every expression -/

/-- Words that say an expression are read as this expression. -/
theorem Says.readable {l : Nat} {ws : List TokenKind} {e : Expr} (h : Says l ws e) :
    Readable l ws e := by
  induction h with
  | loosen said ih => exact .loosen said ih
  | name => exact .name
  | group said ih => exact .group said ih
  | tuple said ih => exact .tuple said ih
  | list said ih => exact .list said ih
  | access _ _ ih => exact .access ih
  | call _ said ih ih' => exact .call ih said ih'
  | subscript _ said ih ih' => exact .subscript ih said ih'
  | subscripts _ ne said ih ih' => exact .subscripts ih ne said ih'
  | pow _ _ ih ih' => exact .pow ih ih'
  | unary said ih => exact .unary said ih
  | binary ne _ _ ih ih' => exact .binary ne ih ih'
  | compare said ne each ih ih' => exact .compare ih said.length_pos ne each ih'
  | boolOp _ _ ih ih' => exact .boolOp ih ih'
  | ifElse _ said _ ih ih' ih'' => exact .ifElse said ih ih' ih''

/-! ### Whole texts -/

theorem reads_skipNewlines : ∀ {b : Nat}, 0 < b →
    Reads (skipNewlines b) [.newline, .eof] () [.eof]
  | b + 1, _ => by
    refine (Reads.acceptIf rfl (by simp)).bind ?_
    cases b with
    | zero => exact Reads.pure
    | succ b => exact (Reads.acceptIf_not rfl).bind Reads.pure

/-- An expression makes up a whole text if its words are followed by the end of the line. -/
theorem reads_standalone {b : Nat} {ws : List TokenKind} {e : Expr} (hb : 0 < b)
    (h : Reads (exprAt b .expression) (ws ++ [.newline, .eof]) e [.newline, .eof]) :
    Reads (standalone b (exprAt b)) (ws ++ [.newline, .eof]) e [.eof] := by
  refine h.bind ((Reads.acceptIf_not rfl).bind ((reads_skipNewlines hb).bind ?_))
  refine Reads.get_bind fun c hc => ?_
  have atEnd : c.atEnd = true := by
    rw [Cursor.atEnd, (List.cons.inj hc).1]
  rw [if_pos atEnd]
  exact Reads.pure

/-- A text is read as the expression that its words are read as. -/
theorem parseExpr_of_reads {source text : List Char} {ts : List Token} {ws : List TokenKind}
    {e : Expr} (trim : ((source.dropWhile isSpace).reverse.dropWhile isSpace).reverse = text)
    (lexed : tokens (String.ofList text) = .ok ts)
    (kinds : ts.map (·.kind) = ws ++ [.newline, .eof])
    (h : ∀ b, b = nestingBudget (String.ofList text) →
      Reads (exprAt b .expression) (ws ++ [.newline, .eof]) e [.newline, .eof]) :
    parseExpr (String.ofList source) = .ok e := by
  have start : (Cursor.ofTokens ts).kinds = ws ++ [.newline, .eof] := by
    cases ts with
    | nil => simp at kinds
    | cons t ts => exact kinds
  have pos : 0 < nestingBudget (String.ofList text) := Nat.succ_pos _
  obtain ⟨c, -, read⟩ := reads_standalone pos (h _ rfl) _ start
  rw [parseExpr, String.toList_ofList, trim, Parse.runOn, lexed]
  simp only [read]
  rfl

theorem Spells.length_le {cs : List Char} {ws : List TokenKind} (h : Spells cs ws) :
    ws.length ≤ cs.length := by
  induction h with
  | last word =>
    obtain ⟨c, tail, eq, -⟩ := word.chars.1
    simp [eq]
  | more word _ _ _ ih =>
    obtain ⟨c, tail, eq, -⟩ := word.chars.1
    simp only [eq, List.length_append, List.length_cons]
    omega

/-- A text that spells words that say an expression is read as this expression, whatever blanks
stand between the words and around them. -/
theorem parseExpr_spells {ws : List TokenKind} {e : Expr} (said : Says 1 ws e)
    {cs before after : List Char} (spells : Spells cs ws) (hb : ∀ c ∈ before, isSpace c = true)
    (ha : ∀ c ∈ after, isSpace c = true) :
    parseExpr (String.ofList (before ++ cs ++ after)) = .ok e := by
  obtain ⟨ts, lexed, kinds⟩ := tokens_of_spells spells
  refine parseExpr_of_reads (spells.trim hb ha) lexed kinds fun b hb => ?_
  have budget : ws.length < b := by
    have := spells.length_le
    rw [hb, nestingBudget, String.length_ofList]
    omega
  exact said.readable.self .expression budget (by decide)

/-- The grammar is unambiguous. -/
theorem Says.unique {ws : List TokenKind} {e e' : Expr} (h : Says 1 ws e) (h' : Says 1 ws e') :
    e = e' := by
  have ne : ws ≠ [] := List.ne_nil_of_length_pos h.length_pos
  have spells := spells_spaced ne fun w hw => (h.speakable w hw).1
  have nothing : ∀ c ∈ ([] : List Char), isSpace c = true := by simp
  have read := parseExpr_spells h spells nothing nothing
  rw [parseExpr_spells h' spells nothing nothing] at read
  exact (Except.ok.inj read).symm

/-- An expression that is put into words with no more brackets than its operators need, and
written down with any blanks that keep the words apart, is read back as it was. One blank between
any two words does. -/
theorem parseExpr_words {e : Expr} (plain : e.Plain) :
    Spells (spaced (e.words 1)) (e.words 1) ∧
      ∀ cs before after, Spells cs (e.words 1) → (∀ c ∈ before, isSpace c = true) →
        (∀ c ∈ after, isSpace c = true) →
        parseExpr (String.ofList (before ++ cs ++ after)) = .ok e := by
  have said := plain.said
  have ne : e.words 1 ≠ [] := List.ne_nil_of_length_pos said.length_pos
  exact ⟨spells_spaced ne fun w hw => (said.speakable w hw).1,
    fun _ _ _ spells hb ha => parseExpr_spells said spells hb ha⟩

/-- A sign is looser than `**` on its left, and may stand on its right. -/
theorem parseExpr_words_pow :
    let e := Expr.binary .pow (.unary .neg (.name "a")) (.unary .neg (.name "b"))
    e.Plain ∧ parseExpr "( - a ) ** - b" = .ok e := by
  intro e
  have name : ∀ c : Char, isNameStart c = true → Keyword.ofText? (String.ofList [c]) = none →
      IsName (String.ofList [c]) := fun c start free =>
    ⟨⟨c, [], String.toList_ofList, start, by simp⟩, free⟩
  have plain : e.Plain :=
    .binary (.unary (.name (name 'a' (by decide) (by decide))))
      (.unary (.name (name 'b' (by decide) (by decide))))
  have words : e.words 1 = [.punct .lparen, .punct .minus, .ident "a", .punct .rparen,
      .punct .doubleStar, .punct .minus, .ident "b"] := rfl
  have text : [] ++ spaced (e.words 1) ++ [] = "( - a ) ** - b".toList := by
    rw [words]
    rfl
  obtain ⟨spells, read⟩ := parseExpr_words plain
  refine ⟨plain, ?_⟩
  have := read _ [] [] spells (by simp) (by simp)
  rwa [text, String.ofList_toList] at this

end Stepwise.Script
