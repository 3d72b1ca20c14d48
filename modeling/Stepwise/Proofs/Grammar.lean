import Stepwise.Proofs.Spelling
import Stepwise.Script.Parse.Expr

/-!
# The grammar of operators

Which words say an expression (`Says`), level by level, and how an expression is put into words
with no more brackets than the levels ask for (`Expr.words`).

## The model

Levels are numbered from the loosest to the tightest:

* 1 `lambda`
* 2 `a if c else b`
* 3 `or`, 4 `and`, 5 `not`
* 6 comparisons
* 7 `|`, 8 `^`, 9 `&`, 10 `<<` `>>`, 11 `+` `-`, 12 `*` `/` `//` `%`
* 13 unary `-` `+` `~`
* 14 `**`
* 15 calls, subscripts and attributes
* 16 names and what stands in brackets

What is written at a level may stand wherever a looser one is asked for. A binary or Boolean
operator has its own level on its left and the next one on its right; `**` has trailers on its left
and a unary operator on its right; an operator in front of its operand has its own level behind it.
The items of a tuple stand in round brackets or, between the brackets of a subscript, alone.
-/

namespace Stepwise.Script

/-! ### Operators -/

/-- The level of a binary operator. -/
def BinaryOp.level : BinaryOp → Nat
  | .bitOr => 7
  | .bitXor => 8
  | .bitAnd => 9
  | .shl | .shr => 10
  | .add | .sub => 11
  | .mul | .div | .floorDiv | .mod => 12
  | .pow => 14

/-- The mark of a binary operator. -/
def BinaryOp.mark : BinaryOp → Punct
  | .bitOr => .pipe
  | .bitXor => .caret
  | .bitAnd => .amp
  | .shl => .shl
  | .shr => .shr
  | .add => .plus
  | .sub => .minus
  | .mul => .star
  | .div => .slash
  | .floorDiv => .doubleSlash
  | .mod => .percent
  | .pow => .doubleStar

/-- The level of an operator in front of its operand. -/
def UnaryOp.level : UnaryOp → Nat
  | .not => 5
  | .neg | .pos | .invert => 13

/-- The word for an operator in front of its operand. -/
def UnaryOp.word : UnaryOp → TokenKind
  | .not => .keyword .not
  | .neg => .punct .minus
  | .pos => .punct .plus
  | .invert => .punct .tilde

/-- The level of `and` and `or`. -/
def BoolOp.level : BoolOp → Nat
  | .or => 3
  | .and => 4

/-- The keyword of `and` and `or`. -/
def BoolOp.keyword : BoolOp → Keyword
  | .or => .or
  | .and => .and

/-- The words of a comparison. -/
def CompareOp.words : CompareOp → List TokenKind
  | .eq => [.punct .eqEq]
  | .ne => [.punct .notEq]
  | .lt => [.punct .lt]
  | .le => [.punct .le]
  | .gt => [.punct .gt]
  | .ge => [.punct .ge]
  | .isIn => [.keyword .in]
  | .notIn => [.keyword .not, .keyword .in]
  | .is => [.keyword .is]
  | .isNot => [.keyword .is, .keyword .not]

/-- The level at which a word goes on with the expression in front of it; 0 if it does not. -/
def TokenKind.binding : TokenKind → Nat
  | .keyword .if => 2
  | .keyword .or => 3
  | .keyword .and => 4
  | .keyword .not | .keyword .in | .keyword .is => 6
  | .punct .eqEq | .punct .notEq | .punct .lt | .punct .le | .punct .gt | .punct .ge => 6
  | .punct .pipe => 7
  | .punct .caret => 8
  | .punct .amp => 9
  | .punct .shl | .punct .shr => 10
  | .punct .plus | .punct .minus => 11
  | .punct .star | .punct .slash | .punct .doubleSlash | .punct .percent => 12
  | .punct .doubleStar => 14
  | .punct .lparen | .punct .lbracket | .punct .dot => 15
  | _ => 0

/-! ### Lists of items -/

/-- Items with commas between them. -/
def commas : List (List TokenKind) → List TokenKind
  | [] => []
  | ws :: wss => ws ++ wss.flatMap (.punct .comma :: ·)

/-- Items that make a tuple: a single one has a comma behind it. -/
def series : List (List TokenKind) → List TokenKind
  | [ws] => ws ++ [.punct .comma]
  | wss => commas wss

/-- Words between two brackets. -/
def bracketed (left : Punct) (ws : List TokenKind) (right : Punct) : List TokenKind :=
  .punct left :: (ws ++ [.punct right])

/-! ### What words say -/

/-- An expression and its words. -/
abbrev Item := List TokenKind × Expr

/-- `Says l ws e`: where an expression of level `l` is asked for, the words `ws` say `e`. -/
inductive Says : Nat → List TokenKind → Expr → Prop where
  /-- What is written at a level may stand at a looser one. -/
  | loosen {l ws e} : Says (l + 1) ws e → Says l ws e
  | name {x} : IsName x → Says 16 [.ident x] (.name x)
  /-- Round brackets may stand around everything. -/
  | group {ws e} : Says 1 ws e → Says 16 (bracketed .lparen ws .rparen) e
  | tuple {items : List Item} : (∀ i ∈ items, Says 1 i.1 i.2) →
      Says 16 (bracketed .lparen (series (items.map (·.1))) .rparen) (.tuple (items.map (·.2)))
  | list {items : List Item} : (∀ i ∈ items, Says 1 i.1 i.2) →
      Says 16 (bracketed .lbracket (commas (items.map (·.1))) .rbracket) (.list (items.map (·.2)))
  | access {ws e x} : Says 15 ws e → IsName x →
      Says 15 (ws ++ [.punct .dot, .ident x]) (.attribute e x)
  | call {ws e} {args : List Item} : Says 15 ws e →
      (∀ i ∈ args, Says 1 i.1 i.2) →
      Says 15 (ws ++ bracketed .lparen (commas (args.map (·.1))) .rparen)
        (.call e (args.map (.positional ·.2)))
  | subscript {ws e ws' e'} : Says 15 ws e → Says 1 ws' e' →
      Says 15 (ws ++ bracketed .lbracket ws' .rbracket) (.subscript e e')
  /-- Between these brackets a tuple needs none of its own. -/
  | subscripts {ws e} {items : List Item} : Says 15 ws e → items ≠ [] →
      (∀ i ∈ items, Says 1 i.1 i.2) →
      Says 15 (ws ++ bracketed .lbracket (series (items.map (·.1))) .rbracket)
        (.subscript e (.tuple (items.map (·.2))))
  | pow {ws e ws' e'} : Says 15 ws e → Says 13 ws' e' →
      Says 14 (ws ++ .punct .doubleStar :: ws') (.binary .pow e e')
  | unary {op ws e} : Says op.level ws e → Says op.level (op.word :: ws) (.unary op e)
  | binary {op ws e ws' e'} : op ≠ .pow → Says op.level ws e → Says (op.level + 1) ws' e' →
      Says op.level (ws ++ .punct op.mark :: ws') (.binary op e e')
  | compare {ws e} {rest : List (CompareOp × List TokenKind × Expr)} : Says 7 ws e → rest ≠ [] →
      (∀ r ∈ rest, Says 7 r.2.1 r.2.2) →
      Says 6 (ws ++ rest.flatMap fun r => r.1.words ++ r.2.1)
        (.compare e (rest.map fun r => (r.1, r.2.2)))
  | boolOp {op ws e ws' e'} : Says op.level ws e → Says (op.level + 1) ws' e' →
      Says op.level (ws ++ .keyword op.keyword :: ws') (.boolOp op e e')
  /-- The last part may be another conditional expression. -/
  | ifElse {ws test ws' body ws'' orelse} : Says 3 ws test → Says 3 ws' body →
      Says 1 ws'' orelse →
      Says 2 (ws' ++ .keyword .if :: (ws ++ .keyword .else :: ws'')) (.ifElse test body orelse)

/-- The words that an expression of level `l` may start with. -/
inductive Starts (l : Nat) : TokenKind → Prop where
  | name {x} : Starts l (.ident x)
  | round : Starts l (.punct .lparen)
  | square : Starts l (.punct .lbracket)
  | op {op : UnaryOp} : l ≤ op.level → Starts l op.word

theorem Starts.loosen {l l' : Nat} {w : TokenKind} (h : Starts l w) (hl : l' ≤ l) :
    Starts l' w := by
  cases h with
  | name => exact .name
  | round => exact .round
  | square => exact .square
  | op h => exact .op (Nat.le_trans hl h)

/-- An expression has a first word. -/
theorem Says.head {l : Nat} {ws : List TokenKind} {e : Expr} (h : Says l ws e) :
    ∃ w rest, ws = w :: rest ∧ Starts l w := by
  induction h with
  | loosen _ ih =>
    obtain ⟨w, rest, rfl, hw⟩ := ih
    exact ⟨w, rest, rfl, hw.loosen (Nat.le_succ _)⟩
  | name => exact ⟨_, _, rfl, .name⟩
  | group | tuple => exact ⟨_, _, rfl, .round⟩
  | list => exact ⟨_, _, rfl, .square⟩
  | unary => exact ⟨_, _, rfl, .op (Nat.le_refl _)⟩
  | pow _ _ ih | compare _ _ _ ih =>
    obtain ⟨w, rest, rfl, hw⟩ := ih
    exact ⟨w, _, rfl, hw.loosen (by omega)⟩
  | ifElse _ _ _ _ ih =>
    obtain ⟨w, rest, rfl, hw⟩ := ih
    exact ⟨w, _, rfl, hw.loosen (by omega)⟩
  | access _ _ ih | call _ _ ih | subscript _ _ ih | subscripts _ _ _ ih | binary _ _ _ ih
    | boolOp _ _ ih =>
    obtain ⟨w, rest, rfl, hw⟩ := ih
    exact ⟨w, _, rfl, hw⟩

theorem commas_cons_cons (ws ws' : List TokenKind) (wss : List (List TokenKind)) :
    commas (ws :: ws' :: wss) = ws ++ .punct .comma :: commas (ws' :: wss) := by
  simp [commas]

section

variable {p : TokenKind → Prop} (comma : p (.punct .comma))
include comma

theorem forall_mem_commas {wss : List (List TokenKind)} (h : ∀ ws ∈ wss, ∀ w ∈ ws, p w) :
    ∀ w ∈ commas wss, p w := by
  cases wss with
  | nil => simp [commas]
  | cons ws wss =>
    obtain ⟨first, more⟩ := List.forall_mem_cons.1 h
    refine List.forall_mem_append.2 ⟨first, fun w hw => ?_⟩
    obtain ⟨ws', hws', hw⟩ := List.mem_flatMap.1 hw
    obtain rfl | hw := List.mem_cons.1 hw
    · exact comma
    · exact more ws' hws' w hw

theorem forall_mem_series {wss : List (List TokenKind)} (h : ∀ ws ∈ wss, ∀ w ∈ ws, p w) :
    ∀ w ∈ series wss, p w := by
  unfold series
  split
  · exact List.forall_mem_append.2 ⟨h _ List.mem_cons_self, by simpa using comma⟩
  · exact forall_mem_commas comma h

end

theorem forall_mem_bracketed {p : TokenKind → Prop} {left right : Punct} {ws : List TokenKind}
    (hl : p (.punct left)) (h : ∀ w ∈ ws, p w) (hr : p (.punct right)) :
    ∀ w ∈ bracketed left ws right, p w := by
  refine List.forall_mem_cons.2 ⟨hl, List.forall_mem_append.2 ⟨h, ?_⟩⟩
  simpa using hr

/-- What the words of an expression are: names, keywords, and marks other than `=`. -/
def Speakable (w : TokenKind) : Prop := IsWord w ∧ w ≠ .punct .eq

theorem Speakable.mark {p : Punct} (h : p ≠ .eq) : Speakable (.punct p) :=
  ⟨.mark, by simpa using h⟩

theorem Speakable.keyword (k : Keyword) : Speakable (.keyword k) := ⟨.keyword, by simp⟩

theorem Speakable.name {x : String} (h : IsName x) : Speakable (.ident x) := ⟨.name h, by simp⟩

theorem UnaryOp.speakable (op : UnaryOp) : Speakable op.word := by
  cases op with
  | not => exact .keyword _
  | neg | pos | invert => exact .mark (by decide)

theorem BinaryOp.speakable (op : BinaryOp) : Speakable (.punct op.mark) :=
  .mark (by cases op <;> decide)

theorem CompareOp.speakable (op : CompareOp) : ∀ w ∈ op.words, Speakable w := by
  cases op <;> simp [words, Speakable.keyword, Speakable.mark]

theorem Says.speakable {l : Nat} {ws : List TokenKind} {e : Expr} (h : Says l ws e) :
    ∀ w ∈ ws, Speakable w := by
  have comma : Speakable (.punct .comma) := .mark (by decide)
  have round : ∀ ws : List TokenKind, (∀ w ∈ ws, Speakable w) →
      ∀ w ∈ bracketed .lparen ws .rparen, Speakable w :=
    fun ws h => forall_mem_bracketed (.mark (by decide)) h (.mark (by decide))
  have square : ∀ ws : List TokenKind, (∀ w ∈ ws, Speakable w) →
      ∀ w ∈ bracketed .lbracket ws .rbracket, Speakable w :=
    fun ws h => forall_mem_bracketed (.mark (by decide)) h (.mark (by decide))
  induction h with
  | loosen _ ih => exact ih
  | name h => simpa using Speakable.name h
  | group _ ih => exact round _ ih
  | tuple _ ih => exact round _ (forall_mem_series comma (by simpa using ih))
  | list _ ih => exact square _ (forall_mem_commas comma (by simpa using ih))
  | access _ name ih =>
    refine List.forall_mem_append.2 ⟨ih, ?_⟩
    simp [Speakable.name name, Speakable.mark]
  | call _ _ ih ih' =>
    exact List.forall_mem_append.2 ⟨ih, round _ (forall_mem_commas comma (by simpa using ih'))⟩
  | subscript _ _ ih ih' => exact List.forall_mem_append.2 ⟨ih, square _ ih'⟩
  | subscripts _ _ _ ih ih' =>
    exact List.forall_mem_append.2 ⟨ih, square _ (forall_mem_series comma (by simpa using ih'))⟩
  | pow _ _ ih ih' =>
    exact List.forall_mem_append.2 ⟨ih, List.forall_mem_cons.2 ⟨.mark (by decide), ih'⟩⟩
  | unary _ ih => exact List.forall_mem_cons.2 ⟨UnaryOp.speakable _, ih⟩
  | binary _ _ _ ih ih' =>
    exact List.forall_mem_append.2 ⟨ih, List.forall_mem_cons.2 ⟨BinaryOp.speakable _, ih'⟩⟩
  | compare _ _ _ ih ih' =>
    refine List.forall_mem_append.2 ⟨ih, fun w hw => ?_⟩
    obtain ⟨r, hr, hw⟩ := List.mem_flatMap.1 hw
    obtain hw | hw := List.mem_append.1 hw
    · exact r.1.speakable w hw
    · exact ih' r hr w hw
  | boolOp _ _ ih ih' =>
    exact List.forall_mem_append.2 ⟨ih, List.forall_mem_cons.2 ⟨.keyword _, ih'⟩⟩
  | ifElse _ _ _ ih ih' ih'' =>
    refine List.forall_mem_append.2 ⟨ih', List.forall_mem_cons.2 ⟨.keyword _, ?_⟩⟩
    exact List.forall_mem_append.2 ⟨ih, List.forall_mem_cons.2 ⟨.keyword _, ih''⟩⟩

/-- No number stands for itself among these expressions, so that no sign is part of one. -/
theorem Says.applyUnary {l : Nat} {ws : List TokenKind} {e : Expr} (h : Says l ws e)
    (op : UnaryOp) : applyUnary op e = .unary op e := by
  induction h with
  | loosen _ ih | group _ ih => exact ih
  | _ => cases op <;> rfl

/-! ### Putting an expression into words -/

/-- Expressions without literals, displays in braces, comprehensions, lambdas, slices and arguments
by name: names, operators, tuples, lists, calls, subscripts and attributes. -/
inductive Expr.Plain : Expr → Prop where
  | name {x} : IsName x → Plain (.name x)
  | tuple {items} : (∀ e ∈ items, Plain e) → Plain (.tuple items)
  | list {items} : (∀ e ∈ items, Plain e) → Plain (.list items)
  | access {e x} : Plain e → IsName x → Plain (.attribute e x)
  | subscript {e e'} : Plain e → Plain e' → Plain (.subscript e e')
  | call {e} {args : List Expr} : Plain e → (∀ a ∈ args, Plain a) →
      Plain (.call e (args.map .positional))
  | unary {op e} : Plain e → Plain (.unary op e)
  | binary {op e e'} : Plain e → Plain e' → Plain (.binary op e e')
  | compare {e} {rest : List (CompareOp × Expr)} : Plain e → rest ≠ [] →
      (∀ r ∈ rest, Plain r.2) → Plain (.compare e rest)
  | boolOp {op e e'} : Plain e → Plain e' → Plain (.boolOp op e e')
  | ifElse {test body orelse} : Plain test → Plain body → Plain orelse →
      Plain (.ifElse test body orelse)

/-- Words of the level `own` where the level `l` is asked for: in brackets if that is tighter. -/
def fitted (l own : Nat) (ws : List TokenKind) : List TokenKind :=
  if l ≤ own then ws else bracketed .lparen ws .rparen

mutual

/-- The words of an expression where the level `l` is asked for. The level 0 stands for the place
between the brackets of a subscript. -/
def Expr.words (l : Nat) : Expr → List TokenKind
  | .name x => [.ident x]
  | .tuple items =>
    if l = 0 ∧ items ≠ [] then series (itemWords items)
    else bracketed .lparen (series (itemWords items)) .rparen
  | .list items => bracketed .lbracket (commas (itemWords items)) .rbracket
  | .attribute e x => e.words 15 ++ [.punct .dot, .ident x]
  | .subscript e index => e.words 15 ++ bracketed .lbracket (index.words 0) .rbracket
  | .call e args => e.words 15 ++ bracketed .lparen (commas (argumentWords args)) .rparen
  | .unary op e => fitted l op.level (op.word :: e.words op.level)
  | .binary .pow e e' => fitted l 14 (e.words 15 ++ .punct .doubleStar :: e'.words 13)
  | .binary op e e' =>
    fitted l op.level (e.words op.level ++ .punct op.mark :: e'.words (op.level + 1))
  | .compare e rest => fitted l 6 (e.words 7 ++ restWords rest)
  | .boolOp op e e' =>
    fitted l op.level (e.words op.level ++ .keyword op.keyword :: e'.words (op.level + 1))
  | .ifElse test body orelse =>
    fitted l 2 (body.words 3 ++ .keyword .if :: (test.words 3 ++ .keyword .else :: orelse.words 1))
  | _ => []

/-- The words of some items. -/
def itemWords : List Expr → List (List TokenKind)
  | [] => []
  | e :: es => e.words 1 :: itemWords es

/-- The words of positional arguments. -/
def argumentWords : List Argument → List (List TokenKind)
  | .positional e :: args => e.words 1 :: argumentWords args
  | _ => []

/-- The words of comparisons and the operands behind them. -/
def restWords : List (CompareOp × Expr) → List TokenKind
  | [] => []
  | (op, e) :: rest => op.words ++ e.words 7 ++ restWords rest

end

theorem itemWords_eq (es : List Expr) : itemWords es = es.map (·.words 1) := by
  induction es with
  | nil => rw [itemWords]; rfl
  | cons e es ih => rw [itemWords, ih]; rfl

theorem argumentWords_eq (es : List Expr) :
    argumentWords (es.map .positional) = es.map (·.words 1) := by
  induction es with
  | nil => simp [argumentWords]
  | cons e es ih => simp [argumentWords, ih]

theorem restWords_eq : ∀ rest : List (CompareOp × Expr),
    restWords rest = rest.flatMap fun r => r.1.words ++ r.2.words 7
  | [] => by rw [restWords]; rfl
  | (op, e) :: rest => by rw [restWords, restWords_eq rest]; rfl

theorem Says.lower {l k : Nat} {ws : List TokenKind} {e : Expr} (h : Says k ws e) (hl : l ≤ k) :
    Says l ws e := by
  induction hl with
  | refl => exact h
  | step _ ih => exact ih h.loosen

theorem Says.fitted {l own : Nat} {ws : List TokenKind} {e : Expr} (h : Says own ws e)
    (low : 1 ≤ own) (high : l ≤ 15) : Says l (fitted l own ws) e := by
  unfold Script.fitted
  split
  · exact h.lower ‹_›
  · exact (Says.group (h.lower low)).lower (by omega)

theorem Says.items {es : List Expr} (h : ∀ e ∈ es, Says 1 (e.words 1) e) :
    ∀ i ∈ es.map fun e => (e.words 1, e), Says 1 i.1 i.2 := by
  simpa using h

theorem map_fst_items (es : List Expr) :
    (es.map fun e => (e.words 1, e)).map (·.1) = itemWords es := by
  rw [itemWords_eq, List.map_map]
  rfl

theorem map_snd_items (es : List Expr) :
    (es.map fun e => (e.words 1, e)).map (·.2) = es := by
  rw [List.map_map]
  exact List.map_id _

theorem Says.tupleWords {es : List Expr} (h : ∀ e ∈ es, Says 1 (e.words 1) e) :
    Says 16 (bracketed .lparen (series (itemWords es)) .rparen) (.tuple es) := by
  have := Says.tuple (Says.items h)
  rwa [map_fst_items, map_snd_items] at this

theorem Says.listWords {es : List Expr} (h : ∀ e ∈ es, Says 1 (e.words 1) e) :
    Says 16 (bracketed .lbracket (commas (itemWords es)) .rbracket) (.list es) := by
  have := Says.list (Says.items h)
  rwa [map_fst_items, map_snd_items] at this

theorem Says.callWords {ws : List TokenKind} {e : Expr} {args : List Expr} (he : Says 15 ws e)
    (h : ∀ a ∈ args, Says 1 (a.words 1) a) :
    Says 15 (ws ++ bracketed .lparen (commas (argumentWords (args.map .positional))) .rparen)
      (.call e (args.map .positional)) := by
  have := Says.call he (Says.items h)
  rwa [map_fst_items, List.map_map, itemWords_eq, ← argumentWords_eq] at this

theorem Says.compareWords {ws : List TokenKind} {e : Expr} {rest : List (CompareOp × Expr)}
    (he : Says 7 ws e) (ne : rest ≠ []) (h : ∀ r ∈ rest, Says 7 (r.2.words 7) r.2) :
    Says 6 (ws ++ restWords rest) (.compare e rest) := by
  have each : ∀ r ∈ rest.map fun r => (r.1, r.2.words 7, r.2), Says 7 r.2.1 r.2.2 := by
    intro _ mem
    obtain ⟨r, hr, rfl⟩ := List.mem_map.1 mem
    exact h r hr
  have := Says.compare he (by simpa using ne) each
  rwa [List.flatMap_map, List.map_map, ← restWords_eq, List.map_id''] at this
  exact fun _ => rfl

theorem Expr.words_zero {e : Expr} (h : ∀ items, e = .tuple items → items = []) :
    e.words 0 = e.words 1 := by
  cases e with
  | tuple items =>
    cases h items rfl
    simp [words]
  | unary op e => cases op <;> rfl
  | binary op e e' => cases op <;> rfl
  | boolOp op e e' => cases op <;> rfl
  | _ => simp [words, Script.fitted]

/-- The words for the index of a subscript fit between its brackets. -/
theorem Says.subscriptWords {ws : List TokenKind} {e index : Expr} (he : Says 15 ws e)
    (h : Says 1 (index.words 1) index)
    (items : ∀ es, index = .tuple es → ∀ e ∈ es, Says 1 (e.words 1) e) :
    Says 15 (ws ++ bracketed .lbracket (index.words 0) .rbracket) (.subscript e index) := by
  by_cases bare : ∃ es, index = .tuple es ∧ es ≠ []
  · obtain ⟨es, rfl, ne⟩ := bare
    have := Says.subscripts he (by simpa using ne) (Says.items (items es rfl))
    rw [Expr.words, if_pos ⟨rfl, ne⟩]
    rwa [map_fst_items, map_snd_items] at this
  · rw [Expr.words_zero fun es he => by simpa [he] using bare]
    exact Says.subscript he h

theorem UnaryOp.level_range (op : UnaryOp) : 1 ≤ op.level ∧ op.level ≤ 13 := by
  cases op <;> decide

theorem BinaryOp.level_range (op : BinaryOp) : 1 ≤ op.level ∧ op.level ≤ 14 := by
  cases op <;> decide

theorem BoolOp.level_range (op : BoolOp) : 1 ≤ op.level ∧ op.level ≤ 4 := by
  cases op <;> decide

/-- The words of an expression say it. Of a tuple, the words for its items say these. -/
theorem Expr.Plain.said_items {e : Expr} (h : e.Plain) :
    (∀ {l : Nat}, 1 ≤ l → l ≤ 15 → Says l (e.words l) e) ∧
      ∀ es, e = .tuple es → ∀ e ∈ es, Says 1 (e.words 1) e := by
  induction h with
  | name name =>
    refine ⟨fun low high => ?_, nofun⟩
    rw [words]
    exact (Says.name name).lower (by omega)
  | tuple _ ih =>
    have items := fun e he => (ih e he).1 (Nat.le_refl 1) (by decide)
    refine ⟨fun low high => ?_, fun es h => by cases h; exact items⟩
    rw [words, if_neg (by omega)]
    exact (Says.tupleWords items).lower (by omega)
  | list _ ih =>
    refine ⟨fun low high => ?_, nofun⟩
    rw [words]
    exact (Says.listWords fun e he => (ih e he).1 (Nat.le_refl 1) (by decide)).lower (by omega)
  | access _ name ih =>
    refine ⟨fun low high => ?_, nofun⟩
    rw [words]
    exact (Says.access (ih.1 (by decide) (Nat.le_refl 15)) name).lower high
  | subscript _ _ ih ih' =>
    refine ⟨fun low high => ?_, nofun⟩
    rw [words]
    exact (Says.subscriptWords (ih.1 (by decide) (Nat.le_refl 15))
      (ih'.1 (Nat.le_refl 1) (by decide)) ih'.2).lower high
  | call _ _ ih ih' =>
    refine ⟨fun low high => ?_, nofun⟩
    rw [words]
    exact (Says.callWords (ih.1 (by decide) (Nat.le_refl 15))
      fun a ha => (ih' a ha).1 (Nat.le_refl 1) (by decide)).lower high
  | @unary op _ _ ih =>
    refine ⟨fun low high => ?_, nofun⟩
    have := op.level_range
    rw [words]
    exact (Says.unary (ih.1 this.1 (by omega))).fitted this.1 high
  | @binary op _ _ _ _ ih ih' =>
    refine ⟨fun low high => ?_, nofun⟩
    by_cases pow : op = .pow
    · subst pow
      rw [words]
      exact (Says.pow (ih.1 (by decide) (Nat.le_refl 15)) (ih'.1 (by decide) (by decide))).fitted
        (by decide) high
    · have := op.level_range
      rw [words]
      · exact (Says.binary pow (ih.1 this.1 (by omega)) (ih'.1 (by omega) (by omega))).fitted
          this.1 high
      · exact pow
  | compare _ ne _ ih ih' =>
    refine ⟨fun low high => ?_, nofun⟩
    rw [words]
    exact (Says.compareWords (ih.1 (by decide) (by decide)) ne
      fun r hr => (ih' r hr).1 (by decide) (by decide)).fitted (by decide) high
  | @boolOp op _ _ _ _ ih ih' =>
    refine ⟨fun low high => ?_, nofun⟩
    have := op.level_range
    rw [words]
    exact (Says.boolOp (ih.1 this.1 (by omega)) (ih'.1 (by omega) (by omega))).fitted this.1 high
  | ifElse _ _ _ ih ih' ih'' =>
    refine ⟨fun low high => ?_, nofun⟩
    rw [words]
    exact (Says.ifElse (ih.1 (by decide) (by decide)) (ih'.1 (by decide) (by decide))
      (ih''.1 (by decide) (by decide))).fitted (by decide) high

/-- The words of an expression say it. -/
theorem Expr.Plain.said {e : Expr} (h : e.Plain) : Says 1 (e.words 1) e :=
  h.said_items.1 (Nat.le_refl 1) (by decide)

end Stepwise.Script
