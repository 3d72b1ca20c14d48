import Stepwise.Script.Parse.Field

/-!
# Reading expressions

Expressions by precedence, loosest first:

* `lambda`
* `a if c else b`
* `or`, then `and`, then `not`
* comparisons, `in`, `not in`, `is`, `is not`, in chains
* `|`, then `^`, then `&`, then `<<` `>>`, then `+` `-`, then `*` `/` `//` `%`
* unary `-` `+` `~`
* `**`, which groups to the right and binds tighter than a unary operator to its left
* calls, subscripts and attributes

## The model

Each level is a reader built from the next tighter one. Where an expression stands inside another
one behind a token of its own (in brackets, after an operator that groups to the right), the reader
for it is a parameter: `self l` reads at level `l`. `exprAt` ties the knot. Every use of `self`
comes after a token has been read, or reads the text of an f-string field, so a budget of one for
each character of the source is never used up.
-/

namespace Stepwise.Script

open Stepwise.Text

/-- The levels at which an expression is read inside another one. -/
inductive Level where
  /-- A whole expression, without bare tuples. -/
  | expression
  /-- `or` and tighter. -/
  | disjunction
  /-- `not` and tighter. -/
  | negation
  /-- `|` and tighter. -/
  | bitOr
  /-- Unary operators and tighter. -/
  | factor
  deriving DecidableEq, Repr

/-- The operators of one precedence that group to the left. -/
abbrev BinaryLevel := List (Punct × BinaryOp)

/-- The levels of operators that group to the left, loosest first. -/
def binaryLevels : List BinaryLevel :=
  [[(.pipe, .bitOr)], [(.caret, .bitXor)], [(.amp, .bitAnd)], [(.shl, .shl), (.shr, .shr)],
    [(.plus, .add), (.minus, .sub)],
    [(.star, .mul), (.slash, .div), (.doubleSlash, .floorDiv), (.percent, .mod)]]

/-- The operator of a level that a token stands for. -/
def BinaryLevel.op? (level : BinaryLevel) : TokenKind → Option BinaryOp
  | .punct p => level.lookup p
  | _ => none

/-- The unary operator that a token stands for. -/
def unaryOp? : TokenKind → Option UnaryOp
  | .punct .minus => some .neg
  | .punct .plus => some .pos
  | .punct .tilde => some .invert
  | _ => none

/-- The comparison that a token and the one behind it stand for, and whether it takes both. -/
def compareOp? : TokenKind → Option TokenKind → Option (CompareOp × Bool)
  | .punct .eqEq, _ => some (.eq, false)
  | .punct .notEq, _ => some (.ne, false)
  | .punct .lt, _ => some (.lt, false)
  | .punct .le, _ => some (.le, false)
  | .punct .gt, _ => some (.gt, false)
  | .punct .ge, _ => some (.ge, false)
  | .keyword .in, _ => some (.isIn, false)
  | .keyword .not, some (.keyword .in) => some (.notIn, true)
  | .keyword .is, some (.keyword .not) => some (.isNot, true)
  | .keyword .is, _ => some (.is, false)
  | _, _ => none

/-- The assignment operator that a token stands for. -/
def augmentedOp? : TokenKind → Option BinaryOp
  | .punct .plusEq => some .add
  | .punct .minusEq => some .sub
  | .punct .starEq => some .mul
  | .punct .slashEq => some .div
  | .punct .doubleSlashEq => some .floorDiv
  | .punct .percentEq => some .mod
  | .punct .doubleStarEq => some .pow
  | .punct .ampEq => some .bitAnd
  | .punct .pipeEq => some .bitOr
  | .punct .caretEq => some .bitXor
  | .punct .shlEq => some .shl
  | .punct .shrEq => some .shr
  | _ => none

/-- Whether a token ends a list of expressions that has a comma at its end. -/
def endsExpressionList : TokenKind → Bool
  | .newline | .eof => true
  | .punct p =>
    p ∈ [Punct.semicolon, .eq, .colon, .rparen, .rbracket, .rbrace]
      || (augmentedOp? (.punct p)).isSome
  | _ => false

/-- A unary operator applied; a minus before a number is part of the number. -/
def applyUnary : UnaryOp → Expr → Expr
  | .neg, .int n => .int (-n)
  | .neg, .float x => .float (-x)
  | op, e => .unary op e

namespace Parse

section Levels

variable (budget : Nat) (self : Level → Parse Expr)

/-! ### Lists, targets and comprehensions -/

/-- `expr, expr, …`: more than one, or a comma at the end, makes a tuple. -/
def expressionList : Parse Expr := do
  let first ← self .expression
  if ← sees .comma then
    return .tuple (first :: (← moreItems (self .expression) (ahead endsExpressionList) budget))
  else return first

/-- What a loop or a comprehension binds; stops before `in`. -/
def targetList : Parse Expr := do
  let start ← pos
  let first ← self .bitOr
  let target ← if ← sees .comma then
      pure (.tuple (first :: (← moreItems (self .bitOr) (seesWord .in) budget)))
    else pure first
  if target.isTarget then return target else failAt start .notAssignable

/-- The conditions of a clause. -/
def conditions : (fuel : Nat) → Parse (List Expr)
  | 0 => fail .tooDeep
  | fuel + 1 => do
    if ← acceptWord .if then
      let c ← self .disjunction
      return c :: (← conditions fuel)
    else return []

/-- The clauses of a comprehension. -/
def clauses : (fuel : Nat) → Parse (List Clause)
  | 0 => fail .tooDeep
  | fuel + 1 => do
    if ← acceptWord .for then
      let target ← targetList budget self
      expectWord .in "in comprehension"
      let items ← self .disjunction
      let conds ← conditions self budget
      return .mk target items conds :: (← clauses fuel)
    else return []

/-! ### Parameters and lambdas -/

/-- What has been read of a parameter list. -/
structure Params where
  /-- The parameters, in order. -/
  params : List Param
  /-- The name behind `*`. -/
  vararg : Option String
  /-- The name behind `**`. -/
  kwarg : Option String

/-- A parameter with a name: its annotation is dropped. -/
def namedParam (annotated : Bool) (ps : Params) : Parse Params := do
  let start ← pos
  let name ← identifier
  if annotated then
    if ← accept .colon then
      let _ ← self .expression
  let default ← if ← accept .eq then some <$> self .expression else pure none
  if default.isNone && ps.params.any (·.default.isSome) && ps.vararg.isNone then
    failAt start .defaultOrder
  if ps.params.any (·.name == name) then failAt start (.duplicateParam name)
  return { ps with params := ps.params ++ [.mk name default] }

/-- One parameter of a list. A bare `*` has no effect. -/
def parameter (annotated : Bool) (ps : Params) : Parse Params := do
  if ← accept .doubleStar then return { ps with kwarg := some (← identifier) }
  else if ← accept .star then
    match ← peek with
    | .ident _ => return { ps with vararg := some (← identifier) }
    | _ => return ps
  else namedParam self annotated ps

/-- A parameter list up to `closing`. -/
def parameters (closing : Punct) (annotated : Bool) : (fuel : Nat) → Params → Parse Params
  | 0, _ => fail .tooDeep
  | fuel + 1, ps => do
    if ← sees closing then return ps
    let ps ← parameter self annotated ps
    if ← accept .comma then parameters closing annotated fuel ps else return ps

/-- `lambda params: value`. -/
def lambda : Parse Expr := do
  let start ← pos
  advance
  let ps ← parameters self .colon false budget ⟨[], none, none⟩
  expect .colon "in lambda"
  let value ← self .expression
  let endLine := (← get).lastLine
  return .lambda (.mk "<lambda>" ps.params ps.vararg ps.kwarg
    [.mk (.return_ (some value)) start endLine] start)

/-! ### Calls and subscripts -/

/-- One argument of a call. -/
def argument : Parse Argument := do
  if ← accept .star then return .star (← self .expression)
  if ← sees .doubleStar then fail .keywordUnpacking
  match ← peek, (← get).second? with
  | .ident name, some (.punct .eq) =>
    advance
    advance
    return .keyword name (← self .expression)
  | _, _ =>
    let value ← self .expression
    if ← seesWord .for then
      return .positional (.listComp value (← clauses budget self budget))
    else return .positional value

/-- The arguments of a call, up to the closing bracket. -/
def arguments : (fuel : Nat) → Parse (List Argument)
  | 0 => fail .tooDeep
  | fuel + 1 => do
    if ← sees .rparen then return []
    let a ← argument budget self
    if ← accept .comma then return a :: (← arguments fuel) else return [a]

/-- A bound of a slice, if there is one. -/
def sliceBound : Parse (Option Expr) := do
  if ← ahead (fun t => t.isPunct .colon || t.isPunct .rbracket || t.isPunct .comma) then
    return none
  else some <$> self .expression

/-- An index or a slice. -/
def sliceItem : Parse Expr := do
  let lower ← if ← sees .colon then pure none else some <$> self .expression
  if ← accept .colon then
    let upper ← sliceBound self
    let step ← if ← accept .colon then sliceBound self else pure none
    return .slice lower upper step
  else match lower with
    | some e => return e
    | none => fail .noSubscript

/-- What stands between the brackets of a subscript. -/
def subscript : Parse Expr := do
  let first ← sliceItem self
  if ← sees .comma then
    return .tuple (first :: (← moreItems (sliceItem self) (sees .rbracket) budget))
  else return first

/-! ### Atoms -/

/-- What follows an opening round bracket. -/
def parenthesized : Parse Expr := do
  if ← accept .rparen then return .tuple []
  let first ← self .expression
  if ← seesWord .for then
    let cs ← clauses budget self budget
    expect .rparen "after generator expression"
    return .listComp first cs
  else if ← sees .comma then
    let items ← moreItems (self .expression) (sees .rparen) budget
    expect .rparen "after tuple"
    return .tuple (first :: items)
  else
    expect .rparen "after expression"
    return first

/-- What follows an opening square bracket. -/
def listDisplay : Parse Expr := do
  if ← accept .rbracket then return .list []
  let first ← self .expression
  if ← seesWord .for then
    let cs ← clauses budget self budget
    expect .rbracket "after list comprehension"
    return .listComp first cs
  else
    let items ← moreItems (self .expression) (sees .rbracket) budget
    expect .rbracket "after list"
    return .list (first :: items)

/-- A key and its value. -/
def dictItem : Parse (Expr × Expr) := do
  let key ← self .expression
  expect .colon "in dict literal"
  return (key, ← self .expression)

/-- What follows an opening brace. -/
def braceDisplay : Parse Expr := do
  if ← accept .rbrace then return .dict []
  let first ← self .expression
  if ← accept .colon then
    let value ← self .expression
    if ← seesWord .for then
      let cs ← clauses budget self budget
      expect .rbrace "after dict comprehension"
      return .dictComp first value cs
    else
      let pairs ← moreItems (dictItem self) (sees .rbrace) budget
      expect .rbrace "after dict"
      return .dict ((first, value) :: pairs)
  else if ← seesWord .for then
    let cs ← clauses budget self budget
    expect .rbrace "after set comprehension"
    return .setComp first cs
  else
    let items ← moreItems (self .expression) (sees .rbrace) budget
    expect .rbrace "after set"
    return .set (first :: items)

/-- A single expression that makes up a whole text; a colon behind it is allowed, as at the end of
the header of a statement. -/
def standalone : Parse Expr := do
  let e ← self .expression
  let _ ← accept .colon
  skipNewlines budget
  let c ← get
  if c.atEnd then return e else fail (.leftOver c.token.kind)

/-- The expression that the text of an f-string field stands for. -/
def fieldExpr (text : List Char) : Except ParseProblem Expr :=
  let text := ((text.dropWhile isSpace).reverse.dropWhile isSpace).reverse
  match tokens (String.ofList text) with
  | .error e => .error (.lexical e.problem)
  | .ok ts =>
    match (standalone budget self).run (Cursor.ofTokens ts) with
    | .error e => .error e.problem
    | .ok (e, _) => .ok e

/-- String literals next to one another join; with an f-string among them the result is one. -/
def strings (formatted : Bool) (parts : List FieldPart) : (fuel : Nat) → Parse Expr
  | 0 => fail .tooDeep
  | fuel + 1 => do
    match ← peek with
    | .str s =>
      advance
      strings formatted (addText parts s) fuel
    | .fstring raw =>
      let start ← pos
      advance
      match splitFields (fieldExpr budget self) (raw.length + 1) [] raw.toList with
      | .ok more => strings true (addParts parts more) fuel
      | .error p => failAt start p
    | _ => return if formatted then .fstring parts else .str (plainText parts)

/-- A literal, a name or a bracketed expression. -/
def atom : Parse Expr := do
  match ← peek with
  | .int n => do advance; return .int n
  | .float x => do advance; return .float x
  | .str _ | .fstring _ => strings budget self false [] budget
  | .keyword .true => do advance; return .bool true
  | .keyword .false => do advance; return .bool false
  | .keyword .none => do advance; return .none
  | .ident name => do advance; return .name name
  | .punct .lparen => do advance; parenthesized budget self
  | .punct .lbracket => do advance; listDisplay budget self
  | .punct .lbrace => do advance; braceDisplay budget self
  | found => fail (.noExpression found)

/-! ### Operators -/

/-- The attributes, calls and subscripts behind an expression. -/
def trailers : (fuel : Nat) → Expr → Parse Expr
  | 0, _ => fail .tooDeep
  | fuel + 1, e => do
    if ← accept .dot then trailers fuel (.attribute e (← identifier))
    else if ← accept .lparen then
      let args ← arguments budget self budget
      expect .rparen "after arguments"
      trailers fuel (.call e args)
    else if ← accept .lbracket then
      let index ← subscript budget self
      expect .rbracket "after subscript"
      trailers fuel (.subscript e index)
    else return e

/-- An atom with what is attached to it, and its exponent. -/
def power : Parse Expr := do
  let base ← trailers budget self budget (← atom budget self)
  if ← accept .doubleStar then return .binary .pow base (← self .factor) else return base

/-- Unary operators. -/
def factor : Parse Expr := do
  match unaryOp? (← peek) with
  | some op =>
    advance
    return applyUnary op (← self .factor)
  | none => power budget self

/-- The operators of a level and their right operands, behind a left operand. -/
def binaryTail (level : BinaryLevel) (operand : Parse Expr) : (fuel : Nat) → Expr → Parse Expr
  | 0, _ => fail .tooDeep
  | fuel + 1, left => do
    match level.op? (← peek) with
    | some op =>
      advance
      let right ← operand
      binaryTail level operand fuel (.binary op left right)
    | none => return left

/-- Binary operators that group to the left. -/
def binary : List BinaryLevel → Parse Expr
  | [] => factor budget self
  | level :: tighter => do
    let left ← binary tighter
    binaryTail level (binary tighter) budget left

/-- The comparisons of a chain. -/
def comparisons : (fuel : Nat) → Parse (List (CompareOp × Expr))
  | 0 => fail .tooDeep
  | fuel + 1 => do
    match compareOp? (← peek) (← get).second? with
    | some (op, two) =>
      advance
      if two then advance
      let e ← binary budget self binaryLevels
      return (op, e) :: (← comparisons fuel)
    | none => return []

/-- A chain of comparisons. -/
def comparison : Parse Expr := do
  let left ← binary budget self binaryLevels
  match ← comparisons budget self budget with
  | [] => return left
  | rest => return .compare left rest

/-- `not`. -/
def negation : Parse Expr := do
  if ← acceptWord .not then return .unary .not (← self .negation) else comparison budget self

/-- The operands behind the first one of a chain of `and` or `or`. -/
def boolTail (word : Keyword) (op : BoolOp) (operand : Parse Expr) :
    (fuel : Nat) → Expr → Parse Expr
  | 0, _ => fail .tooDeep
  | fuel + 1, left => do
    if ← acceptWord word then
      let right ← operand
      boolTail word op operand fuel (.boolOp op left right)
    else return left

/-- `and`. -/
def conjunction : Parse Expr := do
  boolTail .and .and (negation budget self) budget (← negation budget self)

/-- `or`. -/
def disjunction : Parse Expr := do
  boolTail .or .or (conjunction budget self) budget (← conjunction budget self)

/-- A whole expression, without bare tuples. -/
def expression : Parse Expr := do
  if ← seesWord .lambda then lambda budget self
  else
    let body ← disjunction budget self
    if ← acceptWord .if then
      let test ← disjunction budget self
      expectWord .else "in conditional expression"
      return .ifElse test body (← self .expression)
    else return body

/-- The reader of a level. -/
def level : Level → Parse Expr
  | .expression => expression budget self
  | .disjunction => disjunction budget self
  | .negation => negation budget self
  | .bitOr => binary budget self binaryLevels
  | .factor => factor budget self

end Levels

/-- The reader of a level; expressions inside expressions are read with one less of `budget`. -/
def exprAt : (budget : Nat) → Level → Parse Expr
  | 0, _ => fail .tooDeep
  | budget + 1, l => level budget (exprAt budget) l

end Parse

/-- How much nesting a text can hold: generously more than it has characters. -/
def nestingBudget (source : String) : Nat := 2 * source.length + 16

/-- Reads the tokens of a whole text. -/
def Parse.runOn {α : Type} (p : Parse α) (source : String) : Except ParseError α :=
  match tokens source with
  | .error e => .error ⟨.lexical e.problem, e.pos⟩
  | .ok ts => (p.run (Cursor.ofTokens ts)).map (·.1)

/-- The expression that a text stands for, blanks around it left out. -/
def parseExpr (source : String) : Except ParseError Expr :=
  let text := String.ofList
    ((source.toList.dropWhile isSpace).reverse.dropWhile isSpace).reverse
  let budget := nestingBudget text
  (Parse.standalone budget (Parse.exprAt budget)).runOn text

end Stepwise.Script
