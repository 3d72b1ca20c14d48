import Stepwise.Script.Parse.Expr

/-!
# Reading statements

Statements, blocks and programs (`parseProgram`). Simple statements share a line by semicolons; a
compound statement is followed by a block, which is either simple statements on its own line or
indented lines.

## The model

As for expressions, the reader for the statements of a block is a parameter (`stmt`), and `stmtAt`
ties the knot with a budget that no text uses up. A statement reader gives a list, because one line
may hold several statements.
-/

namespace Stepwise.Script

open Stepwise.Text

namespace Parse

variable (budget : Nat)

/-- A whole expression. -/
def expr : Parse Expr := exprAt budget .expression

/-- An operand without comparisons. -/
def operand : Parse Expr := exprAt budget .bitOr

/-- Expressions with commas between them. -/
def exprList : Parse Expr := expressionList budget (exprAt budget)

/-- Whether a token ends a simple statement. -/
def endsStatement : TokenKind → Bool
  | .newline | .eof => true
  | .punct p => p = .semicolon
  | _ => false

/-- The statement that a reader's action makes up: from its first token to its last. -/
def spanned (start : Pos) (action : Parse Action) : Parse Stmt := do
  let a ← action
  return .mk a start (← get).lastLine

/-! ### Simple statements -/

/-- The names behind the first one of a list. -/
def moreNames : (fuel : Nat) → Parse (List String)
  | 0 => fail .tooDeep
  | fuel + 1 => do
    if ← accept .comma then
      let name ← identifier
      return name :: (← moreNames fuel)
    else return []

/-- Names with commas between them. -/
def nameList : Parse (List String) := return (← identifier) :: (← moreNames budget)

/-- The parts behind the first one of a name with dots. -/
def dottedTail : (fuel : Nat) → String → Parse String
  | 0, _ => fail .tooDeep
  | fuel + 1, name => do
    if ← accept .dot then dottedTail fuel (name ++ "." ++ (← identifier)) else return name

/-- A name with dots. -/
def dottedName : Parse String := do dottedTail budget (← identifier)

/-- A name that is imported, with the name it is bound to. -/
def importName (name : Parse String) : Parse ImportName := do
  let n ← name
  let boundName ← if ← acceptWord .as then some <$> identifier else pure none
  return ⟨n, boundName⟩

/-- The names behind the first one of an import; `ends` tells whether a comma may be the last. -/
def moreImports (name : Parse String) (ends : Parse Bool) : Parse (List ImportName) :=
  moreItems (importName name) ends budget

/-- `from module import names`, behind `from`. -/
def fromImport : Parse Action := do
  let module ← dottedName budget
  expectWord .import "after module name"
  if ← accept .star then return .importFrom module [⟨"*", none⟩]
  let bracketed ← accept .lparen
  let first ← importName identifier
  let more ← moreImports budget identifier
    (if bracketed then sees .rparen else pure false)
  if bracketed then expect .rparen "after imported names"
  return .importFrom module (first :: more)

/-- The further sides of a chain of `=`. -/
def moreSides : (fuel : Nat) → Parse (List Expr)
  | 0 => fail .tooDeep
  | fuel + 1 => do
    if ← accept .eq then
      let e ← exprList budget
      return e :: (← moreSides fuel)
    else return []

/-- A statement that starts with an expression: an assignment of some form, or the expression
alone. -/
def expressionStatement : Parse Action := do
  let start ← pos
  let first ← exprList budget
  if ← sees .colon then
    unless first.isPlace do fail .annotationTarget
    advance
    let _ ← expr budget
    if ← accept .eq then return .assign [first] (← exprList budget) else return .pass
  else match augmentedOp? (← peek) with
    | some op =>
      advance
      unless first.isPlace do failAt start .augmentedTarget
      return .augAssign first op (← exprList budget)
    | none =>
      let sides := first :: (← moreSides budget budget)
      match sides.reverse with
      | [] | [_] => return .expr first
      | value :: targets =>
        unless Expr.areTargets targets do failAt start .notAssignable
        return .assign targets.reverse value

/-- A simple statement. -/
def simpleStatement : Parse Action := do
  match ← peek with
  | .keyword .pass => advance; return .pass
  | .keyword .break => advance; return .break_
  | .keyword .continue => advance; return .continue_
  | .keyword .return =>
    advance
    if ← ahead endsStatement then return .return_ none
    else return .return_ (some (← exprList budget))
  | .keyword .del =>
    advance
    let first ← operand budget
    return .delete (first :: (← moreItems (operand budget) (ahead endsStatement) budget))
  | .keyword .global => advance; return .global (← nameList budget)
  | .keyword .nonlocal => advance; return .nonlocal (← nameList budget)
  | .keyword .assert =>
    advance
    let test ← expr budget
    let message ← if ← accept .comma then some <$> expr budget else pure none
    return .assert test message
  | .keyword .raise =>
    advance
    if ← ahead endsStatement then return .raise none
    let value ← expr budget
    if ← acceptWord .from then
      let _ ← expr budget
    return .raise (some value)
  | .keyword .import =>
    advance
    let first ← importName (dottedName budget)
    return .import_ (first :: (← moreImports budget (dottedName budget) (pure false)))
  | .keyword .from => advance; fromImport budget
  | _ => expressionStatement budget

/-- Simple statements with semicolons between them. -/
def simpleList : (fuel : Nat) → Parse (List Stmt)
  | 0 => fail .tooDeep
  | fuel + 1 => do
    let s ← spanned (← pos) (simpleStatement budget)
    if ← accept .semicolon then
      if ← ahead (fun t => isNewline t || t matches .eof) then return [s]
      else return s :: (← simpleList fuel)
    else return [s]

/-- The simple statements of a line, and its end. -/
def simpleLine : Parse (List Stmt) := do
  let body ← simpleList budget budget
  unless (← get).atEnd do expectIf isNewline "end of line"
  return body

/-! ### Blocks -/

section Blocks

variable (stmt : Parse (List Stmt))

/-- The statements of an indented block, up to its end. -/
def blockBody : (fuel : Nat) → Parse (List Stmt)
  | 0 => fail .tooDeep
  | fuel + 1 => do
    if (← ahead (· matches .dedent)) || (← get).atEnd then return []
    else
      let ss ← stmt
      skipNewlines budget
      return ss ++ (← blockBody fuel)

/-- The body of a compound statement, behind its colon. -/
def block : Parse (List Stmt) := do
  if ← acceptIf isNewline then
    skipNewlines budget
    expectIf (· matches .indent) "an indented block"
    let body ← blockBody budget stmt budget
    let _ ← acceptIf (· matches .dedent)
    return body
  else simpleLine budget

/-- `else` and its block, if there is one. -/
def optionalElse : Parse (List Stmt) := do
  if ← acceptWord .else then
    expect .colon "after 'else'"
    block budget stmt
  else return []

/-! ### Compound statements -/

/-- An `if` behind its keyword; an `elif` is an `if` in the `else` part. -/
def ifStatement : (fuel : Nat) → Parse Action
  | 0 => fail .tooDeep
  | fuel + 1 => do
    let test ← expr budget
    expect .colon "after if condition"
    let body ← block budget stmt
    if ← seesWord .elif then
      let start ← pos
      advance
      return .if_ test body [← spanned start (ifStatement fuel)]
    else return .if_ test body (← optionalElse budget stmt)

/-- A `while` behind its keyword. -/
def whileStatement : Parse Action := do
  let test ← expr budget
  expect .colon "after while condition"
  let body ← block budget stmt
  return .while_ test body (← optionalElse budget stmt)

/-- A `for` behind its keyword. -/
def forStatement : Parse Action := do
  let target ← targetList budget (exprAt budget)
  expectWord .in "in for statement"
  let items ← exprList budget
  expect .colon "after for clause"
  let body ← block budget stmt
  return .for_ target items body (← optionalElse budget stmt)

/-- A function behind `def`; annotations are dropped. -/
def functionStatement (start : Pos) : Parse Action := do
  let name ← identifier
  expect .lparen "after function name"
  let ps ← parameters (exprAt budget) .rparen true budget ⟨[], none, none⟩
  expect .rparen "after parameters"
  if ← accept .arrow then
    let _ ← expr budget
  expect .colon "after function signature"
  let body ← block budget stmt
  return .functionDef (.mk name ps.params ps.vararg ps.kwarg body start)

/-- The base classes of a class, up to the closing bracket. -/
def bases : (fuel : Nat) → Parse (List Expr)
  | 0 => fail .tooDeep
  | fuel + 1 => do
    if ← sees .rparen then return []
    let e ← expr budget
    if ← accept .comma then return e :: (← bases fuel) else return [e]

/-- A class behind its keyword. -/
def classStatement (start : Pos) : Parse Action := do
  let name ← identifier
  let bs ← if ← accept .lparen then do
      let bs ← bases budget budget
      expect .rparen "after base classes"
      pure bs
    else pure []
  expect .colon "after class name"
  let body ← block budget stmt
  return .classDef (.mk name bs body start)

/-- The handlers of a `try`. -/
def handlers : (fuel : Nat) → Parse (List Handler)
  | 0 => fail .tooDeep
  | fuel + 1 => do
    let start ← pos
    if ← acceptWord .except then
      let (filter, binding) ← if ← sees .colon then pure (none, none)
        else do
          let filter ← expr budget
          let binding ← if ← acceptWord .as then some <$> identifier else pure none
          pure (some filter, binding)
      expect .colon "after except clause"
      let body ← block budget stmt
      return .mk filter binding body start :: (← handlers fuel)
    else return []

/-- A `try` behind its keyword. -/
def tryStatement : Parse Action := do
  expect .colon "after 'try'"
  let body ← block budget stmt
  let hs ← handlers budget stmt budget
  let orelse ← if hs.isEmpty then pure [] else optionalElse budget stmt
  let finalbody ← if ← acceptWord .finally then do
      expect .colon "after 'finally'"
      block budget stmt
    else pure []
  if hs.isEmpty && finalbody.isEmpty then fail .noHandler
  return .try_ body hs orelse finalbody

/-- A statement, or the statements of a line. -/
def statement : Parse (List Stmt) := do
  let start ← pos
  let compound (action : Parse Action) : Parse (List Stmt) := do
    advance
    return [← spanned start action]
  match ← peek with
  | .keyword .if => compound (ifStatement budget stmt budget)
  | .keyword .while => compound (whileStatement budget stmt)
  | .keyword .for => compound (forStatement budget stmt)
  | .keyword .def_ => compound (functionStatement budget stmt start)
  | .keyword .class => compound (classStatement budget stmt start)
  | .keyword .try => compound (tryStatement budget stmt)
  | _ => simpleLine budget

end Blocks

/-- The reader of statements; the blocks inside one are read with one less of `budget`. -/
def stmtAt : (budget : Nat) → Parse (List Stmt)
  | 0 => fail .tooDeep
  | budget + 1 => statement budget (stmtAt budget)

/-- The statements of a program, at most `fuel` lines. -/
def programBody : (fuel : Nat) → Parse Program
  | 0 => fail .tooDeep
  | fuel + 1 => do
    if (← get).atEnd then return []
    if ← ahead (· matches .indent) then fail .strayIndent
    let ss ← stmtAt budget
    skipNewlines budget
    return ss ++ (← programBody fuel)

/-- A whole program. -/
def program : Parse Program := do
  skipNewlines budget
  programBody budget budget

end Parse

/-- The program that a source text stands for. -/
def parseProgram (source : String) : Except ParseError Program :=
  (Parse.program (nestingBudget source)).runOn source

end Stepwise.Script
