import Stepwise.Script.Tree

/-!
# Parts of a program

The parts of a syntax tree (`parts`), those inside functions and classes included, and the lines
that the frame of a statement reports itself (`ownLines`), which stop at functions and classes.

The recursion follows the evaluator's, so what holds of every part (`Every`) is taken apart one
constructor at a time in an induction over a run.
-/

namespace Stepwise.Script

/-- A part of a program. -/
inductive Phrase where
  | expr (e : Expr)
  | stmt (s : Stmt)
  | handler (h : Handler)
  | function (d : FunctionDef)
  | cls (d : ClassDef)

/-- The line that the run of a part reports. -/
def Phrase.line? : Phrase → Option Nat
  | expr _ => none
  | stmt s => some s.line
  | handler h => some h.pos.line
  | function d => some d.pos.line
  | cls d => some d.pos.line

/-- Whether all of some parts satisfy `p`. -/
def Every (p : Phrase → Prop) (ns : List Phrase) : Prop := ∀ n ∈ ns, p n

/-! ### Parts -/

mutual

/-- The parts of an expression, itself among them. -/
def Expr.parts : Expr → List Phrase
  | .none => [.expr .none]
  | .bool b => [.expr (.bool b)]
  | .int n => [.expr (.int n)]
  | .float x => [.expr (.float x)]
  | .str s => [.expr (.str s)]
  | .name x => [.expr (.name x)]
  | .fstring fields => .expr (.fstring fields) :: fieldParts fields
  | .tuple items => .expr (.tuple items) :: allParts items
  | .list items => .expr (.list items) :: allParts items
  | .set items => .expr (.set items) :: allParts items
  | .dict pairs => .expr (.dict pairs) :: pairParts pairs
  | .listComp element clauses =>
    .expr (.listComp element clauses) :: (element.parts ++ clauseParts clauses)
  | .setComp element clauses =>
    .expr (.setComp element clauses) :: (element.parts ++ clauseParts clauses)
  | .dictComp key value clauses =>
    .expr (.dictComp key value clauses) :: (key.parts ++ value.parts ++ clauseParts clauses)
  | .attribute object name => .expr (.attribute object name) :: object.parts
  | .subscript object index => .expr (.subscript object index) :: (object.parts ++ index.parts)
  | .slice lower upper step =>
    .expr (.slice lower upper step) :: (optionParts lower ++ optionParts upper ++ optionParts step)
  | .call func args => .expr (.call func args) :: (func.parts ++ argumentParts args)
  | .unary op operand => .expr (.unary op operand) :: operand.parts
  | .binary op left right => .expr (.binary op left right) :: (left.parts ++ right.parts)
  | .compare left rest => .expr (.compare left rest) :: (left.parts ++ restParts rest)
  | .boolOp op left right => .expr (.boolOp op left right) :: (left.parts ++ right.parts)
  | .ifElse test body orelse =>
    .expr (.ifElse test body orelse) :: (test.parts ++ body.parts ++ orelse.parts)
  | .lambda fn => .expr (.lambda fn) :: fn.parts

/-- The parts of some expressions. -/
def allParts : List Expr → List Phrase
  | [] => []
  | e :: es => e.parts ++ allParts es

/-- The parts of an expression that may be missing. -/
def optionParts : Option Expr → List Phrase
  | none => []
  | some e => e.parts

/-- The parts of the fields of an f-string. -/
def fieldParts : List FieldPart → List Phrase
  | [] => []
  | .text _ :: fields => fieldParts fields
  | .field value _ _ :: fields => value.parts ++ fieldParts fields

/-- The parts of the keys and values of a dictionary. -/
def pairParts : List (Expr × Expr) → List Phrase
  | [] => []
  | (k, v) :: pairs => k.parts ++ v.parts ++ pairParts pairs

/-- The parts of the operands of comparisons. -/
def restParts : List (CompareOp × Expr) → List Phrase
  | [] => []
  | (_, e) :: rest => e.parts ++ restParts rest

/-- The parts of the clauses of a comprehension. -/
def clauseParts : List Clause → List Phrase
  | [] => []
  | .mk target items conditions :: clauses =>
    target.parts ++ items.parts ++ allParts conditions ++ clauseParts clauses

/-- The parts of the arguments of a call. -/
def argumentParts : List Argument → List Phrase
  | [] => []
  | .positional e :: args => e.parts ++ argumentParts args
  | .keyword _ e :: args => e.parts ++ argumentParts args
  | .star e :: args => e.parts ++ argumentParts args

/-- The parts of the defaults of some parameters. -/
def paramParts : List Param → List Phrase
  | [] => []
  | .mk _ default :: params => optionParts default ++ paramParts params

/-- The parts of a function, itself among them. -/
def FunctionDef.parts : FunctionDef → List Phrase
  | .mk name params vararg kwarg body pos =>
    .function (.mk name params vararg kwarg body pos) :: (paramParts params ++ blockParts body)

/-- The parts of a class, itself among them. -/
def ClassDef.parts : ClassDef → List Phrase
  | .mk name bases body pos => .cls (.mk name bases body pos) :: (allParts bases ++ blockParts body)

/-- The parts of some handlers, themselves among them. -/
def handlerParts : List Handler → List Phrase
  | [] => []
  | .mk filter binding body pos :: handlers =>
    .handler (.mk filter binding body pos) ::
      (optionParts filter ++ blockParts body ++ handlerParts handlers)

/-- The parts of what a statement does. -/
def Action.parts : Action → List Phrase
  | .expr e => e.parts
  | .assign targets value => allParts targets ++ value.parts
  | .augAssign target _ value => target.parts ++ value.parts
  | .pass | .break_ | .continue_ => []
  | .return_ value => optionParts value
  | .delete targets => allParts targets
  | .global _ | .nonlocal _ => []
  | .assert test message => test.parts ++ optionParts message
  | .raise value => optionParts value
  | .import_ _ | .importFrom _ _ => []
  | .if_ test body orelse => test.parts ++ blockParts body ++ blockParts orelse
  | .while_ test body orelse => test.parts ++ blockParts body ++ blockParts orelse
  | .for_ target items body orelse =>
    target.parts ++ items.parts ++ blockParts body ++ blockParts orelse
  | .functionDef fn => fn.parts
  | .classDef d => d.parts
  | .try_ body handlers orelse finalbody =>
    blockParts body ++ handlerParts handlers ++ blockParts orelse ++ blockParts finalbody

/-- The parts of a statement, itself among them. -/
def Stmt.parts : Stmt → List Phrase
  | .mk action pos endLine => .stmt (.mk action pos endLine) :: action.parts

/-- The parts of some statements, themselves among them. -/
def blockParts : List Stmt → List Phrase
  | [] => []
  | s :: ss => s.parts ++ blockParts ss

end

/-! ### Own lines -/

mutual

/-- The lines that the frame of a statement reports itself. -/
def Stmt.ownLines : Stmt → List Nat
  | .mk action pos _ => pos.line :: action.ownLines

/-- The lines inside a statement that its frame reports itself. -/
def Action.ownLines : Action → List Nat
  | .if_ _ body orelse => blockLines body ++ blockLines orelse
  | .while_ _ body orelse => blockLines body ++ blockLines orelse
  | .for_ _ _ body orelse => blockLines body ++ blockLines orelse
  | .try_ body handlers orelse finalbody =>
    blockLines body ++ handlerLines handlers ++ blockLines orelse ++ blockLines finalbody
  | .expr _ | .assign _ _ | .augAssign _ _ _ | .pass | .break_ | .continue_ | .return_ _
  | .delete _ | .global _ | .nonlocal _ | .assert _ _ | .raise _ | .import_ _ | .importFrom _ _
  | .functionDef _ | .classDef _ => []

/-- The lines of some handlers that their frame reports itself. -/
def handlerLines : List Handler → List Nat
  | [] => []
  | .mk _ _ body pos :: handlers => pos.line :: (blockLines body ++ handlerLines handlers)

/-- The lines of some statements that their frame reports itself. -/
def blockLines : List Stmt → List Nat
  | [] => []
  | s :: ss => s.ownLines ++ blockLines ss

end

/-! ### What holds of every part -/

variable {p : Phrase → Prop}

@[simp] theorem every_nil : Every p [] := fun _ h => by cases h

@[simp] theorem every_cons {n : Phrase} {ns : List Phrase} : Every p (n :: ns) ↔ p n ∧ Every p ns :=
  List.forall_mem_cons

@[simp] theorem every_append {ms ns : List Phrase} :
    Every p (ms ++ ns) ↔ Every p ms ∧ Every p ns :=
  List.forall_mem_append

/-- What holds of every part of an expression holds of it. -/
theorem Every.expr {e : Expr} (h : Every p e.parts) : p (.expr e) := by
  cases e <;> rw [Expr.parts] at h <;> exact h _ (.head _)

/-- What holds of every part of a function holds of it, its defaults and its body. -/
theorem Every.function {d : FunctionDef} (h : Every p d.parts) :
    p (.function d) ∧ Every p (paramParts d.params) ∧ Every p (blockParts d.body) := by
  cases d
  rwa [FunctionDef.parts, every_cons, every_append] at h

/-- What holds of every part of a class holds of it, its bases and its body. -/
theorem Every.cls {d : ClassDef} (h : Every p d.parts) :
    p (.cls d) ∧ Every p (allParts d.bases) ∧ Every p (blockParts d.body) := by
  cases d
  rwa [ClassDef.parts, every_cons, every_append] at h

theorem every_of (h : ∀ n, p n) (ns : List Phrase) : Every p ns := fun n _ => h n

end Stepwise.Script
