import Stepwise.Script.Tree

/-!
# Pure expressions

Expressions that can be evaluated once more without a trace of it: nothing is called but functions
that are known to be harmless, and nothing is bound.
-/

namespace Stepwise.Script

mutual

/-- Whether an expression is pure, `harmless` telling which names stand for harmless functions. -/
def Expr.isPure (harmless : String → Bool) : Expr → Bool
  | .none | .bool _ | .int _ | .float _ | .str _ | .name _ => true
  | .fstring parts => partsPure harmless parts
  | .tuple items | .list items | .set items => allPure harmless items
  | .dict pairs => pairsPure harmless pairs
  | .attribute object _ => object.isPure harmless
  | .subscript object index => object.isPure harmless && index.isPure harmless
  | .slice lower upper step =>
    optionPure harmless lower && optionPure harmless upper && optionPure harmless step
  | .unary _ operand => operand.isPure harmless
  | .binary _ left right | .boolOp _ left right =>
    left.isPure harmless && right.isPure harmless
  | .compare left rest => left.isPure harmless && restPure harmless rest
  | .ifElse test body orelse =>
    test.isPure harmless && body.isPure harmless && orelse.isPure harmless
  | .call (.name f) args => harmless f && argumentsPure harmless args
  | .call _ _ | .lambda _ | .listComp _ _ | .setComp _ _ | .dictComp _ _ _ => false

/-- Whether the fields of an f-string are pure. -/
def partsPure (harmless : String → Bool) : List FieldPart → Bool
  | [] => true
  | .text _ :: parts => partsPure harmless parts
  | .field value _ _ :: parts => value.isPure harmless && partsPure harmless parts

/-- Whether all of some expressions are pure. -/
def allPure (harmless : String → Bool) : List Expr → Bool
  | [] => true
  | e :: es => e.isPure harmless && allPure harmless es

/-- Whether the keys and values of a dictionary are pure. -/
def pairsPure (harmless : String → Bool) : List (Expr × Expr) → Bool
  | [] => true
  | (k, v) :: pairs => k.isPure harmless && v.isPure harmless && pairsPure harmless pairs

/-- Whether an expression that may be missing is pure. -/
def optionPure (harmless : String → Bool) : Option Expr → Bool
  | none => true
  | some e => e.isPure harmless

/-- Whether the operands of comparisons are pure. -/
def restPure (harmless : String → Bool) : List (CompareOp × Expr) → Bool
  | [] => true
  | (_, e) :: rest => e.isPure harmless && restPure harmless rest

/-- Whether the arguments of a call are pure. -/
def argumentsPure (harmless : String → Bool) : List Argument → Bool
  | [] => true
  | .positional e :: args | .keyword _ e :: args | .star e :: args =>
    e.isPure harmless && argumentsPure harmless args

end

end Stepwise.Script
