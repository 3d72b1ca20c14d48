/-!
# Syntax trees

What a script says once its layout and punctuation have been understood: expressions, statements
and whole programs.

## The model

Trees carry source positions only where a run can show them: every statement, function, class and
handler knows where it starts, and a statement knows the last line it covers. A lambda is a
function whose body is one `return`.
-/

namespace Stepwise.Script

/-- A place in a source text: line and column, both counted from 1. -/
structure Pos where
  /-- The line. -/
  line : Nat
  /-- The column, in characters. -/
  column : Nat
  deriving DecidableEq, Repr, Inhabited

/-! ### Operators -/

/-- Arithmetic and bitwise operators between two operands. -/
inductive BinaryOp where
  | add | sub | mul | div | floorDiv | mod | pow | bitAnd | bitOr | bitXor | shl | shr
  deriving DecidableEq, Repr, Inhabited

/-- How an error message names the operator. -/
def BinaryOp.symbol : BinaryOp → String
  | .add => "+" | .sub => "-" | .mul => "*" | .div => "/" | .floorDiv => "//" | .mod => "%"
  | .pow => "** or pow()" | .bitAnd => "&" | .bitOr => "|" | .bitXor => "^" | .shl => "<<"
  | .shr => ">>"

/-- Comparisons; several may follow one another. -/
inductive CompareOp where
  | eq | ne | lt | le | gt | ge | isIn | notIn | is | isNot
  deriving DecidableEq, Repr, Inhabited

/-- The spelling of a comparison. -/
def CompareOp.symbol : CompareOp → String
  | .eq => "==" | .ne => "!=" | .lt => "<" | .le => "<=" | .gt => ">" | .ge => ">="
  | .isIn => "in" | .notIn => "not in" | .is => "is" | .isNot => "is not"

/-- Operators in front of one operand. -/
inductive UnaryOp where
  | neg | pos | not | invert
  deriving DecidableEq, Repr, Inhabited

/-- Operators that may leave their right operand unevaluated. -/
inductive BoolOp where
  | and | or
  deriving DecidableEq, Repr, Inhabited

/-! ### Expressions and statements -/

/-- `name [as alias]` of an import. -/
structure ImportName where
  /-- What is imported. -/
  name : String
  /-- The name it is bound to, if not its own. -/
  boundName : Option String
  deriving DecidableEq, Repr, Inhabited

mutual

/-- Expressions. -/
inductive Expr where
  | none
  | bool (b : Bool)
  | int (n : Int)
  | float (x : Float)
  | str (s : String)
  | fstring (parts : List FieldPart)
  | name (x : String)
  | tuple (items : List Expr)
  | list (items : List Expr)
  | set (items : List Expr)
  | dict (pairs : List (Expr × Expr))
  | listComp (element : Expr) (clauses : List Clause)
  | setComp (element : Expr) (clauses : List Clause)
  | dictComp (key value : Expr) (clauses : List Clause)
  | attribute (object : Expr) (name : String)
  | subscript (object index : Expr)
  | slice (lower upper step : Option Expr)
  | call (func : Expr) (args : List Argument)
  | unary (op : UnaryOp) (operand : Expr)
  | binary (op : BinaryOp) (left right : Expr)
  | compare (left : Expr) (rest : List (CompareOp × Expr))
  | boolOp (op : BoolOp) (left right : Expr)
  | ifElse (test body orelse : Expr)
  | lambda (fn : FunctionDef)

/-- A piece of an f-string. -/
inductive FieldPart where
  /-- Text that stands for itself. -/
  | text (s : String)
  /-- A replacement field `{value!conversion:spec}`. -/
  | field (value : Expr) (conversion : Option Char) (spec : Option String)

/-- One `for target in items if … if …` of a comprehension. -/
inductive Clause where
  | mk (target items : Expr) (conditions : List Expr)

/-- An argument of a call. -/
inductive Argument where
  | positional (value : Expr)
  | keyword (name : String) (value : Expr)
  /-- `*value`: the items of `value`, each a positional argument. -/
  | star (value : Expr)

/-- A parameter with its default. -/
inductive Param where
  | mk (name : String) (default : Option Expr)

/-- A function: parameters, the names of `*vararg` and `**kwarg`, and a body. -/
inductive FunctionDef where
  | mk (name : String) (params : List Param) (vararg kwarg : Option String) (body : List Stmt)
      (pos : Pos)

/-- A class: base classes and a body. -/
inductive ClassDef where
  | mk (name : String) (bases : List Expr) (body : List Stmt) (pos : Pos)

/-- `except filter as binding:` and its body. -/
inductive Handler where
  | mk (filter : Option Expr) (binding : Option String) (body : List Stmt) (pos : Pos)

/-- What a statement does. -/
inductive Action where
  | expr (e : Expr)
  | assign (targets : List Expr) (value : Expr)
  | augAssign (target : Expr) (op : BinaryOp) (value : Expr)
  | pass
  | break_
  | continue_
  | return_ (value : Option Expr)
  | delete (targets : List Expr)
  | global (names : List String)
  | nonlocal (names : List String)
  | assert (test : Expr) (message : Option Expr)
  | raise (value : Option Expr)
  | import_ (names : List ImportName)
  | importFrom (module : String) (names : List ImportName)
  | if_ (test : Expr) (body orelse : List Stmt)
  | while_ (test : Expr) (body orelse : List Stmt)
  | for_ (target items : Expr) (body orelse : List Stmt)
  | functionDef (fn : FunctionDef)
  | classDef (cls : ClassDef)
  | try_ (body : List Stmt) (handlers : List Handler) (orelse finalbody : List Stmt)

/-- A statement, where it starts and the last line it covers, nested bodies included. -/
inductive Stmt where
  | mk (action : Action) (pos : Pos) (endLine : Nat)

end

instance : Inhabited Expr := ⟨.none⟩
instance : Inhabited Stmt := ⟨.mk .pass default 1⟩
instance : Inhabited FunctionDef := ⟨.mk "" [] none none [] default⟩

namespace Clause

/-- What is bound on each pass. -/
def target : Clause → Expr | mk t _ _ => t
/-- Where the items come from. -/
def items : Clause → Expr | mk _ i _ => i
/-- What an item has to satisfy. -/
def conditions : Clause → List Expr | mk _ _ cs => cs

end Clause

namespace Param

/-- The name of the parameter. -/
def name : Param → String | mk n _ => n
/-- Its default, if it has one. -/
def default : Param → Option Expr | mk _ d => d

end Param

namespace FunctionDef

/-- The name of the function. -/
def name : FunctionDef → String | mk n _ _ _ _ _ => n
/-- Its parameters in order. -/
def params : FunctionDef → List Param | mk _ ps _ _ _ _ => ps
/-- The name that takes surplus positional arguments. -/
def vararg : FunctionDef → Option String | mk _ _ v _ _ _ => v
/-- The name that takes surplus keyword arguments. -/
def kwarg : FunctionDef → Option String | mk _ _ _ k _ _ => k
/-- What it does. -/
def body : FunctionDef → List Stmt | mk _ _ _ _ b _ => b
/-- Where it is written. -/
def pos : FunctionDef → Pos | mk _ _ _ _ _ p => p

end FunctionDef

namespace ClassDef

/-- The name of the class. -/
def name : ClassDef → String | mk n _ _ _ => n
/-- Its base classes in order. -/
def bases : ClassDef → List Expr | mk _ bs _ _ => bs
/-- The statements that fill it. -/
def body : ClassDef → List Stmt | mk _ _ b _ => b
/-- Where it is written. -/
def pos : ClassDef → Pos | mk _ _ _ p => p

end ClassDef

namespace Handler

/-- The classes of errors it takes; all of them if absent. -/
def filter : Handler → Option Expr | mk f _ _ _ => f
/-- The name that the error is bound to. -/
def binding : Handler → Option String | mk _ b _ _ => b
/-- What it does. -/
def body : Handler → List Stmt | mk _ _ b _ => b
/-- Where it is written. -/
def pos : Handler → Pos | mk _ _ _ p => p

end Handler

namespace Stmt

/-- What the statement does. -/
def action : Stmt → Action | mk a _ _ => a
/-- Where it starts. -/
def pos : Stmt → Pos | mk _ p _ => p
/-- The last line it covers. -/
def endLine : Stmt → Nat | mk _ _ e => e
/-- The line it starts on. -/
def line (s : Stmt) : Nat := s.pos.line

/-- Definitions and imports: they set up names and do no work that can be watched. -/
def isDefinition (s : Stmt) : Bool :=
  match s.action with
  | .functionDef _ | .classDef _ | .import_ _ | .importFrom _ _ => true
  | _ => false

/-- A string literal that stands alone. -/
def isDocstring (s : Stmt) : Bool :=
  match s.action with
  | .expr (.str _) => true
  | _ => false

end Stmt

/-- A program: its statements in order. -/
abbrev Program := List Stmt

mutual

/-- Whether an expression may stand to the left of `=`. -/
def Expr.isTarget : Expr → Bool
  | .name _ | .attribute _ _ | .subscript _ _ => true
  | .tuple items | .list items => Expr.areTargets items
  | _ => false

/-- Whether all of some expressions may stand to the left of `=`. -/
def Expr.areTargets : List Expr → Bool
  | [] => true
  | e :: es => e.isTarget && Expr.areTargets es

end

/-- Whether an expression names one place: a variable, an attribute or an item. -/
def Expr.isPlace : Expr → Bool
  | .name _ | .attribute _ _ | .subscript _ _ => true
  | _ => false

end Stepwise.Script
