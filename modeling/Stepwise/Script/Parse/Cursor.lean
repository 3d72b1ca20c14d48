import Stepwise.Script.Lexer

/-!
# Walking through tokens

What all readers of trees share: the place in the token list, the things that can be wrong with a
sequence of tokens, and readers of single tokens and of lists.

## The model

A `Cursor` stands before a token. Reading the last token of a text leaves the cursor where it is,
so there is always a token to look at. The cursor remembers the last line of the last token that
is not layout: that is where a statement ends. A reader (`Parse`) takes a cursor and gives a value
and a cursor, or an error.
-/

namespace Stepwise.Script

open Stepwise.Text

/-- What can be wrong with a script. -/
inductive ParseProblem where
  /-- A problem of the words. -/
  | lexical (p : LexProblem)
  /-- Something else than was needed. -/
  | expected (what : String) (found : TokenKind)
  /-- A token that starts no expression. -/
  | noExpression (found : TokenKind)
  /-- A token behind the end of an expression. -/
  | leftOver (found : TokenKind)
  /-- An indented line that starts no block. -/
  | strayIndent
  /-- An annotation on something other than a place. -/
  | annotationTarget
  /-- `+=` and the like on something other than a place. -/
  | augmentedTarget
  /-- An expression that cannot be assigned to. -/
  | notAssignable
  /-- A parameter without a default after one with a default. -/
  | defaultOrder
  /-- Two parameters of one name. -/
  | duplicateParam (name : String)
  /-- `**` in a call. -/
  | keywordUnpacking
  /-- Nothing between brackets. -/
  | noSubscript
  /-- A `try` with neither handler nor `finally`. -/
  | noHandler
  /-- A closing brace alone in an f-string. -/
  | fieldLoneBrace
  /-- A field of an f-string without its closing brace. -/
  | fieldUnclosed
  /-- A field of an f-string without an expression. -/
  | fieldEmpty
  /-- A problem of the expression in a field of an f-string. -/
  | inField (p : ParseProblem)
  /-- More nesting than there are characters: no text gets here. -/
  | tooDeep

/-- The wording of a problem. -/
def ParseProblem.message : ParseProblem → String
  | .lexical p => p.message
  | .expected what found => "Expected " ++ what ++ ", found " ++ found.describe
  | .noExpression found => "invalid syntax: unexpected " ++ found.describe
  | .leftOver found => "unexpected " ++ found.describe
  | .strayIndent => "unexpected indent"
  | .annotationTarget => "illegal target for annotation"
  | .augmentedTarget => "illegal expression for augmented assignment"
  | .notAssignable => "cannot assign to expression"
  | .defaultOrder => "non-default argument follows default argument"
  | .duplicateParam name => "duplicate argument '" ++ name ++ "' in function definition"
  | .keywordUnpacking => "keyword argument unpacking is not supported"
  | .noSubscript => "Expected subscript"
  | .noHandler => "Expected 'except' or 'finally' block"
  | .fieldLoneBrace => "f-string: single '\x7d' is not allowed"
  | .fieldUnclosed => "f-string: expecting '\x7d'"
  | .fieldEmpty => "f-string: empty expression not allowed"
  | .inField p => "f-string: " ++ p.message
  | .tooDeep => "too many nested parts"

/-- A problem and its place. -/
structure ParseError where
  /-- What is wrong. -/
  problem : ParseProblem
  /-- Where. -/
  pos : Pos

/-- The whole wording of an error. -/
def ParseError.message (e : ParseError) : String :=
  "Parse error at line " ++ natText 10 e.pos.line ++ ", column " ++ natText 10 e.pos.column ++ ": "
    ++ e.problem.message

/-! ### Cursors -/

/-- A place in a list of tokens. -/
structure Cursor where
  /-- The token ahead. -/
  token : Token
  /-- The tokens behind that one. -/
  rest : List Token
  /-- The last line of the last token read that is not layout; 1 if there is none. -/
  lastLine : Nat

namespace Cursor

/-- The cursor before the first of some tokens. -/
def ofTokens : List Token → Cursor
  | [] => ⟨⟨.eof, ⟨1, 1⟩, 1⟩, [], 1⟩
  | t :: ts => ⟨t, ts, 1⟩

/-- Whether the token ahead is the end of the text. -/
def atEnd (c : Cursor) : Bool :=
  match c.token.kind with
  | .eof => true
  | _ => false

/-- The cursor behind the token ahead. -/
def next (c : Cursor) : Cursor :=
  match c.rest with
  | [] => c
  | t :: ts => ⟨t, ts, if c.token.kind.isLayout then c.lastLine else c.token.endLine⟩

/-- The token behind the token ahead. -/
def second? (c : Cursor) : Option TokenKind := c.rest.head?.map (·.kind)

end Cursor

/-- Readers of trees. -/
abbrev Parse := StateT Cursor (Except ParseError)

namespace Parse

variable {α : Type}

/-- Fails at a place. -/
def failAt (pos : Pos) (p : ParseProblem) : Parse α := throw ⟨p, pos⟩

/-- Where the token ahead starts. -/
def pos : Parse Pos := return (← get).token.pos

/-- The token ahead. -/
def peek : Parse TokenKind := return (← get).token.kind

/-- Fails at the token ahead. -/
def fail (p : ParseProblem) : Parse α := do failAt (← pos) p

/-- Goes behind the token ahead. -/
def advance : Parse Unit := modify Cursor.next

/-- Whether the token ahead satisfies `p`. -/
def ahead (p : TokenKind → Bool) : Parse Bool := return p (← peek)

/-- Whether the token ahead is a given punctuation mark. -/
def sees (p : Punct) : Parse Bool := ahead (·.isPunct p)

/-- Whether the token ahead is a given keyword. -/
def seesWord (k : Keyword) : Parse Bool := ahead (·.isKeyword k)

/-- Reads the token ahead if it satisfies `p`, and tells whether it does. -/
def acceptIf (p : TokenKind → Bool) : Parse Bool := do
  if ← ahead p then
    advance
    return true
  else return false

/-- Reads a given punctuation mark if it is ahead. -/
def accept (p : Punct) : Parse Bool := acceptIf (·.isPunct p)

/-- Reads a given keyword if it is ahead. -/
def acceptWord (k : Keyword) : Parse Bool := acceptIf (·.isKeyword k)

/-- Reads a token that satisfies `p`, or fails naming `what`. -/
def expectIf (p : TokenKind → Bool) (what : String) : Parse Unit := do
  unless ← acceptIf p do
    fail (.expected what (← peek))

/-- Reads a given punctuation mark; `where_` says in which place it is needed. -/
def expect (p : Punct) (where_ : String) : Parse Unit :=
  expectIf (·.isPunct p) ("'" ++ String.ofList p.chars ++ "' " ++ where_)

/-- Reads a given keyword; `where_` says in which place it is needed. -/
def expectWord (k : Keyword) (where_ : String) : Parse Unit :=
  expectIf (·.isKeyword k) ("'" ++ k.text ++ "' " ++ where_)

/-- Reads a name. -/
def identifier : Parse String := do
  match ← peek with
  | .ident name => do
    advance
    return name
  | found => fail (.expected "identifier" found)

/-- Whether a line end is ahead. -/
def isNewline : TokenKind → Bool
  | .newline => true
  | _ => false

/-- Reads the line ends ahead, at most `fuel` of them. -/
def skipNewlines : (fuel : Nat) → Parse Unit
  | 0 => return
  | fuel + 1 => do
    if ← acceptIf isNewline then skipNewlines fuel

/-- Reads the items after the first of a list with commas; after a comma the list may end where
`ends` holds. At most `fuel` items. -/
def moreItems (item : Parse α) (ends : Parse Bool) : (fuel : Nat) → Parse (List α)
  | 0 => fail .tooDeep
  | fuel + 1 => do
    if ← accept .comma then
      if ← ends then return []
      else
        let x ← item
        return x :: (← moreItems item ends fuel)
    else return []

end Parse

end Stepwise.Script
