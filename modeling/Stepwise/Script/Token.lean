import Stepwise.Decimal.Layout
import Stepwise.Script.Tree
import Stepwise.Text.Quoted

/-!
# Tokens

The words of a script: literals, names, keywords and punctuation, and the layout tokens that mark
the ends of logical lines and the blocks of indented lines.

## The model

Keywords and punctuation are enumerations with a spelling each. All comparison of keywords and
punctuation is comparison of constructors; a spelling is only needed to read and to print.
-/

namespace Stepwise.Script

open Stepwise.Text

/-- The reserved words. -/
inductive Keyword where
  | «false» | none | «true» | and | as | assert | «break» | «class» | «continue» | def_ | del
  | elif | «else» | except | «finally» | «for» | «from» | global | «if» | «import» | «in» | is
  | lambda | nonlocal | not | or | pass | raise | «return» | «try» | «while»
  deriving DecidableEq, Repr, Inhabited

namespace Keyword

/-- The spelling of a keyword. -/
def text : Keyword → String
  | .false => "False" | .none => "None" | .true => "True" | .and => "and" | .as => "as"
  | .assert => "assert" | .break => "break" | .class => "class" | .continue => "continue"
  | .def_ => "def" | .del => "del" | .elif => "elif" | .else => "else" | .except => "except"
  | .finally => "finally" | .for => "for" | .from => "from" | .global => "global" | .if => "if"
  | .import => "import" | .in => "in" | .is => "is" | .lambda => "lambda"
  | .nonlocal => "nonlocal" | .not => "not" | .or => "or" | .pass => "pass" | .raise => "raise"
  | .return => "return" | .try => "try" | .while => "while"

/-- All keywords. -/
def all : List Keyword :=
  [.false, .none, .true, .and, .as, .assert, .break, .class, .continue, .def_, .del, .elif, .else,
    .except, .finally, .for, .from, .global, .if, .import, .in, .is, .lambda, .nonlocal, .not,
    .or, .pass, .raise, .return, .try, .while]

/-- The keyword with a given spelling. -/
def ofText? (word : String) : Option Keyword := all.find? (·.text == word)

end Keyword

/-- Operators, brackets and separators. -/
inductive Punct where
  | plus | minus | star | doubleStar | slash | doubleSlash | percent
  | amp | pipe | caret | tilde | shl | shr
  | eqEq | notEq | lt | le | gt | ge
  | eq | plusEq | minusEq | starEq | slashEq | doubleSlashEq | percentEq | doubleStarEq
  | ampEq | pipeEq | caretEq | shlEq | shrEq
  | lparen | rparen | lbracket | rbracket | lbrace | rbrace
  | comma | colon | dot | semicolon | arrow
  deriving DecidableEq, Repr, Inhabited

namespace Punct

/-- The characters of a punctuation mark. -/
def chars : Punct → List Char
  | .plus => ['+'] | .minus => ['-'] | .star => ['*'] | .doubleStar => ['*', '*']
  | .slash => ['/'] | .doubleSlash => ['/', '/'] | .percent => ['%'] | .amp => ['&']
  | .pipe => ['|'] | .caret => ['^'] | .tilde => ['~'] | .shl => ['<', '<'] | .shr => ['>', '>']
  | .eqEq => ['=', '='] | .notEq => ['!', '='] | .lt => ['<'] | .le => ['<', '=']
  | .gt => ['>'] | .ge => ['>', '='] | .eq => ['='] | .plusEq => ['+', '=']
  | .minusEq => ['-', '='] | .starEq => ['*', '='] | .slashEq => ['/', '=']
  | .doubleSlashEq => ['/', '/', '='] | .percentEq => ['%', '='] | .doubleStarEq => ['*', '*', '=']
  | .ampEq => ['&', '='] | .pipeEq => ['|', '='] | .caretEq => ['^', '=']
  | .shlEq => ['<', '<', '='] | .shrEq => ['>', '>', '='] | .lparen => ['('] | .rparen => [')']
  | .lbracket => ['['] | .rbracket => [']'] | .lbrace => ['\x7b'] | .rbrace => ['\x7d']
  | .comma => [','] | .colon => [':'] | .dot => ['.'] | .semicolon => [';'] | .arrow => ['-', '>']

/-- All punctuation marks, longer ones first. -/
def all : List Punct :=
  [.doubleSlashEq, .doubleStarEq, .shlEq, .shrEq,
    .doubleStar, .doubleSlash, .shl, .shr, .eqEq, .notEq, .le, .ge, .plusEq, .minusEq, .starEq,
    .slashEq, .percentEq, .ampEq, .pipeEq, .caretEq, .arrow,
    .plus, .minus, .star, .slash, .percent, .amp, .pipe, .caret, .tilde, .lt, .gt, .eq, .lparen,
    .rparen, .lbracket, .rbracket, .lbrace, .rbrace, .comma, .colon, .dot, .semicolon]

/-- The longest punctuation mark that `cs` starts with. -/
def longest? (cs : List Char) : Option Punct := all.find? (·.chars.isPrefixOf cs)

/-- Whether the mark opens a bracket. -/
def opens : Punct → Bool
  | .lparen | .lbracket | .lbrace => true
  | _ => false

/-- Whether the mark closes a bracket. -/
def closes : Punct → Bool
  | .rparen | .rbracket | .rbrace => true
  | _ => false

end Punct

/-- The kinds of tokens. -/
inductive TokenKind where
  | int (n : Int)
  | float (x : Float)
  | str (s : String)
  /-- The text of an f-string, its escapes resolved and its fields not yet read. -/
  | fstring (raw : String)
  | ident (name : String)
  | keyword (k : Keyword)
  | punct (p : Punct)
  /-- The end of a logical line. -/
  | newline
  /-- The start of a more deeply indented block. -/
  | indent
  /-- The end of such a block. -/
  | dedent
  | eof
  deriving Inhabited

namespace TokenKind

/-- How a message names a token. -/
def describe : TokenKind → String
  | .int n => "int literal " ++ intText n
  | .float x => "float literal " ++ Decimal.plainLayout.text x
  | .str s => "string literal " ++ quoted s
  | .fstring raw => "f-string " ++ quoted raw
  | .ident name => "identifier '" ++ name ++ "'"
  | .keyword k => "'" ++ k.text ++ "'"
  | .punct p => "'" ++ String.ofList p.chars ++ "'"
  | .newline => "end of line"
  | .indent => "indent"
  | .dedent => "dedent"
  | .eof => "end of file"

/-- Whether the token is the keyword `k`. -/
def isKeyword (k : Keyword) : TokenKind → Bool
  | .keyword k' => k = k'
  | _ => false

/-- Whether the token is the punctuation mark `p`. -/
def isPunct (p : Punct) : TokenKind → Bool
  | .punct p' => p = p'
  | _ => false

/-- Whether the token only marks lines and blocks. -/
def isLayout : TokenKind → Bool
  | .newline | .indent | .dedent => true
  | _ => false

end TokenKind

/-- A token, where it starts and the line it ends on. -/
structure Token where
  /-- What it is. -/
  kind : TokenKind
  /-- Where it starts. -/
  pos : Pos
  /-- The line it ends on; not the line of `pos` only for strings that span lines. -/
  endLine : Nat
  deriving Inhabited

end Stepwise.Script
