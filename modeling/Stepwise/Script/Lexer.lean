import Stepwise.Decimal.Read
import Stepwise.Script.Token
import Stepwise.Text.Class

/-!
# Reading tokens

Splits a source text into tokens (`tokens`). Lines that hold no token, line ends inside brackets
and line ends after a backslash separate nothing; the indentation of every other line is compared
with that of the lines before it.

## The model

A `Reader` is the rest of the text with the position of its first character. Each part of the
lexer takes a reader and gives the reader behind what it has read. `Scan` adds what has to be
remembered between tokens: the widths of the open blocks, the number of open brackets, and the
tokens so far. A step of the scan reads at least one character, so as many steps as there are
characters, and one for the end, are enough.
-/

namespace Stepwise.Script

open Stepwise.Text

/-- What can be wrong with the words of a script. -/
inductive LexProblem where
  /-- A line is indented less than the one before it, and as no line around it. -/
  | unindent
  /-- A backslash that does not end its line. -/
  | afterContinuation
  /-- A number with a base that has no digits or is too large; its digits. -/
  | invalidInteger (digits : String)
  /-- A number with two exponents. -/
  | invalidFloat (text : String)
  /-- An integer of more than 64 bits. -/
  | integerTooLarge (digits : String)
  /-- A string without its closing quote. -/
  | unterminatedString
  /-- An escape by code point without all its digits. -/
  | truncatedEscape
  /-- An escape by code point that is no character; its digits. -/
  | invalidEscape (digits : String)
  /-- An exclamation mark alone. -/
  | loneBang
  /-- A character that starts no token. -/
  | invalidCharacter (c : Char)
  deriving DecidableEq, Repr

/-- The wording of a problem. -/
def LexProblem.message : LexProblem → String
  | .unindent => "unindent does not match any outer indentation level"
  | .afterContinuation => "unexpected character after line continuation character"
  | .invalidInteger digits => "invalid integer literal '0" ++ digits ++ "'"
  | .invalidFloat text => "invalid float literal '" ++ text ++ "'"
  | .integerTooLarge digits => "integer literal '" ++ digits ++ "' is too large"
  | .unterminatedString => "unterminated string literal"
  | .truncatedEscape => "truncated escape sequence"
  | .invalidEscape digits => "invalid escape sequence '" ++ digits ++ "'"
  | .loneBang => "invalid syntax: '!'"
  | .invalidCharacter c => "invalid character '" ++ c.toString ++ "'"

/-- A problem and its place. -/
structure LexError where
  /-- What is wrong. -/
  problem : LexProblem
  /-- Where. -/
  pos : Pos
  deriving DecidableEq, Repr

/-- The whole wording of an error. -/
def LexError.message (e : LexError) : String :=
  "Lexer error at line " ++ natText 10 e.pos.line ++ ", column " ++ natText 10 e.pos.column ++ ": "
    ++ e.problem.message

/-! ### Readers -/

/-- The position behind a character. -/
def Pos.after (p : Pos) (c : Char) : Pos :=
  if c = '\n' then ⟨p.line + 1, 1⟩ else ⟨p.line, p.column + 1⟩

/-- The rest of a text and the position of its first character. -/
structure Reader where
  /-- What is still to be read. -/
  rest : List Char
  /-- Where it starts. -/
  pos : Pos

namespace Reader

/-- The reader behind the next `n` characters. -/
def skip (r : Reader) : Nat → Reader
  | 0 => r
  | n + 1 =>
    match r.rest with
    | [] => r
    | c :: cs => skip ⟨cs, r.pos.after c⟩ n

/-- The reader at the first character that fails `p`. -/
def skipWhile (p : Char → Bool) (r : Reader) : Reader :=
  r.skip (r.rest.takeWhile p).length

/-- The reader at the end of the line. -/
def skipLine (r : Reader) : Reader := r.skipWhile (· ≠ '\n')

end Reader

/-! ### Numbers -/

/-- The largest integer. -/
def maxInt : Int := 0x7fffffffffffffff

/-- The digits of a number in base 8, 16 or 2, underscores left out, and what follows. -/
def radixDigits (radix : Nat) : List Char → List Char × List Char
  | [] => ([], [])
  | c :: cs =>
    if c = '_' then radixDigits radix cs
    else if isDigitOf radix c then
      let (ds, rest) := radixDigits radix cs
      (c :: ds, rest)
    else ([], c :: cs)

/-- The base that a letter after a leading zero stands for. -/
def radixOf? (c : Char) : Option Nat :=
  if c = 'x' ∨ c = 'X' then some 16
  else if c = 'o' ∨ c = 'O' then some 8
  else if c = 'b' ∨ c = 'B' then some 2
  else none

/-- Whether an exponent's digits follow an `e`. -/
def exponentAhead : List Char → Bool
  | s :: d :: _ => if s = '+' ∨ s = '-' then d.isDigit else s.isDigit
  | [s] => s.isDigit
  | [] => false

/-- The rest of a decimal number: its characters without underscores, an exponent written with
`e`; whether it is a float; and what follows. An exponent belongs to the number only if a digit
follows; `afterE` says that its sign may come. -/
def numberTail (isFloat afterE : Bool) : List Char → List Char × Bool × List Char
  | [] => ([], isFloat, [])
  | c :: cs =>
    if c.isDigit ∨ (afterE ∧ (c = '+' ∨ c = '-')) then
      let (t, f, rest) := numberTail isFloat false cs
      (c :: t, f, rest)
    else if c = '_' then numberTail isFloat false cs
    else if c = '.' ∧ !isFloat then
      let (t, f, rest) := numberTail true false cs
      (c :: t, f, rest)
    else if (c = 'e' ∨ c = 'E') ∧ exponentAhead cs then
      let (t, f, rest) := numberTail true true cs
      ('e' :: t, f, rest)
    else ([], isFloat, c :: cs)

/-- A number that starts with `first`, the rest of the text being `cs`: its token and the number of
characters of `cs` it takes. -/
def number (first : Char) (cs : List Char) : Except LexProblem (TokenKind × Nat) :=
  match cs with
  | r :: digits =>
    match if first = '0' then radixOf? r else none with
    | some radix =>
      let (ds, rest) := radixDigits radix digits
      let n : Int := natOfDigits radix ds
      if ds.isEmpty ∨ n > maxInt then .error (.invalidInteger (String.ofList ds))
      else .ok (.int n, cs.length - rest.length)
    | none => decimal first cs
  | [] => decimal first cs
where
  /-- A number in base ten. -/
  decimal (first : Char) (cs : List Char) : Except LexProblem (TokenKind × Nat) :=
    let (tail, isFloat, rest) := numberTail (first = '.') false cs
    let text := first :: tail
    let taken := cs.length - rest.length
    if isFloat then
      match Decimal.decimalLiteral? text with
      | some x => .ok (.float x, taken)
      | none => .error (.invalidFloat (String.ofList text))
    else
      let n : Int := natOfDigits 10 text
      if n > maxInt then .error (.integerTooLarge (String.ofList text)) else .ok (.int n, taken)

/-! ### Strings -/

/-- What kind of string literal is being read. -/
structure StringStyle where
  /-- The closing quote. -/
  quote : Char
  /-- Whether the quote is written three times. -/
  triple : Bool
  /-- Whether backslashes stand for themselves. -/
  raw : Bool

/-- The character that the hexadecimal digits `ds` stand for. -/
def hexChar (ds : List Char) : Except LexProblem Char :=
  if ds.all (isDigitOf 16) then
    let n := natOfDigits 16 ds
    if n.isValidChar then .ok (Char.ofNat n) else .error (.invalidEscape (String.ofList ds))
  else .error .truncatedEscape

/-- What a simple escape stands for. -/
def simpleEscape? : Char → Option Char
  | 'n' => some '\n' | 't' => some '\t' | 'r' => some '\r' | '0' => some '\x00'
  | '\\' => some '\\' | '\'' => some '\'' | '"' => some '"'
  | _ => none

/-- The text of a string literal behind its opening quotes, and what follows the closing ones. -/
def stringBody (style : StringStyle) :
    List Char → Except LexProblem (List Char × List Char)
  | [] => .error .unterminatedString
  | '\\' :: cs =>
    match cs with
    | [] => .error .unterminatedString
    | e :: cs =>
      if style.raw then do
        let (t, rest) ← stringBody style cs
        .ok ('\\' :: e :: t, rest)
      else if e = '\n' then stringBody style cs
      else match simpleEscape? e with
        | some c => do
          let (t, rest) ← stringBody style cs
          .ok (c :: t, rest)
        | none =>
          if e = 'x' then
            match cs with
            | a :: b :: cs => do
              let c ← hexChar [a, b]
              let (t, rest) ← stringBody style cs
              .ok (c :: t, rest)
            | _ => .error .truncatedEscape
          else if e = 'u' then
            match cs with
            | a :: b :: c :: d :: cs => do
              let u ← hexChar [a, b, c, d]
              let (t, rest) ← stringBody style cs
              .ok (u :: t, rest)
            | _ => .error .truncatedEscape
          else do
            let (t, rest) ← stringBody style cs
            .ok ('\\' :: e :: t, rest)
  | c :: cs =>
    if c = style.quote then
      if style.triple then
        if [c, c].isPrefixOf cs then .ok ([], cs.drop 2)
        else do
          let (t, rest) ← stringBody style cs
          .ok (c :: t, rest)
      else .ok ([], cs)
    else if c = '\n' ∧ !style.triple then .error .unterminatedString
    else do
      let (t, rest) ← stringBody style cs
      .ok (c :: t, rest)

/-- A string literal from behind its first quote: its text and the number of characters of `cs` it
takes. -/
def stringLiteral (quote : Char) (raw : Bool) (cs : List Char) :
    Except LexProblem (String × Nat) := do
  let triple := [quote, quote].isPrefixOf cs
  let body := if triple then cs.drop 2 else cs
  let (text, rest) ← stringBody ⟨quote, triple, raw⟩ body
  .ok (String.ofList text, cs.length - rest.length)

/-- The letters that may stand before a string literal, and whether they make it raw or an
f-string. -/
def stringMarks? (word : List Char) : Option (Bool × Bool) :=
  let lower := word.map Char.toLower
  if lower ∈ [['r'], ['f'], ['b'], ['u'], ['r', 'f'], ['f', 'r'], ['r', 'b'], ['b', 'r']] then
    some (lower.contains 'r', lower.contains 'f')
  else none

/-! ### One token -/

/-- Whether a name may start with `c`. -/
def isNameStart (c : Char) : Bool := isAlphabetic c || c = '_'

/-- Whether a name may go on with `c`. -/
def isNamePart (c : Char) : Bool := isAlphanumeric c || c = '_'

/-- Marks a problem with a place. -/
def Reader.located {α : Type} (r : Reader) : Except LexProblem α → Except LexError α
  | .ok a => .ok a
  | .error p => .error ⟨p, r.pos⟩

/-- A word at `r`: a name, a keyword or a string literal with letters before its quote. -/
def word (r : Reader) : Except LexError (Token × Reader) :=
  let chars := r.rest.takeWhile isNamePart
  let after := r.skip chars.length
  match after.rest, stringMarks? chars with
  | quote :: cs, some (raw, formatted) =>
    if quote = '"' ∨ quote = '\'' then do
      let inside := after.skip 1
      let (text, taken) ← inside.located (stringLiteral quote raw cs)
      let behind := inside.skip taken
      .ok (⟨if formatted then .fstring text else .str text, r.pos, behind.pos.line⟩, behind)
    else .ok (plain chars, after)
  | _, _ => .ok (plain chars, after)
where
  /-- A name or a keyword. -/
  plain (chars : List Char) : Token :=
    let name := String.ofList chars
    ⟨match Keyword.ofText? name with
      | some k => .keyword k
      | none => .ident name, r.pos, r.pos.line⟩

/-- The token at `r`, whose first character is `c` and is neither blank nor a line end. -/
def oneToken (c : Char) (r : Reader) : Except LexError (Token × Reader) :=
  let inside := r.skip 1
  let cs := inside.rest
  if c = '"' ∨ c = '\'' then do
    let (text, taken) ← inside.located (stringLiteral c false cs)
    let behind := inside.skip taken
    .ok (⟨.str text, r.pos, behind.pos.line⟩, behind)
  else if c.isDigit ∨ (c = '.' ∧ cs.head?.any Char.isDigit) then do
    let (kind, taken) ← inside.located (number c cs)
    .ok (⟨kind, r.pos, r.pos.line⟩, inside.skip taken)
  else if isNameStart c then word r
  else match Punct.longest? r.rest with
    | some p => .ok (⟨.punct p, r.pos, r.pos.line⟩, r.skip p.chars.length)
    | none => .error ⟨if c = '!' then .loneBang else .invalidCharacter c, r.pos⟩

/-! ### Blanks and indentation -/

/-- Skips blanks, and inside brackets line ends and comments; `fuel` bounds the number of steps. -/
def skipBlanks (inBrackets : Bool) : (fuel : Nat) → Reader → Except LexError Reader
  | 0, r => .ok r
  | fuel + 1, r =>
    match r.rest with
    | c :: cs =>
      if c = ' ' ∨ c = '\t' ∨ c = '\r' ∨ c = '\x0c' then skipBlanks inBrackets fuel (r.skip 1)
      else if c = '\n' ∧ inBrackets then skipBlanks inBrackets fuel (r.skip 1)
      else if c = '#' ∧ inBrackets then skipBlanks inBrackets fuel r.skipLine
      else if c = '\\' then
        match cs with
        | '\n' :: _ => skipBlanks inBrackets fuel (r.skip 2)
        | '\r' :: '\n' :: _ => skipBlanks inBrackets fuel (r.skip 3)
        | _ => .error ⟨.afterContinuation, r.pos⟩
      else .ok r
    | [] => .ok r

/-- The width of the indentation at the start of `cs`: a tab goes to the next multiple of eight, a
form feed starts again. -/
def indentWidth (width : Nat) : List Char → Nat
  | ' ' :: cs => indentWidth (width + 1) cs
  | '\t' :: cs => indentWidth ((width / 8 + 1) * 8) cs
  | '\x0c' :: cs => indentWidth 0 cs
  | _ => width

/-- Whether the line at `cs`, its indentation skipped, holds no token; then the number of characters
up to its end. -/
def blankLine? (cs : List Char) : Option Nat :=
  match cs with
  | '\n' :: _ => some 1
  | '\r' :: '\n' :: _ => some 2
  | '#' :: _ => some ((cs.takeWhile (· ≠ '\n')).length + 1)
  | _ => none

/-! ### The scan -/

/-- The state of the lexer between two tokens. -/
structure Scan where
  /-- What is still to be read. -/
  reader : Reader
  /-- Whether the reader is at the start of a logical line. -/
  atLineStart : Bool
  /-- The widths of the open blocks, innermost first, and 0. -/
  widths : List Nat
  /-- The number of open brackets. -/
  depth : Nat
  /-- The tokens so far, newest first. -/
  tokens : List Token

namespace Scan

/-- Adds a layout token at a position. -/
def push (s : Scan) (kind : TokenKind) (pos : Pos) : Scan :=
  { s with tokens := ⟨kind, pos, pos.line⟩ :: s.tokens }

/-- Ends the logical line, if it holds a token. -/
def endLine (s : Scan) : Scan :=
  match s.tokens with
  | t :: _ => if t.kind.isLayout then s else s.push .newline s.reader.pos
  | [] => s

/-- Closes the blocks that are wider than `width`. -/
def closeBlocks (s : Scan) (width : Nat) : List Nat → Scan
  | w :: ws =>
    if w > width then closeBlocks ({ s with widths := ws }.push .dedent s.reader.pos) width ws
    else s
  | [] => s

/-- Compares the indentation of a line that holds a token with the open blocks. -/
def indent (s : Scan) (width : Nat) : Except LexError Scan :=
  let current := s.widths.headD 0
  if width > current then
    .ok ({ s with widths := width :: s.widths }.push .indent s.reader.pos)
  else if width < current then
    let s' := s.closeBlocks width s.widths
    if s'.widths.head? = some width then .ok s' else .error ⟨.unindent, s.reader.pos⟩
  else .ok s

/-- The end of the text: ends the line and closes all blocks. -/
def finish (s : Scan) : List Token :=
  let s := s.endLine
  let s := s.closeBlocks 0 s.widths
  (s.push .eof s.reader.pos).tokens.reverse

/-- Takes in one token. -/
def take (s : Scan) (t : Token) (r : Reader) : Scan :=
  let depth := match t.kind with
    | .punct p => if p.opens then s.depth + 1 else if p.closes then s.depth - 1 else s.depth
    | _ => s.depth
  { s with reader := r, depth := depth, tokens := t :: s.tokens }

/-- Reads on from a state, for at most `fuel` tokens and line ends. -/
def run : (fuel : Nat) → Scan → Except LexError (List Token)
  | 0, s => .ok s.finish
  | fuel + 1, s =>
    if s.atLineStart then
      let width := indentWidth 0 s.reader.rest
      let r := s.reader.skipWhile fun c => c = ' ' ∨ c = '\t' ∨ c = '\x0c'
      match blankLine? r.rest with
      | some n => run fuel { s with reader := r.skip n }
      | none =>
        let s := { s with reader := r, atLineStart := false }
        if r.rest.isEmpty then .ok s.finish
        else do
          let s ← s.indent width
          line fuel s
    else line fuel s
where
  /-- Reads on inside a line. -/
  line (fuel : Nat) (s : Scan) : Except LexError (List Token) := do
    let r ← skipBlanks (s.depth > 0) (s.reader.rest.length + 1) s.reader
    let s := { s with reader := r }
    match r.rest with
    | [] => .ok s.finish
    | c :: _ =>
      if c = '#' then run fuel { s with reader := r.skipLine }
      else if c = '\n' then
        let s := { s with reader := r.skip 1 }
        run fuel (if s.depth = 0 then { s.endLine with atLineStart := true } else s)
      else
        let (t, r) ← oneToken c r
        run fuel (s.take t r)

end Scan

/-- The tokens of a source text; the last one, and no other, is `eof`. -/
def tokens (source : String) : Except LexError (List Token) :=
  let cs := source.toList
  Scan.run (cs.length + 1) ⟨⟨cs, ⟨1, 1⟩⟩, true, [0], 0, []⟩

end Stepwise.Script
