import Stepwise.Text.Class

/-!
# Quoted texts

Two ways to write a text between quotes. `literal` is a string literal of the script language:
reading it gives the text back. `quoted` is the form used in messages, where every character that
would not show as itself is written by its code point.
-/

namespace Stepwise.Text

/-- `n` in at least two hexadecimal digits. -/
def hexByte (n : Nat) : List Char :=
  [digitChar (n / 16), digitChar (n % 16)]

/-! ### Literals of the script language -/

/-- One character of a literal between quotes `quote`. -/
def literalChar (quote c : Char) : List Char :=
  if c = '\\' then ['\\', '\\']
  else if c = '\n' then ['\\', 'n']
  else if c = '\r' then ['\\', 'r']
  else if c = '\t' then ['\\', 't']
  else if c = quote then ['\\', c]
  else if c.toNat < 0x20 ∨ c.toNat = 0x7F then '\\' :: 'x' :: hexByte c.toNat
  else [c]

/-- The quote of a literal: double only if the text has a single quote and no double one. -/
def literalQuote (cs : List Char) : Char :=
  if cs.contains '\'' && !cs.contains '"' then '"' else '\''

/-- A text as a literal of the script language. -/
def literal (s : String) : String :=
  let quote := literalQuote s.toList
  String.ofList (quote :: s.toList.flatMap (literalChar quote) ++ [quote])

/-! ### Texts in messages -/

/-- One character of a text in a message. -/
def quotedChar (c : Char) : List Char :=
  if c.toNat = 0 then ['\\', '0']
  else if c = '\t' then ['\\', 't']
  else if c = '\r' then ['\\', 'r']
  else if c = '\n' then ['\\', 'n']
  else if c = '"' ∨ c = '\\' then ['\\', c]
  else if isExtending c || !isPrintable c then
    ['\\', 'u', '\x7b'] ++ (natText 16 c.toNat).toList ++ ['\x7d']
  else [c]

/-- A text in a message, between double quotes. -/
def quoted (s : String) : String :=
  String.ofList ('"' :: s.toList.flatMap quotedChar ++ ['"'])

end Stepwise.Text
