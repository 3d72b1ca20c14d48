import Stepwise.Decimal.Layout
import Stepwise.Json.Basic
import Stepwise.Text.Quoted

/-!
# JSON texts

Writing JSON: on one line without blanks (`Json.compact`), or with every item on a line of its own
(`Json.pretty`).
-/

namespace Stepwise.Json

open Text

/-- A character inside a string. Control characters, quotes and backslashes are escaped. -/
def escaped (c : Char) : List Char :=
  if c = '"' ∨ c = '\\' then ['\\', c]
  else if c = '\x08' then ['\\', 'b']
  else if c = '\x0c' then ['\\', 'f']
  else if c = '\n' then ['\\', 'n']
  else if c = '\r' then ['\\', 'r']
  else if c = '\t' then ['\\', 't']
  else if c.toNat < 0x20 then ['\\', 'u', '0', '0'] ++ hexByte c.toNat
  else [c]

/-- A string between quotes. -/
def stringText (s : String) : String :=
  String.ofList ('"' :: s.toList.flatMap escaped ++ ['"'])

/-- Parts between brackets. -/
def enclosed (opening closing separator : String) (parts : List String) : String :=
  opening ++ String.intercalate separator parts ++ closing

mutual

/-- A value on one line, without blanks. -/
def compact : Json → String
  | null => "null"
  | bool true => "true"
  | bool false => "false"
  | int n => intText n
  | float x => Decimal.jsonLayout.text x
  | str s => stringText s
  | arr items => enclosed "[" "]" "," (compactItems items)
  | obj members => enclosed "\x7b" "\x7d" "," (compactMembers members)

/-- Every item on one line. -/
def compactItems : List Json → List String
  | [] => []
  | v :: vs => compact v :: compactItems vs

/-- Every member on one line. -/
def compactMembers : List (String × Json) → List String
  | [] => []
  | (name, v) :: ms => (stringText name ++ ":" ++ compact v) :: compactMembers ms

end

/-- The start of a line that is indented `depth` times. -/
def newLine (depth : Nat) : String := "\n".pushn ' ' (2 * depth)

mutual

/-- A value with every item and member on a line of its own; `depth` is how far the value itself is
indented. -/
def prettyAt (depth : Nat) : Json → String
  | arr [] => "[]"
  | obj [] => "\x7b\x7d"
  | arr (v :: vs) =>
    enclosed ("[" ++ newLine (depth + 1)) (newLine depth ++ "]") ("," ++ newLine (depth + 1))
      (prettyAt (depth + 1) v :: prettyItems (depth + 1) vs)
  | obj ((name, v) :: ms) =>
    enclosed ("\x7b" ++ newLine (depth + 1)) (newLine depth ++ "\x7d")
      ("," ++ newLine (depth + 1))
      ((stringText name ++ ": " ++ prettyAt (depth + 1) v) :: prettyMembers (depth + 1) ms)
  | null => "null"
  | bool b => compact (bool b)
  | int n => compact (int n)
  | float x => compact (float x)
  | str s => compact (str s)

/-- Items that are indented. -/
def prettyItems (depth : Nat) : List Json → List String
  | [] => []
  | v :: vs => prettyAt depth v :: prettyItems depth vs

/-- Members that are indented. -/
def prettyMembers (depth : Nat) : List (String × Json) → List String
  | [] => []
  | (name, v) :: ms =>
    (stringText name ++ ": " ++ prettyAt depth v) :: prettyMembers depth ms

end

/-- A value with every item and member on a line of its own. -/
def pretty (v : Json) : String := prettyAt 0 v

end Stepwise.Json
