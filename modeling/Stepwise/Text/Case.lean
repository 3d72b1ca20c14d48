import Stepwise.Text.Class
import Stepwise.Text.Table.Case

/-!
# Upper and lower case

Case conversion of characters and texts. One letter may become several (`ß` is `SS` in upper
case), and a capital sigma at the end of a word has a lower case form of its own.
-/

namespace Stepwise.Text

/-- What a table of runs makes of a code point. -/
def shifted? (runs : List (Nat × Nat × Nat × Int)) (n : Nat) : Option Nat :=
  runs.findSome? fun (first, last, stride, shift) =>
    if first ≤ n ∧ n ≤ last ∧ (n - first) % stride = 0 then some (n + shift).toNat else none

/-- The upper case form of a character. -/
def upperChar (c : Char) : List Char :=
  if c.toNat < 128 then [c.toUpper]
  else match Table.upperSpecial.lookup c.toNat with
    | some ns => ns.map Char.ofNat
    | none => [((shifted? Table.upperRuns c.toNat).map Char.ofNat).getD c]

/-- The lower case form of a character on its own. -/
def lowerChar (c : Char) : List Char :=
  if c.toNat < 128 then [c.toLower]
  else match Table.lowerSpecial.lookup c.toNat with
    | some ns => ns.map Char.ofNat
    | none => [((shifted? Table.lowerRuns c.toNat).map Char.ofNat).getD c]

/-- The text in upper case, character by character. -/
def toUpper (s : String) : String :=
  String.ofList (s.toList.flatMap upperChar)

/-- Whether the first character of `cs` that is not case-ignorable has a case. -/
def casedAhead (cs : List Char) : Bool :=
  (cs.find? (!isCaseIgnorable ·)).any isCased

/-- Lower case form of `cs`; `before` holds what was already read, newest first. A capital sigma
after a letter and before none is a final sigma. -/
def lowerFrom (before : List Char) : List Char → List Char
  | [] => []
  | c :: cs =>
    let here :=
      if c = 'Σ' then [if casedAhead before && !casedAhead cs then 'ς' else 'σ'] else lowerChar c
    here ++ lowerFrom (c :: before) cs

/-- The text in lower case. -/
def toLower (s : String) : String :=
  String.ofList (lowerFrom [] s.toList)

/-- The text with the letters of ASCII in lower case and all else as it is. -/
def toLowerAscii (s : String) : String :=
  s.map Char.toLower

end Stepwise.Text
