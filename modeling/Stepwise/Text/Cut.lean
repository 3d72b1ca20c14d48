import Stepwise.Text.Case

/-!
# Taking texts apart

Searching, splitting, stripping and replacing in texts, character by character, and cutting parts out
of their bytes.

## The model

A text is taken apart as the list of its characters. Everything that looks for a separator is built
on `cut?`, which finds its first occurrence. Only where a part is told by its first byte and the byte
behind its last one are the bytes of the text taken apart, and then no character may be divided
(`between?`).
-/

namespace Stepwise.Text

/-! ### Searching -/

/-- What comes before and behind the first `sep`, if there is one. -/
def cut? (sep : List Char) : List Char → Option (List Char × List Char)
  | [] => if sep.isEmpty then some ([], []) else none
  | c :: cs =>
    if sep.isPrefixOf (c :: cs) then some ([], (c :: cs).drop sep.length)
    else (cut? sep cs).map fun (before, behind) => (c :: before, behind)

/-- Whether `needle` is part of a text. -/
def occursIn (needle cs : List Char) : Bool := (cut? needle cs).isSome

/-- The position of the first `needle`. -/
def indexOf? (needle cs : List Char) : Option Nat :=
  (cut? needle cs).map (·.1.length)

/-- The position of the last `needle`. -/
def lastIndexOf? (needle cs : List Char) : Option Nat :=
  (cut? needle.reverse cs.reverse).map (·.2.length)

/-! ### Splitting -/

/-- The parts between separators; at most `fuel` of them are cut off, and the rest is the last
part. -/
def splitFirst (sep : List Char) : (fuel : Nat) → List Char → List (List Char)
  | 0, cs => [cs]
  | fuel + 1, cs =>
    match cut? sep cs with
    | none => [cs]
    | some (before, behind) => before :: splitFirst sep fuel behind

/-- The parts between separators, with at most `limit` cuts; `sep` is not empty. -/
def splitOn (sep : List Char) (limit : Option Nat) (cs : List Char) : List (List Char) :=
  splitFirst sep (match limit with
    | some n => min n cs.length
    | none => cs.length) cs

/-- The words of a text, with at most `limit` cuts: what remains then is the last one, blanks at
its end included. -/
def wordsFrom : (fuel : Nat) → (limit : Option Nat) → List Char → List (List Char)
  | 0, _, _ => []
  | fuel + 1, limit, cs =>
    match cs.dropWhile isSpace with
    | [] => []
    | rest =>
      if limit = some 0 then [rest]
      else
        rest.takeWhile (!isSpace ·)
          :: wordsFrom fuel (limit.map (· - 1)) (rest.dropWhile (!isSpace ·))

/-- The words of a text. -/
def words (limit : Option Nat) (cs : List Char) : List (List Char) :=
  wordsFrom (cs.length + 1) limit cs

/-- A line without the carriage return at its end. -/
def dropReturn (line : List Char) : List Char :=
  match line.getLast? with
  | some '\r' => line.dropLast
  | _ => line

/-- The lines of a text. A line ends with a line feed, and a carriage return before it belongs to
the ending; behind the last line feed there is a line only if it has characters. -/
def lines (s : String) : List String :=
  let parts := splitOn ['\n'] none s.toList
  let ended := parts.dropLast.map dropReturn
  let last := match parts.getLast? with
    | none | some [] => []
    | some line => [line]
  (ended ++ last).map String.ofList

/-! ### Parts between bytes -/

/-- A character in a text. -/
structure PlacedChar where
  /-- Its first byte. -/
  start : Nat
  /-- The character. -/
  char : Char

/-- Characters in a row, from the byte `start` on. -/
def placedCharsFrom (start : Nat) : List Char → List PlacedChar
  | [] => []
  | c :: cs => ⟨start, c⟩ :: placedCharsFrom (start + c.utf8Size) cs

/-- The characters of a text, each with its first byte. -/
def placedChars (s : String) : Array PlacedChar := (placedCharsFrom 0 s.toList).toArray

/-- Where the character with an index begins; behind the last one, where the text ends. -/
def startOf (s : String) (chars : Array PlacedChar) (i : Nat) : Nat :=
  match chars[i]? with
  | some c => c.start
  | none => s.utf8ByteSize

/-- The part of a text between two bytes, if a character begins at each of them or the text ends
there. -/
def between? (s : String) (start stop : Nat) : Option (List Char) := do
  let first ← s.pos? ⟨start⟩
  let last ← s.pos? ⟨stop⟩
  return (← s.slice? first last).copy.toList

/-! ### Stripping and replacing -/

/-- A text without the characters at its start that satisfy `p`. -/
def stripStart (p : Char → Bool) (cs : List Char) : List Char := cs.dropWhile p

/-- A text without the characters at its end that satisfy `p`. -/
def stripEnd (p : Char → Bool) (cs : List Char) : List Char := (cs.reverse.dropWhile p).reverse

/-- A text without the blanks around it. -/
def trim (s : String) : String :=
  String.ofList (stripEnd isSpace (stripStart isSpace s.toList))

/-- Puts `new` before every character and at the end, at most `limit` times. -/
def interleave (new : List Char) : (limit : Option Nat) → List Char → List Char
  | some 0, cs => cs
  | _, [] => new
  | limit, c :: cs => new ++ c :: interleave new (limit.map (· - 1)) cs

/-- Puts `new` in the place of the first `limit` occurrences of `old`. -/
def replace (old new : List Char) (limit : Option Nat) (cs : List Char) : List Char :=
  if old.isEmpty then interleave new limit cs
  else new.intercalate (splitOn old limit cs)

/-- How often `needle` occurs, overlaps not counted; an empty one occurs around every character. -/
def countIn (needle cs : List Char) : Nat :=
  if needle.isEmpty then cs.length + 1 else (splitOn needle none cs).length - 1

/-! ### Words and cases -/

/-- A text with every word in lower case but for its first letter. -/
def titleFrom (inWord : Bool) : List Char → List Char
  | [] => []
  | c :: cs => (if inWord then lowerChar c else upperChar c) ++ titleFrom (isAlphabetic c) cs

/-- A text in lower case but for its first letter. -/
def capitalize : List Char → List Char
  | [] => []
  | c :: cs => upperChar c ++ cs.flatMap lowerChar

/-- Whether there are letters and none of them satisfies `p`. -/
def noLetter (p : Char → Bool) (cs : List Char) : Bool :=
  let letters := cs.filter isAlphabetic
  !letters.isEmpty && letters.all (!p ·)

/-! ### Filling up -/

/-- `n` times the character `c`. -/
def fill (c : Char) (n : Nat) : List Char := List.replicate n c

/-- A text in the middle of `width` characters. Of an odd number of fillers the larger part goes to
the right, or to the left if the width is odd. -/
def center (c : Char) (width : Nat) (cs : List Char) : List Char :=
  let gap := width - cs.length
  let left := gap / 2 + (if gap % 2 = 1 ∧ width % 2 = 1 then 1 else 0)
  fill c left ++ cs ++ fill c (gap - left)

/-- A number filled up with zeros behind its sign. -/
def zeroFill (width : Nat) (cs : List Char) : List Char :=
  let zeros := fill '0' (width - cs.length)
  match cs with
  | c :: rest => if c = '+' ∨ c = '-' then c :: (zeros ++ rest) else zeros ++ cs
  | [] => zeros

end Stepwise.Text
