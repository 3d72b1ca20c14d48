import Stepwise.Text.Cut
import Stepwise.Viewer.Cell

/-!
# Highlighting

The colors of a source line: of its words, strings, brackets and comment. Every line is looked at on
its own, so a string that goes on in the next line is not known there.

## The model

The characters are looked at one after the other, and each is known by its index and by the byte at
which it begins. A word is collected until it ends; a string or a comment is looked at no further
than to find its end, and cut out of the bytes of the line.
-/

namespace Stepwise.Viewer

open Text

/-- Words of the language. -/
def keywords : List String :=
  ["def", "class", "return", "if", "elif", "else", "while", "for", "in", "not", "and", "or", "is",
    "break", "continue", "pass", "import", "from", "as", "try", "except", "finally", "raise",
    "lambda", "global", "nonlocal", "del", "assert"]

/-- Words that stand for a value. -/
def constants : List String := ["None", "True", "False"]

/-- The look of a word; `called` says whether a parenthesis follows. -/
def wordStyle (word : List Char) (called : Bool) : Style :=
  let s := String.ofList word
  if keywords.contains s then (Style.colored Palette.blue).inBold
  else if constants.contains s then .colored Palette.orange
  else if s = "self" then .colored Palette.cyan
  else if word.head?.any Char.isDigit then .colored Palette.orange
  else if called then .colored Palette.yellow
  else .colored Palette.text

/-- The look of a character that belongs to no word, string or comment. -/
def signStyle (c : Char) : Style :=
  if c ∈ ['(', ')', '[', ']', '\x7b', '\x7d'] then .colored Palette.blue
  else .colored Palette.text

/-- The characters of words. -/
def isWordChar (c : Char) : Bool := isAlphanumeric c || c = '_'

/-- The span of a word that has ended; there is none if there was no word. -/
def wordSpans (word : List Char) (called : Bool) : List Span :=
  if word.isEmpty then [] else [⟨word, wordStyle word called⟩]

/-- The index of the quote that closes a string, looked for from `i` on. A backslash takes the next
character along, so that where no quote closes the string the index may lie behind the end. -/
def closingIndex (chars : Array PlacedChar) (quote : Char) (i : Nat) : Nat :=
  if _ : i < chars.size then
    if chars[i].char = quote then i
    else closingIndex chars quote (i + if chars[i].char = '\\' then 2 else 1)
  else i
termination_by chars.size - i
decreasing_by split <;> omega

theorem le_closingIndex (chars : Array PlacedChar) (quote : Char) (i : Nat) :
    i ≤ closingIndex chars quote i := by
  fun_induction closingIndex with
  | case1 i => exact Nat.le_refl i
  | case2 i _ _ ih => exact Nat.le_trans (Nat.le_add_right ..) ih
  | case3 i => exact Nat.le_refl i

/-- The spans of a line from the character `i` on, where `word` is the word in front of it that has
not ended yet. There are none if a string or the comment cannot be cut out of the line. -/
def highlightFrom (line : String) (chars : Array PlacedChar) (i : Nat) (word : List Char) :
    Option (List Span) :=
  if _ : i < chars.size then
    let c := chars[i].char
    let start := chars[i].start
    if c = '#' then do
      let comment ← between? line start line.utf8ByteSize
      return wordSpans word false ++ [⟨comment, .colored Palette.gray⟩]
    else if c = '"' ∨ c = '\'' then do
      let stop := min (closingIndex chars c (i + 1) + 1) chars.size
      let string ← between? line start (startOf line chars stop)
      return wordSpans word false ++ ⟨string, .colored Palette.orange⟩ ::
        (← highlightFrom line chars stop [])
    else if isWordChar c then highlightFrom line chars (i + 1) (word ++ [c])
    else do
      return wordSpans word (c = '(') ++ ⟨[c], signStyle c⟩ ::
        (← highlightFrom line chars (i + 1) [])
  else some (wordSpans word false)
termination_by chars.size - i
decreasing_by
  · have := le_closingIndex chars chars[i].char (i + 1)
    omega
  · omega
  · omega

/-- The spans of a line, if they can be cut out of it. -/
def highlight? (line : String) : Option (List Span) := highlightFrom line (placedChars line) 0 []

/-- The spans of a line. -/
def highlight (line : String) : List Span := (highlight? line).getD []

end Stepwise.Viewer
