import Stepwise.Text.Cluster
import Stepwise.Text.Table.Width

/-!
# Width

How many columns a text takes on a screen. Most characters take one, East Asian ones and emoji two,
marks none; but some characters are drawn as one when they follow each other, and then the width of
the whole is not that of its parts.

## The model

A text is measured from its end. `Follower` is what there is to know about the text behind a
character: the shape that it begins with, and whether a joiner or a selector stands before that
shape. `Follower.measure` gives the columns that a character adds before such a text, and the
follower that it is itself. A character that completes a shape adds what the shape is wider than its
rest, which may be less than nothing.
-/

namespace Stepwise.Text

/-! ### Single characters -/

/-- Marks that take a column all the same: those that are younger than the rules of widths, and the
consonant joiner of Tifinagh. -/
def isDrawnMark (c : Char) : Bool :=
  inRanges [(0x1ACF, 0x1ADD), (0x1AE0, 0x1AEB), (0x2D7F, 0x2D7F), (0x10EFA, 0x10EFB),
    (0x11B60, 0x11B67), (0x1E6E3, 0x1E6F5)] c.toNat

/-- Characters that take no column: marks, the later parts of Korean syllables, and characters that
are only there for the layout. -/
def isZeroWidth (c : Char) : Bool :=
  (isExtending c && !isDrawnMark c) ||
    inRanges [(0xAD, 0xAD), (0x605, 0x605), (0x61C, 0x61C), (0x70F, 0x70F), (0x890, 0x891),
      (0x8E2, 0x8E2), (0xD4E, 0xD4E), (0x1160, 0x11FF), (0x180E, 0x180E), (0x200B, 0x200F),
      (0x202A, 0x202E), (0x2060, 0x206F), (0x3164, 0x3164), (0xA8FA, 0xA8FA), (0xD7B0, 0xD7C6),
      (0xD7CB, 0xD7FB), (0xFEFF, 0xFEFF), (0xFFA0, 0xFFA0), (0xFFF0, 0xFFF8), (0x111C2, 0x111C3),
      (0x113D1, 0x113D1), (0x1193F, 0x1193F), (0x11941, 0x11941), (0x11A84, 0x11A89),
      (0x11D46, 0x11D46), (0x11F02, 0x11F02), (0x1BCA0, 0x1BCA3), (0x1D173, 0x1D17A),
      (0xE0000, 0xE0FFF)] c.toNat

/-- The columns of a character that is drawn by itself. -/
def ownColumns (c : Char) : Nat :=
  if c.toNat = 0x17D8 then 3
  else if c.toNat = 0x17A4 then 2
  else if isZeroWidth c then 0
  else if inRanges Table.wide c.toNat then 2
  else 1

/-- Marks that the letters on both sides join through. -/
def isTransparent (c : Char) : Bool := isZeroWidth c && !inRanges Table.separating c.toNat

/-- Marks that may stand inside a ligature. -/
def isIgnorableInLigature (c : Char) : Bool :=
  inRanges [(0x34F, 0x34F), (0x17B4, 0x17B5), (0x180B, 0x180D), (0x180F, 0x180F), (0x200D, 0x200D),
    (0xFE00, 0xFE0F), (0xE0100, 0xE01EF)] c.toNat

/-- The consonants of Tifinagh. -/
def isTifinagh (c : Char) : Bool := inRanges [(0x2D31, 0x2D65), (0x2D6F, 0x2D6F)] c.toNat

/-! ### Shapes -/

/-- The shape that a character belongs to, as far as it has been read from its end. -/
inductive Shape where
  /-- None. -/
  | plain
  /-- A line feed. -/
  | lineFeed
  /-- A picture in color. -/
  | emoji
  /-- A skin tone. -/
  | skinTone
  /-- The second letter of a flag. -/
  | flagLetter
  /-- A flag. -/
  | flag
  /-- A picture with a joiner before it. -/
  | joined
  /-- A letter before a picture that is joined. -/
  | joinedFlagLetter
  /-- An even number of letters before a picture that is joined. -/
  | joinedFlagsEven
  /-- An odd number of them from three up. -/
  | joinedFlagsOdd
  /-- The frame of a key, joined. -/
  | joinedKey
  /-- The end of the tags of a flag, joined. -/
  | tagEnd
  /-- As many letters before it. -/
  | tagLetters (n : Nat)
  /-- As many digits before those. -/
  | tagDigits (n : Nat)
  /-- An Arabic alef. -/
  | alef
  /-- A Hebrew lamed. -/
  | lamed
  /-- A Buginese ya. -/
  | ya
  /-- The vowel of a Buginese ya. -/
  | yaVowel
  /-- A consonant of Tifinagh. -/
  | tifinagh
  /-- A consonant of Tifinagh with the script's own joiner. -/
  | tifinaghJoined
  /-- A second tone of Lisu. -/
  | lisuTone
  /-- An i of Old Turkic. -/
  | orkhonI
  /-- A letter of Khmer that can stand below another one. -/
  | khmerLetter
  /-- A vowel sign e of Kirat Rai. -/
  | kiratE
  /-- A vowel sign ai of Kirat Rai. -/
  | kiratAi
  deriving DecidableEq

namespace Shape

/-- Whether it may hold ignorable marks and a joiner. -/
def isLigature : Shape → Bool
  | lamed | ya | yaVowel | tifinagh | tifinaghJoined | lisuTone | orkhonI | khmerLetter | kiratE
  | kiratAi => true
  | _ => false

/-- The shape that a character begins when nothing behind it takes it in. -/
def ofChar (c : Char) : Shape :=
  let n := c.toNat
  if isSkinTone c then skinTone
  else if isFlagLetter c then flagLetter
  else if inRanges Table.emoji n then emoji
  else if inRanges [(0x622, 0x623), (0x625, 0x625), (0x627, 0x627), (0x671, 0x673), (0x675, 0x675),
    (0x773, 0x774)] n then alef
  else if n = 0x5DC then lamed
  else if n = 0x1A10 then ya
  else if isTifinagh c then tifinagh
  else if inRanges [(0xA4FC, 0xA4FD)] n then lisuTone
  else if n = 0x10C03 then orkhonI
  else if inRanges [(0x1780, 0x1782), (0x1784, 0x1787), (0x1789, 0x178C), (0x178E, 0x1793),
    (0x1795, 0x1798), (0x179B, 0x179D), (0x17A0, 0x17A0), (0x17A2, 0x17A2), (0x17A7, 0x17A7),
    (0x17AB, 0x17AC), (0x17AF, 0x17AF)] n then khmerLetter
  else if n = 0x16D67 then kiratE
  else if n = 0x16D68 then kiratAi
  else plain

/-- What a character before a shape of letters adds to its width, and the shape of both, if they
are drawn as one; `joiner` tells whether a joiner stands between them. -/
def takeLetter (joiner : Bool) (c : Char) : Shape → Option (Int × Shape)
  | alef =>
    if inRanges [(0x644, 0x644), (0x6B5, 0x6B8), (0x76A, 0x76A), (0x8A6, 0x8A6), (0x8C7, 0x8C7)]
      c.toNat then some (0, plain)
    else if isTransparent c then some (0, alef)
    else none
  | lamed => if joiner && c.toNat = 0x5D0 then some (0, plain) else none
  | khmerLetter => if c.toNat = 0x17D2 then some (-1, plain) else none
  | ya => if joiner && c.toNat = 0x1A17 then some (0, yaVowel) else none
  | yaVowel => if c.toNat = 0x1A15 then some (0, plain) else none
  | tifinagh =>
    if c.toNat = 0x2D7F then some (1, tifinaghJoined)
    else if joiner && isTifinagh c then some (0, plain)
    else none
  | tifinaghJoined => if isTifinagh c then some (-1, plain) else none
  | lisuTone => if inRanges [(0xA4F8, 0xA4FB)] c.toNat then some (0, plain) else none
  | orkhonI => if joiner && c.toNat = 0x10C32 then some (0, plain) else none
  | kiratE =>
    if c.toNat = 0x16D63 ∨ c.toNat = 0x16D69 then some (0, plain)
    else if c.toNat = 0x16D67 then some (0, kiratAi)
    else if c.toNat = 0x16D68 then some (1, kiratE)
    else none
  | kiratAi => if c.toNat = 0x16D63 then some (0, plain) else none
  | _ => none

/-- The tag that spells a letter. -/
def isTagLetter (c : Char) : Bool := inRanges [(0xE0061, 0xE007A)] c.toNat

/-- The tag that spells a digit. -/
def isTagDigit (c : Char) : Bool := inRanges [(0xE0030, 0xE0039)] c.toNat

/-- The black flag, which tags turn into that of a region. -/
def isBlackFlag (c : Char) : Bool := c.toNat = 0x1F3F4

/-- What a character before a shape of pictures adds to its width, and the shape of both, if they
are drawn as one. -/
def takePicture (c : Char) : Shape → Option (Int × Shape)
  | skinTone =>
    if inRanges Table.toneBases c.toNat then some (0, emoji)
    else if c.toNat = 0x200D then some (0, joined)
    else none
  | flagLetter => if isFlagLetter c then some (1, flag) else none
  | flag =>
    if isFlagLetter c then some (1, flag)
    else if c.toNat = 0x200D then some (0, joined)
    else none
  | emoji => if c.toNat = 0x200D then some (0, joined) else none
  | joined =>
    if c.toNat = 0x20E3 then some (0, joinedKey)
    else if isFlagLetter c then some (1, joinedFlagLetter)
    else if isSkinTone c then some (0, skinTone)
    else if c.toNat = 0xE007F then some (0, tagEnd)
    else if inRanges Table.emoji c.toNat then some (0, emoji)
    else none
  | joinedFlagLetter => if isFlagLetter c then some (-1, joinedFlagsEven) else none
  | joinedFlagsOdd =>
    if isFlagLetter c then some (-1, joinedFlagsEven)
    else if c.toNat = 0x200D then some (0, joined)
    else none
  | joinedFlagsEven =>
    if isFlagLetter c then some (3, joinedFlagsOdd)
    else if c.toNat = 0x200D then some (0, joined)
    else none
  | tagEnd =>
    if isTagLetter c then some (0, tagLetters 1)
    else if isTagDigit c then some (0, tagDigits 1)
    else none
  | tagLetters n =>
    if isTagLetter c && n < 6 then some (0, tagLetters (n + 1))
    else if isTagDigit c && n ≤ 4 then some (0, tagDigits 1)
    else if isBlackFlag c && 3 ≤ n then some (0, emoji)
    else none
  | tagDigits n =>
    if isTagDigit c && n < 3 then some (0, tagDigits (n + 1))
    else if isBlackFlag c && n = 3 then some (0, emoji)
    else none
  | _ => none

end Shape

/-! ### Texts -/

/-- A mark behind a picture that tells how it is drawn. -/
inductive Selector where
  /-- As text. -/
  | text
  /-- In color. -/
  | color
  deriving DecidableEq

/-- What there is to know about a text when a character is put before it. -/
structure Follower where
  /-- The shape that it begins with. -/
  shape : Shape
  /-- The selector that it begins with. -/
  selector : Option Selector := none
  /-- Whether there is a joiner before the shape. -/
  joiner : Bool := false

namespace Follower

/-- The text with a selector before it. -/
def selected (f : Follower) : Selector → Follower
  | .color =>
    if f.shape.isLigature ∨ f.shape ∈ [.alef, .joined, .joinedKey] then
      { f with selector := some .color }
    else { shape := .plain, selector := some .color }
  | .text =>
    if f.shape.isLigature then { f with selector := some .text }
    else { shape := .plain, selector := some .text }

/-- The columns that a character up to U+00A0 adds. -/
def measureNarrow (f : Follower) (c : Char) : Int × Follower :=
  if c = '\n' then (0, { shape := .lineFeed })
  else if c = '\r' ∧ f.shape = .lineFeed then (0, { shape := .plain })
  else (1, { shape := .plain })

/-- The columns that a character adds if no selector stands behind it. -/
def measureShape (f : Follower) (c : Char) : Int × Follower :=
  if f.shape.isLigature ∧ c.toNat = 0x200D then (0, { shape := f.shape, joiner := true })
  else if f.shape.isLigature ∧ isIgnorableInLigature c then
    (0, { shape := f.shape, joiner := f.joiner })
  else
    match (f.shape.takeLetter f.joiner c).or (f.shape.takePicture c) with
    | some (n, shape) => (n, { shape })
    | none => (ownColumns c, { shape := .ofChar c })

/-- The columns that a character adds before a text, and what is to be known about both. -/
def measure (c : Char) (f : Follower) : Int × Follower :=
  if f.selector = some .color ∧ inRanges Table.textEmoji c.toNat then
    (if f.shape ∈ [.joined, .joinedKey] then 0 else 2, { shape := .emoji })
  else if c.toNat ≤ 0xA0 then f.measureNarrow c
  else if c.toNat = 0xFE0F then (0, f.selected .color)
  else if c.toNat = 0xFE0E then (0, f.selected .text)
  else if f.selector = some .text ∧ inRanges Table.emojiWithTextForm c.toNat then
    (1, { shape := .plain })
  else f.measureShape c

end Follower

/-- The columns of a text, and what is to be known about it. -/
def columnsFrom : List Char → Int × Follower
  | [] => (0, { shape := .plain })
  | c :: cs =>
    let (rest, f) := columnsFrom cs
    let (n, f) := f.measure c
    (n + rest, f)

/-- The columns of a text. -/
def columns (cs : List Char) : Nat := (columnsFrom cs).1.toNat

end Stepwise.Text
