import Stepwise.Text.Table.Case
import Stepwise.Text.Table.Class

/-!
# Classes of characters

The character classes that scripts and their printed texts depend on. Each class is decided by a
short test below code point 128 and by a table above it, so a fact about plain letters needs no
table.

## The model

A table is a list of inclusive ranges of code points in increasing order (`Stepwise.Text.Table`).
-/

namespace Stepwise.Text

/-- Membership in a list of inclusive ranges of code points. -/
def inRanges (ranges : List (Nat × Nat)) (n : Nat) : Bool :=
  ranges.any fun r => r.1 ≤ n && n ≤ r.2

/-- Letters: the property Alphabetic. -/
def isAlphabetic (c : Char) : Bool :=
  if c.toNat < 128 then c.isAlpha else inRanges Table.alphabetic c.toNat

/-- Digits and other numbers: the categories Nd, Nl and No. -/
def isNumeric (c : Char) : Bool :=
  if c.toNat < 128 then c.isDigit else inRanges Table.numeric c.toNat

/-- Letters and numbers. -/
def isAlphanumeric (c : Char) : Bool :=
  isAlphabetic c || isNumeric c

/-- Upper case letters: the property Uppercase. -/
def isUpper (c : Char) : Bool :=
  if c.toNat < 128 then c.isUpper else inRanges Table.uppercase c.toNat

/-- Lower case letters: the property Lowercase. -/
def isLower (c : Char) : Bool :=
  if c.toNat < 128 then c.isLower else inRanges Table.lowercase c.toNat

/-- The title case letters: the category Lt. -/
def isTitle (c : Char) : Bool :=
  inRanges [(0x01C5, 0x01C5), (0x01C8, 0x01C8), (0x01CB, 0x01CB), (0x01F2, 0x01F2),
    (0x1F88, 0x1F8F), (0x1F98, 0x1F9F), (0x1FA8, 0x1FAF), (0x1FBC, 0x1FBC), (0x1FCC, 0x1FCC),
    (0x1FFC, 0x1FFC)] c.toNat

/-- Letters that have a case: the property Cased. -/
def isCased (c : Char) : Bool :=
  isUpper c || isLower c || isTitle c

/-- Characters that a search for a neighbouring letter looks through: the property
Case_Ignorable. -/
def isCaseIgnorable (c : Char) : Bool :=
  if c.toNat < 128 then c.toNat ∈ [0x27, 0x2E, 0x3A, 0x5E, 0x60]
  else inRanges Table.caseIgnorable c.toNat

/-- Blanks: the property White_Space. -/
def isSpace (c : Char) : Bool :=
  inRanges [(0x09, 0x0D), (0x20, 0x20), (0x85, 0x85), (0xA0, 0xA0), (0x1680, 0x1680),
    (0x2000, 0x200A), (0x2028, 0x2029), (0x202F, 0x202F), (0x205F, 0x205F), (0x3000, 0x3000)]
    c.toNat

/-- Characters that attach to the one before them: the property Grapheme_Extend. -/
def isExtending (c : Char) : Bool :=
  c.toNat ≥ 128 && inRanges Table.extending c.toNat

/-- Characters with a glyph of their own; of the blanks only the space. -/
def isPrintable (c : Char) : Bool :=
  if c.toNat < 128 then 0x20 ≤ c.toNat && c.toNat < 0x7F
  else !inRanges Table.unprintable c.toNat

/-! ### Digits -/

/-- The value of a digit in a number system of at most 36 digits, in either case of letter. -/
def digitValue? (c : Char) : Option Nat :=
  if c.isDigit then some (c.toNat - 48)
  else if 'a' ≤ c ∧ c ≤ 'z' then some (c.toNat - 87)
  else if 'A' ≤ c ∧ c ≤ 'Z' then some (c.toNat - 55)
  else none

/-- Whether `c` is a digit of the number system with `radix` digits. -/
def isDigitOf (radix : Nat) (c : Char) : Bool :=
  (digitValue? c).any (· < radix)

/-- The digit that stands for `d`, in lower case; `d` is below 36. -/
def digitChar (d : Nat) : Char :=
  Char.ofNat (if d < 10 then 48 + d else 87 + d)

/-- The digits of `n` in the system with `radix` digits, most significant first; at least one.
The recursion is cut off at `fuel` digits. -/
def digitsOf (radix : Nat) : (fuel : Nat) → Nat → List Char → List Char
  | 0, _, acc => acc
  | fuel + 1, n, acc =>
    let acc := digitChar (n % radix) :: acc
    if n / radix = 0 then acc else digitsOf radix fuel (n / radix) acc

/-- The number `n` written with `radix` digits. -/
def natText (radix n : Nat) : String :=
  String.ofList (digitsOf radix (n.log2 + 1) n [])

/-- The number that a list of digits stands for. -/
def natOfDigits (radix : Nat) (ds : List Char) : Nat :=
  ds.foldl (fun n c => n * radix + (digitValue? c).getD 0) 0

/-- The integer `n` in decimal digits, with a minus sign if it is negative. -/
def intText (n : Int) : String :=
  if n < 0 then "-" ++ natText 10 n.natAbs else natText 10 n.natAbs

end Stepwise.Text
