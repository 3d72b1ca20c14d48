/-!
# Machine words

Signed integers of a given number of bits, and single steps of arithmetic on them. A step whose exact
result is no word has no result.
-/

namespace Stepwise

/-- Whether an integer is a word of `bits` bits in two's complement. -/
def isWord (bits : Nat) (n : Int) : Bool :=
  let bound : Int := Nat.pow 2 (bits - 1)
  decide (-bound ≤ n ∧ n < bound)

/-- The result of a step, if it is a word. -/
def word (bits : Nat) (n : Int) : Option Int := if isWord bits n then some n else none

/-- The sum of `a` and `b`, or the end of the words beyond which it lies. -/
def addSaturating (bits : Nat) (a b : Int) : Int :=
  let bound : Int := Nat.pow 2 (bits - 1)
  max (-bound) (min (a + b) (bound - 1))

/-- The quotient of `a` and `b`, rounded toward zero. -/
def divWord (bits : Nat) (a b : Int) : Option Int :=
  if b = 0 then none else word bits (a.tdiv b)

/-- The remainder of `a / b` with the sign of `a`. Where the quotient is no word there is no remainder
either, small as it would be. -/
def remWord (bits : Nat) (a b : Int) : Option Int := (divWord bits a b).map fun _ => a.tmod b

/-- The remainder of `a / b` that is not negative, if there is a quotient. -/
def modWord (bits : Nat) (a b : Int) : Option Int := (divWord bits a b).map fun _ => a % b

/-- `a` shifted to the left by fewer than `bits` places; what leaves the word is lost. -/
def shlWord (bits : Nat) (a b : Int) : Option Int :=
  if 0 ≤ b ∧ b < bits then some ((a * Nat.pow 2 b.toNat).bmod (Nat.pow 2 bits)) else none

/-- `a` shifted to the right by fewer than `bits` places; its sign moves in. -/
def shrWord (bits : Nat) (a b : Int) : Option Int :=
  if 0 ≤ b ∧ b < bits then some (a.fdiv (Nat.pow 2 b.toNat)) else none

variable {bits : Nat} {a b n : Int}

theorem word_of_isWord (h : isWord bits n = true) : word bits n = some n := if_pos h

theorem word_of_not_isWord (h : isWord bits n = false) : word bits n = none := by
  rw [word, h]
  rfl

theorem divWord_of_isWord (hb : b ≠ 0) (h : isWord bits (a.tdiv b) = true) :
    divWord bits a b = some (a.tdiv b) := by
  rw [divWord, if_neg hb, word_of_isWord h]

theorem remWord_of_isWord (hb : b ≠ 0) (h : isWord bits (a.tdiv b) = true) :
    remWord bits a b = some (a.tmod b) := by
  rw [remWord, divWord_of_isWord hb h, Option.map_some]

theorem modWord_of_isWord (hb : b ≠ 0) (h : isWord bits (a.tdiv b) = true) :
    modWord bits a b = some (a % b) := by
  rw [modWord, divWord_of_isWord hb h, Option.map_some]

theorem shlWord_of_lt (h : 0 ≤ b) (lt : b < bits) :
    shlWord bits a b = some ((a * Nat.pow 2 b.toNat).bmod (Nat.pow 2 bits)) := if_pos ⟨h, lt⟩

theorem shrWord_of_lt (h : 0 ≤ b) (lt : b < bits) :
    shrWord bits a b = some (a.fdiv (Nat.pow 2 b.toNat)) := if_pos ⟨h, lt⟩

end Stepwise
