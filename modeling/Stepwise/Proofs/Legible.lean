import Stepwise.Json.Text
import Stepwise.Proofs.Reading
import Mathlib.Algebra.Group.Nat.Defs
import Mathlib.Data.List.Forall2
import Mathlib.Data.List.TakeDrop
import Mathlib.Data.List.TakeWhile
import Mathlib.Data.Option.Basic

/-!
# Reading JSON texts back

What is written as JSON is read from its text again, from the text to a raw value and from that to
the value (`exists_reads`). This is so of values that nest no deeper than the reader goes and in
which every double is what its own text is read as (`Legible`).

## The model

A text is read with a fuel and up to where its value ends, so that it is read as a value says more
than that the reader gives the value: it is read in front of whatever may follow a value, with any
fuel that its length allows (`Reads`).
-/

namespace Stepwise

open Text

/-! ### Digits -/

namespace Text

theorem digitValue?_digitChar : ∀ d < 10, digitValue? (digitChar d) = some d := by decide

theorem isDigit_digitChar : ∀ d < 10, (digitChar d).isDigit = true := by decide

theorem digitChar_ne_zero : ∀ d < 10, d ≠ 0 → digitChar d ≠ '0' := by decide

/-- The digits of a number stand for it, in front of other digits as well. -/
theorem foldl_digitsOf : ∀ (fuel n : Nat) (acc : List Char), n < 10 ^ fuel →
    (digitsOf 10 fuel n acc).foldl (fun n c => n * 10 + (digitValue? c).getD 0) 0 =
      acc.foldl (fun n c => n * 10 + (digitValue? c).getD 0) n
  | 0, n, acc, h => by
    obtain rfl : n = 0 := by simpa using h
    rfl
  | fuel + 1, n, acc, h => by
    have digit := digitValue?_digitChar (n % 10) (Nat.mod_lt _ (by decide))
    rw [digitsOf]
    split
    case isTrue small =>
      rw [List.foldl_cons, digit]
      congr 1
      simp only [Option.getD_some]
      omega
    case isFalse =>
      rw [foldl_digitsOf fuel (n / 10) _ (by rw [Nat.pow_succ] at h; omega), List.foldl_cons, digit]
      congr 1
      simp only [Option.getD_some]
      omega

theorem isDigit_of_mem_digitsOf : ∀ (fuel n : Nat) (acc : List Char),
    (∀ c ∈ acc, c.isDigit = true) → ∀ c ∈ digitsOf 10 fuel n acc, c.isDigit = true
  | 0, _, _, h => h
  | fuel + 1, n, acc, h => by
    have more : ∀ c ∈ digitChar (n % 10) :: acc, c.isDigit = true :=
      List.forall_mem_cons.2 ⟨isDigit_digitChar _ (Nat.mod_lt _ (by decide)), h⟩
    rw [digitsOf]
    split
    · exact more
    · exact isDigit_of_mem_digitsOf fuel _ _ more

/-- No number but zero starts with a zero. -/
theorem digitsOf_head : ∀ (fuel n : Nat) (acc : List Char), 0 < n → n < 10 ^ fuel →
    ∃ c cs, digitsOf 10 fuel n acc = c :: cs ∧ c ≠ '0'
  | 0, n, _, pos, h => by
    have : n < 1 := h
    omega
  | fuel + 1, n, acc, pos, h => by
    rw [digitsOf]
    split
    case isTrue small =>
      exact ⟨_, _, rfl, digitChar_ne_zero _ (Nat.mod_lt _ (by decide)) (by omega)⟩
    case isFalse large =>
      exact digitsOf_head fuel _ _ (by omega) (by rw [Nat.pow_succ] at h; omega)

theorem lt_ten_pow (n : Nat) : n < 10 ^ (n.log2 + 1) :=
  Nat.lt_of_lt_of_le Nat.lt_log2_self (Nat.pow_le_pow_left (by decide) _)

theorem toList_natText (n : Nat) : (natText 10 n).toList = digitsOf 10 (n.log2 + 1) n [] := by
  rw [natText, String.toList_ofList]

theorem natOfDigits_natText (n : Nat) : natOfDigits 10 (natText 10 n).toList = n := by
  rw [toList_natText]
  exact foldl_digitsOf _ n [] (lt_ten_pow n)

theorem isDigit_of_mem_natText (n : Nat) : ∀ c ∈ (natText 10 n).toList, c.isDigit = true := by
  rw [toList_natText]
  exact isDigit_of_mem_digitsOf _ n [] (by simp)

/-- A number starts with a digit, and with a zero only if it is zero. -/
theorem natText_head (n : Nat) : (natText 10 n).toList = ['0'] ∨
    ∃ c cs, (natText 10 n).toList = c :: cs ∧ c ≠ '0' := by
  rw [toList_natText]
  rcases Nat.eq_zero_or_pos n with rfl | pos
  · exact .inl rfl
  · exact .inr (digitsOf_head _ n [] pos (lt_ten_pow n))

end Text

namespace Json

/-! ### Numbers -/

/-- Whether a text in front of this one ends there, if a number stands at its end. -/
def Stops (rest : List Char) : Prop :=
  ∀ c ∈ rest.head?, c.isDigit = false ∧ c ≠ '.' ∧ c ≠ 'e' ∧ c ≠ 'E'

variable {cs left rest : List Char}

/-- The digits at the start of a text end with it. -/
theorem Stops.span (hr : Stops rest) : ∀ cs : List Char,
    (cs ++ rest).takeWhile Char.isDigit = cs.takeWhile Char.isDigit ∧
      (cs ++ rest).dropWhile Char.isDigit = cs.dropWhile Char.isDigit ++ rest
  | [] => by
    cases rest with
    | nil => exact ⟨rfl, rfl⟩
    | cons c cs => simp [(hr c rfl).1]
  | c :: cs => by
    obtain ⟨taken, dropped⟩ := hr.span cs
    by_cases hc : c.isDigit <;> simp [hc, taken, dropped]

theorem digits?_append {ds : List Char} (hr : Stops rest) (h : digits? cs = some (ds, left)) :
    digits? (cs ++ rest) = some (ds, left ++ rest) := by
  unfold digits? at h ⊢
  rw [List.span_eq_takeWhile_dropWhile] at h ⊢
  rw [(hr.span cs).1, (hr.span cs).2]
  dsimp only at h ⊢
  split at h
  · cases h
  · cases h
    rw [if_neg ‹_›]

theorem fraction?_append {ds : List Char} (hr : Stops rest) (h : fraction? cs = some (ds, left)) :
    fraction? (cs ++ rest) = some (ds, left ++ rest) := by
  unfold fraction? at h
  split at h
  · exact digits?_append hr h
  next point =>
    cases h
    unfold fraction?
    split
    next cs' start =>
      cases cs with
      | nil => exact absurd rfl (hr '.' (by simp_all)).2.1
      | cons c cs => simp_all
    · rfl

/-- The sign of an exponent, and what follows it. -/
def exponentSign : List Char → Bool × List Char
  | '-' :: cs => (true, cs)
  | '+' :: cs => (false, cs)
  | cs => (false, cs)

theorem exponentSign_append (h : cs ≠ []) :
    exponentSign (cs ++ rest) = ((exponentSign cs).1, (exponentSign cs).2 ++ rest) := by
  cases cs with
  | nil => exact absurd rfl h
  | cons c cs =>
    by_cases minus : c = '-'
    · subst minus
      rfl
    by_cases plus : c = '+'
    · subst plus
      rfl
    simp [exponentSign, minus, plus]

theorem exponent?_cons (c : Char) (cs : List Char) : exponent? (c :: cs) =
    if c = 'e' ∨ c = 'E' then
      (digits? (exponentSign cs).2).map fun p => (some (if (exponentSign cs).1 then
        -(natOfDigits 10 p.1 : Int) else natOfDigits 10 p.1), p.2)
    else some (none, c :: cs) := by
  show (if c = 'e' ∨ c = 'E' then (digits? (exponentSign cs).2).bind _ else _) = _
  cases digits? (exponentSign cs).2 <;> rfl

theorem exponent?_append {e : Option Int} (hr : Stops rest) (h : exponent? cs = some (e, left)) :
    exponent? (cs ++ rest) = some (e, left ++ rest) := by
  cases cs with
  | nil =>
    cases h
    cases rest with
    | nil => rfl
    | cons c cs =>
      have := hr c rfl
      simp [exponent?, this.2.2.1, this.2.2.2]
  | cons c cs =>
    rw [exponent?_cons] at h
    rw [List.cons_append, exponent?_cons]
    split at h
    case isFalse hc =>
      cases h
      rw [if_neg hc]
      rfl
    case isTrue hc =>
      obtain ⟨⟨ds, rest'⟩, digits, e'⟩ := Option.map_eq_some_iff.1 h
      cases e'
      have some : cs ≠ [] := by
        rintro rfl
        cases digits
      rw [if_pos hc, exponentSign_append some, digits?_append hr digits]
      rfl

/-- The sign of a number, and what follows it. -/
def numeralSign : List Char → Bool × List Char
  | '-' :: cs => (true, cs)
  | cs => (false, cs)

theorem numeralSign_append (h : cs ≠ []) :
    numeralSign (cs ++ rest) = ((numeralSign cs).1, (numeralSign cs).2 ++ rest) := by
  cases cs with
  | nil => exact absurd rfl h
  | cons c cs =>
    by_cases minus : c = '-'
    · subst minus
      rfl
    simp [numeralSign, minus]

/-- A number is its sign, its digits, its fraction and its exponent. -/
theorem numeral?_eq_some_iff {n : Numeral} : numeral? cs = some (n, left) ↔
    ∃ whole cs₁ fraction cs₂ exponent, digits? (numeralSign cs).2 = some (whole, cs₁) ∧
      (whole.head? ≠ some '0' ∨ whole.length = 1) ∧ fraction? cs₁ = some (fraction, cs₂) ∧
      exponent? cs₂ = some (exponent, left) ∧ n = ⟨(numeralSign cs).1, whole, fraction,
        exponent.getD 0, fraction.isEmpty && exponent.isNone⟩ := by
  have defined : numeral? cs = (digits? (numeralSign cs).2).bind fun w =>
      (guard (w.1.head? ≠ some '0' ∨ w.1.length = 1) : Option Unit).bind fun _ =>
        (fraction? w.2).bind fun f => (exponent? f.2).bind fun e =>
          some (⟨(numeralSign cs).1, w.1, f.1, e.1.getD 0, f.1.isEmpty && e.1.isNone⟩, e.2) := rfl
  rw [defined]
  constructor
  · intro h
    obtain ⟨⟨whole, cs₁⟩, hw, h⟩ := Option.bind_eq_some_iff.1 h
    obtain ⟨_, zero, h⟩ := Option.bind_eq_some_iff.1 h
    obtain ⟨⟨fraction, cs₂⟩, hf, h⟩ := Option.bind_eq_some_iff.1 h
    obtain ⟨⟨exponent, cs₃⟩, he, h⟩ := Option.bind_eq_some_iff.1 h
    cases h
    exact ⟨whole, cs₁, fraction, cs₂, exponent, hw, (Option.guard_eq_some' _).1 zero, hf, he, rfl⟩
  · rintro ⟨whole, cs₁, fraction, cs₂, exponent, hw, zero, hf, he, rfl⟩
    simp only [hw, (Option.guard_eq_some' ()).2 zero, hf, he, Option.bind_some]

theorem numeral?_append {n : Numeral} (hr : Stops rest) (h : numeral? cs = some (n, left)) :
    numeral? (cs ++ rest) = some (n, left ++ rest) := by
  obtain ⟨whole, cs₁, fraction, cs₂, exponent, hw, zero, hf, he, hn⟩ := numeral?_eq_some_iff.1 h
  have some : cs ≠ [] := by
    rintro rfl
    cases hw
  refine numeral?_eq_some_iff.2 ⟨whole, cs₁ ++ rest, fraction, cs₂ ++ rest, exponent, ?_⟩
  rw [numeralSign_append some]
  exact ⟨digits?_append hr hw, zero, fraction?_append hr hf, exponent?_append hr he, hn⟩

/-- Whether an integer is read as one: it has 64 bits, with a sign or without. -/
def Fits (n : Int) : Prop := -0x8000000000000000 ≤ n ∧ n < 0x10000000000000000

theorem digits?_natText (n : Nat) :
    digits? (natText 10 n).toList = some ((natText 10 n).toList, []) := by
  have all := isDigit_of_mem_natText n
  unfold digits?
  rw [List.span_eq_takeWhile_dropWhile, List.takeWhile_eq_self_iff.2 all,
    List.dropWhile_eq_nil_iff.2 all]
  rcases natText_head n with h | ⟨c, cs, h, -⟩ <;> simp [h]

/-- An integer is read as a number without a fraction and without an exponent. -/
theorem numeral?_intText (n : Int) :
    numeral? (intText n).toList =
      some (⟨decide (n < 0), (natText 10 n.natAbs).toList, [], 0, true⟩, []) := by
  have sign : numeralSign (intText n).toList = (decide (n < 0), (natText 10 n.natAbs).toList) := by
    unfold intText
    split
    case isTrue h =>
      rw [String.toList_append]
      simp [numeralSign, h]
    case isFalse h =>
      have all := isDigit_of_mem_natText n.natAbs
      cases hd : (natText 10 n.natAbs).toList with
      | nil => simp [numeralSign, h]
      | cons c cs =>
        have digit : c.isDigit = true := all c (by simp [hd])
        have minus : c ≠ '-' := by
          rintro rfl
          simp at digit
        simp [numeralSign, h, minus]
  have zero : (natText 10 n.natAbs).toList.head? ≠ some '0' ∨
      (natText 10 n.natAbs).toList.length = 1 := by
    rcases natText_head n.natAbs with h | ⟨c, cs, h, hc⟩ <;> simp [h]
    exact .inl hc
  refine numeral?_eq_some_iff.2 ⟨_, [], [], [], none, ?_, zero, rfl, rfl, ?_⟩
  · rw [sign]
    exact digits?_natText _
  · rw [sign]
    rfl

theorem value?_intText {n : Int} (h : Fits n) :
    (⟨decide (n < 0), (natText 10 n.natAbs).toList, [], 0, true⟩ : Numeral).value? =
      some (.int n) := by
  unfold Numeral.value?
  simp only [natOfDigits_natText]
  unfold Fits at h
  by_cases negative : n < 0
  · have large : 0 < n.natAbs ∧ n.natAbs ≤ 0x8000000000000000 := by omega
    have back : -(n.natAbs : Int) = n := by omega
    simp only [negative, large, back, decide_true, not_true, and_false, false_and, and_self,
      if_true, if_false]
  · have large : n.natAbs < 0x10000000000000000 := by omega
    have back : (n.natAbs : Int) = n := by omega
    simp [negative, large, back]

/-! ### Strings -/

/-- What a character of a string is read as. -/
def pieceOf (c : Char) : Piece :=
  if c.toNat < 0x20 ∧ c ≠ '\x08' ∧ c ≠ '\x0c' ∧ c ≠ '\n' ∧ c ≠ '\r' ∧ c ≠ '\t' then .unit c.toNat
  else .char c

theorem hexByte_isDigit : ∀ n < 0x20, (['0', '0'] ++ hexByte n).all (isDigitOf 16) = true := by
  decide

theorem natOfDigits_hexByte : ∀ n < 0x20, natOfDigits 16 (['0', '0'] ++ hexByte n) = n := by
  decide

theorem stringPieces?_short {e c : Char} (he : e ≠ 'u') (h : escape? e = some c) (cs : List Char) :
    stringPieces? ('\\' :: e :: cs) = (stringPieces? cs).map fun p => (.char c :: p.1, p.2) := by
  rw [stringPieces?, h]
  · cases stringPieces? cs <;> rfl
  · exact fun _ _ _ _ _ letter => absurd letter he

theorem stringPieces?_unit (n : Nat) (hn : n < 0x20) (cs : List Char) :
    stringPieces? (['\\', 'u', '0', '0'] ++ hexByte n ++ cs) =
      (stringPieces? cs).map fun p => (.unit n :: p.1, p.2) := by
  have digits := hexByte_isDigit n hn
  have number := natOfDigits_hexByte n hn
  unfold hexByte at digits number
  simp only [List.cons_append, List.nil_append] at digits number
  simp only [hexByte, List.cons_append, List.nil_append]
  rw [stringPieces?, digits, number]
  cases stringPieces? cs <;> rfl

theorem stringPieces?_char {c : Char} (quote : c ≠ '"') (backslash : c ≠ '\\')
    (h : 0x20 ≤ c.toNat) (cs : List Char) :
    stringPieces? (c :: cs) = (stringPieces? cs).map fun p => (.char c :: p.1, p.2) := by
  rw [stringPieces?]
  · rw [show guard (0x20 ≤ c.toNat ∧ c ≠ '\\') = some () from
      (Option.guard_eq_some' ()).2 ⟨h, backslash⟩]
    cases stringPieces? cs <;> rfl
  all_goals simp [quote, backslash]

/-- A character is read from what is written for it. -/
theorem stringPieces?_escaped (c : Char) (cs : List Char) : stringPieces? (escaped c ++ cs) =
    (stringPieces? cs).map fun p => (pieceOf c :: p.1, p.2) := by
  unfold escaped
  split
  case isTrue h =>
    rcases h with rfl | rfl <;> exact stringPieces?_short (by decide) rfl cs
  next special =>
  rw [not_or] at special
  split
  case isTrue h =>
    subst h
    exact stringPieces?_short (by decide) rfl cs
  split
  case isTrue h =>
    subst h
    exact stringPieces?_short (by decide) rfl cs
  split
  case isTrue h =>
    subst h
    exact stringPieces?_short (by decide) rfl cs
  split
  case isTrue h =>
    subst h
    exact stringPieces?_short (by decide) rfl cs
  split
  case isTrue h =>
    subst h
    exact stringPieces?_short (by decide) rfl cs
  split
  case isTrue h =>
    rw [stringPieces?_unit _ h, pieceOf, if_pos (by simp_all)]
  case isFalse h =>
    rw [List.singleton_append, stringPieces?_char special.1 special.2 (Nat.not_lt.1 h), pieceOf,
      if_neg (by simp_all)]

theorem stringPieces?_string (cs rest : List Char) :
    stringPieces? (cs.flatMap escaped ++ '"' :: rest) = some (cs.map pieceOf, rest) := by
  induction cs with
  | nil => rfl
  | cons c cs ih =>
    rw [List.flatMap_cons, List.append_assoc, stringPieces?_escaped, ih]
    rfl

theorem charsOf?_unit {n : Nat} (hn : n < 0x20) (ps : List Piece) :
    charsOf? (.unit n :: ps) = (charsOf? ps).map (Char.ofNat n :: ·) := by
  have high : isHigh n = false := by simp [isHigh]; omega
  have low : isLow n = false := by simp [isLow]; omega
  rcases ps with _ | ⟨_ | m, ps⟩ <;> simp [charsOf?, high, low]

theorem charsOf?_pieceOf : ∀ cs : List Char, charsOf? (cs.map pieceOf) = some cs
  | [] => rfl
  | c :: cs => by
    rw [List.map_cons, pieceOf]
    split
    case isTrue h =>
      rw [charsOf?_unit h.1, charsOf?_pieceOf cs, Char.ofNat_toNat]
      rfl
    case isFalse =>
      rw [charsOf?, charsOf?_pieceOf cs]
      rfl

theorem textOf?_pieceOf (s : String) : textOf? (s.toList.map pieceOf) = some s := by
  rw [textOf?, charsOf?_pieceOf, Option.map_some, String.ofList_toList]

/-! ### Values -/

/-- Whether a double is what its text in JSON is read as. -/
def Legible (x : Float) : Prop :=
  ∃ n, numeral? (Decimal.jsonLayout.text x).toList = some (n, []) ∧ n.value? = some (.float x)

mutual

/-- Whether a value nests at most `depth` deep, with integers that have 64 bits and doubles that
satisfy `P`. -/
def Within (P : Float → Prop) : (depth : Nat) → Json → Prop
  | _, null | _, bool _ | _, str _ => True
  | _, int n => Fits n
  | _, float x => P x
  | 0, arr _ | 0, obj _ => False
  | depth + 1, arr items => ItemsWithin P depth items
  | depth + 1, obj members => MembersWithin P depth members

/-- Whether all of some items are such values. -/
def ItemsWithin (P : Float → Prop) (depth : Nat) : List Json → Prop
  | [] => True
  | v :: vs => Within P depth v ∧ ItemsWithin P depth vs

/-- Whether all of some members have such values. -/
def MembersWithin (P : Float → Prop) (depth : Nat) : List (String × Json) → Prop
  | [] => True
  | (_, v) :: ms => Within P depth v ∧ MembersWithin P depth ms

end

namespace Raw

/-- Whether a character is no blank. -/
def Solid (c : Char) : Prop := c ≠ ' ' ∧ c ≠ '\n' ∧ c ≠ '\t' ∧ c ≠ '\r'

theorem skip_cons {c : Char} (h : Solid c) (cs : List Char) : skip (c :: cs) = c :: cs := by
  obtain ⟨space, line, tab, back⟩ := h
  simp [skip, space, line, tab, back]

@[simp] theorem skip_quote (cs : List Char) : skip ('"' :: cs) = '"' :: cs := rfl
@[simp] theorem skip_colon (cs : List Char) : skip (':' :: cs) = ':' :: cs := rfl
@[simp] theorem skip_comma (cs : List Char) : skip (',' :: cs) = ',' :: cs := rfl
@[simp] theorem skip_bracket (cs : List Char) : skip (']' :: cs) = ']' :: cs := rfl
@[simp] theorem skip_brace (cs : List Char) : skip ('\x7d' :: cs) = '\x7d' :: cs := rfl

/-- Whether a text is read as a value, whatever stands behind it. -/
structure Reads (cs : List Char) (v : Raw) : Prop where
  starts : ∃ c rest, cs = c :: rest ∧ Solid c ∧ c ≠ ']'
  reads : ∀ fuel rest, 2 * cs.length ≤ fuel + 1 → Stops rest →
    value (fuel + 1) (cs ++ rest) = some (v, rest)

/-- A number starts with a minus sign or a digit. -/
theorem numeral_head {cs left : List Char} {n : Numeral} (h : numeral? cs = some (n, left)) :
    ∃ c rest, cs = c :: rest ∧ (c = '-' ∨ c.isDigit = true) := by
  obtain ⟨whole, cs₁, -, -, -, hw, -⟩ := numeral?_eq_some_iff.1 h
  cases cs with
  | nil => cases hw
  | cons c cs =>
    refine ⟨c, cs, rfl, ?_⟩
    by_cases minus : c = '-'
    · exact .inl minus
    by_cases digit : c.isDigit
    · exact .inr digit
    simp [numeralSign, minus, digits?, List.span_eq_takeWhile_dropWhile, digit] at hw

theorem reads_number {cs : List Char} {n : Numeral} (h : numeral? cs = some (n, [])) :
    Reads cs (.number n) := by
  obtain ⟨c, cs, rfl, hc⟩ := numeral_head h
  have solid : Solid c := by
    refine ⟨?_, ?_, ?_, ?_⟩ <;> rintro rfl <;> simp at hc
  refine ⟨⟨c, cs, rfl, solid, by rintro rfl; simp at hc⟩, fun fuel rest _ hr => ?_⟩
  have number : numeral? (c :: (cs ++ rest)) = some (n, rest) := numeral?_append hr h
  rw [List.cons_append, value, skip_cons solid]
  split
  case h_7 => simp [number]
  -- no other value starts with a minus sign or a digit
  all_goals
    rename_i start
    obtain rfl := (List.cons.inj start).1
    simp at hc

theorem reads_null : Reads "null".toList .null :=
  ⟨⟨'n', _, rfl, by simp [Solid], by decide⟩, fun _ _ _ _ => rfl⟩

theorem reads_bool (b : Bool) : Reads (compact (.bool b)).toList (.bool b) := by
  cases b with
  | true => exact ⟨⟨'t', _, rfl, by simp [Solid], by decide⟩, fun _ _ _ _ => rfl⟩
  | false => exact ⟨⟨'f', _, rfl, by simp [Solid], by decide⟩, fun _ _ _ _ => rfl⟩

theorem toList_stringText (s : String) :
    (stringText s).toList = '"' :: (s.toList.flatMap escaped ++ ['"']) := by
  rw [stringText, String.toList_ofList]
  rfl

theorem reads_string (s : String) : Reads (stringText s).toList (.str (s.toList.map pieceOf)) := by
  refine ⟨⟨'"', _, toList_stringText s, by simp [Solid], by decide⟩, fun fuel rest _ _ => ?_⟩
  rw [toList_stringText, List.cons_append, value, skip_cons (by simp [Solid]), List.append_assoc,
    List.singleton_append]
  simp [stringPieces?_string]

/-- Texts with commas between them. -/
def joined (texts : List String) : List Char := (String.intercalate "," texts).toList

theorem joined_cons_cons (s t : String) (ts : List String) :
    joined (s :: t :: ts) = s.toList ++ ',' :: joined (t :: ts) := by
  rw [joined, String.intercalate_cons_cons, String.toList_append, String.toList_append,
    List.append_assoc]
  rfl

theorem joined_singleton (s : String) : joined [s] = s.toList := rfl

theorem stops_comma (cs : List Char) : Stops (',' :: cs) := by simp [Stops]

theorem stops_bracket (cs : List Char) : Stops (']' :: cs) := by simp [Stops]

theorem stops_brace (cs : List Char) : Stops ('\x7d' :: cs) := by simp [Stops]

/-- Items are read one after the other, each up to the comma or the bracket behind it. -/
theorem reads_items {ts : List String} {vs : List Raw}
    (h : List.Forall₂ (fun t v => Reads t.toList v) ts vs) (nonempty : ts ≠ []) (fuel : Nat)
    (rest : List Char) (hf : 2 * (joined ts).length ≤ fuel) :
    items (fuel + 1) (joined ts ++ ']' :: rest) = some (vs, rest) := by
  induction h generalizing fuel with
  | nil => exact absurd rfl nonempty
  | @cons t v ts vs first others ih =>
    obtain ⟨c, cs, ht, -⟩ := first.starts
    cases others with
    | nil =>
      rw [joined_singleton] at hf ⊢
      obtain ⟨fuel, rfl⟩ : ∃ n, fuel = n + 1 := ⟨fuel - 1, by simp [ht] at hf; omega⟩
      rw [items, first.reads fuel _ hf (stops_bracket rest)]
      rfl
    | @cons t' v' ts vs second others =>
      rw [joined_cons_cons] at hf ⊢
      simp only [List.length_append, List.length_cons] at hf
      obtain ⟨fuel, rfl⟩ : ∃ n, fuel = n + 1 := ⟨fuel - 1, by omega⟩
      have value := first.reads fuel _ (by omega) (stops_comma (joined (t' :: ts) ++ ']' :: rest))
      have more := ih (by simp) fuel (by omega)
      rw [items]
      simp [value, more]

/-- The text of a member. -/
def memberText (name text : String) : String := stringText name ++ ":" ++ text

theorem toList_memberText (name text : String) : (memberText name text).toList =
    '"' :: (name.toList.flatMap escaped ++ '"' :: ':' :: text.toList) := by
  rw [memberText, String.toList_append, String.toList_append, toList_stringText]
  simp

/-- Whether some texts of members are read as these members. -/
def ReadsMember (text : String) (m : List Piece × Raw) : Prop :=
  ∃ name value, text = memberText name value ∧ m.1 = name.toList.map pieceOf ∧
    Reads value.toList m.2

theorem reads_members {ts : List String} {ms : List (List Piece × Raw)}
    (h : List.Forall₂ ReadsMember ts ms) (nonempty : ts ≠ []) (fuel : Nat)
    (rest : List Char) (hf : 2 * (joined ts).length ≤ fuel) :
    members (fuel + 1) (joined ts ++ '\x7d' :: rest) = some (ms, rest) := by
  induction h generalizing fuel with
  | nil => exact absurd rfl nonempty
  | @cons t m ts ms first others ih =>
    obtain ⟨name, text, rfl, hname, reads⟩ := first
    obtain ⟨pieces, v⟩ := m
    obtain rfl : pieces = _ := hname
    have length : (memberText name text).toList.length ≥ text.toList.length + 3 := by
      simp [toList_memberText]
    cases others with
    | nil =>
      rw [joined_singleton] at hf ⊢
      obtain ⟨fuel, rfl⟩ : ∃ n, fuel = n + 1 := ⟨fuel - 1, by omega⟩
      rw [members, toList_memberText]
      have value := reads.reads fuel _ (by omega) (stops_brace rest)
      simp [stringPieces?_string, value]
    | @cons t' v' ts vs second others =>
      rw [joined_cons_cons] at hf ⊢
      simp only [List.length_append, List.length_cons] at hf
      obtain ⟨fuel, rfl⟩ : ∃ n, fuel = n + 1 := ⟨fuel - 1, by omega⟩
      rw [members, toList_memberText]
      have value := reads.reads fuel _ (by omega)
        (stops_comma (joined (t' :: ts) ++ '\x7d' :: rest))
      have more := ih (by simp) fuel (by omega)
      simp [stringPieces?_string, value, more]

theorem toList_enclosed (opening closing : Char) (ts : List String) :
    (enclosed (String.singleton opening) (String.singleton closing) "," ts).toList =
      opening :: (joined ts ++ [closing]) := by
  simp [enclosed, joined]

theorem joined_head {t : String} {c : Char} {cs : List Char} (h : t.toList = c :: cs) :
    ∀ ts : List String, ∃ more, joined (t :: ts) = c :: more
  | [] => ⟨cs, h⟩
  | t' :: ts => ⟨cs ++ ',' :: joined (t' :: ts), by rw [joined_cons_cons, h, List.cons_append]⟩

theorem reads_arr {ts : List String} {vs : List Raw}
    (h : List.Forall₂ (fun t v => Reads t.toList v) ts vs) :
    Reads (enclosed "[" "]" "," ts).toList (.arr vs) := by
  have written : (enclosed "[" "]" "," ts).toList = '[' :: (joined ts ++ [']']) :=
    toList_enclosed '[' ']' ts
  refine ⟨⟨'[', _, written, by simp [Solid], by decide⟩, fun fuel rest hf hr => ?_⟩
  rw [written] at hf ⊢
  cases ts with
  | nil =>
    cases h
    rfl
  | cons t ts =>
    obtain ⟨v, vs, first, -, rfl⟩ := List.forall₂_cons_left_iff.1 h
    obtain ⟨c, cs, ht, solid, hc⟩ := first.starts
    obtain ⟨more, start⟩ := joined_head ht ts
    obtain ⟨fuel, rfl⟩ : ∃ n, fuel = n + 1 := ⟨fuel - 1, by simp at hf; omega⟩
    have read := reads_items h (by simp) fuel rest (by simp at hf; omega)
    have behind : skip (joined (t :: ts) ++ ']' :: rest) = c :: (more ++ ']' :: rest) := by
      rw [start, List.cons_append, skip_cons solid]
    rw [List.cons_append, List.append_assoc, List.singleton_append, value,
      skip_cons (by simp [Solid])]
    simp [behind, hc, read]

/-- An object is read from the texts of its members. -/
theorem reads_obj {ts : List String} {ms : List (List Piece × Raw)}
    (h : List.Forall₂ ReadsMember ts ms) :
    Reads (enclosed "\x7b" "\x7d" "," ts).toList (.obj ms) := by
  have written : (enclosed "\x7b" "\x7d" "," ts).toList = '\x7b' :: (joined ts ++ ['\x7d']) :=
    toList_enclosed '\x7b' '\x7d' ts
  refine ⟨⟨'\x7b', _, written, by simp [Solid], by decide⟩, fun fuel rest hf hr => ?_⟩
  rw [written] at hf ⊢
  cases ts with
  | nil =>
    cases h
    rfl
  | cons t ts =>
    obtain ⟨m, ms, ⟨name, text, rfl, -⟩, -, rfl⟩ := List.forall₂_cons_left_iff.1 h
    obtain ⟨more, start⟩ := joined_head (toList_memberText name text) ts
    obtain ⟨fuel, rfl⟩ : ∃ n, fuel = n + 1 := ⟨fuel - 1, by simp at hf; omega⟩
    have read := reads_members h (by simp) fuel rest (by simp at hf; omega)
    have behind : skip (joined (memberText name text :: ts) ++ '\x7d' :: rest) =
        '"' :: (more ++ '\x7d' :: rest) := by
      rw [start, List.cons_append, skip_quote]
    rw [List.cons_append, List.append_assoc, List.singleton_append, value,
      skip_cons (by simp [Solid])]
    simp [behind, read]

/-- A number that is read from its text stands for what the numeral stands for. -/
theorem exists_reads_number {cs : List Char} {n : Numeral} {depth : Nat} {j : Json}
    (h : numeral? cs = some (n, [])) (hj : n.value? = some j) :
    ∃ v, Reads cs v ∧ v.value? depth = some j := by
  refine ⟨.number n, reads_number h, ?_⟩
  cases depth <;> simpa [value?] using hj

mutual

/-- A value is read from its text, if every double in it is legible. -/
theorem exists_reads : ∀ {depth : Nat} {j : Json}, Within Legible depth j →
    ∃ v, Reads j.compact.toList v ∧ v.value? depth = some j
  | depth, .null, _ => by
    rw [compact]
    exact ⟨.null, reads_null, by cases depth <;> rfl⟩
  | depth, .bool b, _ => ⟨.bool b, reads_bool b, by cases depth <;> rfl⟩
  | depth, .str s, _ => by
    rw [compact]
    refine ⟨_, reads_string s, ?_⟩
    cases depth <;> simp [value?, textOf?_pieceOf]
  | depth, .int n, h => by
    rw [compact]
    exact exists_reads_number (numeral?_intText n) (value?_intText (by simpa [Within] using h))
  | depth, .float x, h => by
    obtain ⟨n, read, value⟩ : Legible x := by simpa [Within] using h
    rw [compact]
    exact exists_reads_number read value
  | 0, .arr items, h => by simp [Within] at h
  | 0, .obj members, h => by simp [Within] at h
  | depth + 1, .arr items, h => by
    rw [Within] at h
    obtain ⟨vs, reads, values⟩ := exists_reads_items h
    rw [compact]
    exact ⟨.arr vs, reads_arr reads, by rw [value?, values]; rfl⟩
  | depth + 1, .obj members, h => by
    rw [Within] at h
    obtain ⟨ms, reads, values⟩ := exists_reads_members h
    rw [compact]
    exact ⟨.obj ms, reads_obj reads, by rw [value?, values]; rfl⟩

theorem exists_reads_items : ∀ {depth : Nat} {items : List Json}, ItemsWithin Legible depth items →
    ∃ vs, List.Forall₂ (fun t v => Reads t.toList v) (compactItems items) vs ∧
      vs.mapM (value? depth) = some items
  | depth, [], _ => ⟨[], .nil, rfl⟩
  | depth, v :: vs, h => by
    rw [ItemsWithin] at h
    obtain ⟨w, reads, value⟩ := exists_reads h.1
    obtain ⟨ws, more, values⟩ := exists_reads_items h.2
    refine ⟨w :: ws, ?_, ?_⟩
    · rw [compactItems]
      exact .cons reads more
    · rw [List.mapM_cons, value, values]
      rfl

theorem exists_reads_members : ∀ {depth : Nat} {ms : List (String × Json)},
    MembersWithin Legible depth ms →
    ∃ rs, List.Forall₂ ReadsMember (compactMembers ms) rs ∧
      (rs.mapM fun (name, v) => do return (← textOf? name, ← value? depth v)) = some ms
  | depth, [], _ => ⟨[], .nil, rfl⟩
  | depth, (name, v) :: ms, h => by
    rw [MembersWithin] at h
    obtain ⟨w, reads, value⟩ := exists_reads h.1
    obtain ⟨ws, more, values⟩ := exists_reads_members h.2
    refine ⟨(name.toList.map pieceOf, w) :: ws, ?_, ?_⟩
    · rw [compactMembers]
      exact .cons ⟨name, _, rfl, rfl, reads⟩ more
    · rw [List.mapM_cons, values]
      simp [textOf?_pieceOf, value]

end

end Raw

/-- A value is read from its text, if it does not nest too deep and its numbers are read back. -/
theorem ofText?_compact {j : Json} (h : Within Legible Raw.maxDepth j) :
    ofText? j.compact = some j := by
  obtain ⟨v, reads, value⟩ := Raw.exists_reads h
  have read := reads.reads (2 * j.compact.toList.length) [] (by omega) (by simp [Stops])
  rw [List.append_nil] at read
  have raw : Raw.ofText? j.compact = some v := by
    unfold Raw.ofText?
    simp only [read]
    rfl
  rw [ofText?, raw, Option.bind_some, value]

/-! ### What is read -/

theorem itemsWithin_iff {P : Float → Prop} {depth : Nat} : ∀ {items : List Json},
    ItemsWithin P depth items ↔ ∀ v ∈ items, Within P depth v
  | [] => by simp [ItemsWithin]
  | v :: vs => by rw [ItemsWithin, itemsWithin_iff, List.forall_mem_cons]

theorem membersWithin_iff {P : Float → Prop} {depth : Nat} : ∀ {ms : List (String × Json)},
    MembersWithin P depth ms ↔ ∀ m ∈ ms, Within P depth m.2
  | [] => by simp [MembersWithin]
  | (name, v) :: ms => by rw [MembersWithin, membersWithin_iff, List.forall_mem_cons]

theorem Numeral.value?_within {n : Numeral} {depth : Nat} {j : Json} (h : n.value? = some j) :
    Within (fun _ => True) depth j := by
  unfold Numeral.value? at h
  dsimp only at h
  split at h
  case isTrue small =>
    cases h
    have : Fits (natOfDigits 10 n.whole) := by
      unfold Fits
      omega
    cases depth <;> simpa [Within]
  split at h
  case isTrue small =>
    cases h
    have : Fits (-(natOfDigits 10 n.whole : Int)) := by
      unfold Fits
      omega
    cases depth <;> simpa [Within]
  · obtain ⟨x, -, rfl⟩ := Option.map_eq_some_iff.1 h
    cases depth <;> simp [Within]

/-- What is read from a text nests no deeper than is allowed, and its integers have 64 bits. -/
theorem Raw.value?_within : ∀ {depth : Nat} {v : Raw} {j : Json}, v.value? depth = some j →
    Within (fun _ => True) depth j
  | depth, .null, _, h => by
    cases depth <;> cases h <;> simp [Within]
  | depth, .bool _, _, h => by
    cases depth <;> cases h <;> simp [Within]
  | depth, .number n, j, h => by
    have value : n.value? = some j := by cases depth <;> exact h
    exact Numeral.value?_within value
  | depth, .str ps, j, h => by
    have text : (textOf? ps).map Json.str = some j := by cases depth <;> exact h
    obtain ⟨s, -, rfl⟩ := Option.map_eq_some_iff.1 text
    cases depth <;> simp [Within]
  | 0, .arr _, _, h | 0, .obj _, _, h => by cases h
  | depth + 1, .arr items, _, h => by
    obtain ⟨js, read, rfl⟩ := Option.map_eq_some_iff.1 h
    rw [Within, itemsWithin_iff]
    exact forall_mem_of_mapM (fun _ _ => Raw.value?_within) read
  | depth + 1, .obj members, _, h => by
    obtain ⟨ms, read, h⟩ := Option.bind_eq_some_iff.1 h
    cases h
    rw [Within, membersWithin_iff]
    refine forall_mem_of_mapM (fun m m' h => ?_) read
    obtain ⟨name, -, h⟩ := Option.bind_eq_some_iff.1 h
    obtain ⟨v, value, h⟩ := Option.bind_eq_some_iff.1 h
    cases h
    exact Raw.value?_within value

theorem ofText?_within {s : String} {j : Json} (h : ofText? s = some j) :
    Within (fun _ => True) Raw.maxDepth j := by
  obtain ⟨v, -, value⟩ := Option.bind_eq_some_iff.1 h
  exact Raw.value?_within value

end Json

end Stepwise
