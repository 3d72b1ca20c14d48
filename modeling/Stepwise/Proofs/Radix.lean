import Stepwise.Eval.Run
import Stepwise.Proofs.Legible
import Stepwise.Proofs.Numeral

/-!
# Integers written in a base

What `str`, `bin`, `hex` and `format` write of an integer is read as the same integer by `int`
(`written_rereads`). Filling up with zeros does no harm, for they stand between the marker of the
base and the digits; only a marker in upper case is not seen, so that the zeros stand in front of it
and `int` reads nothing.

## The model

A written integer is a sign, a marker and a numeral (`parseInt_written`), whatever the marker and
the case of its digits.
-/

namespace Stepwise

open Text

variable {radix base : Nat} {cs ds : List Char} {c : Char} {f : Char → Char} {n : Int}

/-! ### Digits -/

theorem digitValue?_digitChar_lt : ∀ d < 36, digitValue? (digitChar d) = some d := by decide

theorem digitValue?_toUpper : ∀ d < 16, digitValue? (digitChar d).toUpper = some d := by decide

/-- The digits of a number, each written in some way that keeps its value, are a numeral. -/
theorem numeral_digitsOf (two : 2 ≤ radix)
    (values : ∀ d < radix, digitValue? (f (digitChar d)) = some d) :
    ∀ (fuel n : Nat) (acc : List Char), n < radix ^ (fuel + 1) →
      ∃ ds, digitsOf radix (fuel + 1) n acc = ds ++ acc ∧ NumeralIn radix (ds.map f) n
  | fuel, n, acc, lt => by
    have rest : n % radix < radix := Nat.mod_lt _ (by omega)
    have last := values _ rest
    by_cases small : n / radix = 0
    · have same : n % radix = n := Nat.mod_eq_of_lt ((Nat.div_eq_zero_iff_lt (by omega)).1 small)
      refine ⟨[digitChar (n % radix)], ?_, ?_⟩
      · rw [digitsOf, if_pos small]
        rfl
      · conv => arg 3; rw [← same]
        exact .digit last rest
    · cases fuel with
      | zero =>
        rw [Nat.zero_add, pow_one] at lt
        exact absurd (Nat.div_eq_of_lt lt) small
      | succ fuel =>
        have fewer : n / radix < radix ^ (fuel + 1) := by
          rw [pow_succ] at lt
          exact Nat.div_lt_of_lt_mul (by rwa [Nat.mul_comm])
        obtain ⟨ds, split, numeral⟩ := numeral_digitsOf two values fuel (n / radix)
          (digitChar (n % radix) :: acc) fewer
        refine ⟨ds ++ [digitChar (n % radix)], ?_, ?_⟩
        · rw [digitsOf, if_neg small, split, List.append_assoc]
          rfl
        · rw [List.map_append]
          conv => arg 3; rw [← Nat.div_add_mod' n radix]
          exact .next numeral last rest

theorem numeral_natText (two : 2 ≤ radix)
    (values : ∀ d < radix, digitValue? (f (digitChar d)) = some d) (n : Nat) :
    NumeralIn radix ((natText radix n).toList.map f) n := by
  have enough : n < radix ^ (n.log2 + 1) :=
    Nat.lt_log2_self.trans_le (Nat.pow_le_pow_left two _)
  obtain ⟨ds, split, numeral⟩ := numeral_digitsOf two values n.log2 n [] enough
  rw [natText, String.toList_ofList, split, List.append_nil]
  exact numeral

/-- Zeros in front change nothing. -/
theorem NumeralIn.zeros_append {v : Nat} (two : 2 ≤ radix) (k : Nat) (h : NumeralIn radix cs v) :
    NumeralIn radix (List.replicate k '0' ++ cs) v := by
  have zero : digitValue? '0' = some 0 := by decide
  have zeros : ∀ k, NumeralIn radix (List.replicate (k + 1) '0') 0 := by
    intro k
    induction k with
    | zero => exact .digit zero (by omega)
    | succ k ih =>
      rw [List.replicate_succ']
      have more := NumeralIn.next ih zero (by omega)
      rwa [Nat.zero_mul] at more
  induction h with
  | digit value lt =>
    cases k with
    | zero => exact .digit value lt
    | succ k =>
      have more := NumeralIn.next (zeros k) value lt
      rwa [Nat.zero_mul, Nat.zero_add] at more
  | next _ value lt ih =>
    rw [← List.append_assoc]
    exact .next ih value lt
  | apart _ value lt ih =>
    rw [← List.append_assoc]
    exact .apart ih value lt

/-! ### Reading -/

theorem isSpace_digit (digit : isDigitOf radix c = true) : isSpace c = false := by
  obtain ⟨d, -, value⟩ := isDigitOf_iff.1 digit
  have range : 0x30 ≤ c.toNat ∧ c.toNat ≤ 0x7A := by
    unfold digitValue? at value
    split at value
    case isTrue decimal =>
      simp only [Char.isDigit, Bool.and_eq_true, decide_eq_true_eq] at decimal
      exact ⟨decimal.1, Nat.le_trans decimal.2 (by decide)⟩
    split at value
    case isTrue lower => exact ⟨Nat.le_trans (by decide) lower.1, lower.2⟩
    split at value
    case isTrue upper =>
      exact ⟨Nat.le_trans (by decide) upper.1, Nat.le_trans upper.2 (by decide)⟩
    case isFalse => exact nomatch value
  simp [isSpace, inRanges]
  omega

theorem trimmed_of_not_space {text : String} (h : ∀ c ∈ text.toList, isSpace c = false) :
    trimmed text = text.toList := by
  have keeps (cs : List Char) (h : ∀ c ∈ cs, isSpace c = false) : cs.dropWhile isSpace = cs := by
    cases cs with
    | nil => rfl
    | cons c cs => rw [List.dropWhile_cons, h c (List.mem_cons_self ..), if_neg Bool.false_ne_true]
  rw [trimmed, keeps _ h, keeps _ (by simpa using h), List.reverse_reverse]

theorem Sign.not_space {s : List Char} {i : Int} (sign : Sign s i) :
    ∀ c ∈ s, isSpace c = false := by
  cases sign with
  | none => exact nofun
  | plus | minus => exact List.forall_mem_singleton.2 (by decide)

theorem Marker.not_space {m : List Char} (marker : Marker base m radix) :
    ∀ c ∈ m, isSpace c = false := by
  cases marker with
  | none => exact nofun
  | letter known either =>
    rw [List.forall_mem_cons, List.forall_mem_singleton]
    refine ⟨by decide, ?_⟩
    rcases marker_cases known with ⟨rfl, -⟩ | ⟨rfl, -⟩ | ⟨rfl, -⟩ <;>
      rcases either with rfl | rfl <;> decide

theorem NumeralIn.not_space {v : Nat} (digits : NumeralIn radix cs v) :
    ∀ c ∈ cs, isSpace c = false := by
  intro c hc
  by_cases underscore : c = '_'
  · rw [underscore]
    decide
  · exact isSpace_digit (digits.isDigitOf hc underscore)

/-- A sign, a marker and a numeral are read as the integer that they are written for. -/
theorem parseInt_written {text : String} {s m : List Char} {i : Int} {v : Nat}
    (valid : base = 0 ∨ 2 ≤ base ∧ base ≤ 36) (written : text.toList = s ++ m ++ cs)
    (sign : Sign s i) (marker : Marker base m radix) (digits : NumeralIn radix cs v)
    (fit : fits (i * v) = true) : parseInt text base = .ok (i * v) := by
  have whole : trimmed text = s ++ m ++ cs := by
    rw [trimmed_of_not_space, written]
    rw [written, List.forall_mem_append, List.forall_mem_append]
    exact ⟨⟨sign.not_space, marker.not_space⟩, digits.not_space⟩
  have spelled : Spelled base false (trimmed text) i v := by
    rw [whole]
    exact .mk sign marker (.once digits) nofun
  rw [parseInt_of_spelled valid spelled, settled_eq_ok_iff]
  exact ⟨spelled.isWord_of_fits fit, fit, rfl⟩

/-! ### Writing -/

/-- The sign of an integer, if it is negative. -/
def minus (n : Int) : List Char := if n < 0 then ['-'] else []

theorem sign_minus (n : Int) : ∃ i, Sign (minus n) i ∧ i * n.natAbs = n := by
  unfold minus
  split
  · exact ⟨-1, .minus, by omega⟩
  · exact ⟨1, .none, by omega⟩

/-- Behind a minus sign or nothing, what is read as the magnitude of `n` is read as `n`. -/
theorem parseInt_minus {text : String} {m : List Char}
    (valid : base = 0 ∨ 2 ≤ base ∧ base ≤ 36) (fit : fits n = true)
    (written : text.toList = minus n ++ m ++ cs) (marker : Marker base m radix)
    (digits : NumeralIn radix cs n.natAbs) : parseInt text base = .ok n := by
  obtain ⟨i, sign, same⟩ := sign_minus n
  have reads := parseInt_written valid written sign marker digits (by rwa [same])
  rwa [same] at reads

theorem toList_intText (n : Int) :
    (intText n).toList = minus n ++ [] ++ (natText 10 n.natAbs).toList := by
  unfold intText minus
  split <;> simp

theorem toList_radixText (marker : String) (radix : Nat) (n : Int) :
    (radixText marker radix n).toList =
      minus n ++ marker.toList ++ (natText radix n.natAbs).toList := by
  unfold radixText minus
  split <;> simp

theorem numeral_natText_id (two : 2 ≤ radix) (le : radix ≤ 36) (n : Nat) :
    NumeralIn radix (natText radix n).toList n := by
  have values : ∀ d < radix, digitValue? (id (digitChar d)) = some d := fun d lt =>
    digitValue?_digitChar_lt d (by omega)
  have numeral := numeral_natText two values n
  rwa [List.map_id] at numeral

theorem parseInt_intText (fit : fits n = true) : parseInt (intText n) 10 = .ok n :=
  have digits : NumeralIn 10 (natText 10 n.natAbs).toList n.natAbs :=
    numeral_natText_id (by decide) (by decide) _
  parseInt_minus (.inr (by decide)) fit (toList_intText n) .none digits

theorem marker_le {t : Char} (known : (t, radix) ∈ markers) : 2 ≤ radix ∧ radix ≤ 36 := by
  rcases marker_cases known with ⟨-, rfl⟩ | ⟨-, rfl⟩ | ⟨-, rfl⟩ <;> decide

/-- An integer with the marker of its base is read in that base and in base 0. -/
theorem parseInt_radixText {t : Char} {b : Nat} (known : (t, radix) ∈ markers)
    (agrees : b = 0 ∨ b = radix) (fit : fits n = true) :
    parseInt (radixText (String.ofList ['0', t]) radix n) b = .ok n := by
  have range := marker_le known
  refine parseInt_minus (by omega) fit (toList_radixText _ radix n) ?_
    (numeral_natText_id range.1 range.2 _)
  rw [String.toList_ofList]
  exact .letter known (.inl rfl) agrees

/-! ### Filling up -/

/-- The specification of an integer with its marker, filled up with zeros. -/
def filling (w : Nat) (t : Char) : Spec := ⟨some '0', some '=', none, true, w, none, none, some t⟩

/-- The text of this specification. -/
def fillingText (w : Nat) (t : Char) : String := "#0" ++ natText 10 w ++ t.toString

/-- The letters of notations with a marker. -/
def letters : List Char := ['b', 'o', 'x', 'X']

theorem letter_cases {t : Char} (letter : t ∈ letters) : t = 'b' ∨ t = 'o' ∨ t = 'x' ∨ t = 'X' := by
  simpa [letters] using letter

theorem parse?_fillingText (w : Nat) {t : Char} (letter : t ∈ letters) :
    Spec.parse? (fillingText w t).toList = some (filling w t) := by
  have all := isDigit_of_mem_natText w
  have plain : t.isDigit = false ∧ t ≠ ',' ∧ t ≠ '_' ∧ t ≠ '.' := by
    rcases letter_cases letter with rfl | rfl | rfl | rfl <;> decide
  have text : (fillingText w t).toList = '#' :: '0' :: ((natText 10 w).toList ++ [t]) := by
    simp [fillingText]
  have digits : ((natText 10 w).toList ++ [t]).takeWhile Char.isDigit = (natText 10 w).toList := by
    rw [List.takeWhile_append_of_pos all, List.takeWhile_cons, plain.1, if_neg Bool.false_ne_true,
      List.append_nil]
  have rest : ((natText 10 w).toList ++ [t]).dropWhile Char.isDigit = [t] := by
    rw [List.dropWhile_append_of_pos all, List.dropWhile_cons, plain.1, if_neg Bool.false_ne_true]
  have aligned : Spec.takeAlign ('#' :: '0' :: ((natText 10 w).toList ++ [t])) =
      (none, none, '#' :: '0' :: ((natText 10 w).toList ++ [t])) := rfl
  have precise : Spec.takePrecision [t] = some (none, [t]) := by
    unfold Spec.takePrecision
    split
    next h => exact absurd (List.cons.inj h).1 plain.2.2.2
    next => rfl
  rw [text, Spec.parse?, aligned]
  simp [Spec.takeIf, digits, rest, plain, precise, natOfDigits_natText, filling]

/-- A marker counts as part of the sign, unless it is written in upper case. -/
theorem signWidth_minus (n : Int) (t : Char) (ds : List Char) :
    Spec.signWidth (minus n ++ '0' :: t :: ds) =
      (minus n).length + if t = 'x' ∨ t = 'b' ∨ t = 'o' then 2 else 0 := by
  unfold minus
  split <;> simp only [List.nil_append, List.singleton_append, Spec.signWidth] <;> simp
  all_goals split <;> rfl

theorem toList_pad_filling {w : Nat} {t : Char} {body : String} {front back : List Char}
    (parts : body.toList = front ++ back) (width : Spec.signWidth body.toList = front.length) :
    ((filling w t).pad true body).toList =
      front ++ List.replicate (w - (front ++ back).length) '0' ++ back := by
  have align : (filling w t).align.getD (if true = true then '>' else '<') = '=' := rfl
  rw [Spec.pad, align, String.toList_ofList]
  dsimp only
  rw [width, parts, List.take_left, List.drop_left]
  rfl

/-- What is written of an integer in a notation with a marker, before it is filled up. -/
theorem ofInteger_filling (type : String) {w : Nat} {t : Char} {digits : String}
    (written : (filling w t).integerDigits? n.natAbs = some (String.ofList ['0', t] ++ digits))
    (letter : t ∈ letters) :
    ∃ body : String, (filling w t).ofInteger type n = .ok ((filling w t).pad true body) ∧
      body.toList = minus n ++ '0' :: t :: digits.toList := by
  have character : (filling w t).kind ≠ some 'c' := by
    rintro same
    cases same
    revert letter
    decide
  refine ⟨(filling w t).signText (n < 0) ++ (String.ofList ['0', t] ++ digits), ?_, ?_⟩
  · rw [Spec.ofInteger, if_neg (by simp [filling]), if_neg character, written]
    rfl
  · unfold minus Spec.signText
    by_cases negative : n < 0 <;> simp [negative, filling]

theorem integerDigits?_filling {w : Nat} {t : Char} (known : (t, radix) ∈ markers) (k : Nat) :
    (filling w t).integerDigits? k = some (String.ofList ['0', t] ++ natText radix k) := by
  rcases marker_cases known with ⟨rfl, rfl⟩ | ⟨rfl, rfl⟩ | ⟨rfl, rfl⟩ <;> rfl

/-- Zeros are filled in behind the marker. -/
def filled (n : Int) (w : Nat) (t : Char) (digits : List Char) : List Char :=
  minus n ++ ['0', t] ++
    (List.replicate (w - (minus n ++ ['0', t] ++ digits).length) '0' ++ digits)

theorem ofInteger_filled (n : Int) (w : Nat) {t : Char} (known : (t, radix) ∈ markers)
    (type : String) :
    (filling w t).ofInteger type n =
      .ok (String.ofList (filled n w t (natText radix n.natAbs).toList)) := by
  have letter : t ∈ letters ∧ (t = 'x' ∨ t = 'b' ∨ t = 'o') := by
    rcases marker_cases known with ⟨rfl, -⟩ | ⟨rfl, -⟩ | ⟨rfl, -⟩ <;> decide
  obtain ⟨body, written, parts⟩ := ofInteger_filling type
    (integerDigits?_filling (w := w) known n.natAbs) letter.1
  have split : body.toList = (minus n ++ ['0', t]) ++ (natText radix n.natAbs).toList := by
    rw [parts, List.append_assoc]
    rfl
  have width : Spec.signWidth body.toList = (minus n ++ ['0', t]).length := by
    rw [parts, signWidth_minus, if_pos letter.2, List.length_append]
    rfl
  rw [written, ← String.ofList_toList (s := (filling w t).pad true body),
    toList_pad_filling split width, filled, List.append_assoc _ _ (natText radix _).toList]

/-- The zeros are read with the digits. -/
theorem parseInt_filled (w : Nat) {t : Char} (known : (t, radix) ∈ markers) (fit : fits n = true) :
    parseInt (String.ofList (filled n w t (natText radix n.natAbs).toList)) 0 = .ok n := by
  have range := marker_le known
  refine parseInt_minus (.inl rfl) fit String.toList_ofList (.letter known (.inl rfl) (.inl rfl)) ?_
  exact (numeral_natText_id range.1 range.2 _).zeros_append range.1 _

/-! ### Markers in upper case -/

/-- Hexadecimal digits in upper case. -/
def upperText (k : Nat) : String := (natText 16 k).map Char.toUpper

theorem numeral_upperText (k : Nat) : NumeralIn 16 (upperText k).toList k := by
  rw [upperText, String.toList_map]
  exact numeral_natText (by decide) digitValue?_toUpper k

/-- An integer with digits in upper case and its marker. -/
def upper (n : Int) : List Char := minus n ++ '0' :: 'X' :: (upperText n.natAbs).toList

/-- Zeros are filled in before a marker in upper case, next to its zero. -/
def overfilled (n : Int) (w : Nat) : List Char :=
  minus n ++ (List.replicate (w - (upper n).length + 1) '0' ++ 'X' :: (upperText n.natAbs).toList)

theorem ofInteger_overfilled (n : Int) (w : Nat) (type : String) :
    (filling w 'X').ofInteger type n = .ok (String.ofList (overfilled n w)) := by
  have digits : (filling w 'X').integerDigits? n.natAbs =
      some (String.ofList ['0', 'X'] ++ upperText n.natAbs) := rfl
  obtain ⟨body, written, parts⟩ := ofInteger_filling type digits (by decide)
  have width : Spec.signWidth body.toList = (minus n).length := by
    rw [parts, signWidth_minus, if_neg (by decide), Nat.add_zero]
  rw [written, ← String.ofList_toList (s := (filling w 'X').pad true body),
    toList_pad_filling parts width, overfilled, List.replicate_succ', List.append_assoc,
    List.append_assoc _ ['0'], List.singleton_append, upper]

/-- Nothing filled in, the integer is read. -/
theorem parseInt_overfilled_narrow {w : Nat} (fit : fits n = true) (narrow : w ≤ (upper n).length) :
    parseInt (String.ofList (overfilled n w)) 0 = .ok n := by
  have known : ('x', 16) ∈ markers := by decide
  refine parseInt_minus (.inl rfl) fit ?_ (.letter known (.inr rfl) (.inl rfl))
    (numeral_upperText _)
  rw [String.toList_ofList, overfilled, Nat.sub_eq_zero_of_le narrow, List.append_assoc]
  rfl

theorem not_space_overfilled {w : Nat} : ∀ c ∈ overfilled n w, isSpace c = false := by
  obtain ⟨i, sign, -⟩ := sign_minus n
  rw [overfilled, List.forall_mem_append, List.forall_mem_append, List.forall_mem_cons]
  refine ⟨sign.not_space, fun c hc => ?_, by decide, (numeral_upperText _).not_space⟩
  rw [List.eq_of_mem_replicate hc]
  decide

/-- With a zero filled in, the marker is none, and its letter is no digit. -/
theorem parseInt_overfilled_wide {w : Nat} (wide : (upper n).length < w) :
    let text := String.ofList (overfilled n w)
    parseInt text 0 = .error (.value (.integerText 0 text)) := by
  intro text
  obtain ⟨k, gap⟩ := Nat.exists_eq_succ_of_ne_zero (Nat.sub_ne_zero_of_lt wide)
  obtain ⟨i, sign, -⟩ := sign_minus n
  -- the sign leaves zeros, which are no marker, and digits behind a letter that is none
  let rest := '0' :: '0' :: (List.replicate k '0' ++ 'X' :: (upperText n.natAbs).toList)
  have written : trimmed text = minus n ++ rest := by
    rw [trimmed_of_not_space, String.toList_ofList, overfilled, gap]
    · rfl
    · rw [String.toList_ofList]
      exact not_space_overfilled
  have unsigned : Unsigned rest := @unsigned_of_digit 10 _ '0' rfl
  have unmarked : ¬Marked 0 rest := by
    rintro ⟨c, d, radix, _, split, known, letter, -⟩
    obtain rfl : '0' = c := (List.cons.inj (List.cons.inj split).2).1
    subst letter
    revert known
    simp [markers]
  have letter : 'X' ∈ rest := by simp [rest]
  clear_value rest
  refine parseInt_of_not_body (.inl rfl) (written ▸ sign.takeSign_append fun _ => unsigned)
    (takeRadix_of_not_marked unmarked) fun again k body => ?_
  cases body with
  | again => exact ⟨rfl, unsigned⟩
  | once digits => exact absurd (digits.isDigitOf letter (by decide)) (by decide)

/-! ### Calls -/

section

variable {σ : Type} (r : Runner σ) {m : Machine σ}

/-- Calls `b` and has `int` read, in a base if one is given, what that has written. -/
def reread (b : Builtin) (args : List Value) (base : Option Nat) : M σ Value := do
  let text ← callBuiltin r b args []
  callBuiltin r .int (text :: (base.map fun base => .int base).toList) []

variable {r} {b : Builtin} {args : List Value} {base : Option Nat} {text : String}

theorem reread_apply (writes : callBuiltin r b args [] m = .ok (.str text) m) :
    reread r b args base m =
      (do return .int (← lift (parseInt text (base.getD 10))) : M σ Value) m := by
  rw [reread, M.bind_ok writes]
  cases base <;> rfl

theorem reread_eq_ok (writes : callBuiltin r b args [] m = .ok (.str text) m)
    (reads : parseInt text (base.getD 10) = .ok n) : reread r b args base m = .ok (.int n) m := by
  rw [reread_apply writes, reads]
  rfl

theorem reread_eq_error {f : Fault} (writes : callBuiltin r b args [] m = .ok (.str text) m)
    (fails : parseInt text (base.getD 10) = .error f) :
    reread r b args base m = .error (.error ⟨f, m.pos⟩) m := by
  rw [reread_apply writes, fails]
  rfl

theorem callBuiltin_format (r : Runner σ) (m : Machine σ) {w : Nat} {t : Char}
    (letter : t ∈ letters) (written : (filling w t).ofInteger "int" n = .ok text) :
    callBuiltin r .format [.int n, .str (fillingText w t)] [] m = .ok (.str text) m := by
  have nonempty : (fillingText w t).toList.isEmpty = false := by simp [fillingText]
  have whole : Spec.isFloatKind (filling w t).kind = false := by
    rcases letter_cases letter with rfl | rfl | rfl | rfl <;> rfl
  have writes : write r (fillingText w t).toList (.int n) m = .ok text m := by
    rw [write, nonempty, if_neg Bool.false_ne_true, parse?_fillingText w letter]
    show writeInteger r (filling w t) (.int n) n m = _
    unfold writeInteger
    rw [whole, if_neg Bool.false_ne_true]
    show (lift ((filling w t).ofInteger "int" n) : M σ String) m = _
    rw [written]
    rfl
  show (do return .str (← write r (fillingText w t).toList (.int n)) : M σ Value) m = _
  rw [M.bind_ok writes]
  rfl

/-- What `int` makes of an integer that has been written. -/
structure Rereads (r : Runner σ) (m : Machine σ) (n : Int) : Prop where
  str : reread r .str [.int n] none m = .ok (.int n) m
  bin : ∀ base ∈ [0, 2], reread r .bin [.int n] (some base) m = .ok (.int n) m
  hex : ∀ base ∈ [0, 16], reread r .hex [.int n] (some base) m = .ok (.int n) m
  format : ∀ w t radix, (t, radix) ∈ markers →
    let args := [.int n, .str (fillingText w t)]
    callBuiltin r .format args [] m =
        .ok (.str (String.ofList (filled n w t (natText radix n.natAbs).toList))) m ∧
      reread r .format args (some 0) m = .ok (.int n) m
  upper : ∀ w,
    let args := [.int n, .str (fillingText w 'X')]
    let text := String.ofList (overfilled n w)
    callBuiltin r .format args [] m = .ok (.str text) m ∧
      reread r .format args (some 0) m =
        if w ≤ (upper n).length then .ok (.int n) m
        else .error (.error ⟨.value (.integerText 0 text), m.pos⟩) m

/-- Integers come back from the texts of `str`, `bin` and `hex`, and from those of `format` filled
up with zeros between the marker and the digits. If the marker is written in upper case, the zeros
stand before it, and the integer comes back only if there are none. -/
theorem written_rereads (tell : Nat → Moment → M σ Unit) (reveal : M σ Unit) (fuel : Nat)
    (m : Machine σ) (fit : fits n = true) : Rereads (runner tell reveal (fuel + 2)) m n where
  str := reread_eq_ok rfl (parseInt_intText fit)
  bin base among := by
    have either : base = 0 ∨ base = 2 := by simpa using among
    exact reread_eq_ok rfl (parseInt_radixText (t := 'b') (by decide) either fit)
  hex base among := by
    have either : base = 0 ∨ base = 16 := by simpa using among
    exact reread_eq_ok rfl (parseInt_radixText (t := 'x') (by decide) either fit)
  format w t radix known := by
    have letter : t ∈ letters := by
      rcases marker_cases known with ⟨rfl, -⟩ | ⟨rfl, -⟩ | ⟨rfl, -⟩ <;> decide
    have writes := callBuiltin_format (runner tell reveal (fuel + 2)) m letter
      (ofInteger_filled n w known "int")
    exact ⟨writes, reread_eq_ok writes (parseInt_filled w known fit)⟩
  upper w := by
    have writes := callBuiltin_format (runner tell reveal (fuel + 2)) m (by decide)
      (ofInteger_overfilled n w "int")
    refine ⟨writes, ?_⟩
    split
    case isTrue narrow => exact reread_eq_ok writes (parseInt_overfilled_narrow fit narrow)
    case isFalse wide =>
      exact reread_eq_error writes (parseInt_overfilled_wide (Nat.lt_of_not_le wide))

/-- `format(5, "#08X")` is `000000X5`, which `int` does not read. -/
theorem written_rereads_upper :
    let m := Machine.start ()
    fits 5 = true ∧ callBuiltin (quiet 2) .format [.int 5, .str "#08X"] [] m =
        .ok (.str "000000X5") m ∧
      reread (quiet 2) .format [.int 5, .str "#08X"] (some 0) m =
        .error (.error ⟨.value (.integerText 0 "000000X5"), m.pos⟩) m := by
  have fit : fits 5 = true := rfl
  have spec : fillingText 8 'X' = "#08X" := rfl
  have text : String.ofList (overfilled 5 8) = "000000X5" := by decide +kernel
  have wide : ¬8 ≤ (upper 5).length := by decide +kernel
  have rereads := (written_rereads (fun _ _ => pure ()) (pure ()) 0 (Machine.start ()) fit).upper 8
  dsimp only at rereads
  rw [if_neg wide, spec, text] at rereads
  exact ⟨fit, rereads⟩

end

end Stepwise
