import Stepwise.Number.Literal
import Stepwise.Proofs.Exact

/-!
# Numerals

Which texts `int` reads as integers, in every number base, and as which (`parseInt_spelled`): a
sign, the marker of a base and digits, each underscore standing between two digits. Two things are
not as one would write them down. Behind a sign or a marker a second sign may come, and what stands
behind the first sign and the marker has to be an integer of 128 bits, or the text is not read.

## The model

The grammar is a relation between texts and integers (`NumeralIn`, `Body`, `Spelled`), built up from
the first digit to the last, as digits are read.
-/

namespace Stepwise

open Text

/-- Digits with underscores one by one between them, and the number that they stand for. -/
inductive NumeralIn (radix : Nat) : List Char → Nat → Prop
  | digit {c d} (value : digitValue? c = some d) (lt : d < radix) : NumeralIn radix [c] d
  | next {cs n c d} (before : NumeralIn radix cs n) (value : digitValue? c = some d)
      (lt : d < radix) : NumeralIn radix (cs ++ [c]) (n * radix + d)
  | apart {cs n c d} (before : NumeralIn radix cs n) (value : digitValue? c = some d)
      (lt : d < radix) : NumeralIn radix (cs ++ ['_', c]) (n * radix + d)

/-- A sign, or none, and its factor. -/
inductive Sign : List Char → Int → Prop
  | none : Sign [] 1
  | plus : Sign ['+'] 1
  | minus : Sign ['-'] (-1)

/-- The letters that mark a base. -/
def markers : List (Char × Nat) := [('x', 16), ('o', 8), ('b', 2)]

/-- The marker of a base that `base` leaves open or agrees with, or none, and the base of the digits
that follow. -/
inductive Marker (base : Nat) : List Char → Nat → Prop
  | none : Marker base [] (if base = 0 then 10 else base)
  | letter {c d radix} (known : (d, radix) ∈ markers) (either : c = d ∨ c = d.toUpper)
      (agrees : base = 0 ∨ base = radix) : Marker base ['0', c] radix

/-- What may stand behind a sign and a marker, and the integer it stands for: digits, or one more
sign in front of digits, then with an underscore between them if one likes. -/
inductive Body (radix : Nat) : (again : Bool) → List Char → Int → Prop
  | once {cs n} (digits : NumeralIn radix cs n) : Body radix false cs n
  | again {s i u cs n} (sign : Sign s i) (signs : s ≠ []) (gap : u = [] ∨ u = ['_'])
      (digits : NumeralIn radix cs n) : Body radix true (s ++ u ++ cs) (i * n)

/-- A text in a number base that stands for `i * k`, `i` being the factor of its sign. If it has one
more sign (`again`), then behind a sign or a marker. -/
inductive Spelled (base : Nat) (again : Bool) : List Char → Int → Int → Prop
  | mk {s m cs i k radix} (sign : Sign s i) (marker : Marker base m radix)
      (body : Body radix again cs k) (behind : again = true → s ++ m ≠ []) :
      Spelled base again (s ++ m ++ cs) i k

variable {radix base : Nat} {cs ds rest : List Char} {c : Char}

/-! ### Underscores -/

theorem wellSeparated_iff : wellSeparated cs = true ↔
    cs ≠ [] ∧ cs.head? ≠ some '_' ∧ cs.getLast? ≠ some '_' ∧ doubleUnderscore cs = false := by
  simp [wellSeparated, and_assoc]

theorem exists_cons_of_wellSeparated (h : wellSeparated cs = true) :
    ∃ c ds, cs = c :: ds ∧ c ≠ '_' := by
  obtain ⟨some, head, -⟩ := wellSeparated_iff.1 h
  obtain ⟨c, ds, rfl⟩ := List.exists_cons_of_ne_nil some
  exact ⟨c, ds, rfl, fun same => head (congrArg Option.some same)⟩

theorem doubleUnderscore_cons : doubleUnderscore (c :: cs) =
    (decide (c = '_') && decide (cs.head? = some '_') || doubleUnderscore cs) := by
  by_cases hc : c = '_'
  · subst hc
    cases cs with
    | nil => rfl
    | cons d cs =>
      by_cases hd : d = '_'
      · simp [doubleUnderscore, hd]
      · simp [doubleUnderscore, hd]
  · simp [doubleUnderscore, hc]

theorem doubleUnderscore_concat : doubleUnderscore (cs ++ [c]) =
    (doubleUnderscore cs || decide (cs.getLast? = some '_') && decide (c = '_')) := by
  induction cs with
  | nil => simp [doubleUnderscore_cons, doubleUnderscore]
  | cons d cs ih =>
    rw [List.cons_append, doubleUnderscore_cons, doubleUnderscore_cons, ih]
    cases cs with
    | nil => simp [doubleUnderscore]
    | cons e cs => simp [Bool.or_assoc]

theorem wellSeparated_reverse : wellSeparated cs.reverse = wellSeparated cs := by
  have double : ∀ cs : List Char, doubleUnderscore cs.reverse = doubleUnderscore cs := by
    intro cs
    induction cs with
    | nil => rfl
    | cons c cs ih =>
      rw [List.reverse_cons, doubleUnderscore_concat, ih, doubleUnderscore_cons,
        List.getLast?_reverse, Bool.or_comm, Bool.and_comm]
  rw [Bool.eq_iff_iff, wellSeparated_iff, wellSeparated_iff, double, List.head?_reverse,
    List.getLast?_reverse, Ne, List.reverse_eq_nil_iff]
  tauto

/-- What may stand behind a character that is no underscore: nothing, characters that are well
separated, or an underscore and such characters. -/
theorem wellSeparated_cons_iff (hc : c ≠ '_') : wellSeparated (c :: cs) = true ↔
    cs = [] ∨ wellSeparated cs = true ∨ ∃ ds, cs = '_' :: ds ∧ wellSeparated ds = true := by
  rw [wellSeparated_iff, doubleUnderscore_cons, decide_eq_false hc]
  cases cs with
  | nil => simp [hc, doubleUnderscore]
  | cons d ds =>
    by_cases hd : d = '_'
    · cases ds with
      | nil => simp [hc, hd, wellSeparated]
      | cons e ds => simp [hc, hd, wellSeparated_iff, doubleUnderscore_cons]; tauto
    · simp [hc, hd, wellSeparated_iff]

/-- What may stand in front of a character that is no underscore. -/
theorem wellSeparated_concat_iff (hc : c ≠ '_') : wellSeparated (cs ++ [c]) = true ↔
    cs = [] ∨ wellSeparated cs = true ∨ ∃ ds, cs = ds ++ ['_'] ∧ wellSeparated ds = true := by
  rw [← wellSeparated_reverse, List.reverse_append, List.reverse_singleton, List.singleton_append,
    wellSeparated_cons_iff hc, List.reverse_eq_nil_iff, wellSeparated_reverse]
  refine or_congr_right (or_congr_right ⟨?_, ?_⟩)
  · rintro ⟨ds, split, separated⟩
    refine ⟨ds.reverse, ?_, by rwa [wellSeparated_reverse]⟩
    rw [← List.reverse_reverse cs, split, List.reverse_cons]
  · rintro ⟨ds, rfl, separated⟩
    exact ⟨ds.reverse, by rw [List.reverse_append]; rfl, by rwa [wellSeparated_reverse]⟩

/-! ### Digits -/

theorem ne_of_digitValue? {d : Nat} {e : Char} (value : digitValue? c = some d)
    (none : digitValue? e = none) : c ≠ e := by
  rintro rfl
  rw [none] at value
  cases value

theorem ne_underscore {d : Nat} (value : digitValue? c = some d) : c ≠ '_' :=
  ne_of_digitValue? value (by decide)

theorem isDigitOf_iff : isDigitOf radix c = true ↔ ∃ d < radix, digitValue? c = some d := by
  rw [isDigitOf, Option.any_eq_true]
  simp only [decide_eq_true_eq]
  exact ⟨fun ⟨d, value, lt⟩ => ⟨d, lt, value⟩, fun ⟨d, lt, value⟩ => ⟨d, value, lt⟩⟩

theorem natOfDigits_concat {d : Nat} (value : digitValue? c = some d) :
    natOfDigits radix (ds ++ [c]) = natOfDigits radix ds * radix + d := by
  rw [natOfDigits, List.foldl_append, List.foldl_cons, List.foldl_nil, value]
  rfl

/-- The characters without underscores. -/
def dense (cs : List Char) : List Char := cs.filter (· ≠ '_')

theorem dense_append : dense (cs ++ ds) = dense cs ++ dense ds := List.filter_append ..

theorem dense_digit (hc : c ≠ '_') : dense [c] = [c] := by simp [dense, hc]

theorem dense_apart (hc : c ≠ '_') : dense ['_', c] = [c] := by simp [dense, hc]

/-- What digits are like to which underscores have been added. -/
structure Separated (radix : Nat) (cs : List Char) (n : Nat) : Prop where
  separated : wellSeparated cs = true
  digits : ∀ c ∈ dense cs, isDigitOf radix c = true
  value : natOfDigits radix (dense cs) = n

theorem NumeralIn.separated {n : Nat} (h : NumeralIn radix cs n) : Separated radix cs n := by
  induction h with
  | @digit c d value lt =>
    have hc := ne_underscore value
    refine ⟨(wellSeparated_cons_iff hc).2 (.inl rfl), ?_, ?_⟩
    · rw [dense_digit hc, List.forall_mem_singleton]
      exact isDigitOf_iff.2 ⟨d, lt, value⟩
    · rw [dense_digit hc, ← List.nil_append [c], natOfDigits_concat value]
      exact (congrArg (· + d) (Nat.zero_mul radix)).trans (Nat.zero_add d)
  | @next cs n c d _ value lt ih =>
    have hc := ne_underscore value
    refine ⟨(wellSeparated_concat_iff hc).2 (.inr (.inl ih.separated)), ?_, ?_⟩
    · rw [dense_append, dense_digit hc, List.forall_mem_append, List.forall_mem_singleton]
      exact ⟨ih.digits, isDigitOf_iff.2 ⟨d, lt, value⟩⟩
    · rw [dense_append, dense_digit hc, natOfDigits_concat value, ih.value]
  | @apart cs n c d _ value lt ih =>
    have hc := ne_underscore value
    refine ⟨?_, ?_, ?_⟩
    · rw [List.append_cons]
      exact (wellSeparated_concat_iff hc).2 (.inr (.inr ⟨cs, rfl, ih.separated⟩))
    · rw [dense_append, dense_apart hc, List.forall_mem_append, List.forall_mem_singleton]
      exact ⟨ih.digits, isDigitOf_iff.2 ⟨d, lt, value⟩⟩
    · rw [dense_append, dense_apart hc, natOfDigits_concat value, ih.value]

/-- Digits that are well separated are a numeral: the last one stands behind a numeral, or behind a
numeral and an underscore, or is the only one. -/
theorem numeral_of_separated (radix : Nat) (cs : List Char) (separated : wellSeparated cs = true)
    (digits : ∀ c ∈ dense cs, isDigitOf radix c = true) :
    NumeralIn radix cs (natOfDigits radix (dense cs)) := by
  rcases List.eq_nil_or_concat cs with rfl | ⟨before, c, rfl⟩
  · exact absurd separated (by decide)
  rw [List.concat_eq_append] at separated digits ⊢
  have hc : c ≠ '_' := by
    rintro rfl
    simp [wellSeparated] at separated
  rw [dense_append, dense_digit hc] at digits ⊢
  rw [List.forall_mem_append, List.forall_mem_singleton] at digits
  obtain ⟨d, lt, value⟩ := isDigitOf_iff.1 digits.2
  rw [natOfDigits_concat value]
  rcases (wellSeparated_concat_iff hc).1 separated with rfl | inner | ⟨ds, rfl, inner⟩
  · have zero : natOfDigits radix (dense []) = 0 := rfl
    rw [zero, Nat.zero_mul, Nat.zero_add]
    exact .digit value lt
  · exact .next (numeral_of_separated radix before inner digits.1) value lt
  · have same : dense (ds ++ ['_']) = dense ds := by
      rw [dense_append]
      exact List.append_nil _
    rw [same] at digits ⊢
    rw [List.append_assoc]
    exact .apart (numeral_of_separated radix ds inner digits.1) value lt
termination_by cs.length
decreasing_by all_goals simp +arith [*]

/-! ### Signs -/

/-- Whether characters start with no sign. -/
def Unsigned (cs : List Char) : Prop := ∀ c ∈ cs.head?, c ≠ '+' ∧ c ≠ '-'

theorem unsigned_of_digit (digit : isDigitOf radix c = true) : Unsigned (c :: cs) := by
  obtain ⟨d, -, value⟩ := isDigitOf_iff.1 digit
  intro e he
  obtain rfl : c = e := by simpa using he
  exact ⟨ne_of_digitValue? value (by decide), ne_of_digitValue? value (by decide)⟩

theorem unsigned_of_digits (digits : ∀ c ∈ cs, isDigitOf radix c = true) : Unsigned cs := by
  cases cs with
  | nil => exact nofun
  | cons c cs => exact unsigned_of_digit (digits c (List.mem_cons_self ..))

theorem Sign.takeSign_append {s : List Char} {i : Int} (sign : Sign s i)
    (bare : s = [] → Unsigned cs) : takeSign (s ++ cs) = (decide (i < 0), cs) := by
  cases sign with
  | plus | minus => rfl
  | none =>
    have unsigned := bare rfl
    rw [List.nil_append]
    unfold takeSign
    split
    · exact absurd rfl (unsigned '-' rfl).2
    · exact absurd rfl (unsigned '+' rfl).1
    · rfl

theorem Sign.apply {s : List Char} {i : Int} (sign : Sign s i) (n : Int) :
    (if decide (i < 0) = true then -n else n) = i * n := by
  cases sign <;> simp

/-- Taking a sign off leaves no sign behind, if there was none. -/
theorem takeSign_sign (cs : List Char) : ∃ s i rest, Sign s i ∧ cs = s ++ rest ∧
    takeSign cs = (decide (i < 0), rest) ∧ (s = [] → Unsigned rest) := by
  unfold takeSign
  split
  · exact ⟨_, _, _, .minus, rfl, rfl, nofun⟩
  · exact ⟨_, _, _, .plus, rfl, rfl, nofun⟩
  next minus plus =>
    refine ⟨_, _, cs, .none, rfl, rfl, fun _ c hc => ?_⟩
    cases cs with
    | nil => exact nomatch hc
    | cons d cs =>
      obtain rfl : d = c := by simpa using hc
      exact ⟨fun h => plus cs (by rw [h]), fun h => minus cs (by rw [h])⟩

/-- Digits with a sign stand for an integer, if that has 128 bits. -/
theorem Sign.signedDigits? {s : List Char} {i : Int} (sign : Sign s i) (some : ds ≠ [])
    (digits : ∀ c ∈ ds, isDigitOf radix c = true) :
    signedDigits? radix (s ++ ds) = word 128 (i * natOfDigits radix ds) := by
  have all : (ds.isEmpty || !ds.all (isDigitOf radix)) = false := by
    simpa [some] using digits
  rw [Stepwise.signedDigits?, sign.takeSign_append fun _ => unsigned_of_digits digits]
  dsimp only
  rw [all, sign.apply, word, isWord]
  simp

theorem signedDigits?_sign {k : Int} (reads : signedDigits? radix cs = some k) :
    ∃ s i ds, Sign s i ∧ cs = s ++ ds ∧ ds ≠ [] ∧ (∀ c ∈ ds, isDigitOf radix c = true) ∧
      k = i * natOfDigits radix ds ∧ isWord 128 k = true := by
  obtain ⟨s, i, ds, sign, rfl, takes, -⟩ := takeSign_sign cs
  have all : ds ≠ [] ∧ ∀ c ∈ ds, isDigitOf radix c = true := by
    by_contra other
    have : (ds.isEmpty || !ds.all (isDigitOf radix)) = true := by
      by_contra all
      exact other (by simpa using all)
    rw [Stepwise.signedDigits?, takes] at reads
    dsimp only at reads
    rw [this, if_pos rfl] at reads
    cases reads
  rw [sign.signedDigits? all.1 all.2, word] at reads
  split at reads
  case isTrue inside =>
    cases reads
    exact ⟨s, i, ds, sign, rfl, all.1, all.2, rfl, inside⟩
  case isFalse => cases reads

/-! ### What stands behind a sign and a marker -/

theorem Separated.dense_ne_nil {n : Nat} (h : Separated radix cs n) : dense cs ≠ [] := by
  obtain ⟨c, ds, rfl, hc⟩ := exists_cons_of_wellSeparated h.separated
  simp [dense, hc]

theorem Sign.dense {s : List Char} {i : Int} (sign : Sign s i) : dense s = s := by
  cases sign <;> rfl

/-- What stands behind a sign and a marker is read as the integer that it stands for, if that has
128 bits. -/
theorem Body.reads {again : Bool} {k : Int} (body : Body radix again cs k) :
    wellSeparated cs = true ∧ signedDigits? radix (dense cs) = word 128 k := by
  cases body with
  | once digits =>
    have h := digits.separated
    have reads := Sign.none.signedDigits? h.dense_ne_nil h.digits
    rw [h.value, one_mul, List.nil_append] at reads
    exact ⟨h.separated, reads⟩
  | @again s i u cs n sign signs gap digits =>
    have h := digits.separated
    have plain : Stepwise.dense (s ++ u ++ cs) = s ++ Stepwise.dense cs := by
      rw [dense_append, dense_append, sign.dense]
      rcases gap with rfl | rfl
      · exact congrArg (· ++ _) (List.append_nil s)
      · exact congrArg (· ++ _) (List.append_nil s)
    have reads := sign.signedDigits? h.dense_ne_nil h.digits
    rw [h.value] at reads
    refine ⟨?_, by rw [plain, reads]⟩
    have goes (c : Char) (hc : c ≠ '_') : wellSeparated (c :: (u ++ cs)) = true := by
      rw [wellSeparated_cons_iff hc]
      rcases gap with rfl | rfl
      · exact .inr (.inl h.separated)
      · exact .inr (.inr ⟨cs, rfl, h.separated⟩)
    rw [List.append_assoc]
    cases sign with
    | none => exact absurd rfl signs
    | plus => exact goes '+' (by decide)
    | minus => exact goes '-' (by decide)

/-- Nothing else is read behind a sign and a marker, and a second sign shows at once. -/
theorem exists_body {k : Int} (separated : wellSeparated cs = true)
    (reads : signedDigits? radix (dense cs) = some k) :
    isWord 128 k = true ∧ ∃ again, Body radix again cs k ∧ (again = true → ¬Unsigned cs) := by
  obtain ⟨s, i, ds, sign, split, some, digits, rfl, inside⟩ := signedDigits?_sign reads
  refine ⟨inside, ?_⟩
  have behind (c : Char) (hc : c ≠ '_') (sign : Sign [c] i) (split : dense cs = c :: ds) :
      ∃ again, Body radix again cs (i * natOfDigits radix ds) ∧
        (again = true → ¬Unsigned cs) := by
    obtain ⟨d, es, rfl, hd⟩ := exists_cons_of_wellSeparated separated
    have both : d = c ∧ dense es = ds := by simpa [dense, hd] using split
    obtain ⟨rfl, rfl⟩ := both
    have signed : ¬Unsigned (d :: es) := by
      intro unsigned
      have := unsigned d rfl
      cases sign with
      | plus => exact this.1 rfl
      | minus => exact this.2 rfl
    refine ⟨true, ?_, fun _ => signed⟩
    rcases (wellSeparated_cons_iff hc).1 separated with rfl | inner | ⟨fs, rfl, inner⟩
    · exact absurd rfl some
    · exact .again sign nofun (.inl rfl) (numeral_of_separated radix es inner digits)
    · have same : dense ('_' :: fs) = dense fs := rfl
      rw [same] at digits ⊢
      exact .again sign nofun (.inr rfl) (numeral_of_separated radix fs inner digits)
  cases sign with
  | none =>
    rw [List.nil_append] at split
    subst split
    rw [one_mul]
    exact ⟨false, .once (numeral_of_separated radix cs separated digits), nofun⟩
  | plus => exact behind '+' (by decide) .plus split
  | minus => exact behind '-' (by decide) .minus split

/-! ### Markers -/

theorem toNat_toLower (c : Char) :
    c.toLower.toNat = if 65 ≤ c.toNat ∧ c.toNat ≤ 90 then c.toNat + 32 else c.toNat := by
  unfold Char.toLower
  split
  case isTrue h =>
    have upper : 65 ≤ c.toNat ∧ c.toNat ≤ 90 := h
    rw [if_pos upper]
    have : c.val.toNat ≤ 90 := upper.2
    show (c.val + 32).toNat = c.val.toNat + 32
    rw [UInt32.toNat_add]
    show (c.val.toNat + 32) % 2 ^ 32 = _
    omega
  case isFalse h =>
    have other : ¬(65 ≤ c.toNat ∧ c.toNat ≤ 90) := h
    rw [if_neg other]

theorem marker_cases {d : Char} (known : (d, radix) ∈ markers) :
    d = 'x' ∧ radix = 16 ∨ d = 'o' ∧ radix = 8 ∨ d = 'b' ∧ radix = 2 := by
  simpa [markers] using known

/-- A marker counts in either case. -/
theorem toLower_eq_iff {d : Char} (known : (d, radix) ∈ markers) :
    c.toLower = d ↔ c = d ∨ c = d.toUpper := by
  rw [← Char.toNat_inj, ← Char.toNat_inj, ← Char.toNat_inj, toNat_toLower]
  rcases marker_cases known with ⟨rfl, -⟩ | ⟨rfl, -⟩ | ⟨rfl, -⟩
  · show _ = 120 ↔ _ = 120 ∨ _ = 88
    split <;> omega
  · show _ = 111 ↔ _ = 111 ∨ _ = 79
    split <;> omega
  · show _ = 98 ↔ _ = 98 ∨ _ = 66
    split <;> omega

/-- Whether characters start with a marker. -/
def Marked (base : Nat) (cs : List Char) : Prop :=
  ∃ c d radix rest, cs = '0' :: c :: rest ∧ (d, radix) ∈ markers ∧ c.toLower = d ∧
    (base = 0 ∨ base = radix)

theorem takeRadix_of_marked {d : Char} (known : (d, radix) ∈ markers) (letter : c.toLower = d)
    (agrees : base = 0 ∨ base = radix) : takeRadix base ('0' :: c :: rest) = (radix, rest) := by
  subst letter
  rcases marker_cases known with ⟨letter, rfl⟩ | ⟨letter, rfl⟩ | ⟨letter, rfl⟩ <;>
    simp [takeRadix, isMarked, letter, agrees]

theorem takeRadix_of_not_marked (h : ¬Marked base cs) :
    takeRadix base cs = (if base = 0 then 10 else base, cs) := by
  have unmarked (d : Char) (radix : Nat) (known : (d, radix) ∈ markers) :
      ¬(isMarked d cs = true ∧ (base = 0 ∨ base = radix)) := by
    rintro ⟨letter, agrees⟩
    unfold isMarked at letter
    split at letter
    · exact h ⟨_, d, radix, _, rfl, known, of_decide_eq_true letter, agrees⟩
    · exact nomatch letter
  rw [takeRadix, if_neg (unmarked 'x' 16 (by decide)), if_neg (unmarked 'o' 8 (by decide)),
    if_neg (unmarked 'b' 2 (by decide))]

theorem exists_marker (base : Nat) (cs : List Char) : ∃ m radix rest, Marker base m radix ∧
    cs = m ++ rest ∧ takeRadix base cs = (radix, rest) := by
  by_cases h : Marked base cs
  · obtain ⟨c, d, radix, rest, rfl, known, letter, agrees⟩ := h
    exact ⟨_, radix, rest, .letter known ((toLower_eq_iff known).1 letter) agrees, rfl,
      takeRadix_of_marked known letter agrees⟩
  · exact ⟨[], _, cs, .none, rfl, takeRadix_of_not_marked h⟩

theorem NumeralIn.isDigitOf {n : Nat} (h : NumeralIn radix cs n) (mem : c ∈ cs) (hc : c ≠ '_') :
    isDigitOf radix c = true :=
  h.separated.digits c (List.mem_filter.2 ⟨mem, decide_eq_true hc⟩)

/-- The letter of a marker is no digit of the base that holds without the marker. -/
theorem Body.not_marked {again : Bool} {k : Int}
    (body : Body (if base = 0 then 10 else base) again cs k) : ¬Marked base cs := by
  rintro ⟨c, d, radix, rest, rfl, known, letter, agrees⟩
  generalize split : '0' :: c :: rest = cs at body
  cases body with
  | once digits =>
    rw [toLower_eq_iff known] at letter
    have mem : c ∈ cs := by simp [← split]
    rcases marker_cases known with ⟨rfl, rfl⟩ | ⟨rfl, rfl⟩ | ⟨rfl, rfl⟩ <;>
      rcases agrees with rfl | rfl <;> rcases letter with rfl | rfl <;>
      exact absurd (digits.isDigitOf mem (by decide)) (by decide)
  | again sign signs =>
    cases sign with
    | none => exact signs rfl
    | plus | minus => exact absurd (List.cons.inj split).1 (by decide)

theorem Marker.takeRadix_append {m : List Char} (marker : Marker base m radix)
    (bare : m = [] → ¬Marked base cs) : takeRadix base (m ++ cs) = (radix, cs) := by
  cases marker with
  | none => exact takeRadix_of_not_marked (bare rfl)
  | letter known either agrees =>
    exact takeRadix_of_marked known ((toLower_eq_iff known).2 either) agrees

theorem Marker.unsigned_append {m : List Char} (marker : Marker base m radix)
    (bare : m = [] → Unsigned cs) : Unsigned (m ++ cs) := by
  cases marker with
  | none => exact bare rfl
  | letter =>
    intro c hc
    obtain rfl : '0' = c := by simpa using hc
    decide

theorem NumeralIn.unsigned {n : Nat} (h : NumeralIn radix cs n) : Unsigned cs := by
  obtain ⟨c, ds, rfl, hc⟩ := exists_cons_of_wellSeparated h.separated.separated
  exact unsigned_of_digit (h.isDigitOf (List.mem_cons_self ..) hc)

/-! ### Reading -/

/-- What becomes of an integer with a sign. -/
def settled (text : String) (base : Nat) (i k : Int) : Except Fault Int :=
  if isWord 128 k = true then
    if fits (i * k) = true then .ok (i * k) else .error (.overflow .integer)
  else .error (.value (.integerText base text))

variable {text : String}

/-- Reading in stages: the sign, the marker, and what stands behind them. -/
theorem parseInt_stages {negative : Bool} (valid : base = 0 ∨ 2 ≤ base ∧ base ≤ 36)
    (signed : takeSign (trimmed text) = (negative, rest))
    (radixed : takeRadix base rest = (radix, cs)) :
    parseInt text base =
      if wellSeparated cs = true then
        match signedDigits? radix (dense cs) with
        | none => .error (.value (.integerText base text))
        | some n =>
          let n := if negative then -n else n
          if fits n then .ok n else .error (.overflow .integer)
      else .error (.value (.integerText base text)) := by
  have valid : (base : Int) = 0 ∨ 2 ≤ (base : Int) ∧ (base : Int) ≤ 36 := by omega
  rw [parseInt, if_neg (not_not.2 valid), signed]
  dsimp only
  rw [Int.toNat_natCast, radixed]
  cases wellSeparated cs <;> rfl

theorem parseInt_of_spelled {again : Bool} {i k : Int}
    (valid : base = 0 ∨ 2 ≤ base ∧ base ≤ 36) (h : Spelled base again (trimmed text) i k) :
    parseInt text base = settled text base i k := by
  generalize split : trimmed text = ts at h
  cases h with
  | @mk s m cs i k radix sign marker body behind =>
    have radixed : takeRadix base (m ++ cs) = (radix, cs) := by
      refine marker.takeRadix_append ?_
      rintro rfl
      cases marker
      exact body.not_marked
    have signed : takeSign (s ++ (m ++ cs)) = (decide (i < 0), m ++ cs) := by
      refine sign.takeSign_append ?_
      rintro rfl
      refine marker.unsigned_append ?_
      rintro rfl
      cases body with
      | once digits => exact digits.unsigned
      | again => exact absurd rfl (behind rfl)
    obtain ⟨separated, reads⟩ := body.reads
    rw [List.append_assoc] at split
    rw [parseInt_stages valid (split ▸ signed) radixed, if_pos separated, reads, settled, word]
    by_cases inside : isWord 128 k = true
    · simp only [if_pos inside, sign.apply]
    · simp only [if_neg inside]

/-- Where nothing that can be read stands behind the sign and the marker, there is no integer. -/
theorem parseInt_of_not_body {negative : Bool} (valid : base = 0 ∨ 2 ≤ base ∧ base ≤ 36)
    (signed : takeSign (trimmed text) = (negative, rest))
    (radixed : takeRadix base rest = (radix, cs))
    (h : ∀ again k, Body radix again cs k → again = true ∧ Unsigned cs) :
    parseInt text base = .error (.value (.integerText base text)) := by
  rw [parseInt_stages valid signed radixed]
  split
  case isTrue separated =>
    cases reads : signedDigits? radix (dense cs) with
    | none => rfl
    | some k =>
      obtain ⟨-, again, body, shows⟩ := exists_body separated reads
      exact absurd (h again k body).2 (shows (h again k body).1)
  case isFalse => rfl

/-- A text that stands for nothing is no integer. -/
theorem parseInt_of_not_spelled (valid : base = 0 ∨ 2 ≤ base ∧ base ≤ 36)
    (h : ∀ again i k, ¬Spelled base again (trimmed text) i k) :
    parseInt text base = .error (.value (.integerText base text)) := by
  obtain ⟨s, i, rest, sign, parts, signed, unsigned⟩ := takeSign_sign (trimmed text)
  obtain ⟨m, radix, cs, marker, rfl, radixed⟩ := exists_marker base rest
  refine parseInt_of_not_body valid signed radixed fun again k body => ?_
  by_contra other
  refine h again i k ?_
  rw [parts, ← List.append_assoc]
  refine .mk sign marker body fun more empty => ?_
  obtain ⟨rfl, rfl⟩ := List.append_eq_nil_iff.1 empty
  exact other ⟨more, unsigned rfl⟩

variable {again : Bool} {i k n : Int}

theorem settled_eq_ok_iff : settled text base i k = .ok n ↔
    isWord 128 k = true ∧ fits (i * k) = true ∧ n = i * k := by
  unfold settled
  split
  · split
    · simp [*, eq_comm]
    · simp [*]
  · simp [*]

theorem settled_eq_overflow_iff : settled text base i k = .error (.overflow .integer) ↔
    isWord 128 k = true ∧ fits (i * k) = false := by
  unfold settled
  split
  · split <;> simp [*]
  · simp [*]

theorem settled_eq_invalid_iff : settled text base i k = .error (.value (.integerText base text)) ↔
    isWord 128 k = false := by
  unfold settled
  split
  · split <;> simp [*]
  · simp [*]

/-- An integer that fits is not too large to be read. -/
theorem Spelled.isWord_of_fits (h : Spelled base again cs i k) (fit : fits (i * k) = true) :
    isWord 128 k = true := by
  have unit : i = 1 ∨ i = -1 := by
    cases h with
    | mk sign => cases sign <;> simp
  rw [fits_iff] at fit
  rw [isWord_128]
  rcases unit with rfl | rfl <;> omega

/-- What `int` reads from a text in base 0 or 2 to 36: whatever the text spells, blanks around it
apart, if that fits. It fails with `OverflowError` exactly if the text spells an integer that does
not fit, but has 128 bits behind the first sign, and otherwise with `ValueError`. -/
theorem parseInt_spelled (text : String) (valid : base = 0 ∨ 2 ≤ base ∧ base ≤ 36) :
    (∀ n, parseInt text base = .ok n ↔
        ∃ again i k, Spelled base again (trimmed text) i k ∧ fits n = true ∧ n = i * k) ∧
      (parseInt text base = .error (.overflow .integer) ↔
        ∃ again i k, Spelled base again (trimmed text) i k ∧ isWord 128 k = true ∧
          fits (i * k) = false) ∧
      (parseInt text base = .error (.value (.integerText base text)) ↔
        ∀ again i k, Spelled base again (trimmed text) i k → isWord 128 k = false) := by
  refine ⟨fun n => ⟨fun reads => ?_, ?_⟩, ⟨fun fails => ?_, ?_⟩, ⟨?_, fun large => ?_⟩⟩
  · by_contra none
    rw [parseInt_of_not_spelled valid fun again i k h => none ⟨again, i, k, h, ?_⟩] at reads
    · exact nomatch reads
    · rw [parseInt_of_spelled valid h, settled_eq_ok_iff] at reads
      exact ⟨reads.2.2 ▸ reads.2.1, reads.2.2⟩
  · rintro ⟨again, i, k, h, fit, rfl⟩
    rw [parseInt_of_spelled valid h, settled_eq_ok_iff]
    exact ⟨h.isWord_of_fits fit, fit, rfl⟩
  · by_contra none
    rw [parseInt_of_not_spelled valid fun again i k h => none ⟨again, i, k, h, ?_⟩] at fails
    · exact nomatch fails
    · rwa [parseInt_of_spelled valid h, settled_eq_overflow_iff] at fails
  · rintro ⟨again, i, k, h, inside, large⟩
    rw [parseInt_of_spelled valid h, settled_eq_overflow_iff]
    exact ⟨inside, large⟩
  · intro fails again i k h
    rwa [parseInt_of_spelled valid h, settled_eq_invalid_iff] at fails
  · by_cases h : ∃ again i k, Spelled base again (trimmed text) i k
    · obtain ⟨again, i, k, h⟩ := h
      rw [parseInt_of_spelled valid h, settled_eq_invalid_iff]
      exact large again i k h
    · exact parseInt_of_not_spelled valid fun again i k spelled => h ⟨again, i, k, spelled⟩

/-- `int("--5")` is 5. -/
theorem parseInt_spelled_twice :
    parseInt "--5" 10 = .ok 5 ∧ ∃ again i k, Spelled 10 again (trimmed "--5") i k ∧ 5 = i * k := by
  have reads : parseInt "--5" 10 = .ok 5 := rfl
  obtain ⟨results, -⟩ := @parseInt_spelled 10 "--5" (.inr (by decide))
  obtain ⟨again, i, k, spelled, -, same⟩ := (results 5).1 reads
  exact ⟨reads, again, i, k, spelled, same⟩

end Stepwise
