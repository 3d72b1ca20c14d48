import Stepwise.Proofs.BlankLines

/-!
# Line ends

A text whose line ends are written in two characters, a carriage return and a line feed, has the
tokens it has with line feeds alone, or the same error, as far as no string goes over the end of a
line (`tokens_crlf`). A string that is quoted three times keeps the carriage returns, and one that is
quoted once, with a backslash in front of the line end, does not come to an end.

## The model

Blanks, comments and the ends of lines take the carriage return in (`skipBlanks_twin`,
`blankLine_crlf`), so two scans that are at one place of the two texts (`Scan.Beside`) are so again
after a round (`Scan.Beside.round`), up to the carriage return that the one may have passed already
(`Reader.Twin`). The text of a string is read character by character, with the carriage returns in it
(`stringBody_crlf`).
-/

namespace Stepwise.Script

open Parse Stepwise.Text

/-! ### Line ends of two characters -/

/-- A text with a carriage return in front of each line feed. -/
def crlf : List Char → List Char
  | [] => []
  | c :: cs => if c = '\n' then '\r' :: '\n' :: crlf cs else c :: crlf cs

theorem crlf_lineEnd (cs : List Char) : crlf ('\n' :: cs) = '\r' :: '\n' :: crlf cs := if_pos rfl

theorem crlf_cons {c : Char} (line : c ≠ '\n') (cs : List Char) : crlf (c :: cs) = c :: crlf cs :=
  if_neg line

theorem crlf_append (cs ds : List Char) : crlf (cs ++ ds) = crlf cs ++ crlf ds := by
  induction cs with
  | nil => rfl
  | cons c cs ih =>
    by_cases line : c = '\n'
    · subst line
      rw [List.cons_append, crlf_lineEnd, crlf_lineEnd, ih]
      rfl
    · rw [List.cons_append, crlf_cons line, crlf_cons line, ih]
      rfl

theorem crlf_line {cs : List Char} (line : ∀ c ∈ cs, c ≠ '\n') : crlf cs = cs := by
  induction cs with
  | nil => rfl
  | cons c cs ih =>
    obtain ⟨hc, line⟩ := List.forall_mem_cons.1 line
    rw [crlf_cons hc, ih line]

/-- The place behind a text is the same. -/
theorem past_crlf (p : Pos) (cs : List Char) : p.past (crlf cs) = p.past cs := by
  induction cs generalizing p with
  | nil => rfl
  | cons c cs ih =>
    by_cases line : c = '\n'
    · subst line
      rw [crlf_lineEnd, Pos.past_cons, Pos.past_cons, Pos.past_cons, ih]
      rfl
    · rw [crlf_cons line, Pos.past_cons, Pos.past_cons, ih]

/-- Whether a text is empty or begins with a line feed. -/
def Feeds (e : List Char) : Prop := ∀ c ∈ e.head?, c = '\n'

theorem Feeds.breaks {e : List Char} (h : Feeds e) : Breaks e := fun c hc => .inl (h c hc)

theorem Feeds.crlf {e : List Char} (h : Feeds e) : Breaks (crlf e) := by
  cases e with
  | nil => exact fun c hc => absurd hc (by simp [Script.crlf])
  | cons c e =>
    obtain rfl := h c rfl
    simp [Breaks, Script.crlf]

/-- A text is a line and what stands behind it. -/
theorem exists_line (cs : List Char) :
    ∃ a e, cs = a ++ e ∧ (∀ c ∈ a, c ≠ '\n') ∧ Feeds e := by
  have line : ∀ c ∈ cs.takeWhile (· ≠ '\n'), c ≠ '\n' := by
    intro c hc
    simpa using List.mem_takeWhile_imp hc
  refine ⟨_, cs.dropWhile (· ≠ '\n'), List.takeWhile_append_dropWhile.symm, line, ?_⟩
  intro c hc
  have := List.head?_dropWhile_not (· ≠ '\n') cs
  rw [Option.mem_def.1 hc] at this
  simpa using this

section

variable {a : List Char}

theorem takeWhile_line (line : ∀ c ∈ a, c ≠ '\n') : a.takeWhile (· ≠ '\n') = a :=
  List.takeWhile_eq_self_iff.2 fun c hc => decide_eq_true (line c hc)

theorem takeWhile_feed (line : ∀ c ∈ a, c ≠ '\n') (z : List Char) :
    (a ++ '\n' :: z).takeWhile (· ≠ '\n') = a := by
  rw [takeWhile_append_stop (by simp), takeWhile_line line]

theorem crlf_feed (line : ∀ c ∈ a, c ≠ '\n') (z : List Char) :
    crlf (a ++ '\n' :: z) = a ++ ['\r'] ++ '\n' :: crlf z := by
  rw [crlf_append, crlf_line line, crlf_lineEnd, List.append_assoc]
  rfl

/-- The carriage return is part of the line. -/
theorem takeWhile_crlf_feed (line : ∀ c ∈ a, c ≠ '\n') (z : List Char) :
    (crlf (a ++ '\n' :: z)).takeWhile (· ≠ '\n') = a ++ ['\r'] := by
  rw [crlf_feed line, takeWhile_feed]
  exact List.forall_mem_append.2 ⟨line, List.forall_mem_singleton.2 (by decide)⟩

end

/-- Whether quotes stand in front is seen in the line. -/
theorem isPrefixOf_crlf {q : Char} (isQuote : q = '"' ∨ q = '\'') (cs : List Char) :
    [q, q].isPrefixOf (crlf cs) = [q, q].isPrefixOf cs := by
  have apart : ∀ c ∈ [q, q], c ≠ '\n' ∧ c ≠ '\r' := by obtain rfl | rfl := isQuote <;> simp
  obtain ⟨a, e, rfl, line, feeds⟩ := exists_line cs
  rw [crlf_append, crlf_line line, isPrefixOf_append apart feeds.breaks,
    isPrefixOf_append apart feeds.crlf]

theorem drop_crlf {q : Char} (isQuote : q = '"' ∨ q = '\'') {cs : List Char}
    (h : [q, q].isPrefixOf cs = true) : (crlf cs).drop 2 = crlf (cs.drop 2) := by
  have line : ∀ c ∈ [q, q], c ≠ '\n' := by obtain rfl | rfl := isQuote <;> simp
  obtain ⟨ds, rfl⟩ := List.isPrefixOf_iff_prefix.1 h
  rw [crlf_append, crlf_line line]
  rfl

/-! ### Strings -/

/-- How a text comes back from a string: with carriage returns in it, and backslashes in front of
some. -/
inductive Returned : List Char → List Char → Prop where
  | nil : Returned [] []
  | cons (c : Char) {t t' : List Char} : Returned t t' → Returned (c :: t) (c :: t')
  | lineEnd {t t' : List Char} : Returned t t' → Returned ('\n' :: t) ('\r' :: '\n' :: t')
  | escaped {t t' : List Char} : Returned t t' → Returned t ('\\' :: '\r' :: '\n' :: t')

/-- Whether a string, which closes with `quote`, has a backslash in front of a line end. -/
def escapesLine (quote : Char) : List Char → Bool
  | '\\' :: e :: cs => e = '\n' || escapesLine quote cs
  | c :: cs => c ≠ quote && c ≠ '\n' && escapesLine quote cs
  | [] => false

theorem escapesLine_cons {quote c : Char} (escape : c ≠ '\\') (cs : List Char) :
    escapesLine quote (c :: cs) = (c ≠ quote && c ≠ '\n' && escapesLine quote cs) := by
  rw [escapesLine]
  exact fun e cs h => absurd h escape

/-- How a string comes back where its line ends are of two characters: with carriage returns in it,
or not at all if it is quoted once and escapes a line end. -/
inductive Told (style : StringStyle) (cs : List Char) :
    Except LexProblem (List Char × List Char) → Except LexProblem (List Char × List Char) → Prop where
  | read {used rest t t' : List Char} : cs = used ++ rest → Returned t t' →
      ((∀ c ∈ used, c ≠ '\n') → t' = t) →
      (style.triple = false → escapesLine style.quote cs = false) →
      Told style cs (.ok (t, rest)) (.ok (t', crlf rest))
  | error (p : LexProblem) : Told style cs (.error p) (.error p)
  | breaks {x} : style.triple = false → escapesLine style.quote cs = true →
      (∀ t rest, x = .ok (t, rest) → ∃ used, cs = used ++ rest ∧ '\n' ∈ used) →
      Told style cs x (.error .unterminatedString)

section

variable {style : StringStyle} {cs : List Char} {x x' : Except LexProblem (List Char × List Char)}

/-- More in front of a string. -/
theorem Told.more (h : Told style cs x x') (front text text' : List Char)
    (returned : ∀ {t t'}, Returned t t' → Returned (text ++ t) (text' ++ t'))
    (same : (∀ c ∈ front, c ≠ '\n') → text' = text)
    (escapes : style.triple = false →
      escapesLine style.quote (front ++ cs) = escapesLine style.quote cs) :
    Told style (front ++ cs) (prepend text x) (prepend text' x') := by
  cases h with
  | read split told eq free =>
    refine .read (by rw [split, List.append_assoc]) (returned told) (fun line => ?_) fun single =>
      (escapes single).trans (free single)
    obtain ⟨line, line'⟩ := List.forall_mem_append.1 line
    rw [same line, eq line']
  | error p => exact .error p
  | breaks single escape long =>
    refine .breaks single ((escapes single).trans escape) fun t rest h => ?_
    obtain ⟨⟨u, rest⟩, eq, ⟨⟩⟩ := bind_eq_ok.1 h
    obtain ⟨used, split, feed⟩ := long u rest eq
    exact ⟨front ++ used, by rw [split, List.append_assoc], List.mem_append_right _ feed⟩

/-- A string that is quoted once ends in front of a line feed. -/
theorem Told.cut (single : style.triple = false) (text : List Char) :
    Told style ('\\' :: '\n' :: cs) (prepend text (stringBody style cs))
      (.error .unterminatedString) := by
  refine .breaks single rfl fun t rest h => ?_
  obtain ⟨⟨u, rest⟩, eq, ⟨⟩⟩ := bind_eq_ok.1 h
  obtain ⟨used, split, -⟩ := stringBody_local eq
  exact ⟨'\\' :: '\n' :: used, by rw [split]; rfl, by simp⟩

theorem prepend_prepend (a b : List Char) (x : Except LexProblem (List Char × List Char)) :
    prepend a (prepend b x) = prepend (a ++ b) x := by
  rcases x with p | ⟨t, rest⟩
  · rfl
  · exact congrArg (fun t => Except.ok (t, rest)) (List.append_assoc a b t).symm

theorem stringBody_feed (quote : style.quote ≠ '\n') (cs : List Char) :
    stringBody style ('\n' :: cs) =
      if style.triple then prepend ['\n'] (stringBody style cs) else .error .unterminatedString := by
  rw [stringBody_char (by decide) quote.symm]
  cases style.triple <;> rfl

/-! ### Escapes -/

/-- Whether a text starts with `n` hexadecimal digits. -/
def DigitsAhead (n : Nat) (cs : List Char) : Prop :=
  n ≤ cs.length ∧ ∀ c ∈ cs.take n, isDigitOf 16 c = true

theorem DigitsAhead.of_crlf {n : Nat} (h : DigitsAhead n (crlf cs)) : DigitsAhead n cs := by
  induction n generalizing cs with
  | zero => exact ⟨Nat.zero_le _, by simp⟩
  | succ n ih =>
    cases cs with
    | nil => exact h
    | cons c cs =>
      by_cases line : c = '\n'
      · subst line
        have := h.2 '\r' (by simp [crlf])
        cases this
      · rw [crlf_cons line] at h
        obtain ⟨enough, digits⟩ := ih ⟨Nat.le_of_succ_le_succ h.1, (List.forall_mem_cons.1 h.2).2⟩
        exact ⟨Nat.succ_le_succ enough, List.forall_mem_cons.2 ⟨(List.forall_mem_cons.1 h.2).1, digits⟩⟩

theorem hexChar_truncated {ds : List Char} (h : ¬∀ c ∈ ds, isDigitOf 16 c = true) :
    hexChar ds = .error .truncatedEscape :=
  if_neg (mt List.all_eq_true.1 h)

theorem escaped_x_truncated (h : ¬DigitsAhead 2 cs) :
    escaped style 'x' cs = .error .truncatedEscape := by
  match cs with
  | [] | [_] => rfl
  | a :: b :: cs =>
    have digits : ¬∀ c ∈ [a, b], isDigitOf 16 c = true := fun digits => h ⟨by simp, digits⟩
    rw [escaped_hex, hexChar_truncated digits]
    rfl

theorem escaped_u_truncated (h : ¬DigitsAhead 4 cs) :
    escaped style 'u' cs = .error .truncatedEscape := by
  match cs with
  | [] | [_] | [_, _] | [_, _, _] => rfl
  | a :: b :: c :: d :: cs =>
    have digits : ¬∀ e ∈ [a, b, c, d], isDigitOf 16 e = true := fun digits => h ⟨by simp, digits⟩
    rw [escaped_unicode, hexChar_truncated digits]
    rfl

theorem escaped_x_crlf (h : ¬DigitsAhead 2 cs) :
    escaped style 'x' (crlf cs) = .error .truncatedEscape :=
  escaped_x_truncated (mt DigitsAhead.of_crlf h)

theorem escaped_u_crlf (h : ¬DigitsAhead 4 cs) :
    escaped style 'u' (crlf cs) = .error .truncatedEscape :=
  escaped_u_truncated (mt DigitsAhead.of_crlf h)

theorem line_of_digit {c : Char} (digit : isDigitOf 16 c = true) : c ≠ '\n' := by
  rintro rfl
  cases digit

theorem crlf_digits {ds : List Char} (digits : ∀ c ∈ ds, isDigitOf 16 c = true) (cs : List Char) :
    crlf (ds ++ cs) = ds ++ crlf cs := by
  rw [crlf_append, crlf_line fun c hc => line_of_digit (digits c hc)]

/-- Digits neither close a string nor escape anything. -/
theorem escapesLine_digits {quote : Char} (isQuote : quote = '"' ∨ quote = '\'') {ds : List Char}
    (digits : ∀ c ∈ ds, isDigitOf 16 c = true) (cs : List Char) :
    escapesLine quote (ds ++ cs) = escapesLine quote cs := by
  induction ds with
  | nil => rfl
  | cons d ds ih =>
    obtain ⟨digit, digits⟩ := List.forall_mem_cons.1 digits
    have apart {c : Char} (other : isDigitOf 16 c = false) : d ≠ c := by
      rintro rfl
      exact Bool.false_ne_true (other.symm.trans digit)
    have notQuote : d ≠ quote := by obtain rfl | rfl := isQuote <;> exact apart (by decide)
    rw [List.cons_append, escapesLine_cons (apart (by decide)), ih digits]
    simp [notQuote, apart (c := '\n') (by decide)]

/-! ### Strings, character by character -/

/-- Characters that a string reads alike. -/
theorem Told.pass (h : Told style cs x x') (front text : List Char)
    (escapes : style.triple = false →
      escapesLine style.quote (front ++ cs) = escapesLine style.quote cs) :
    Told style (front ++ cs) (prepend text x) (prepend text x') := by
  refine h.more front text text (fun told => ?_) (fun _ => rfl) escapes
  induction text with
  | nil => exact told
  | cons c text ih => exact .cons c ih

/-- A character that is given by its number. -/
theorem Told.digits (h : Told style cs x x') (isQuote : style.quote = '"' ∨ style.quote = '\'')
    {e : Char} (line : e ≠ '\n') {ds : List Char} (digits : ∀ d ∈ ds, isDigitOf 16 d = true) :
    Told style ('\\' :: e :: (ds ++ cs)) (hexChar ds >>= fun c => prepend [c] x)
      (hexChar ds >>= fun c => prepend [c] x') := by
  cases hexChar ds with
  | error p => exact .error p
  | ok c =>
    refine h.pass ('\\' :: e :: ds) [c] fun _ => ?_
    rw [List.cons_append, List.cons_append, escapesLine, escapesLine_digits isQuote digits]
    simp [line]

theorem stringBody_crlf (isQuote : style.quote = '"' ∨ style.quote = '\'') (cs : List Char) :
    Told style cs (stringBody style cs) (stringBody style (crlf cs)) := by
  have quote : style.quote ≠ '\n' := by obtain h | h := isQuote <;> rw [h] <;> decide
  have carriage : style.quote ≠ '\r' := by obtain h | h := isQuote <;> rw [h] <;> decide
  apply stringBody_induction (motive := fun cs x => Told style cs x (stringBody style (crlf cs)))
  case nothing => exact .error _
  case backslash =>
    rw [crlf_cons (by decide), crlf, stringBody]
    exact .error _
  case raw =>
    intro e cs raw ih
    rw [crlf_cons (by decide)]
    by_cases line : e = '\n'
    · subst line
      rw [crlf_lineEnd, stringBody_backslash, if_pos raw, stringBody_feed quote]
      cases triple : style.triple with
      | false => exact .cut triple ['\\', '\n']
      | true =>
        rw [if_pos rfl, prepend_prepend]
        exact ih.more ['\\', '\n'] ['\\', '\n'] ['\\', '\r', '\n']
          (fun told => .cons _ (.lineEnd told)) (by simp) (by simp [triple])
    · rw [crlf_cons line, stringBody_backslash, if_pos raw]
      exact ih.pass ['\\', e] ['\\', e] (by simp [escapesLine, line])
  case feed =>
    intro cs raw ih
    rw [crlf_cons (by decide), crlf_lineEnd, stringBody_backslash, if_neg raw,
      escaped_other (by decide) rfl (by decide) (by decide), stringBody_feed quote,
      ← prepend_nil (stringBody style cs)]
    cases triple : style.triple with
    | false => exact .cut triple []
    | true =>
      rw [if_pos rfl, prepend_prepend]
      exact ih.more ['\\', '\n'] [] ['\\', '\r', '\n'] .escaped (by simp) (by simp [triple])
  case simple =>
    intro e cs c raw line he ih
    rw [crlf_cons (by decide), crlf_cons line, stringBody_backslash, if_neg raw, escaped_simple he]
    exact ih.pass ['\\', e] [c] (by simp [escapesLine, line])
  case hex =>
    intro a b cs raw ih
    rw [crlf_cons (by decide), crlf_cons (by decide), stringBody_backslash, if_neg raw]
    by_cases digits : ∀ d ∈ [a, b], isDigitOf 16 d = true
    · rw [show crlf (a :: b :: cs) = a :: b :: crlf cs from crlf_digits digits cs, escaped_hex]
      exact ih.digits isQuote (by decide) digits
    · have none : ¬DigitsAhead 2 (a :: b :: cs) := fun ahead => digits ahead.2
      rw [hexChar_truncated digits, escaped_x_crlf none]
      exact .error _
  case hexShort =>
    intro cs raw short
    have none : ¬DigitsAhead 2 cs := fun ahead => absurd ahead.1 (Nat.not_le.2 short)
    rw [crlf_cons (by decide), crlf_cons (by decide), stringBody_backslash, if_neg raw,
      escaped_x_crlf none]
    exact .error _
  case unicode =>
    intro a b c d cs raw ih
    rw [crlf_cons (by decide), crlf_cons (by decide), stringBody_backslash, if_neg raw]
    by_cases digits : ∀ e ∈ [a, b, c, d], isDigitOf 16 e = true
    · rw [show crlf (a :: b :: c :: d :: cs) = a :: b :: c :: d :: crlf cs from
        crlf_digits digits cs, escaped_unicode]
      exact ih.digits isQuote (by decide) digits
    · have none : ¬DigitsAhead 4 (a :: b :: c :: d :: cs) := fun ahead => digits ahead.2
      rw [hexChar_truncated digits, escaped_u_crlf none]
      exact .error _
  case unicodeShort =>
    intro cs raw short
    have none : ¬DigitsAhead 4 cs := fun ahead => absurd ahead.1 (Nat.not_le.2 short)
    rw [crlf_cons (by decide), crlf_cons (by decide), stringBody_backslash, if_neg raw,
      escaped_u_crlf none]
    exact .error _
  case other =>
    intro e cs raw line he hex unicode ih
    rw [crlf_cons (by decide), crlf_cons line, stringBody_backslash, if_neg raw,
      escaped_other line he hex unicode]
    exact ih.pass ['\\', e] ['\\', e] (by simp [escapesLine, line])
  case quotes =>
    intro cs escape triple quotes
    rw [crlf_cons quote, stringBody_quote escape, if_pos triple, isPrefixOf_crlf isQuote,
      if_pos quotes, drop_crlf isQuote quotes]
    obtain ⟨cs, rfl⟩ := List.isPrefixOf_iff_prefix.1 quotes
    refine .read (show _ = [style.quote, style.quote, style.quote] ++ _ from rfl) .nil
      (fun _ => rfl) fun single => ?_
    simp [triple] at single
  case quote =>
    intro cs escape triple quotes ih
    rw [crlf_cons quote, stringBody_quote escape, if_pos triple, isPrefixOf_crlf isQuote,
      if_neg quotes]
    exact ih.pass [style.quote] [style.quote] fun single => by simp [triple] at single
  case single =>
    intro cs escape single
    rw [crlf_cons quote, stringBody_quote escape, if_neg single]
    refine .read (show _ = [style.quote] ++ _ from rfl) .nil (fun _ => rfl) fun _ => ?_
    simp [escapesLine_cons escape]
  case cut =>
    intro cs _ single
    rw [crlf_lineEnd, stringBody_char (by decide) carriage.symm, stringBody_feed quote,
      if_neg single, if_neg (not_and_of_not_left _ (by decide))]
    exact .error _
  case char =>
    intro c cs escape notQuote line ih
    by_cases feed : c = '\n'
    · subst feed
      have triple : style.triple = true := by simpa using line
      rw [crlf_lineEnd, stringBody_char (by decide) carriage.symm, stringBody_feed quote,
        if_pos triple, if_neg (not_and_of_not_left _ (by decide)), prepend_prepend]
      exact ih.more ['\n'] ['\n'] ['\r', '\n'] .lineEnd (by simp) (by simp [triple])
    · rw [crlf_cons feed, stringBody_char escape notQuote, if_neg line]
      refine ih.pass [c] [c] fun _ => ?_
      rw [List.singleton_append, escapesLine_cons escape]
      simp [notQuote, feed]

end

/-! ### Tokens -/

/-- How a string token comes back. -/
inductive TokenKind.Returned : TokenKind → TokenKind → Prop where
  | str {t t'} : Script.Returned t t' → Returned (.str (String.ofList t)) (.str (String.ofList t'))
  | fstring {t t'} : Script.Returned t t' →
      Returned (.fstring (String.ofList t)) (.fstring (String.ofList t'))

/-- The number of characters up to the quote of a string at the start of a text, if it is quoted
once and has a backslash in front of a line end. -/
def breaking? : List Char → Option Nat
  | [] => none
  | c :: cs =>
    match opening? c cs with
    | none => none
    | some o =>
      let body := (c :: cs).drop o.length
      if [o.quote, o.quote].isPrefixOf body = false ∧ escapesLine o.quote body then some o.length
      else none

/-- How what is spelled at the start of a text comes back. -/
inductive Respelled (cs : List Char) : Except (LexProblem × Nat) (TokenKind × Nat) →
    Except (LexProblem × Nat) (TokenKind × Nat) → Prop where
  | read {used rest : List Char} {k k' : TokenKind} : cs = used ++ rest →
      (k' = k ∨ '\n' ∈ used ∧ k.Returned k') → breaking? cs = none →
      Respelled cs (.ok (k, used.length)) (.ok (k', (crlf used).length))
  | error {used rest : List Char} (p : LexProblem) : cs = used ++ rest → (∀ c ∈ used, c ≠ '\n') →
      Respelled cs (.error (p, used.length)) (.error (p, used.length))
  | breaks {used rest : List Char} {x} : cs = used ++ rest → (∀ c ∈ used, c ≠ '\n') →
      breaking? cs = some used.length →
      (∀ k n, x = .ok (k, n) → ∃ used rest, cs = used ++ rest ∧ used.length = n ∧ '\n' ∈ used) →
      Respelled cs x (.error (.unterminatedString, used.length))

/-- The number of characters up to the end of a token, or in front of what is wrong. -/
def extent : Except (LexProblem × Nat) (TokenKind × Nat) → Nat
  | .ok (_, n) => n
  | .error (_, n) => n

/-- What is no string stays within the line. -/
theorem extent_plain_le (c : Char) (a : List Char) : extent (plain c a) ≤ (c :: a).length := by
  unfold plain
  split
  · cases read : number c a with
    | error p => exact Nat.succ_le_succ (Nat.zero_le _)
    | ok kn =>
      obtain ⟨-, rest, -, taken⟩ := number_sameLine read
      show 1 + kn.2 ≤ a.length + 1
      omega
  split
  · exact (List.takeWhile_prefix _).length_le
  · cases read : Punct.longest? (c :: a) with
    | none => exact Nat.zero_le _
    | some p =>
      have spelled : p.chars <+: c :: a := by simpa using List.find?_some read
      exact spelled.length_le

theorem plain_respelled {c : Char} {a e : List Char} (line : ∀ d ∈ c :: a, d ≠ '\n')
    (noString : opening? c (a ++ e) = none) :
    Respelled (c :: (a ++ e)) (plain c a) (plain c a) := by
  have whole : breaking? (c :: (a ++ e)) = none := by rw [breaking?, noString]
  have split (n : Nat) : c :: (a ++ e) = (c :: a).take n ++ ((c :: a).drop n ++ e) := by
    rw [← List.append_assoc, List.take_append_drop]
    rfl
  have inLine (n : Nat) : ∀ d ∈ (c :: a).take n, d ≠ '\n' := fun d hd =>
    line d (List.mem_of_mem_take hd)
  cases read : plain c a with
  | ok kn =>
    have within : kn.2 ≤ (c :: a).length := (congrArg extent read).ge.trans (extent_plain_le c a)
    have := Respelled.read (split kn.2) (.inl (Eq.refl kn.1)) whole
    rwa [crlf_line (inLine kn.2), List.length_take_of_le within] at this
  | error pn =>
    have within : pn.2 ≤ (c :: a).length := (congrArg extent read).ge.trans (extent_plain_le c a)
    have := Respelled.error pn.1 (split pn.2) (inLine pn.2)
    rwa [List.length_take_of_le within] at this

/-- The string behind the quotes that open it comes back with them. -/
theorem told_literal {q : Char} (isQuote : q = '"' ∨ q = '\'') (raw : Bool) (body : List Char) :
    ∃ marks b x x', body = marks ++ b ∧ (∀ c ∈ marks, c ≠ '\n') ∧
      ([q, q].isPrefixOf body = false → marks = []) ∧
      Told ⟨q, [q, q].isPrefixOf body, raw⟩ b x x' ∧
      stringLiteral q raw body = x.map (fun (t, rest) =>
        (String.ofList t, body.length - rest.length)) ∧
      stringLiteral q raw (crlf body) = x'.map fun (t, rest) =>
        (String.ofList t, (crlf body).length - rest.length) := by
  have told (b : List Char) : Told ⟨q, [q, q].isPrefixOf body, raw⟩ b (stringBody _ b)
      (stringBody _ (crlf b)) := stringBody_crlf isQuote b
  unfold stringLiteral
  rw [isPrefixOf_crlf isQuote]
  by_cases triple : [q, q].isPrefixOf body = true
  · obtain ⟨b, split⟩ := List.isPrefixOf_iff_prefix.1 triple
    refine ⟨[q, q], b, _, _, split.symm, ?_, fun h => absurd (triple.symm.trans h) (by simp),
      told b, ?_, ?_⟩
    · obtain rfl | rfl := isQuote <;> simp
    · dsimp only
      rw [if_pos triple, ← split]
      rfl
    · dsimp only
      rw [if_pos triple, drop_crlf isQuote triple, ← split]
      rfl
  · refine ⟨[], body, _, _, rfl, by simp, fun _ => rfl, told body, ?_, ?_⟩
    · dsimp only
      rw [if_neg triple]
      rfl
    · dsimp only
      rw [if_neg triple]
      rfl

/-- A string literal comes back with the letters and the quote that open it. -/
theorem literal_respelled {o : Opening} {opens body : List Char}
    (isQuote : o.quote = '"' ∨ o.quote = '\'') (length : opens.length = o.length)
    (line : ∀ c ∈ opens, c ≠ '\n')
    (breaking : breaking? (opens ++ body) =
      if [o.quote, o.quote].isPrefixOf body = false ∧ escapesLine o.quote body then some o.length
      else none) :
    Respelled (opens ++ body)
      (match o.literal body with
        | .ok (k, n) => .ok (k, o.length + n)
        | .error p => .error (p, o.length))
      (match o.literal (crlf body) with
        | .ok (k, n) => .ok (k, o.length + n)
        | .error p => .error (p, o.length)) := by
  obtain ⟨marks, b, x, x', rfl, marksLine, once, told, read, read'⟩ :=
    told_literal isQuote o.raw body
  unfold Opening.literal
  rw [read, read', ← length]
  have total {used rest : List Char} (split : b = used ++ rest) :
      opens ++ (marks ++ b) = opens ++ (marks ++ used) ++ rest ∧
      (opens ++ (marks ++ used)).length =
        opens.length + ((marks ++ b).length - rest.length) := by
    subst split
    refine ⟨by simp only [List.append_assoc], ?_⟩
    simp only [List.length_append]
    omega
  cases told with
  | @read used rest t t' split returned same free =>
    obtain ⟨whole, taken⟩ := total split
    have taken' : (crlf (opens ++ (marks ++ used))).length =
        opens.length + ((crlf (marks ++ b)).length - (crlf rest).length) := by
      rw [crlf_append, crlf_line line, split, ← List.append_assoc, crlf_append (marks ++ used)]
      simp only [List.length_append]
      omega
    show Respelled _ (.ok (if o.formatted then .fstring (String.ofList t) else .str (String.ofList t),
      _ + (_ - _))) (.ok (if o.formatted then .fstring (String.ofList t') else
        .str (String.ofList t'), _ + (_ - _)))
    rw [← taken, ← taken']
    refine .read whole ?_ ?_
    · by_cases within : ∀ c ∈ used, c ≠ '\n'
      · rw [same within]
        exact .inl rfl
      · have feed : '\n' ∈ used := by simpa using within
        refine .inr ⟨List.mem_append_right _ (List.mem_append_right _ feed), ?_⟩
        cases o.formatted
        · exact .str returned
        · exact .fstring returned
    · refine breaking.trans (if_neg fun ⟨single, escapes⟩ => ?_)
      obtain rfl : marks = [] := once single
      exact Bool.false_ne_true ((free single).symm.trans escapes)
  | error p => exact .error p rfl line
  | breaks single escapes long =>
    obtain rfl : marks = [] := once single
    rw [← length] at breaking
    refine .breaks rfl line (breaking.trans (if_pos ⟨single, escapes⟩)) fun k n h => ?_
    rcases x with p | ⟨t, rest⟩
    · cases h
    · obtain ⟨used, split, feed⟩ := long t rest rfl
      obtain ⟨whole, taken⟩ := total split
      cases h
      exact ⟨_, rest, whole, taken, List.mem_append_right _ feed⟩

/-- A token comes back as it was, but for strings that go over the end of a line. -/
theorem spell_crlf {c : Char} (line : c ≠ '\n') (cs : List Char) :
    Respelled (c :: cs) (spell c cs) (spell c (crlf cs)) := by
  obtain ⟨a, e, rfl, inLine, feeds⟩ := exists_line cs
  have all : ∀ d ∈ c :: a, d ≠ '\n' := List.forall_mem_cons.2 ⟨line, inLine⟩
  have opening := opening?_append feeds.breaks c a
  rw [crlf_append, crlf_line inLine]
  unfold spell
  rw [opening?_append feeds.crlf, opening]
  cases opened : opening? c a with
  | none =>
    dsimp only
    rw [plain_append feeds.breaks, plain_append feeds.crlf]
    exact plain_respelled all (opening.trans opened)
  | some o =>
    dsimp only
    obtain ⟨isQuote, front, m, split, length, opens⟩ := opening?_inLine opened
    generalize front ++ [o.quote] = front at split length opens
    have drop (e : List Char) : (c :: (a ++ e)).drop o.length = m ++ e := by
      rw [← List.cons_append, split, ← length, List.append_assoc, List.drop_left]
    have inside : ∀ d ∈ m, d ≠ '\n' := by
      rw [split] at all
      exact (List.forall_mem_append.1 all).2
    have body : m ++ crlf e = crlf (m ++ e) := by rw [crlf_append, crlf_line inside]
    have whole : c :: (a ++ e) = front ++ (m ++ e) := by
      rw [← List.cons_append, split, List.append_assoc]
    have breaking := breaking?.eq_2 c (a ++ e)
    rw [opening, opened] at breaking
    dsimp only at breaking
    rw [drop] at breaking
    rw [drop, drop, body, whole]
    exact literal_respelled isQuote length opens (whole ▸ breaking)

/-! ### Readers -/

namespace Reader

/-- Whether two readers are at one place of a text and of the text with carriage returns. -/
structure Even (r r' : Reader) : Prop where
  rest : r'.rest = crlf r.rest
  pos : r'.pos = r.pos

/-- Whether they are so, or in front of one line feed, the second behind a carriage return. -/
inductive Twin (r r' : Reader) : Prop where
  | even : r.Even r' → Twin r r'
  | split {z : List Char} : r.rest = '\n' :: z → r'.rest = '\n' :: crlf z →
      r'.pos.line = r.pos.line → Twin r r'

variable {r r' : Reader}

theorem Even.skip (h : r.Even r') (used : List Char) {rest : List Char}
    (front : r.rest = used ++ rest) : (r.skip used.length).Even (r'.skip (crlf used).length) := by
  have front' : r'.rest = crlf used ++ crlf rest := by rw [h.rest, front, crlf_append]
  have passes := Passes.skip used front
  have passes' := Passes.skip (crlf used) front'
  refine ⟨?_, ?_⟩
  · rw [rest_skip_append front', rest_skip_append front]
  · rw [passes'.pos, passes.pos, past_crlf, h.pos]

/-- Within a line as many characters are skipped. -/
theorem Even.skip_line (h : r.Even r') (used : List Char) {rest : List Char}
    (front : r.rest = used ++ rest) (line : ∀ c ∈ used, c ≠ '\n') :
    (r.skip used.length).Even (r'.skip used.length) := by
  have := h.skip used front
  rwa [crlf_line line] at this

theorem Even.one (h : r.Even r') {c : Char} {cs : List Char} (first : r.rest = c :: cs)
    (line : c ≠ '\n') : (r.skip 1).Even (r'.skip 1) :=
  h.skip_line [c] first (List.forall_mem_singleton.2 line)

theorem Twin.feed {z : List Char} (first : r.rest = '\n' :: z) (first' : r'.rest = '\n' :: crlf z)
    (line : r'.pos.line = r.pos.line) : (r.skip 1).Even (r'.skip 1) := by
  refine ⟨?_, ?_⟩
  · rw [rest_one first', rest_one first]
  · rw [(Passes.one first').pos, (Passes.one first).pos]
    simp only [Pos.past_cons, Pos.past_nil, Pos.after, if_true, line]

/-- A comment ends in front of a line feed. -/
theorem Even.skipLine (h : r.Even r') : r.skipLine.Twin r'.skipLine := by
  obtain ⟨a, e, split, line, feeds⟩ := exists_line r.rest
  unfold Reader.skipLine Reader.skipWhile
  cases e with
  | nil =>
    have front := split
    rw [List.append_nil] at front
    rw [h.rest, front, crlf_line line, takeWhile_line line]
    exact .even (h.skip_line a split line)
  | cons c z =>
    obtain rfl := feeds c rfl
    have front' : r'.rest = a ++ ['\r'] ++ '\n' :: crlf z := by rw [h.rest, split, crlf_feed line]
    have passes := Passes.skip a split
    have passes' := Passes.skip (a ++ ['\r']) front'
    rw [h.rest, split, takeWhile_feed line, takeWhile_crlf_feed line]
    refine .split (rest_skip_append split) (rest_skip_append front') ?_
    rw [passes.pos, passes'.pos, h.pos, Pos.past_append, Pos.past_of_line _ line]
    rfl

end Reader

/-- How skipping blanks goes on in the two texts. -/
inductive SkippedAlike : Except LexError Reader → Except LexError Reader → Prop where
  | ok {r r' : Reader} : r.Twin r' → (r.rest.head? = some '\n' → r'.rest.head? = some '\n') →
      SkippedAlike (.ok r) (.ok r')
  | error (e : LexError) : SkippedAlike (.error e) (.error e)

/-- Within a line, as much is skipped at once in both texts, or a comment with the carriage return
behind it. -/
theorem Reader.Even.skips {r r' : Reader} {c : Char} {cs : List Char} (h : r.Even r')
    (inBrackets : Bool) (first : r.rest = c :: cs) (line : c ≠ '\n')
    (noCarriage : '\r' ∉ c :: cs) :
    (skips? inBrackets r'.rest = skips? inBrackets r.rest ∧
      ∀ n, skips? inBrackets r.rest ≠ some (n + 1)) ∨
    ∃ n n', skips? inBrackets r.rest = some (n + 1) ∧ skips? inBrackets r'.rest = some (n' + 1) ∧
      (r.skip (n + 1)).Twin (r'.skip (n' + 1)) := by
  have first' : r'.rest = c :: crlf cs := by rw [h.rest, first, crlf_cons line]
  have feed {p : Prop} : ¬(c = '\n' ∧ p) := not_and_of_not_left _ line
  rw [first, first']
  by_cases blank : c = ' ' ∨ c = '\t' ∨ c = '\r' ∨ c = '\x0c'
  · exact .inr ⟨0, 0, if_pos blank, if_pos blank, .even (h.one first line)⟩
  by_cases comment : c = '#' ∧ inBrackets = true
  · obtain ⟨rfl, rfl⟩ := comment
    refine .inr ⟨_, _, skips?_comment cs, skips?_comment (crlf cs), ?_⟩
    rw [← skipLine_comment first, ← skipLine_comment first']
    exact h.skipLine
  by_cases backslash : c = '\\'
  · subst backslash
    rcases cs with _ | ⟨d, ds⟩
    · exact .inl ⟨rfl, fun _ h => by cases h⟩
    by_cases next : d = '\n'
    · subst next
      exact .inr ⟨1, 2, rfl, rfl, .even (h.skip ['\\', '\n'] first)⟩
    · have carriage : d ≠ '\r' := by
        rintro rfl
        exact noCarriage (by simp)
      have none (es : List Char) : skips? inBrackets ('\\' :: d :: es) = .none := by
        simp [skips?, Ne.symm next, carriage.symm]
      rw [crlf_cons next, none, none]
      exact .inl ⟨rfl, fun _ h => by cases h⟩
  · have stops (es : List Char) : skips? inBrackets (c :: es) = some 0 := by
      rw [skips?, if_neg blank, if_neg feed, if_neg comment, if_neg backslash]
    rw [stops, stops]
    exact .inl ⟨rfl, fun _ h => by cases h⟩

theorem skipBlanks_twin {inBrackets : Bool} : ∀ {fuel fuel' : Nat} {r r' : Reader}, r.Twin r' →
    '\r' ∉ r.rest → r.rest.length < fuel → r'.rest.length < fuel' →
    SkippedAlike (skipBlanks inBrackets fuel r) (skipBlanks inBrackets fuel' r')
  | 0, _, _, _, _, _, enough, _ => absurd enough (Nat.not_lt_zero _)
  | _, 0, _, _, _, _, _, enough => absurd enough (Nat.not_lt_zero _)
  | fuel + 1, fuel' + 1, r, r', twin, noCarriage, enough, enough' => by
    -- The two go on together behind something that is skipped.
    have onward {fuel' n n' : Nat} {s' : Reader} (skips : skips? inBrackets r.rest = some (n + 1))
        (skips' : skips? inBrackets s'.rest = some (n' + 1))
        (twin : (r.skip (n + 1)).Twin (s'.skip (n' + 1))) (enough' : s'.rest.length < fuel' + 1) :
        SkippedAlike (skipBlanks inBrackets (fuel + 1) r) (skipBlanks inBrackets (fuel' + 1) s') := by
      rw [skipBlanks_succ, skipBlanks_succ, skips, skips']
      have less := Reader.skips_lt skips
      have less' := Reader.skips_lt skips'
      refine skipBlanks_twin twin (fun h => noCarriage ?_) (by omega) (by omega)
      rw [Reader.rest_skip] at h
      exact List.mem_of_mem_drop h
    have feed {fuel' : Nat} {s' : Reader} {z : List Char} (first : r.rest = '\n' :: z)
        (first' : s'.rest = '\n' :: crlf z) (line : s'.pos.line = r.pos.line)
        (enough' : s'.rest.length < fuel' + 1) :
        SkippedAlike (skipBlanks inBrackets (fuel + 1) r) (skipBlanks inBrackets (fuel' + 1) s') := by
      cases inBrackets with
      | false =>
        rw [skipBlanks_succ, skipBlanks_succ, first, first']
        exact .ok (.split first first' line) fun _ => by rw [first']; rfl
      | true =>
        have twin := Reader.Twin.even (Reader.Twin.feed first first' line)
        exact onward (first ▸ rfl) (first' ▸ rfl) twin enough'
    cases twin with
    | split first first' line => exact feed first first' line enough'
    | even even =>
      rcases first : r.rest with _ | ⟨c, cs⟩
      · have first' : r'.rest = [] := by rw [even.rest, first]; rfl
        rw [skipBlanks_succ, skipBlanks_succ, first, first']
        exact .ok (.even even) (by simp [first])
      by_cases line : c = '\n'
      · -- The carriage return is skipped, and the line feeds come together.
        subst line
        have first' : r'.rest = '\r' :: '\n' :: crlf cs := by rw [even.rest, first, crlf_lineEnd]
        rw [first', List.length_cons, List.length_cons] at enough'
        obtain ⟨fuel', rfl⟩ := Nat.exists_eq_add_one.2 (show 0 < fuel' by omega)
        rw [skipBlanks_succ _ (fuel' + 1), first']
        refine feed first (Reader.rest_one first') ?_ ?_
        · rw [(Reader.Passes.one first').pos, even.pos]
          rfl
        · rw [Reader.rest_one first']
          exact Nat.lt_of_succ_lt_succ enough'
      rcases even.skips inBrackets first line (first ▸ noCarriage) with
        ⟨same, stops⟩ | ⟨n, n', skips, skips', twin⟩
      · rw [skipBlanks_succ, skipBlanks_succ, same]
        generalize skips? inBrackets r.rest = n at stops ⊢
        rcases n with _ | _ | n
        · exact even.pos ▸ .error _
        · exact .ok (.even even) (by simp [first, line])
        · exact absurd rfl (stops n)
      · exact onward skips skips' twin enough'

/-! ### One token -/

/-- How a token comes back: in its place, and as it was unless it is a string that goes over the end
of a line. -/
structure Token.Returned (t t' : Token) : Prop where
  pos : t'.pos = t.pos
  endLine : t'.endLine = t.endLine
  kind : t'.kind = t.kind ∨ t.pos.line < t.endLine ∧ t.kind.Returned t'.kind

/-- How reading a token goes on in the two texts. -/
inductive TakenAlike (r : Reader) : Except LexError (Token × Reader) →
    Except LexError (Token × Reader) → Prop where
  | ok {t t' : Token} {s s' : Reader} : t.Returned t' → s.Even s' → breaking? r.rest = none →
      TakenAlike r (.ok (t, s)) (.ok (t', s'))
  | error (e : LexError) : TakenAlike r (.error e) (.error e)
  | breaks {n : Nat} {x} : breaking? r.rest = some n →
      (∀ t s, x = .ok (t, s) → t.pos = r.pos ∧ t.pos.line < t.endLine) →
      TakenAlike r x (.error ⟨.unterminatedString, r.pos.past (r.rest.take n)⟩)

theorem line_lt_past (p : Pos) {cs : List Char} (feed : '\n' ∈ cs) : p.line < (p.past cs).line := by
  obtain ⟨a, b, rfl⟩ := List.append_of_mem feed
  rw [Pos.past_append, Pos.past_cons]
  refine lt_of_lt_of_le ?_ (Pos.line_le (Pos.le_past _ b))
  exact Nat.lt_succ_of_le (Pos.line_le (Pos.le_past p a))

theorem oneToken_crlf {r r' : Reader} {c : Char} {cs : List Char} (even : r.Even r')
    (first : r.rest = c :: cs) (line : c ≠ '\n') :
    TakenAlike r (oneToken c r) (oneToken c r') := by
  have first' : r'.rest = c :: crlf cs := by rw [even.rest, first, crlf_cons line]
  rw [oneToken_eq first line, oneToken_eq first' line]
  have told := spell_crlf line cs
  rw [← first] at told
  generalize spell c cs = x at told ⊢
  generalize spell c (crlf cs) = x' at told ⊢
  cases told with
  | @read used rest k k' split kind whole =>
    have next := even.skip used split
    have passes := Reader.Passes.skip used split
    refine .ok ⟨even.pos, congrArg Pos.line next.pos, ?_⟩ next whole
    refine kind.imp id fun ⟨feed, returned⟩ => ⟨?_, returned⟩
    show r.pos.line < (r.skip used.length).pos.line
    rw [passes.pos]
    exact line_lt_past r.pos feed
  | @error used rest p split inLine =>
    rw [Reader.placed, Reader.placed, (even.skip_line used split inLine).pos]
    exact .error _
  | @breaks used rest x split inLine breaking long =>
    have place : (r'.skip used.length).pos = r.pos.past (r.rest.take used.length) := by
      rw [(even.skip_line used split inLine).pos, (Reader.Passes.skip used split).pos, split,
        List.take_left]
    have cut : r'.placed (.error (.unterminatedString, used.length)) =
        .error ⟨.unterminatedString, r.pos.past (r.rest.take used.length)⟩ :=
      congrArg (fun p => Except.error (⟨_, p⟩ : LexError)) place
    rw [cut]
    refine .breaks breaking fun t s h => ?_
    rcases x with e | ⟨k, n⟩
    · cases h
    · obtain ⟨used, rest, split, rfl, feed⟩ := long k n rfl
      cases h
      refine ⟨rfl, ?_⟩
      show r.pos.line < (r.skip used.length).pos.line
      rw [(Reader.Passes.skip used split).pos]
      exact line_lt_past r.pos feed

/-! ### Scans -/

namespace Scan

/-- Whether two scans have come to one place of a text and of the text with carriage returns. -/
structure Beside (s s' : Scan) : Prop where
  reader : s.reader.Twin s'.reader
  start : s.atLineStart = true → s.reader.Even s'.reader
  atLineStart : s'.atLineStart = s.atLineStart
  widths : s'.widths = s.widths
  depth : s'.depth = s.depth
  tokens : List.Forall₂ Token.Returned s.tokens s'.tokens

/-- Whether the scan of a text comes, behind blanks in a line, to where `cs` is left behind
`before`. -/
def Reaches (text before cs : List Char) : Prop :=
  text = before ++ cs ∧ ∃ s r, (start text).Comes s ∧ s.atLineStart = false ∧ s.skipped = .ok r ∧
    r.rest = cs

/-- How a round goes on in the two texts. -/
inductive TurnAlike (text : List Char) : Except LexError Turn → Except LexError Turn → Prop where
  | both {turn turn' : Turn} : turn.Both Beside turn' → TurnAlike text (.ok turn) (.ok turn')
  | error (e : LexError) : TurnAlike text (.error e) (.error e)
  | breaks {before cs : List Char} {n : Nat} {x} : Reaches text before cs → breaking? cs = some n →
      (∀ turn, x = .ok turn → ∃ s, turn = .go s ∧
        ∃ t ∈ s.tokens, t.pos = Pos.behind before ∧ t.pos.line < t.endLine) →
      TurnAlike text x (.error ⟨.unterminatedString, Pos.behind (before ++ cs.take n)⟩)

variable {s s' : Scan} {text : List Char}

theorem isLayout_returned {t t' : Token} (h : t.Returned t') :
    t'.kind.isLayout = t.kind.isLayout := by
  obtain same | ⟨-, returned⟩ := h.kind
  · rw [same]
  · generalize t.kind = k, t'.kind = k' at returned
    cases returned <;> rfl

theorem bracketsBehind_returned {t t' : Token} (h : t.Returned t') (n : Nat) :
    t'.bracketsBehind n = t.bracketsBehind n := by
  unfold Token.bracketsBehind
  obtain same | ⟨-, returned⟩ := h.kind
  · rw [same]
  · generalize t.kind = k, t'.kind = k' at returned
    cases returned <;> rfl

theorem lineLayout_returned {ts ts' : List Token} (h : List.Forall₂ Token.Returned ts ts') :
    lineLayout ts' = lineLayout ts := by
  cases h with
  | nil => rfl
  | cons head _ =>
    unfold lineLayout
    rw [List.head?_cons, List.head?_cons, Option.any_some, Option.any_some, isLayout_returned head]

namespace Beside

theorem pushAll (h : s.Beside s') (pos : s'.reader.pos = s.reader.pos) (kinds : List TokenKind) :
    (s.pushAll kinds).Beside (s'.pushAll kinds) := by
  refine { h with tokens := List.rel_append ?_ h.tokens }
  rw [pos, List.forall₂_same]
  exact fun t _ => ⟨rfl, rfl, .inl rfl⟩

/-- The readers go on to where the two texts are at one place. -/
theorem move (h : s.Beside s') {r r' : Reader} (even : r.Even r') :
    Beside { s with reader := r } { s' with reader := r' } :=
  { h with
    reader := .even even
    start := fun _ => even }

/-- A line with tokens begins there. -/
theorem entered (h : s.Beside s') {r r' : Reader} (even : r.Even r') :
    Beside { s with reader := r, atLineStart := false }
      { s' with reader := r', atLineStart := false } :=
  { h.move even with
    start := fun _ => even
    atLineStart := rfl }

theorem lineEnd (h : s.Beside s') {cs : List Char} (first : s.reader.rest = '\n' :: cs)
    (first' : s'.reader.rest = '\n' :: crlf cs) (line : s'.reader.pos.line = s.reader.pos.line) :
    s.lineEnd.Beside s'.lineEnd := by
  have even := Reader.Twin.feed first first' line
  rw [lineEnd_eq, lineEnd_eq, h.depth, lineLayout_returned h.tokens, h.atLineStart]
  have behind := (h.move even).pushAll even.pos (if s.depth = 0 then lineLayout s.tokens else [])
  exact { behind with
    start := fun _ => even
    atLineStart := rfl
    depth := rfl }

theorem take (h : s.Beside s') {t t' : Token} {r r' : Reader} (even : r.Even r')
    (returned : t.Returned t') : (s.take t r).Beside (s'.take t' r') :=
  { h.move even with
    depth := by
      have : t'.bracketsBehind s'.depth = t.bracketsBehind s.depth := by
        rw [h.depth, bracketsBehind_returned returned]
      exact this
    tokens := .cons returned h.tokens }

/-- The two texts come to their end together. -/
theorem finish (h : s.Beside s') (nothing : s.reader.rest = []) :
    List.Forall₂ Token.Returned s.finish s'.finish := by
  have pos : s'.reader.pos = s.reader.pos := by
    cases h.reader with
    | even even => exact even.pos
    | split first => cases nothing.symm.trans first
  rw [finish_eq, finish_eq, endLayout, endLayout, h.widths, lineLayout_returned h.tokens]
  exact List.rel_reverse (h.pushAll pos _).tokens

/-- Behind blanks the two go on alike. -/
theorem readOn (h : s.Beside s') {before : List Char} (reached : Reaches text before s.reader.rest)
    (pos : s.reader.pos = Pos.behind before) (inside : s.atLineStart = false)
    (feed : s.reader.rest.head? = some '\n' → s'.reader.rest.head? = some '\n') :
    TurnAlike text s.readOn s'.readOn := by
  cases first : s.reader.rest with
  | nil =>
    have first' : s'.reader.rest = [] := by
      cases h.reader with
      | even even => rw [even.rest, first]; rfl
      | split first' => cases first.symm.trans first'
    rw [readOn_iff.2 (.stops first), readOn_iff.2 (.stops first')]
    exact .both (.stop h)
  | cons c cs =>
    by_cases line : c = '\n'
    · subst line
      cases h.reader with
      | even even =>
        have carriage : s'.reader.rest = '\r' :: '\n' :: crlf cs := by
          rw [even.rest, first, crlf_lineEnd]
        cases carriage ▸ feed (by rw [first]; rfl)
      | @split z first₁ first' place =>
        obtain rfl := (List.cons.inj (first.symm.trans first₁)).2
        rw [readOn_iff.2 (.lineEnd first), readOn_iff.2 (.lineEnd first')]
        exact .both (.go (h.lineEnd first first' place))
    have even : s.reader.Even s'.reader := by
      cases h.reader with
      | even even => exact even
      | split first' => exact absurd (List.cons.inj (first.symm.trans first')).1 line
    have first' : s'.reader.rest = c :: crlf cs := by rw [even.rest, first, crlf_cons line]
    by_cases comment : c = '#'
    · subst comment
      rw [readOn_iff.2 (.comment first), readOn_iff.2 (.comment first')]
      refine .both (.go { h with reader := even.skipLine, start := fun start => ?_ })
      exact absurd (inside.symm.trans start) Bool.false_ne_true
    · have told := oneToken_crlf even first line
      unfold Scan.readOn
      rw [first, first']
      dsimp only
      rw [if_neg comment, if_neg line, if_neg comment, if_neg line]
      generalize oneToken c s.reader = x at told ⊢
      generalize oneToken c s'.reader = x' at told ⊢
      cases told with
      | ok returned even => exact .both (.go (h.take even returned))
      | error e => exact .error e
      | @breaks n x breaking long =>
        rw [pos, ← Pos.behind_append]
        refine .breaks reached breaking fun turn read => ?_
        obtain ⟨⟨t, r⟩, taken, ⟨⟩⟩ := bind_eq_ok.1 read
        exact ⟨_, rfl, t, List.mem_cons_self, pos ▸ long t r taken⟩

end Beside

theorem Beside.skipped (h : s.Beside s') (noCarriage : '\r' ∉ s.reader.rest) :
    SkippedAlike s.skipped s'.skipped := by
  unfold Scan.skipped
  rw [h.depth]
  exact skipBlanks_twin h.reader noCarriage (Nat.lt_succ_self _) (Nat.lt_succ_self _)

/-- So they do inside a line. -/
theorem Beside.inLine (h : s.Beside s') (comes : (Scan.start text).Comes s)
    (inside : s.atLineStart = false) (noCarriage : '\r' ∉ s.reader.rest) :
    TurnAlike text s.inLine s'.inLine := by
  have told := h.skipped noCarriage
  unfold Scan.inLine
  generalize skipped' : s'.skipped = x' at told ⊢
  cases skipped : s.skipped with
  | error e =>
    rw [skipped] at told
    cases told
    exact .error e
  | ok r =>
    rw [skipped] at told
    obtain ⟨used, passed⟩ := skipBlanks_passes _ skipped
    obtain ⟨before, split, pos⟩ := passed.at ((Sound.start text).comes .nil comes).1.reader
    cases told with
    | @ok r r' twin feed =>
      have here : Beside { s with reader := r } { s' with reader := r' } :=
        { h with
          reader := twin
          start := fun start => absurd (inside.symm.trans start) Bool.false_ne_true }
      exact here.readOn ⟨split, s, r, comes, inside, skipped, rfl⟩ pos inside feed

/-- Where a string is quoted once and has a backslash in front of a line end, the scan of the text
with carriage returns comes to an error. -/
theorem Beside.fails (h : s.Beside s') (inside : s.atLineStart = false)
    (noCarriage : '\r' ∉ s.reader.rest) {r : Reader} (skipped : s.skipped = .ok r) {n : Nat}
    (breaking : breaking? r.rest = some n) : ∃ e, s'.round = .error e := by
  have told := h.skipped noCarriage
  rw [skipped] at told
  generalize skipped' : s'.skipped = x' at told
  cases told with
  | @ok r r' twin feed =>
    cases first : r.rest with
    | nil =>
      rw [first] at breaking
      cases breaking
    | cons c cs =>
      have apart {d : Char} (none : opening? d cs = none) : c ≠ d := by
        rintro rfl
        rw [first, breaking?, none] at breaking
        cases breaking
      have line : c ≠ '\n' := apart (by rfl)
      have noComment : c ≠ '#' := apart (by rfl)
      have even : r.Even r' := by
        cases twin with
        | even even => exact even
        | split first' => exact absurd (List.cons.inj (first.symm.trans first')).1 line
      have first' : r'.rest = c :: crlf cs := by rw [even.rest, first, crlf_cons line]
      have told := oneToken_crlf even first line
      have start' : ¬s'.atLineStart = true := by simp [h.atLineStart, inside]
      have reads : s'.round = oneToken c r' >>= fun tr =>
          .ok (.go (({ s' with reader := r' } : Scan).take tr.1 tr.2)) := by
        rw [Scan.round, if_neg start', Scan.inLine, skipped']
        show Scan.readOn _ = _
        unfold Scan.readOn
        rw [first']
        dsimp only
        rw [if_neg noComment, if_neg line]
      rw [reads]
      generalize oneToken c r = x at told
      generalize oneToken c r' = x' at told ⊢
      cases told with
      | ok _ _ whole => cases whole.symm.trans breaking
      | error e => exact ⟨e, rfl⟩
      | breaks => exact ⟨_, rfl⟩

theorem takeWhile_isIndent_crlf (cs : List Char) :
    (crlf cs).takeWhile isIndent = cs.takeWhile isIndent := by
  induction cs with
  | nil => rfl
  | cons c cs ih =>
    by_cases line : c = '\n'
    · subst line
      rfl
    · rw [crlf_cons line, List.takeWhile_cons, List.takeWhile_cons, ih]

theorem indentWidth_crlf (cs : List Char) : indentWidth 0 (crlf cs) = indentWidth 0 cs := by
  obtain ⟨a, e, rfl, line, feeds⟩ := exists_line cs
  rw [crlf_append, crlf_line line, indentWidth_append feeds.breaks, indentWidth_append feeds.crlf]

/-- The indentation is the same. -/
theorem Beside.indented (h : s.Beside s') (start : s.atLineStart = true) :
    s.indented.Even s'.indented := by
  have even := h.start start
  have line : ∀ c ∈ s.reader.rest.takeWhile isIndent, c ≠ '\n' := by
    rintro c hc rfl
    cases List.mem_takeWhile_imp hc
  unfold Scan.indented Reader.skipWhile
  rw [even.rest, takeWhile_isIndent_crlf]
  exact even.skip_line _ List.takeWhile_append_dropWhile.symm line

/-- A line without tokens is one in both texts, and both go on behind it. -/
theorem blankLine_crlf {r r' : Reader} (even : r.Even r') (noCarriage : '\r' ∉ r.rest) :
    (blankLine? r.rest = none ∧ blankLine? r'.rest = none) ∨
      ∃ n n', blankLine? r.rest = some n ∧ blankLine? r'.rest = some n' ∧
        (r.skip n).Even (r'.skip n') := by
  cases first : r.rest with
  | nil =>
    rw [even.rest, first]
    exact .inl ⟨rfl, rfl⟩
  | cons c cs =>
    by_cases feed : c = '\n'
    · subst feed
      rw [even.rest, first]
      exact .inr ⟨1, 2, rfl, rfl, even.skip ['\n'] first⟩
    have first' : r'.rest = c :: crlf cs := by rw [even.rest, first, crlf_cons feed]
    by_cases comment : c = '#'
    · subst comment
      obtain ⟨a, e, rfl, line, feeds⟩ := exists_line cs
      rw [first', blankLine?_comment, blankLine?_comment]
      refine .inr ⟨_, _, rfl, rfl, ?_⟩
      have inLine : ∀ c ∈ '#' :: a, c ≠ '\n' := List.forall_mem_cons.2 ⟨by decide, line⟩
      cases e with
      | nil =>
        have behind := even.skip_line ('#' :: a) first inLine
        have nothing : (r.skip ('#' :: a).length).rest = [] := Reader.rest_skip_append first
        have nothing' : (r'.skip ('#' :: a).length).rest = [] := by rw [behind.rest, nothing]; rfl
        rw [List.append_nil, crlf_line line, takeWhile_line line]
        -- The comment goes to the end of the text, and there is no line end behind it.
        show (r.skip (('#' :: a).length + 1)).Even (r'.skip (('#' :: a).length + 1))
        rwa [← Reader.skip_skip, ← Reader.skip_skip, Reader.skip_nil nothing,
          Reader.skip_nil nothing']
      | cons d z =>
        obtain rfl := feeds d rfl
        have split : r.rest = '#' :: a ++ ['\n'] ++ z := first.trans (by simp)
        have behind := even.skip _ split
        rw [crlf_append, crlf_line inLine, List.length_append, List.length_append] at behind
        rw [takeWhile_feed line, takeWhile_crlf_feed line, List.length_append]
        exact behind
    · have carriage : c ≠ '\r' := by
        rintro rfl
        exact noCarriage (by simp [first])
      rw [first', blankLine?_none feed comment fun h => absurd h carriage,
        blankLine?_none feed comment fun h => absurd h carriage]
      exact .inl ⟨rfl, rfl⟩

/-- A line begins alike in the two texts. -/
theorem Beside.begin (h : s.Beside s') (start : s.atLineStart = true)
    (noCarriage : '\r' ∉ s.reader.rest) : TurnAlike text s.begin s'.begin := by
  have even := h.indented start
  have width : indentWidth 0 s'.reader.rest = indentWidth 0 s.reader.rest := by
    rw [(h.start start).rest, indentWidth_crlf]
  have noCarriage : '\r' ∉ s.indented.rest := by
    have passed := Reader.Passes.skipWhile isIndent s.reader
    exact fun h => noCarriage (passed.rest ▸ List.mem_append_right _ h)
  rcases blankLine_crlf even noCarriage with ⟨filled, filled'⟩ | ⟨n, n', blank, blank', behind⟩
  · cases first : s.indented.rest with
    | nil =>
      have first' : s'.indented.rest = [] := by rw [even.rest, first]; rfl
      rw [begin_iff.2 (.stops first), begin_iff.2 (.stops first')]
      exact .both (.stop (h.entered even))
    | cons c cs =>
      have filled₁ : ¬s.indented.rest.isEmpty := by simp [first]
      have filled₁' : ¬s'.indented.rest.isEmpty := by
        rw [even.rest, first, crlf]
        split <;> exact Bool.false_ne_true
      unfold Scan.begin
      rw [filled, filled']
      dsimp only
      rw [if_neg filled₁, if_neg filled₁', width, indent_eq, indent_eq]
      dsimp only
      rw [h.widths, even.pos]
      cases relevel? (indentWidth 0 s.reader.rest) s.widths with
      | none => exact .error _
      | some level =>
        obtain ⟨ws, kinds⟩ := level
        have here : Beside ⟨s.indented, false, ws, s.depth, s.tokens⟩
            ⟨s'.indented, false, ws, s'.depth, s'.tokens⟩ := { h.entered even with widths := rfl }
        exact .both (.go (here.pushAll even.pos kinds))
  · rw [begin_iff.2 (.blank blank), begin_iff.2 (.blank blank')]
    exact .both (.go (h.move behind))

/-- A round is alike in the two texts. -/
theorem Beside.round (h : s.Beside s') (comes : (Scan.start text).Comes s)
    (noCarriage : '\r' ∉ s.reader.rest) : TurnAlike text s.round s'.round := by
  unfold Scan.round
  rw [h.atLineStart]
  cases start : s.atLineStart with
  | true => exact h.begin start noCarriage
  | false => exact h.inLine comes start noCarriage

end Scan

/-! ### Texts -/

/-- How the tokens of a text come back where its line ends are of two characters: string by string
with carriage returns in them, or not at all if a string that is quoted once has a backslash in
front of a line end. -/
inductive Retold (text : List Char) :
    Except LexError (List Token) → Except LexError (List Token) → Prop where
  | tokens {ts ts' : List Token} : List.Forall₂ Token.Returned ts ts' →
      Retold text (.ok ts) (.ok ts')
  | error (e : LexError) : Retold text (.error e) (.error e)
  | breaks {before cs : List Char} {n : Nat} {x} : Scan.Reaches text before cs →
      breaking? cs = some n →
      (∀ ts, x = .ok ts → ∃ t ∈ ts, t.pos = Pos.behind before ∧ t.pos.line < t.endLine) →
      Retold text x (.error ⟨.unterminatedString, Pos.behind (before ++ cs.take n)⟩)

/-- Two scans of the two texts come to the same. -/
theorem Scan.Beside.result {text : List Char} {s s' : Scan} (noCarriage : '\r' ∉ text)
    (comes : (Scan.start text).Comes s) (h : s.Beside s') : Retold text s.result s'.result := by
  refine result_sim (R := fun s s' => (Scan.start text).Comes s ∧ s.Beside s') (Q := Retold text)
    (fun s s' ⟨comes, h⟩ => ?_) ⟨comes, h⟩
  have told := h.round comes fun carriage => noCarriage (comes.suffix.subset carriage)
  generalize round : s.round = x at told
  generalize round' : s'.round = x' at told
  cases told with
  | both both =>
    cases both with
    | go h => exact .inl ⟨_, _, rfl, rfl, comes.tail round, h⟩
    | stop h =>
      refine .inr ?_
      rw [result_eq s, result_eq s', round, round']
      exact .tokens (h.finish (rest_of_stop round))
  | error e =>
    refine .inr ?_
    rw [result_eq s, result_eq s', round, round']
    exact .error e
  | breaks reached breaking long =>
    refine .inr ?_
    rw [result_eq s', round']
    refine .breaks reached breaking fun ts read => ?_
    rw [result_eq, round] at read
    obtain ⟨turn, eq, read⟩ := bind_eq_ok.1 read
    obtain ⟨s, rfl, t, ht, spans⟩ := long turn eq
    obtain ⟨after, rfl, -⟩ := result_adds read
    exact ⟨t, List.mem_append_left _ (List.mem_reverse.2 ht), spans⟩

/-- The scan of the text with carriage returns keeps up, unless it comes to an error. -/
theorem Scan.Comes.beside {text : List Char} (noCarriage : '\r' ∉ text) {s : Scan}
    (comes : (Scan.start text).Comes s) :
    (∃ s', (Scan.start (crlf text)).Comes s' ∧ s.Beside s') ∨
      ∃ e, (Scan.start (crlf text)).result = .error e := by
  induction comes with
  | refl =>
    have even : Reader.Even ⟨text, ⟨1, 1⟩⟩ ⟨crlf text, ⟨1, 1⟩⟩ := ⟨rfl, rfl⟩
    exact .inl ⟨_, .refl, .even even, fun _ => even, rfl, rfl, rfl, .nil⟩
  | @tail s t comes round ih =>
    rcases ih with ⟨s', comes', h⟩ | error
    · have told := h.round comes fun carriage => noCarriage (Comes.suffix comes |>.subset carriage)
      rw [round] at told
      generalize round' : s'.round = x' at told
      cases told with
      | both both =>
        cases both with
        | go h => exact .inl ⟨_, comes'.tail round', h⟩
      | @breaks before cs n =>
        refine .inr ⟨⟨.unterminatedString, Pos.behind (before ++ cs.take n)⟩, ?_⟩
        rw [comes'.result, result_eq, round']
        rfl
    · exact .inr error

theorem Token.Returned.eq_of_line {t t' : Token} (h : t.Returned t') (line : t.endLine = t.pos.line) :
    t' = t := by
  obtain ⟨pos, endLine, kind⟩ := h
  have same := kind.resolve_right fun spans => spans.1.ne' line
  cases t
  cases t'
  simp_all

/-- Where line ends are written in two characters, a text has the tokens that it had, or the error,
but for strings that go over the end of a line. It has no tokens any more exactly if one of these is
quoted once; and if all tokens end in the line they start in, they are the same. -/
theorem tokens_crlf {text : List Char} (noCarriage : '\r' ∉ text) :
    Retold text (tokens (String.ofList text)) (tokens (String.ofList (crlf text))) ∧
      ((∃ ts', tokens (String.ofList (crlf text)) = .ok ts') ↔
        (∃ ts, tokens (String.ofList text) = .ok ts) ∧
          ∀ before cs, Scan.Reaches text before cs → breaking? cs = none) ∧
      ∀ ts, tokens (String.ofList text) = .ok ts → (∀ t ∈ ts, t.endLine = t.pos.line) →
        tokens (String.ofList (crlf text)) = .ok ts := by
  have told : Retold text (tokens (String.ofList text)) (tokens (String.ofList (crlf text))) := by
    rw [tokens_eq_result, tokens_eq_result]
    have even : Reader.Even ⟨text, ⟨1, 1⟩⟩ ⟨crlf text, ⟨1, 1⟩⟩ := ⟨rfl, rfl⟩
    exact Scan.Beside.result noCarriage .refl ⟨.even even, fun _ => even, rfl, rfl, rfl, .nil⟩
  refine ⟨told, ⟨fun ⟨ts', read'⟩ => ⟨?_, fun before cs reached => ?_⟩, fun ⟨⟨ts, read⟩, free⟩ => ?_⟩,
    fun ts read flat => ?_⟩
  · rw [read'] at told
    generalize tokens (String.ofList text) = x at told ⊢
    cases told
    exact ⟨_, rfl⟩
  · obtain ⟨-, s, r, comes, inside, skipped, rfl⟩ := reached
    rw [tokens_eq_result] at read'
    cases breaking : breaking? r.rest with
    | none => rfl
    | some n =>
      rcases comes.beside noCarriage with ⟨s', comes', h⟩ | ⟨e, error⟩
      · have noCarriage : '\r' ∉ s.reader.rest := fun carriage =>
          noCarriage (Scan.Comes.suffix comes |>.subset carriage)
        obtain ⟨e, round⟩ := h.fails inside noCarriage skipped breaking
        rw [comes'.result, Scan.result_eq, round] at read'
        cases read'
      · cases error.symm.trans read'
  · rw [read] at told
    generalize tokens (String.ofList (crlf text)) = x' at told ⊢
    cases told with
    | tokens => exact ⟨_, rfl⟩
    | breaks reached breaking => cases (free _ _ reached).symm.trans breaking
  · rw [read] at told
    generalize tokens (String.ofList (crlf text)) = x' at told ⊢
    cases told with
    | tokens told =>
      clear read
      refine congrArg Except.ok ?_
      induction told with
      | nil => rfl
      | cons head _ ih =>
        obtain ⟨line, flat⟩ := List.forall_mem_cons.1 flat
        rw [head.eq_of_line line, ih flat]
    | breaks _ _ long =>
      obtain ⟨t, ht, -, spans⟩ := long ts rfl
      exact absurd (flat t ht) spans.ne'

/-- A backslash in front of the line end of a string: the two lines are one string, and none with a
carriage return between them. -/
theorem tokens_crlf_escaped :
    let text := ['x', '=', '"', 'a', '\\', '\n', 'b', '"', '\n']
    let ts : List Token :=
      [⟨.ident "x", ⟨1, 1⟩, 1⟩, ⟨.punct .eq, ⟨1, 2⟩, 1⟩, ⟨.str "ab", ⟨1, 3⟩, 2⟩,
        ⟨.newline, ⟨3, 1⟩, 3⟩, ⟨.eof, ⟨3, 1⟩, 3⟩]
    '\r' ∉ text ∧ tokens (String.ofList text) = .ok ts ∧
      tokens (String.ofList (crlf text)) = .error ⟨.unterminatedString, ⟨1, 4⟩⟩ ∧
      Retold text (tokens (String.ofList text)) (tokens (String.ofList (crlf text))) ∧
      ∃ before cs n, Scan.Reaches text before cs ∧ breaking? cs = some n := by
  intro text ts
  have noCarriage : '\r' ∉ text := by decide
  have read : tokens (String.ofList text) = .ok ts := by cbv
  have cut : tokens (String.ofList (crlf text)) = .error ⟨.unterminatedString, ⟨1, 4⟩⟩ := by cbv
  obtain ⟨told, reads, -⟩ := tokens_crlf noCarriage
  refine ⟨noCarriage, read, cut, told, ?_⟩
  by_contra none
  have free : ∀ before cs, Scan.Reaches text before cs → breaking? cs = .none := fun before cs h =>
    Option.eq_none_iff_forall_ne_some.2 fun n breaking => none ⟨before, cs, n, h, breaking⟩
  obtain ⟨ts', read'⟩ := reads.2 ⟨⟨ts, read⟩, free⟩
  cases cut.symm.trans read'

end Stepwise.Script
