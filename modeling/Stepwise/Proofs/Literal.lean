import Stepwise.Proofs.Precedence
import Stepwise.Proofs.Rounds

/-!
# Reading literals back

A text written as a literal of the script language is one token, and the expression that it stands
for is this text (`literal_read`).

## The model

Each character of a text is written as one or several characters that are read as it
(`stringBody_literalChar`), whatever follows. No line feed is among them, so a literal never leaves
its line, and the first of them is never the quote, so that an opening quote is never taken for
three of them.
-/

namespace Stepwise.Script

open Stepwise.Text

/-! ### Characters -/

/-- The quotes of literals. -/
def IsQuote (q : Char) : Prop := q = '\'' ∨ q = '"'

theorem literalQuote_isQuote (cs : List Char) : IsQuote (literalQuote cs) := by
  unfold literalQuote
  split
  · exact .inr rfl
  · exact .inl rfl

/-- The code points that are written in hexadecimal digits. -/
theorem hexChar_hexByte {c : Char} (h : c.toNat < 0x20 ∨ c.toNat = 0x7F) :
    hexChar (hexByte c.toNat) = .ok c := by
  have all : ∀ n ∈ List.range 0x80, hexChar (hexByte n) = .ok (Char.ofNat n) := by decide +kernel
  rw [all _ (List.mem_range.2 (by omega)), Char.ofNat_toNat]

/-- With `c` in front of what a reader of strings has read. -/
def withChar (c : Char) (x : Except LexProblem (List Char × List Char)) :
    Except LexProblem (List Char × List Char) := do
  let (t, rest) ← x
  .ok (c :: t, rest)

variable {q : Char}

/-- A simple escape is read as what it stands for. -/
theorem stringBody_escape {c e : Char} (he : simpleEscape? e = some c) (rest : List Char) :
    stringBody ⟨q, false, false⟩ ('\\' :: e :: rest) =
      withChar c (stringBody ⟨q, false, false⟩ rest) := by
  rw [stringBody_backslash]
  exact escaped_simple he rest

theorem stringBody_hex {a b c : Char} (hc : hexChar [a, b] = .ok c) (rest : List Char) :
    stringBody ⟨q, false, false⟩ ('\\' :: 'x' :: a :: b :: rest) =
      withChar c (stringBody ⟨q, false, false⟩ rest) := by
  rw [stringBody_backslash]
  show escaped _ 'x' (a :: b :: rest) = _
  rw [escaped_hex, hc]
  rfl

theorem stringBody_plain {c : Char} (escape : c ≠ '\\') (line : c ≠ '\n') (quote : c ≠ q)
    (rest : List Char) : stringBody ⟨q, false, false⟩ (c :: rest) =
      withChar c (stringBody ⟨q, false, false⟩ rest) := by
  rw [stringBody_char escape quote, if_neg (not_and_of_not_left _ line)]
  rfl

/-- What a character is written as is read as this character. -/
theorem stringBody_literalChar (isQuote : IsQuote q) (c : Char) (rest : List Char) :
    stringBody ⟨q, false, false⟩ (literalChar q c ++ rest) =
      withChar c (stringBody ⟨q, false, false⟩ rest) := by
  unfold literalChar
  split_ifs with backslash line carriage tab quote control
  · rw [backslash]
    exact stringBody_escape rfl rest
  · rw [line]
    exact stringBody_escape rfl rest
  · rw [carriage]
    exact stringBody_escape rfl rest
  · rw [tab]
    exact stringBody_escape rfl rest
  · have : simpleEscape? q = some q := by rcases isQuote with rfl | rfl <;> rfl
    rw [quote]
    exact stringBody_escape this rest
  · exact stringBody_hex (hexChar_hexByte control) rest
  · exact stringBody_plain backslash line quote rest

/-- A literal is read up to its end as the characters that are written in it. -/
theorem stringBody_literal (isQuote : IsQuote q) (rest : List Char) : ∀ cs : List Char,
    stringBody ⟨q, false, false⟩ (cs.flatMap (literalChar q) ++ q :: rest) = .ok (cs, rest)
  | [] => by
    have : q ≠ '\\' := by rcases isQuote with rfl | rfl <;> decide
    rw [List.flatMap_nil, List.nil_append, stringBody]
    · simp
    · exact this
  | c :: cs => by
    rw [List.flatMap_cons, List.append_assoc, stringBody_literalChar isQuote,
      stringBody_literal isQuote rest cs]
    rfl

/-! ### The token -/

/-- No character is written with a line feed, nor with the quote in front. -/
theorem literalChar_inLine (isQuote : IsQuote q) (c : Char) :
    (∀ d ∈ literalChar q c, d ≠ '\n') ∧ ∃ d ds, literalChar q c = d :: ds ∧ d ≠ q := by
  have hex : ∀ n ∈ List.range 0x80, '\n' ∉ hexByte n := by decide +kernel
  have escape : '\\' ≠ q := by rcases isQuote with rfl | rfl <;> decide
  have quoteLine : q ≠ '\n' := by rcases isQuote with rfl | rfl <;> decide
  unfold literalChar
  split_ifs with backslash line carriage tab quote control
  iterate 4 exact ⟨by simp, _, _, rfl, escape⟩
  · exact ⟨by simp [quote, quoteLine], _, _, rfl, escape⟩
  · have inHex : '\n' ∉ '\\' :: 'x' :: hexByte c.toNat := by
      simpa using hex _ (List.mem_range.2 (by omega))
    exact ⟨fun _ hd => ne_of_mem_of_not_mem hd inHex, _, _, rfl, escape⟩
  · exact ⟨by simpa using line, _, _, rfl, quote⟩

/-- What stands between the quotes of a literal. -/
def literalBody (s : String) : List Char :=
  s.toList.flatMap (literalChar (literalQuote s.toList))

theorem toList_literal (s : String) : (literal s).toList =
    literalQuote s.toList :: (literalBody s ++ [literalQuote s.toList]) := by
  rw [literal, String.toList_ofList]
  rfl

theorem literalBody_inLine (s : String) : ∀ c ∈ literalBody s, c ≠ '\n' := by
  intro c hc
  obtain ⟨d, -, hd⟩ := List.mem_flatMap.1 hc
  exact (literalChar_inLine (literalQuote_isQuote _) d).1 c hd

/-- A literal is part of one line. -/
theorem literal_inLine (s : String) : ∀ c ∈ (literal s).toList, c ≠ '\n' := by
  have quoteLine : ∀ c ∈ [literalQuote s.toList], c ≠ '\n' := by
    rcases literalQuote_isQuote s.toList with h | h <;> simp [h]
  rw [toList_literal]
  exact List.forall_mem_cons.2 ⟨quoteLine _ List.mem_cons_self,
    List.forall_mem_append.2 ⟨literalBody_inLine s, quoteLine⟩⟩

/-- The quote that opens a literal is not the first of three. -/
theorem literalBody_single (s : String) (q : Char) (hq : q = literalQuote s.toList) :
    [q, q].isPrefixOf (literalBody s ++ [q]) = false := by
  subst hq
  unfold literalBody
  cases s.toList with
  | nil => simp [List.isPrefixOf]
  | cons c cs =>
    obtain ⟨-, d, ds, eq, ne⟩ := literalChar_inLine (literalQuote_isQuote (c :: cs)) c
    simp [List.flatMap_cons, eq, List.isPrefixOf, ne.symm]

theorem stringLiteral_literal {s : String} {q : Char} (hq : q = literalQuote s.toList) :
    stringLiteral q false (literalBody s ++ [q]) = .ok (s, (literalBody s ++ [q]).length) := by
  have read := stringBody_literal (literalQuote_isQuote s.toList) [] s.toList
  rw [← hq, show s.toList.flatMap (literalChar q) = literalBody s by rw [hq]; rfl] at read
  rw [stringLiteral, literalBody_single s q hq]
  simp only [Bool.false_eq_true, if_false, read]
  simp [bind, Except.bind]

/-- A literal is read as one token of its line. -/
theorem oneToken_literal {s : String} {r : Reader} (h : r.rest = (literal s).toList) :
    ∃ r', oneToken (literalQuote s.toList) r = .ok (⟨.str s, r.pos, r.pos.line⟩, r') ∧
      r.Passes (literal s).toList r' := by
  generalize hq : literalQuote s.toList = q
  have isQuote : IsQuote q := hq ▸ literalQuote_isQuote _
  have line := literal_inLine s
  rw [toList_literal, hq] at h line ⊢
  have inside := Reader.rest_one h
  have ends : (r.skip 1).rest = (literalBody s ++ [q]) ++ [] := inside.trans (by simp)
  have passed : r.Passes (q :: (literalBody s ++ [q]))
      ((r.skip 1).skip (literalBody s ++ [q]).length) := (Reader.Passes.one h).trans (.skip _ ends)
  refine ⟨_, ?_, passed⟩
  rw [oneToken, if_pos isQuote.symm, inside, stringLiteral_literal hq.symm]
  simp only [Reader.located, bind, Except.bind, passed.pos, Pos.past_of_line _ line]

/-! ### The whole text -/

/-- Where the first token is all of a text, the text and its only line end behind it. -/
theorem tokens_eq_single {c : Char} {tail : List Char} {t : Token} {r : Reader}
    (begins : c ∉ unread) (read : oneToken c ⟨c :: tail, ⟨1, 1⟩⟩ = .ok (t, r)) (ended : r.rest = [])
    (solid : t.kind.isLayout = false) : tokens (String.ofList (c :: tail)) =
      .ok [t, ⟨.newline, r.pos, r.pos.line⟩, ⟨.eof, r.pos, r.pos.line⟩] := by
  rw [tokens_eq_line begins, Scan.run.line, skipBlanks_stop begins rfl]
  simp only [unread, List.mem_cons, List.not_mem_nil, or_false, not_or] at begins
  obtain ⟨-, -, -, -, line, comment, -⟩ := begins
  dsimp only [bind, Except.bind]
  rw [if_neg comment, if_neg line, read]
  dsimp only
  rw [Scan.run_nil ⟨rfl, rfl⟩ ended]
  simp [Scan.finish, Scan.endLine, Scan.take, Scan.push, Scan.closeBlocks, solid]

/-- A literal is one token. -/
theorem tokens_literal (s : String) : tokens (literal s) = .ok
    [⟨.str s, ⟨1, 1⟩, 1⟩, ⟨.newline, ⟨1, (literal s).length + 1⟩, 1⟩,
      ⟨.eof, ⟨1, (literal s).length + 1⟩, 1⟩] := by
  have begins : literalQuote s.toList ∉ unread := by
    rcases literalQuote_isQuote s.toList with h | h <;> rw [h] <;> decide
  obtain ⟨r, read, passed⟩ := oneToken_literal (s := s) (r := ⟨(literal s).toList, ⟨1, 1⟩⟩) rfl
  have pos : r.pos = ⟨1, (literal s).length + 1⟩ := by
    rw [passed.pos, Pos.past_of_line _ (literal_inLine s), String.length_toList, Nat.add_comm]
  have ended : r.rest = [] := by simpa using passed.rest
  rw [toList_literal] at read
  have whole := tokens_eq_single begins read ended rfl
  rwa [← toList_literal, String.ofList_toList, pos] at whole

/-! ### The expression -/

open Parse

/-- Where no operator follows, a level that groups to the left reads what the next one does. -/
theorem reads_left {b l : Nat} {e : Expr} {t : TokenKind} {ks ts : List TokenKind}
    (hl : l ∈ leftLevels) (hb : 0 < b) (ht : t.binding < l)
    (h : Reads (reader b (l + 1)) ks e (t :: ts)) : Reads (reader b l) ks e (t :: ts) := by
  obtain ⟨b, rfl⟩ := Nat.exists_eq_add_one.2 hb
  rw [reader_left hl]
  exact h.bind (tail_done hl ht)

/-- A string in front of the end of the line is an expression of every level. -/
theorem reads_string {b : Nat} (hb : 2 ≤ b) (s : String) (ts : List TokenKind) :
    Reads (reader b 1) (.str s :: .newline :: ts) (.str s) (.newline :: ts) := by
  have atom : Reads (reader b 16) (.str s :: .newline :: ts) (.str s) (.newline :: ts) := by
    obtain ⟨b, rfl⟩ := Nat.exists_eq_add_of_le' hb
    refine Reads.peek.bind (Reads.peek.bind ((Reads.advance (by simp)).bind ?_))
    refine Reads.peek.bind ?_
    have joined : plainText (addText [] s) = s := by simp [plainText, addText]
    simp only [Bool.false_eq_true, if_false, joined]
    exact Reads.pure
  have none : TokenKind.newline.binding = 0 := rfl
  have budget : 0 < b := by omega
  have left : ∀ l ∈ leftLevels, Reads (reader b (l + 1)) (.str s :: .newline :: ts) (.str s)
      (.newline :: ts) → Reads (reader b l) (.str s :: .newline :: ts) (.str s) (.newline :: ts) :=
    fun l hl => reads_left hl budget (by rw [none]; revert l; decide)
  have factor := reads_factor rfl (reads_power (left 15 (by decide) atom) (by decide))
  have binary := left 7 (by decide) <| left 8 (by decide) <| left 9 (by decide) <|
    left 10 (by decide) <| left 11 (by decide) <| left 12 (by decide) factor
  have negation := reads_negation rfl (reads_comparison budget binary (by decide))
  exact reads_expression rfl (left 3 (by decide) (left 4 (by decide) negation)) (by decide)

/-- A literal has no blanks around it. -/
theorem literal_trim (s : String) :
    (((literal s).toList.dropWhile isSpace).reverse.dropWhile isSpace).reverse =
      (literal s).toList := by
  have quote : isSpace (literalQuote s.toList) = false := by
    rcases literalQuote_isQuote s.toList with h | h <;> rw [h] <;> decide
  rw [toList_literal]
  simp [quote]

/-- What a text is written as is a literal of this text: its only token is this string, and it is
read as the expression that says it. -/
theorem literal_read (s : String) :
    tokens (literal s) = .ok [⟨.str s, ⟨1, 1⟩, 1⟩, ⟨.newline, ⟨1, (literal s).length + 1⟩, 1⟩,
      ⟨.eof, ⟨1, (literal s).length + 1⟩, 1⟩] ∧
    parseExpr (literal s) = .ok (.str s) := by
  have lexed := tokens_literal s
  refine ⟨lexed, ?_⟩
  rw [← String.ofList_toList (s := literal s)] at lexed ⊢
  have read : ∀ b, b = nestingBudget (String.ofList (literal s).toList) →
      Reads (exprAt b .expression) ([.str s] ++ [.newline, .eof]) (.str s) [.newline, .eof] := by
    rintro _ rfl
    rw [nestingBudget, exprAt_succ]
    exact reads_string (by omega) s _
  exact parseExpr_of_reads (literal_trim s) lexed rfl read

end Stepwise.Script
