import Stepwise.Script.Lexer

/-!
# Reading words back

A text that spells words, with blanks where the words would run together, has these words as its
tokens (`tokens_of_spells`).

## The model

Blanks inside a line are those that the lexer skips. Where a word ends is a matter of what follows
(`Ends`): a name goes on as long as it can, and a mark is the longest that there is.
-/

namespace Stepwise.Script

open Stepwise.Text

/-! ### Spelling -/

/-- The characters of a name, a keyword or a mark. -/
def TokenKind.chars : TokenKind → List Char
  | .ident x => x.toList
  | .keyword k => k.text.toList
  | .punct p => p.chars
  | _ => []

/-- Whether a text starts and goes on like a name. -/
def Named (cs : List Char) : Prop :=
  ∃ c tail, cs = c :: tail ∧ isNameStart c = true ∧ ∀ d ∈ tail, isNamePart d = true

/-- Whether a text is a name: it is like one, and no keyword. -/
def IsName (x : String) : Prop := Named x.toList ∧ Keyword.ofText? x = none

/-- Names, keywords and marks. -/
inductive IsWord : TokenKind → Prop where
  | name {x} : IsName x → IsWord (.ident x)
  | keyword {k} : IsWord (.keyword k)
  | mark {p} : IsWord (.punct p)

/-- Whether a word ends where the text goes on with `rest`. -/
def Ends (w : TokenKind) (rest : List Char) : Prop :=
  match w with
  | .punct p => Punct.longest? (p.chars ++ rest) = some p
  | _ => ∀ c ∈ rest.head?, isNamePart c = false

/-- A blank inside a line. -/
def isBlank (c : Char) : Bool := c = ' ' ∨ c = '\t' ∨ c = '\r' ∨ c = '\x0c'

/-- Whether a text spells words, one after the other, with blanks between them. -/
inductive Spells : List Char → List TokenKind → Prop where
  | last {w} : IsWord w → Spells w.chars [w]
  | more {w gap rest ws} : IsWord w → (∀ c ∈ gap, isBlank c = true) → Ends w (gap ++ rest) →
      Spells rest ws → Spells (w.chars ++ (gap ++ rest)) (w :: ws)

/-! ### Characters -/

theorem inRanges_disjoint {as bs : List (Nat × Nat)} {n : Nat}
    (apart : ∀ r ∈ as, ∀ s ∈ bs, r.2 < s.1 ∨ s.2 < r.1) (h : inRanges as n = true) :
    inRanges bs n = false := by
  simp only [inRanges, List.any_eq_true, Bool.and_eq_true, decide_eq_true_eq] at h
  obtain ⟨r, hr, low, high⟩ := h
  simp only [inRanges, List.any_eq_false, Bool.and_eq_true, decide_eq_true_eq, not_and]
  intro s hs
  have := apart r hr s hs
  omega

theorem isNamePart_of_isSpace {c : Char} (h : isSpace c = true) : isNamePart c = false := by
  have letters : inRanges Table.alphabetic c.toNat = false :=
    inRanges_disjoint (by decide +kernel) h
  have numbers : inRanges Table.numeric c.toNat = false :=
    inRanges_disjoint (by decide +kernel) h
  have low : c.toNat < 128 → c.isAlpha = false ∧ c.isDigit = false ∧ c ≠ '_' := by
    intro small
    have ascii : c.toNat ∈ [9, 10, 11, 12, 13, 32] := by
      simp only [isSpace, inRanges, List.any_cons, List.any_nil, Bool.or_eq_true, Bool.and_eq_true,
        decide_eq_true_eq, Bool.false_eq_true, or_false] at h
      simp only [List.mem_cons, List.not_mem_nil, or_false]
      omega
    rw [← Char.ofNat_toNat c]
    generalize c.toNat = n at ascii
    revert n
    decide
  rw [isNamePart, isAlphanumeric, isAlphabetic, isNumeric]
  split
  · simp [low ‹_›]
  · have : c ≠ '_' := by
      rintro rfl
      contradiction
    simp [letters, numbers, this]

theorem isNamePart_of_isNameStart {c : Char} (h : isNameStart c = true) : isNamePart c = true := by
  rw [isNameStart, Bool.or_eq_true] at h
  rw [isNamePart, isAlphanumeric, Bool.or_eq_true, Bool.or_eq_true]
  exact h.imp .inl id

/-- The digits, one after the other. -/
theorem toNat_of_isDigit {c : Char} (h : c.isDigit = true) : c.toNat ∈ List.range' 48 10 := by
  simp only [Char.isDigit, Bool.and_eq_true, decide_eq_true_eq] at h
  have low : 48 ≤ c.toNat := UInt32.le_iff_toNat_le.1 h.1
  have high : c.toNat ≤ 57 := UInt32.le_iff_toNat_le.1 h.2
  rw [List.mem_range'_1]
  omega

theorem isNameStart_of_isDigit {c : Char} (h : c.isDigit = true) : isNameStart c = false := by
  have digit := toNat_of_isDigit h
  rw [← Char.ofNat_toNat c]
  generalize c.toNat = n at digit
  revert n
  decide

/-! ### Words -/

/-- What is known of the first character of a word. -/
structure Leads (c : Char) : Prop where
  space : isSpace c = false
  comment : c ≠ '#'
  continuation : c ≠ '\\'
  quote : c ≠ '"'
  apostrophe : c ≠ '\''
  digit : c.isDigit = false

theorem ne_of_isNameStart {c d : Char} (h : isNameStart c = true) (hd : isNameStart d = false) :
    c ≠ d := by
  rintro rfl
  exact Bool.eq_false_iff.1 hd h

theorem leads_of_isNameStart {c : Char} (h : isNameStart c = true) : Leads c where
  space := Bool.eq_false_iff.2 fun space =>
    Bool.eq_false_iff.1 (isNamePart_of_isSpace space) (isNamePart_of_isNameStart h)
  comment := ne_of_isNameStart h (by decide)
  continuation := ne_of_isNameStart h (by decide)
  quote := ne_of_isNameStart h (by decide)
  apostrophe := ne_of_isNameStart h (by decide)
  digit := Bool.eq_false_iff.2 fun digit => Bool.eq_false_iff.1 (isNameStart_of_isDigit digit) h

theorem ofText?_text (k : Keyword) : Keyword.ofText? k.text = some k := by
  cases k <;> rfl

theorem named_text (k : Keyword) : Named k.text.toList := by
  cases k <;> exact ⟨_, _, rfl, by decide, List.all_eq_true.1 (by decide)⟩

theorem longest?_chars (p : Punct) : Punct.longest? p.chars = some p := by
  cases p <;> rfl

theorem mark_chars (p : Punct) : ∃ c cs, p.chars = c :: cs ∧ isNameStart c = false ∧ Leads c ∧
    (∀ d ∈ cs, isSpace d = false) ∧ (c = '.' → cs = []) := by
  have solid : ∀ cs : List Char, cs.any isSpace = false → ∀ d ∈ cs, isSpace d = false :=
    fun cs h d hd => Bool.eq_false_iff.2 (List.any_eq_false.1 h d hd)
  cases p <;> exact ⟨_, _, rfl, by decide, ⟨by decide, by decide, by decide, by decide, by decide,
    by decide⟩, solid _ (by decide), by decide⟩

theorem Named.chars {cs : List Char} (h : Named cs) :
    (∃ c tail, cs = c :: tail ∧ Leads c) ∧ ∀ c ∈ cs, isSpace c = false := by
  obtain ⟨c, tail, rfl, start, parts⟩ := h
  have leads := leads_of_isNameStart start
  refine ⟨⟨c, tail, rfl, leads⟩, List.forall_mem_cons.2 ⟨leads.space, fun d hd => ?_⟩⟩
  exact Bool.eq_false_iff.2 fun space =>
    Bool.eq_false_iff.1 (isNamePart_of_isSpace space) (parts d hd)

/-- A word has a first character, and no blanks. -/
theorem IsWord.chars {w : TokenKind} (h : IsWord w) :
    (∃ c tail, w.chars = c :: tail ∧ Leads c) ∧ ∀ c ∈ w.chars, isSpace c = false := by
  cases h with
  | name h => exact h.1.chars
  | keyword => exact (named_text _).chars
  | @mark p =>
    obtain ⟨c, tail, eq, -, leads, parts, -⟩ := mark_chars p
    rw [TokenKind.chars, eq]
    exact ⟨⟨c, tail, rfl, leads⟩, List.forall_mem_cons.2 ⟨leads.space, parts⟩⟩

theorem IsWord.solid {w : TokenKind} (h : IsWord w) : w.isLayout = false := by
  cases h <;> rfl

theorem IsWord.ends_nil {w : TokenKind} (h : IsWord w) : Ends w [] := by
  cases h with
  | name | keyword => simp [Ends]
  | @mark p => rw [Ends, List.append_nil, longest?_chars]

/-- A text of words starts with the first character of a word. -/
theorem Spells.leads {cs : List Char} {ws : List TokenKind} (h : Spells cs ws) :
    ∃ c tail, cs = c :: tail ∧ Leads c := by
  cases h with
  | last word => exact word.chars.1
  | more word =>
    obtain ⟨c, tail, eq, leads⟩ := word.chars.1
    exact ⟨c, _, by rw [eq]; rfl, leads⟩

/-- It ends with the last one. -/
theorem Spells.closes {cs : List Char} {ws : List TokenKind} (h : Spells cs ws) :
    ∃ init c, cs = init ++ [c] ∧ isSpace c = false := by
  induction h with
  | @last w word =>
    obtain ⟨⟨c, tail, eq, -⟩, solid⟩ := word.chars
    have filled : w.chars ≠ [] := by simp [eq]
    exact ⟨_, _, (List.dropLast_concat_getLast filled).symm, solid _ (List.getLast_mem filled)⟩
  | more _ _ _ _ ih =>
    obtain ⟨init, c, rfl, solid⟩ := ih
    exact ⟨_, c, by rw [← List.append_assoc, ← List.append_assoc], solid⟩

/-- Without the blanks around it, a text of words is what it was. -/
theorem Spells.trim {cs before after : List Char} {ws : List TokenKind} (h : Spells cs ws)
    (hb : ∀ c ∈ before, isSpace c = true) (ha : ∀ c ∈ after, isSpace c = true) :
    ((((before ++ cs ++ after).dropWhile isSpace).reverse.dropWhile isSpace).reverse) = cs := by
  obtain ⟨c, tail, eq, leads⟩ := h.leads
  obtain ⟨init, d, eq', solid⟩ := h.closes
  have front : (before ++ cs ++ after).dropWhile isSpace = cs ++ after := by
    rw [List.append_assoc, List.dropWhile_append_of_pos hb, eq, List.cons_append,
      List.dropWhile_cons_of_neg (by simp [leads.space])]
  rw [front, List.reverse_append, List.dropWhile_append_of_pos (by simpa using ha), eq',
    List.reverse_append, List.reverse_singleton, List.singleton_append,
    List.dropWhile_cons_of_neg (by simp [solid])]
  simp

/-! ### One word -/

theorem Reader.rest_skip : ∀ (n : Nat) (r : Reader), (r.skip n).rest = r.rest.drop n
  | 0, r => rfl
  | n + 1, r => by
    rw [Reader.skip]
    cases h : r.rest with
    | nil => simp [h]
    | cons c cs => simp [Reader.rest_skip n]

theorem Reader.rest_skip_append {r : Reader} {cs rest : List Char} (h : r.rest = cs ++ rest) :
    (r.skip cs.length).rest = rest := by
  rw [Reader.rest_skip, h, List.drop_left]

theorem takeWhile_name {cs rest : List Char} (parts : ∀ c ∈ cs, isNamePart c = true)
    (ends : ∀ c ∈ rest.head?, isNamePart c = false) :
    (cs ++ rest).takeWhile isNamePart = cs := by
  rw [List.takeWhile_append_of_pos parts]
  cases rest with
  | nil => simp
  | cons c rest => simp [ends c rfl]

/-- A name or a keyword is read up to its end. -/
theorem word_spelling {r : Reader} {cs rest : List Char} (h : r.rest = cs ++ rest)
    (parts : ∀ c ∈ cs, isNamePart c = true) (ends : ∀ c ∈ rest.head?, isNamePart c = false)
    (leads : ∀ c ∈ rest.head?, c ≠ '"' ∧ c ≠ '\'') :
    ∃ r', word r = .ok (word.plain r cs, r') ∧ r'.rest = rest := by
  have chars : r.rest.takeWhile isNamePart = cs := by rw [h, takeWhile_name parts ends]
  have behind := Reader.rest_skip_append h
  refine ⟨r.skip cs.length, ?_, behind⟩
  rw [word, chars, behind]
  split
  · rename_i quote _ _ _ _
    obtain ⟨hq, hq'⟩ := leads quote rfl
    simp [hq, hq']
  · rfl

/-- What may stand behind a word: nothing that makes a number or a string of it. -/
def Parts (rest : List Char) : Prop :=
  ∀ c ∈ rest.head?, c ≠ '"' ∧ c ≠ '\'' ∧ c.isDigit = false

theorem Spells.parts {gap rest : List Char} {ws : List TokenKind} (h : Spells rest ws)
    (blank : ∀ c ∈ gap, isBlank c = true) : Parts (gap ++ rest) := by
  intro c hc
  cases gap with
  | cons d gap =>
    cases hc
    have := blank c List.mem_cons_self
    simp only [isBlank, decide_eq_true_eq] at this
    rcases this with rfl | rfl | rfl | rfl <;> decide
  | nil =>
    obtain ⟨d, tail, rfl, leads⟩ := h.leads
    cases hc
    exact ⟨leads.quote, leads.apostrophe, leads.digit⟩

theorem oneToken_named {r : Reader} {c : Char} {tail rest : List Char}
    (h : r.rest = c :: tail ++ rest) (start : isNameStart c = true)
    (parts : ∀ d ∈ tail, isNamePart d = true) (ends : ∀ d ∈ rest.head?, isNamePart d = false)
    (apart : Parts rest) :
    ∃ r', oneToken c r = .ok (word.plain r (c :: tail), r') ∧ r'.rest = rest := by
  have leads := leads_of_isNameStart start
  obtain ⟨r', read, behind⟩ := word_spelling h
    (List.forall_mem_cons.2 ⟨isNamePart_of_isNameStart start, parts⟩) ends
    fun d hd => ⟨(apart d hd).1, (apart d hd).2.1⟩
  have dot : c ≠ '.' := ne_of_isNameStart start (by decide)
  refine ⟨r', ?_, behind⟩
  rw [oneToken, if_neg (by simp [leads.quote, leads.apostrophe]),
    if_neg (by simp [leads.digit, dot]), if_pos start, read]

theorem oneToken_mark {r : Reader} {p : Punct} {c : Char} {tail rest : List Char}
    (eq : p.chars = c :: tail) (h : r.rest = c :: tail ++ rest) (ends : Ends (.punct p) rest)
    (apart : Parts rest) :
    ∃ r', oneToken c r = .ok (⟨.punct p, r.pos, r.pos.line⟩, r') ∧ r'.rest = rest := by
  obtain ⟨_, _, eq', start, leads, -, dot⟩ := mark_chars p
  cases eq.symm.trans eq'
  have inside : (r.skip 1).rest = tail ++ rest := by
    rw [Reader.rest_skip, h]
    rfl
  have number : ¬(c.isDigit = true ∨ c = '.' ∧ (tail ++ rest).head?.any Char.isDigit = true) := by
    rintro (digit | ⟨rfl, digit⟩)
    · exact Bool.eq_false_iff.1 leads.digit digit
    · rw [dot rfl, List.nil_append, Option.any_eq_true] at digit
      obtain ⟨d, hd, digit⟩ := digit
      exact Bool.eq_false_iff.1 (apart d hd).2.2 digit
  have longest : Punct.longest? r.rest = some p := by rw [h, ← eq]; exact ends
  refine ⟨r.skip p.chars.length, ?_, Reader.rest_skip_append (eq ▸ h)⟩
  rw [oneToken, if_neg (by simp [leads.quote, leads.apostrophe]), inside, if_neg number,
    if_neg (by simp [start]), longest]

/-- A word is read up to its end. -/
theorem oneToken_word {r : Reader} {w : TokenKind} {rest : List Char}
    (h : r.rest = w.chars ++ rest) (isWord : IsWord w) (ends : Ends w rest) (apart : Parts rest) :
    ∃ c tail t r', r.rest = c :: tail ∧ Leads c ∧ oneToken c r = .ok (t, r') ∧ t.kind = w ∧
      r'.rest = rest := by
  cases isWord with
  | @name x name =>
    obtain ⟨⟨c, tail, eq, start, parts⟩, free⟩ := name
    rw [TokenKind.chars, eq] at h
    obtain ⟨r', read, behind⟩ := oneToken_named h start parts ends apart
    refine ⟨c, _, _, r', h, leads_of_isNameStart start, read, ?_, behind⟩
    simp only [word.plain, ← eq, String.ofList_toList, free]
  | @keyword k =>
    obtain ⟨c, tail, eq, start, parts⟩ := named_text k
    rw [TokenKind.chars, eq] at h
    obtain ⟨r', read, behind⟩ := oneToken_named h start parts ends apart
    refine ⟨c, _, _, r', h, leads_of_isNameStart start, read, ?_, behind⟩
    simp only [word.plain, ← eq, String.ofList_toList, ofText?_text]
  | @mark p =>
    obtain ⟨c, tail, eq, -, leads, -⟩ := mark_chars p
    rw [TokenKind.chars, eq] at h
    obtain ⟨r', read, behind⟩ := oneToken_mark eq h ends apart
    exact ⟨c, _, _, r', h, leads, read, rfl, behind⟩

/-! ### Blanks -/

theorem Leads.solid {c : Char} (h : Leads c) : c ≠ ' ' ∧ c ≠ '\t' ∧ c ≠ '\r' ∧ c ≠ '\x0c' ∧
    c ≠ '\n' := by
  refine ⟨?_, ?_, ?_, ?_, ?_⟩ <;>
  · rintro rfl
    cases h.space

/-- The characters that stand for themselves between two tokens. -/
def unread : List Char := [' ', '\t', '\r', '\x0c', '\n', '#', '\\']

theorem Leads.notMem_unread {c : Char} (h : Leads c) : c ∉ unread := by
  obtain ⟨space, tab, carriage, feed, line⟩ := h.solid
  simp [unread, space, tab, carriage, feed, line, h.comment, h.continuation]

/-- Nothing is skipped in front of a token. -/
theorem skipBlanks_stop {inBrackets : Bool} {c : Char} {tail : List Char} {r : Reader}
    (begins : c ∉ unread) (h : r.rest = c :: tail) :
    ∀ fuel : Nat, skipBlanks inBrackets fuel r = .ok r
  | 0 => rfl
  | fuel + 1 => by
    simp only [unread, List.mem_cons, List.not_mem_nil, or_false, not_or] at begins
    rw [skipBlanks, h]
    simp [begins]

theorem skipBlanks_gap (inBrackets : Bool) {c : Char} {tail : List Char} (leads : Leads c) :
    ∀ {gap : List Char} {fuel : Nat} {r : Reader}, (∀ d ∈ gap, isBlank d = true) →
      gap.length < fuel → r.rest = gap ++ c :: tail →
      ∃ r', skipBlanks inBrackets fuel r = .ok r' ∧ r'.rest = c :: tail
  | gap, 0, r, _, bound, _ => by simp at bound
  | [], fuel + 1, r, _, _, h => ⟨r, skipBlanks_stop leads.notMem_unread h _, h⟩
  | d :: gap, fuel + 1, r, blank, bound, h => by
    obtain ⟨hd, blank⟩ := List.forall_mem_cons.1 blank
    have behind : (r.skip 1).rest = gap ++ c :: tail := by
      rw [Reader.rest_skip, h]
      rfl
    obtain ⟨r', skipped, ahead⟩ :=
      skipBlanks_gap inBrackets leads blank (Nat.lt_of_succ_lt_succ bound) behind
    refine ⟨r', ?_, ahead⟩
    rw [skipBlanks, h]
    simp only [isBlank, decide_eq_true_eq] at hd
    simp only [List.cons_append, if_pos hd, skipped]

theorem skipBlanks_nil {inBrackets : Bool} {fuel : Nat} {r : Reader} (h : r.rest = []) :
    skipBlanks inBrackets fuel r = .ok r := by
  cases fuel with
  | zero => rfl
  | succ fuel => rw [skipBlanks, h]

/-! ### A line -/

namespace Scan

/-- Whether the scan is inside its first line, with no block open. -/
structure OnLine (s : Scan) : Prop where
  line : s.atLineStart = false
  widths : s.widths = [0]

/-- The end of the text ends the line. -/
theorem finish_kinds {s : Scan} (inside : s.OnLine) {t : Token} {ts : List Token}
    (ht : s.tokens = t :: ts) (solid : t.kind.isLayout = false) :
    s.finish.map (·.kind) = s.tokens.reverse.map (·.kind) ++ [.newline, .eof] := by
  have ended : s.endLine = s.push .newline s.reader.pos := by
    rw [endLine, ht]
    simp [solid]
  rw [finish, ended]
  simp [push, closeBlocks, inside.widths]

/-- A word behind blanks is one token. -/
theorem line_word (s : Scan) (fuel : Nat) {w : TokenKind} {gap rest : List Char}
    (blank : ∀ c ∈ gap, isBlank c = true) (h : s.reader.rest = gap ++ (w.chars ++ rest))
    (word : IsWord w) (ends : Ends w rest) (apart : Parts rest) :
    ∃ t r, run.line fuel s = run fuel (s.take t r) ∧ t.kind = w ∧ r.rest = rest := by
  obtain ⟨c, tail, eq, leads⟩ := word.chars.1
  rw [eq] at h
  have bound : gap.length < s.reader.rest.length + 1 := by
    rw [h, List.length_append]
    omega
  obtain ⟨r, skipped, ahead⟩ := skipBlanks_gap (s.depth > 0) leads blank bound h
  obtain ⟨_, _, t, r', first, -, read, kind, behind⟩ :=
    oneToken_word (by rw [ahead, eq]; rfl) word ends apart
  cases ahead.symm.trans first
  refine ⟨t, r', ?_, kind, behind⟩
  rw [run.line, skipped]
  dsimp only [bind, Except.bind]
  rw [ahead]
  dsimp only
  rw [if_neg leads.comment, if_neg leads.solid.2.2.2.2, read]
  rfl

theorem run_nil {s : Scan} (inside : s.OnLine) (h : s.reader.rest = []) :
    ∀ fuel : Nat, run fuel s = .ok s.finish
  | 0 => by rw [run]
  | fuel + 1 => by
    rw [run, inside.line, if_neg (by simp), run.line, skipBlanks_nil h]
    dsimp only [bind, Except.bind]
    rw [h]

/-- What is left of a line that spells words becomes tokens, and the line ends with them. -/
theorem line_spells {rest : List Char} {ws : List TokenKind} (h : Spells rest ws) :
    ∀ {gap : List Char} {fuel : Nat} {s : Scan}, s.OnLine → (∀ c ∈ gap, isBlank c = true) →
      s.reader.rest = gap ++ rest → rest.length ≤ fuel →
      ∃ ts, run.line fuel s = .ok ts ∧
        ts.map (·.kind) = s.tokens.reverse.map (·.kind) ++ ws ++ [.newline, .eof] := by
  induction h with
  | @last w word =>
    intro gap fuel s inside blank ahead bound
    obtain ⟨t, r, step, kind, behind⟩ := line_word s fuel blank
      (by rw [ahead, List.append_nil]) word word.ends_nil (by simp [Parts])
    have inside' : (s.take t r).OnLine := ⟨inside.line, inside.widths⟩
    refine ⟨(s.take t r).finish, by rw [step, run_nil inside' behind], ?_⟩
    rw [finish_kinds inside' rfl (kind ▸ word.solid)]
    simp [take, kind]
  | @more w gap' rest ws word blank' ends spells ih =>
    intro gap fuel s inside blank ahead bound
    obtain ⟨t, r, step, kind, behind⟩ := line_word s fuel blank ahead word ends
      (spells.parts blank')
    obtain ⟨c, tail, eq, -⟩ := word.chars.1
    rw [eq] at bound
    cases fuel with
    | zero => simp at bound
    | succ fuel =>
      have inside' : (s.take t r).OnLine := ⟨inside.line, inside.widths⟩
      have left : rest.length ≤ fuel := by
        simp only [List.length_append, List.length_cons] at bound
        omega
      obtain ⟨ts, read, kinds⟩ := ih inside' blank' behind left
      refine ⟨ts, ?_, by rw [kinds]; simp [take, kind]⟩
      rw [step, run, inside'.line, if_neg (by simp), read]

end Scan

/-- A text that begins with a token begins with a line that is not indented. -/
theorem tokens_eq_line {c : Char} {tail : List Char} (begins : c ∉ unread) :
    tokens (String.ofList (c :: tail)) =
      Scan.run.line (c :: tail).length ⟨⟨c :: tail, ⟨1, 1⟩⟩, false, [0], 0, []⟩ := by
  simp only [unread, List.mem_cons, List.not_mem_nil, or_false, not_or] at begins
  obtain ⟨space, tab, carriage, feed, line, comment, -⟩ := begins
  have width : indentWidth 0 (c :: tail) = 0 := by
    unfold indentWidth
    split <;> simp_all
  have filled : blankLine? (c :: tail) = none := by
    unfold blankLine?
    split <;> simp_all
  have unindented : (⟨c :: tail, ⟨1, 1⟩⟩ : Reader).skipWhile
      (fun c => c = ' ' ∨ c = '\t' ∨ c = '\x0c') = ⟨c :: tail, ⟨1, 1⟩⟩ := by
    rw [Reader.skipWhile, List.takeWhile_cons_of_neg (by simp [space, tab, feed])]
    rfl
  rw [tokens, String.toList_ofList, Scan.run]
  simp only [if_true, unindented, filled, width]
  rfl

/-- The tokens of a text that spells words are these words. -/
theorem tokens_of_spells {cs : List Char} {ws : List TokenKind} (h : Spells cs ws) :
    ∃ ts, tokens (String.ofList cs) = .ok ts ∧ ts.map (·.kind) = ws ++ [.newline, .eof] := by
  obtain ⟨c, tail, rfl, leads⟩ := h.leads
  let start : Scan := ⟨⟨c :: tail, ⟨1, 1⟩⟩, false, [0], 0, []⟩
  obtain ⟨ts, read, kinds⟩ := @Scan.line_spells _ _ h [] (c :: tail).length start ⟨rfl, rfl⟩
    (by simp) rfl (Nat.le_refl _)
  exact ⟨ts, (tokens_eq_line leads.notMem_unread).trans read, by rw [kinds]; rfl⟩

/-! ### Words with blanks between them -/

/-- Words with one space between any two. -/
def spaced : List TokenKind → List Char
  | [] => []
  | [w] => w.chars
  | w :: ws => w.chars ++ ' ' :: spaced ws

theorem IsWord.ends_space {w : TokenKind} (h : IsWord w) (rest : List Char) :
    Ends w (' ' :: rest) := by
  cases h with
  | name | keyword =>
    rintro c ⟨⟩
    decide
  | @mark p => cases p <;> rfl

theorem spells_spaced : ∀ {ws : List TokenKind}, ws ≠ [] → (∀ w ∈ ws, IsWord w) →
    Spells (spaced ws) ws
  | [], h, _ => absurd rfl h
  | [w], _, words => .last (words w List.mem_cons_self)
  | w :: w' :: ws, _, words => by
    have word := words w List.mem_cons_self
    exact @Spells.more _ [' '] _ _ word (by simp [isBlank]) (word.ends_space _)
      (spells_spaced (by simp) (List.forall_mem_cons.1 words).2)

end Stepwise.Script
