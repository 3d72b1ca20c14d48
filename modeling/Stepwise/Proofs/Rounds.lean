import Mathlib.Logic.Relation
import Stepwise.Proofs.Position

/-!
# Rounds of the scan

The scan goes on in rounds. A round begins a line, or reads a comment, a line end or one token
(`Scan.round`), and what a scan comes to is what it comes to after a round (`Scan.result_eq`), so
two scans that are alike after each round come to results that are alike (`Scan.result_sim`).

## The model

A token does not depend on where it stands, so it is read off the text alone (`spell`), and so are
the blanks in front of it (`skips?`); and since only a string goes over the end of a line, what
stands behind the line does not matter for any other token (`plain_append`). What holds of a string
however it goes on is shown by induction on what is behind (`stringBody_induction`).
-/

namespace Stepwise.Script

open Stepwise.Text

/-! ### Layout -/

namespace Scan

/-- Adds layout tokens, newest first, where the reader stands. -/
def pushAll (s : Scan) (kinds : List TokenKind) : Scan :=
  { s with tokens := kinds.map (⟨·, s.reader.pos, s.reader.pos.line⟩) ++ s.tokens }

/-- The layout of the end of a line. -/
def lineLayout (ts : List Token) : List TokenKind :=
  if ts.head?.any (!·.kind.isLayout) then [.newline] else []

theorem endLine_eq (s : Scan) : s.endLine = s.pushAll (lineLayout s.tokens) := by
  obtain ⟨r, b, ws, d, ts⟩ := s
  cases ts with
  | nil => rfl
  | cons t ts => cases layout : t.kind.isLayout <;> simp [endLine, lineLayout, pushAll, push, layout]

/-- The layout of blocks that are closed. -/
def closing (width : Nat) (ws : List Nat) : List TokenKind :=
  List.replicate (ws.takeWhile (width < ·)).length .dedent

theorem closeBlocks_eq (width : Nat) : ∀ (ws : List Nat) (s : Scan), s.widths = ws →
    s.closeBlocks width ws =
      { s with widths := ws.dropWhile (width < ·) }.pushAll (closing width ws)
  | [], ⟨_, _, _, _, _⟩, rfl => rfl
  | w :: ws, s, h => by
    rw [closeBlocks]
    split
    · next wider =>
      rw [closeBlocks_eq width ws _ rfl]
      simp [pushAll, push, closing, show width < w from wider, List.replicate_succ']
    · next notWider =>
      obtain ⟨_, _, _, _, _⟩ := s
      subst h
      simp [pushAll, closing, show ¬width < w from notWider]

/-- The widths of the open blocks, and the layout, where a line is indented by `width`. -/
def relevel? (width : Nat) (ws : List Nat) : Option (List Nat × List TokenKind) :=
  if width > ws.headD 0 then some (width :: ws, [.indent])
  else if width < ws.headD 0 then
    if (ws.dropWhile (width < ·)).head? = some width then
      some (ws.dropWhile (width < ·), closing width ws)
    else none
  else some (ws, [])

theorem indent_eq (s : Scan) (width : Nat) : s.indent width =
    match relevel? width s.widths with
    | some (ws, kinds) => .ok ({ s with widths := ws }.pushAll kinds)
    | none => .error ⟨.unindent, s.reader.pos⟩ := by
  unfold indent relevel?
  dsimp only
  split
  · rfl
  · split
    · rw [closeBlocks_eq width _ s rfl]
      show (if (s.widths.dropWhile (width < ·)).head? = some width then _ else _) = _
      split <;> rfl
    · rfl

theorem indent_iff {s t : Scan} {width : Nat} : s.indent width = .ok t ↔
    ∃ ws kinds, relevel? width s.widths = some (ws, kinds) ∧
      t = ({ s with widths := ws } : Scan).pushAll kinds := by
  rw [indent_eq]
  constructor
  · intro h
    split at h
    · next levels =>
      cases h
      exact ⟨_, _, levels, rfl⟩
    · cases h
  · rintro ⟨ws, kinds, levels, rfl⟩
    rw [levels]

/-- The layout at the end of the text. -/
def endLayout (s : Scan) : List TokenKind := .eof :: closing 0 s.widths ++ lineLayout s.tokens

theorem finish_eq (s : Scan) : s.finish = (s.pushAll s.endLayout).tokens.reverse := by
  unfold finish
  dsimp only
  rw [endLine_eq]
  rw [closeBlocks_eq 0 _ _ rfl]
  simp [pushAll, push, endLayout]

end Scan

/-! ### Rounds -/

/-- What a round comes to. -/
inductive Turn where
  /-- The text is at its end. -/
  | stop (s : Scan)
  /-- The scan goes on. -/
  | go (s : Scan)

/-- Whether two rounds come to scans that are related. -/
inductive Turn.Both (R : Scan → Scan → Prop) : Turn → Turn → Prop where
  | stop {s s' : Scan} : R s s' → Both R (.stop s) (.stop s')
  | go {s s' : Scan} : R s s' → Both R (.go s) (.go s')

/-- What a scan is after a round. -/
def Turn.scan : Turn → Scan
  | .stop s => s
  | .go s => s

/-- The tokens, if the scan goes on by `next`. -/
def Turn.onward (next : Scan → Except LexError (List Token)) : Turn → Except LexError (List Token)
  | .stop s => .ok s.finish
  | .go s => next s

namespace Scan

/-- A blank at the start of a line. -/
def isIndent (c : Char) : Bool := c = ' ' ∨ c = '\t' ∨ c = '\x0c'

/-- The reader behind the indentation. -/
def indented (s : Scan) : Reader := s.reader.skipWhile isIndent

/-- Begins a line: one without tokens is passed over, and of any other the indentation is read. -/
def begin (s : Scan) : Except LexError Turn :=
  match blankLine? s.indented.rest with
  | some n => .ok (.go { s with reader := s.indented.skip n })
  | none =>
    let inside := { s with reader := s.indented, atLineStart := false }
    if s.indented.rest.isEmpty then .ok (.stop inside)
    else do
      let t ← inside.indent (indentWidth 0 s.reader.rest)
      .ok (.go t)

/-- Behind the end of a line. -/
def lineEnd (s : Scan) : Scan :=
  let behind := { s with reader := s.reader.skip 1 }
  if s.depth = 0 then { behind.endLine with atLineStart := true } else behind

/-- Reads on behind blanks. -/
def readOn (s : Scan) : Except LexError Turn :=
  match s.reader.rest with
  | [] => .ok (.stop s)
  | c :: _ =>
    if c = '#' then .ok (.go { s with reader := s.reader.skipLine })
    else if c = '\n' then .ok (.go s.lineEnd)
    else do
      let (t, r) ← oneToken c s.reader
      .ok (.go (s.take t r))

/-- Skips the blanks in front of what comes next in a line. -/
def skipped (s : Scan) : Except LexError Reader :=
  skipBlanks (s.depth > 0) (s.reader.rest.length + 1) s.reader

/-- Reads on inside a line. -/
def inLine (s : Scan) : Except LexError Turn := do
  let r ← s.skipped
  readOn { s with reader := r }

/-- One round. -/
def round (s : Scan) : Except LexError Turn := if s.atLineStart then s.begin else s.inLine

/-! ### What a round can do -/

/-- How a line begins. -/
inductive Begins (s : Scan) : Turn → Prop where
  | blank {n} : blankLine? s.indented.rest = some n →
      Begins s (.go { s with reader := s.indented.skip n })
  | stops : s.indented.rest = [] →
      Begins s (.stop { s with reader := s.indented, atLineStart := false })
  | enters {t} : blankLine? s.indented.rest = none → s.indented.rest ≠ [] →
      indent { s with reader := s.indented, atLineStart := false }
        (indentWidth 0 s.reader.rest) = .ok t → Begins s (.go t)

/-- How a line goes on behind blanks. -/
inductive ReadsOn (s : Scan) : Turn → Prop where
  | stops : s.reader.rest = [] → ReadsOn s (.stop s)
  | comment {cs} : s.reader.rest = '#' :: cs →
      ReadsOn s (.go { s with reader := s.reader.skipLine })
  | lineEnd {cs} : s.reader.rest = '\n' :: cs → ReadsOn s (.go s.lineEnd)
  | token {c cs t r} : s.reader.rest = c :: cs → c ≠ '#' → c ≠ '\n' →
      oneToken c s.reader = .ok (t, r) → ReadsOn s (.go (s.take t r))

variable {s t : Scan} {turn : Turn}

theorem begin_iff : s.begin = .ok turn ↔ s.Begins turn := by
  unfold begin
  constructor
  · intro h
    split at h
    · next blank =>
      cases h
      exact .blank blank
    · next filled =>
      dsimp only at h
      split at h
      · next nothing =>
        cases h
        exact .stops (List.isEmpty_iff.1 nothing)
      · next more =>
        obtain ⟨t, indent, eq⟩ := bind_eq_ok.1 h
        cases eq
        exact .enters filled (mt List.isEmpty_iff.2 more) indent
  · intro h
    cases h with
    | blank blank => rw [blank]
    | stops nothing =>
      rw [nothing]
      rfl
    | enters filled more indent =>
      rw [filled]
      dsimp only
      rw [if_neg (mt List.isEmpty_iff.1 more), indent]
      rfl

theorem readOn_iff : s.readOn = .ok turn ↔ s.ReadsOn turn := by
  unfold readOn
  constructor
  · intro h
    split at h
    · next nothing =>
      cases h
      exact .stops nothing
    · next c cs first =>
      split at h
      · next comment =>
        cases h
        exact .comment (comment ▸ first)
      · next noComment =>
        split at h
        · next lineEnd =>
          cases h
          exact .lineEnd (lineEnd ▸ first)
        · next inLine =>
          obtain ⟨⟨t, r⟩, read, eq⟩ := bind_eq_ok.1 h
          cases eq
          exact .token first noComment inLine read
  · intro h
    cases h with
    | stops nothing => rw [nothing]
    | comment first =>
      rw [first]
      rfl
    | lineEnd first =>
      rw [first]
      rfl
    | token first noComment inLine read =>
      rw [first]
      dsimp only
      rw [if_neg noComment, if_neg inLine, read]
      rfl

theorem inLine_iff : s.inLine = .ok turn ↔
    ∃ r, s.skipped = .ok r ∧ ReadsOn { s with reader := r } turn := by
  simp only [inLine, bind_eq_ok, readOn_iff]

/-! ### Rounds go on -/

theorem indent_keeps {width : Nat} (h : s.indent width = .ok t) :
    t.atLineStart = s.atLineStart ∧ t.reader = s.reader := by
  obtain ⟨ws, kinds, -, rfl⟩ := indent_iff.1 h
  exact ⟨rfl, rfl⟩

/-- Behind the end of a line there is layout, and a line starts, unless a bracket is open. -/
theorem lineEnd_eq (s : Scan) : s.lineEnd =
    { ({ s with reader := s.reader.skip 1 } : Scan).pushAll
        (if s.depth = 0 then lineLayout s.tokens else []) with
      atLineStart := s.atLineStart || s.depth = 0 } := by
  unfold lineEnd
  dsimp only
  split
  · next closed =>
    rw [endLine_eq, decide_eq_true closed, Bool.or_true]
  · next opened =>
    rw [decide_eq_false opened, Bool.or_false]
    rfl

theorem reader_lineEnd (s : Scan) : s.lineEnd.reader = s.reader.skip 1 := by
  rw [lineEnd_eq]
  rfl

/-- A line without tokens has at least one character. -/
theorem blankLine?_pos {cs : List Char} {n : Nat} (h : blankLine? cs = some n) :
    0 < n ∧ cs ≠ [] := by
  unfold blankLine? at h
  split at h
  all_goals cases h
  all_goals exact ⟨Nat.succ_pos _, List.cons_ne_nil _ _⟩

/-- A line begins with characters that are read, or is begun for good. -/
theorem Begins.passes (h : s.Begins (.go t)) : ∃ used, s.reader.Passes used t.reader ∧
    (used ≠ [] ∧ t.atLineStart = s.atLineStart ∨ t.atLineStart = false) := by
  have indentation : s.reader.Passes _ s.indented := .skipWhile isIndent s.reader
  cases h with
  | @blank n blank =>
    obtain ⟨pos, filled⟩ := blankLine?_pos blank
    refine ⟨_, indentation.trans (.skipAny n s.indented), .inl ⟨?_, rfl⟩⟩
    refine List.append_ne_nil_of_right_ne_nil _ ?_
    rw [ne_eq, List.take_eq_nil_iff]
    exact not_or.2 ⟨pos.ne', filled⟩
  | enters _ _ indent =>
    obtain ⟨inside, reader⟩ := indent_keeps indent
    exact ⟨_, by rwa [reader], .inr inside⟩

/-- Behind blanks something is read; only the end of a line goes to the next line. -/
theorem ReadsOn.passes (h : s.ReadsOn (.go t)) : ∃ used last,
    s.reader.Passes (used ++ [last]) t.reader ∧ (last = '\n' → t = s.lineEnd ∧ used = []) := by
  cases h with
  | @comment cs first =>
    have passed := Reader.Passes.skipWhile (· ≠ '\n') s.reader
    have filled : s.reader.rest.takeWhile (· ≠ '\n') ≠ [] := by
      rw [first, List.takeWhile_cons_of_pos (by decide)]
      exact List.cons_ne_nil _ _
    refine ⟨_, _, (List.dropLast_concat_getLast filled).symm ▸ passed, fun newline => ?_⟩
    have inLine := List.mem_takeWhile_imp (List.getLast_mem filled)
    exact absurd newline (of_decide_eq_true inLine)
  | @lineEnd cs first =>
    exact ⟨[], '\n', reader_lineEnd s ▸ .one first, fun _ => ⟨rfl, rfl⟩⟩
  | token first _ inLine read =>
    obtain ⟨used, last, passed, notNewline⟩ := (oneToken_taken first inLine read).passes
    exact ⟨used, last, passed, fun newline => absurd newline notNewline⟩

theorem round_passes (h : s.round = .ok (.go t)) : ∃ used, s.reader.Passes used t.reader := by
  unfold round at h
  split at h
  · obtain ⟨used, passed, -⟩ := (begin_iff.1 h).passes
    exact ⟨used, passed⟩
  · obtain ⟨r, skipped, reads⟩ := inLine_iff.1 h
    obtain ⟨blanks, passed⟩ := skipBlanks_passes _ skipped
    obtain ⟨used, last, passed', -⟩ := reads.passes
    exact ⟨_, passed.trans passed'⟩

theorem rest_of_stop {e : Scan} (h : s.round = .ok (.stop e)) : e.reader.rest = [] := by
  unfold round at h
  split at h
  · cases begin_iff.1 h with
    | stops nothing => exact nothing
  · obtain ⟨r, -, reads⟩ := inLine_iff.1 h
    cases reads with
    | stops nothing => exact nothing

/-- What is left for a scan: two rounds for each character, and one for the start of a line. -/
def left (s : Scan) : Nat := 2 * s.reader.rest.length + s.atLineStart.toNat

theorem left_lt (h : s.round = .ok (.go t)) : t.left < s.left := by
  unfold left
  unfold round at h
  split at h
  · next start =>
    obtain ⟨used, passed, filled | inside⟩ := (begin_iff.1 h).passes
    · have := List.length_pos_iff.2 filled.1
      rw [passed.rest, List.length_append, filled.2]
      omega
    · rw [passed.rest, List.length_append, inside, start]
      simp only [Bool.toNat_false, Bool.toNat_true]
      omega
  · obtain ⟨r, skipped, reads⟩ := inLine_iff.1 h
    obtain ⟨blanks, passed⟩ := skipBlanks_passes _ skipped
    obtain ⟨used, last, passed', -⟩ := reads.passes
    have := t.atLineStart.toNat_le
    rw [passed.rest, passed'.rest]
    simp only [List.length_append, List.length_singleton]
    omega

/-! ### What a scan comes to -/

/-- What a scan comes to. -/
def result (s : Scan) : Except LexError (List Token) := run (s.reader.rest.length + 1) s

theorem run_inLine {fuel : Nat} (inside : s.atLineStart = false) :
    run (fuel + 1) s = s.inLine >>= Turn.onward (run fuel) := by
  rw [run, inside, if_neg Bool.false_ne_true, run.line, inLine, skipped]
  cases skipBlanks (s.depth > 0) (s.reader.rest.length + 1) s.reader with
  | error e => rfl
  | ok r =>
    dsimp only [bind, Except.bind, readOn]
    cases r.rest with
    | nil => rfl
    | cons c cs =>
      dsimp only
      split
      · rfl
      · split
        · rfl
        · cases oneToken c r <;> rfl

theorem run_begin {fuel : Nat} (start : s.atLineStart = true) :
    run (fuel + 1) s = s.begin >>= Turn.onward fun t =>
      run (if t.atLineStart then fuel else fuel + 1) t := by
  have blanks : s.reader.skipWhile (fun c => c = ' ' ∨ c = '\t' ∨ c = '\x0c') = s.indented := rfl
  rw [run, if_pos start, begin]
  dsimp only
  rw [blanks]
  cases blankLine? s.indented.rest with
  | some n =>
    show run fuel _ = run (if s.atLineStart = true then fuel else fuel + 1) _
    rw [if_pos start]
  | none =>
    dsimp only
    split
    · rfl
    · cases read : indent { s with reader := s.indented, atLineStart := false }
        (indentWidth 0 s.reader.rest) with
      | error e => rfl
      | ok t =>
        have inside := (indent_keeps read).1
        show run.line fuel t = run (if t.atLineStart = true then fuel else fuel + 1) t
        rw [inside, if_neg Bool.false_ne_true, run, inside, if_neg Bool.false_ne_true]

theorem onward_congr {x : Except LexError Turn} {f g : Scan → Except LexError (List Token)}
    (h : ∀ t, x = .ok (.go t) → f t = g t) : x >>= Turn.onward f = x >>= Turn.onward g := by
  rcases x with e | t | t
  · rfl
  · rfl
  · exact h t rfl

/-- With enough fuel a run comes to what it comes to after a round. -/
theorem run_eq {fuel : Nat} (enough : s.reader.rest.length < fuel) :
    run fuel s = s.round >>= Turn.onward result := by
  induction n : s.left using Nat.strong_induction_on generalizing s fuel with
  | _ n ih =>
  subst n
  have next (t : Scan) (h : s.round = .ok (.go t)) {fuel : Nat}
      (enough : t.reader.rest.length < fuel) : run fuel t = result t := by
    rw [result, ih _ (left_lt h) enough rfl, ih _ (left_lt h) (Nat.lt_succ_self _) rfl]
  obtain ⟨fuel, rfl⟩ := Nat.exists_eq_add_one.2 (Nat.zero_lt_of_lt enough)
  have shorter (t : Scan) (h : s.round = .ok (.go t)) :
      t.reader.rest.length ≤ s.reader.rest.length := by
    obtain ⟨used, passed⟩ := round_passes h
    rw [passed.rest, List.length_append]
    omega
  cases start : s.atLineStart with
  | true =>
    have begins : s.round = s.begin := if_pos start
    rw [run_begin start, begins]
    refine onward_congr fun t h => next t (begins.trans h) ?_
    have := shorter t (begins.trans h)
    have less := left_lt (begins.trans h)
    unfold left at less
    rw [start, Bool.toNat_true] at less
    split
    · next again =>
      rw [again, Bool.toNat_true] at less
      omega
    · omega
  | false =>
    have goesOn : s.round = s.inLine := by rw [round, start, if_neg Bool.false_ne_true]
    rw [run_inLine start, goesOn]
    refine onward_congr fun t h => next t (goesOn.trans h) ?_
    have := left_lt (goesOn.trans h)
    unfold left at this
    rw [start, Bool.toNat_false] at this
    omega

/-- A scan comes to what it comes to after a round. -/
theorem result_eq (s : Scan) : s.result = s.round >>= Turn.onward result :=
  run_eq (Nat.lt_succ_self _)

/-- Two scans that stay alike round by round come to results that are alike. -/
theorem result_sim {R : Scan → Scan → Prop}
    {Q : Except LexError (List Token) → Except LexError (List Token) → Prop}
    (step : ∀ s s', R s s' → (∃ t t', s.round = .ok (.go t) ∧ s'.round = .ok (.go t') ∧ R t t') ∨
      Q s.result s'.result) {s s' : Scan} (h : R s s') : Q s.result s'.result := by
  induction n : s.left using Nat.strong_induction_on generalizing s s' with
  | _ n ih =>
  subst n
  rcases step s s' h with ⟨t, t', round, round', alike⟩ | done
  · rw [result_eq s, result_eq s', round, round']
    exact ih _ (left_lt round) alike rfl
  · exact done

/-! ### The way to a place -/

/-- Whether a scan comes to a state after some rounds. -/
def Comes : Scan → Scan → Prop := Relation.ReflTransGen fun s t => s.round = .ok (.go t)

theorem Comes.result (h : s.Comes t) : s.result = t.result := by
  induction h with
  | refl => rfl
  | tail _ round ih =>
    rw [ih, result_eq, round]
    rfl

theorem Comes.suffix (h : s.Comes t) : t.reader.rest <:+ s.reader.rest := by
  induction h with
  | refl => exact List.suffix_rfl
  | tail _ round ih =>
    obtain ⟨used, passed⟩ := round_passes round
    exact (passed.rest ▸ List.suffix_append used _).trans ih

/-- A scan that has tokens has come to the end of the text. -/
theorem comes_stop {ts : List Token} (h : s.result = .ok ts) :
    ∃ t e, s.Comes t ∧ t.round = .ok (.stop e) ∧ ts = e.finish := by
  induction n : s.left using Nat.strong_induction_on generalizing s with
  | _ n ih =>
  subst n
  rw [result_eq] at h
  obtain ⟨turn, round, h⟩ := bind_eq_ok.1 h
  cases turn with
  | stop e => exact ⟨s, e, .refl, round, (Except.ok.inj h).symm⟩
  | go s' =>
    obtain ⟨t, e, comes, stops, eq⟩ := ih _ (left_lt round) h rfl
    exact ⟨t, e, .head round comes, stops, eq⟩

/-- The scan of a text from its start. -/
def start (cs : List Char) : Scan := ⟨⟨cs, ⟨1, 1⟩⟩, true, [0], 0, []⟩

end Scan

theorem tokens_eq_result (cs : List Char) :
    tokens (String.ofList cs) = (Scan.start cs).result := by
  rw [tokens, String.toList_ofList]
  rfl

/-! ### Tokens as they are spelled -/

/-- How a string literal opens. -/
structure Opening where
  /-- Its quote. -/
  quote : Char
  /-- Whether backslashes stand for themselves. -/
  raw : Bool
  /-- Whether it is an f-string. -/
  formatted : Bool
  /-- The number of characters up to its first quote, with the quote. -/
  length : Nat

/-- Whether letters at the start of a text make a string literal of the quote behind them. -/
def marked? (cs : List Char) : Option Opening :=
  let marks := cs.takeWhile isNamePart
  match cs.drop marks.length, stringMarks? marks with
  | quote :: _, some (raw, formatted) =>
    if quote = '"' ∨ quote = '\'' then some ⟨quote, raw, formatted, marks.length + 1⟩ else none
  | _, _ => none

/-- Whether `c`, in front of `cs`, starts a number. -/
def startsNumber (c : Char) (cs : List Char) : Bool :=
  c.isDigit ∨ (c = '.' ∧ cs.head?.any Char.isDigit)

/-- Whether a string literal opens at `c`, in front of `cs`. -/
def opening? (c : Char) (cs : List Char) : Option Opening :=
  if c = '"' ∨ c = '\'' then some ⟨c, false, false, 1⟩
  else if startsNumber c cs then none
  else if isNameStart c then marked? (c :: cs)
  else none

/-- The literal that opens in front of `cs`: its kind and the number of characters it takes of
`cs`. -/
def Opening.literal (o : Opening) (cs : List Char) : Except LexProblem (TokenKind × Nat) :=
  (stringLiteral o.quote o.raw cs).map fun (text, n) =>
    (if o.formatted then .fstring text else .str text, n)

/-- The name or the keyword with some characters. -/
def nameKind (chars : List Char) : TokenKind :=
  match Keyword.ofText? (String.ofList chars) with
  | some k => .keyword k
  | none => .ident (String.ofList chars)

/-- The token at `c`, in front of `cs`, if no string literal opens there: its kind and the number of
characters it takes, or what is wrong and the number of characters in front of that. -/
def plain (c : Char) (cs : List Char) : Except (LexProblem × Nat) (TokenKind × Nat) :=
  if startsNumber c cs then
    match number c cs with
    | .ok (k, n) => .ok (k, 1 + n)
    | .error p => .error (p, 1)
  else if isNameStart c then
    let chars := (c :: cs).takeWhile isNamePart
    .ok (nameKind chars, chars.length)
  else match Punct.longest? (c :: cs) with
    | some p => .ok (.punct p, p.chars.length)
    | none => .error (if c = '!' then .loneBang else .invalidCharacter c, 0)

/-- The token at `c`, in front of `cs`: its kind and the number of characters it takes, or what is
wrong and the number of characters in front of that. -/
def spell (c : Char) (cs : List Char) : Except (LexProblem × Nat) (TokenKind × Nat) :=
  match opening? c cs with
  | some o =>
    match o.literal ((c :: cs).drop o.length) with
    | .ok (k, n) => .ok (k, o.length + n)
    | .error p => .error (p, o.length)
  | none => plain c cs

/-- Gives a token, or what is wrong, its place. -/
def Reader.placed (r : Reader) :
    Except (LexProblem × Nat) (TokenKind × Nat) → Except LexError (Token × Reader)
  | .ok (k, n) => .ok (⟨k, r.pos, (r.skip n).pos.line⟩, r.skip n)
  | .error (p, n) => .error ⟨p, (r.skip n).pos⟩

theorem Reader.skip_nil {r : Reader} (h : r.rest = []) (n : Nat) : r.skip n = r := by
  cases n with
  | zero => rfl
  | succ n => rw [Reader.skip, h]

theorem Reader.skip_skip (r : Reader) (m n : Nat) : (r.skip m).skip n = r.skip (m + n) := by
  induction m generalizing r with
  | zero => rw [Nat.zero_add, Reader.skip]
  | succ m ih =>
    rw [Nat.succ_add, Reader.skip, Reader.skip]
    cases h : r.rest with
    | nil => exact skip_nil h n
    | cons c cs => exact ih _

/-- A token within a line ends on its line. -/
theorem placed_within {r : Reader} {c : Char} {cs : List Char} (first : r.rest = c :: cs)
    (line : c ≠ '\n') {k : TokenKind} {n : Nat}
    (h : oneToken c r = .ok (⟨k, r.pos, r.pos.line⟩, r.skip n)) :
    oneToken c r = r.placed (.ok (k, n)) := by
  have ends := (oneToken_taken first line h).endLine
  rw [h, Reader.placed, ← ends]

theorem word_eq {r : Reader} {chars : List Char} (h : r.rest.takeWhile isNamePart = chars) :
    word r =
      match r.rest.drop chars.length, stringMarks? chars with
      | quote :: cs, some (raw, formatted) =>
        if quote = '"' ∨ quote = '\'' then do
          let inside := r.skip (chars.length + 1)
          let (text, n) ← inside.located (stringLiteral quote raw cs)
          .ok (⟨if formatted then .fstring text else .str text, r.pos, (inside.skip n).pos.line⟩,
            inside.skip n)
        else .ok (⟨nameKind chars, r.pos, r.pos.line⟩, r.skip chars.length)
      | _, _ => .ok (⟨nameKind chars, r.pos, r.pos.line⟩, r.skip chars.length) := by
  rw [word, h, Reader.rest_skip, ← Reader.skip_skip]
  rfl

/-- A string literal is read behind its first quote. -/
theorem placed_literal {r : Reader} {c : Char} {cs : List Char} {o : Opening}
    (first : r.rest = c :: cs) (h : opening? c cs = some o) :
    r.placed (spell c cs) = (do
      let inside := r.skip o.length
      let (text, n) ← inside.located (stringLiteral o.quote o.raw inside.rest)
      .ok (⟨if o.formatted then .fstring text else .str text, r.pos, (inside.skip n).pos.line⟩,
        inside.skip n)) := by
  rw [spell, h]
  dsimp only
  rw [← first, ← Reader.rest_skip, Opening.literal]
  cases stringLiteral o.quote o.raw (r.skip o.length).rest with
  | error p => rfl
  | ok read =>
    show r.placed (.ok (_, o.length + read.2)) = .ok (_, (r.skip o.length).skip read.2)
    rw [Reader.skip_skip]
    rfl

theorem placed_plain {r : Reader} {c : Char} {cs : List Char} (h : opening? c cs = none) :
    r.placed (spell c cs) = r.placed (plain c cs) := by
  rw [spell, h]

/-- A token is what is spelled where the reader stands. -/
theorem oneToken_eq {r : Reader} {c : Char} {cs : List Char} (first : r.rest = c :: cs)
    (line : c ≠ '\n') : oneToken c r = r.placed (spell c cs) := by
  have behind : (r.skip 1).rest = cs := Reader.rest_one first
  by_cases quote : c = '"' ∨ c = '\''
  · have opening : opening? c cs = some ⟨c, false, false, 1⟩ := if_pos quote
    rw [placed_literal first opening, oneToken, if_pos quote]
    rfl
  by_cases digit : startsNumber c cs
  · have digit' : c.isDigit ∨ (c = '.' ∧ cs.head?.any Char.isDigit) := of_decide_eq_true digit
    have opening : opening? c cs = none := by rw [opening?, if_neg quote, if_pos digit]
    have eq : oneToken c r = (r.skip 1).located (number c cs) >>= fun kn =>
        .ok (⟨kn.1, r.pos, r.pos.line⟩, r.skip (1 + kn.2)) := by
      simp only [oneToken, if_neg quote, behind, if_pos digit', Reader.skip_skip]
    rw [placed_plain opening, plain, if_pos digit]
    cases read : number c cs with
    | error p =>
      rw [eq, read]
      rfl
    | ok kn => exact placed_within first line (by rw [eq, read]; rfl)
  have digit' : ¬(c.isDigit ∨ (c = '.' ∧ cs.head?.any Char.isDigit)) :=
    mt decide_eq_true digit
  by_cases name : isNameStart c
  · have opening : opening? c cs = marked? (c :: cs) := by
      rw [opening?, if_neg quote, if_neg digit, if_pos name]
    have eq : oneToken c r = word r := by
      rw [oneToken, if_neg quote, behind, if_neg digit', if_pos name]
    obtain ⟨chars, hchars⟩ : ∃ chars, (c :: cs).takeWhile isNamePart = chars := ⟨_, rfl⟩
    rw [word_eq (first ▸ hchars), first] at eq
    have named (notOpen : marked? (c :: cs) = none) (eq : oneToken c r =
        .ok (⟨nameKind chars, r.pos, r.pos.line⟩, r.skip chars.length)) :
        oneToken c r = r.placed (spell c cs) := by
      rw [placed_plain (opening.trans notOpen), plain, if_neg digit, if_pos name, hchars]
      exact placed_within first line eq
    cases ahead : (c :: cs).drop chars.length with
    | nil => exact named (by simp only [marked?, hchars, ahead]) (by rw [eq, ahead])
    | cons q rest =>
      cases marks : stringMarks? chars with
      | none => exact named (by simp only [marked?, hchars, ahead, marks]) (by rw [eq, ahead, marks])
      | some mark =>
        by_cases isQuote : q = '"' ∨ q = '\''
        · have opens : marked? (c :: cs) = some ⟨q, mark.1, mark.2, chars.length + 1⟩ := by
            simp only [marked?, hchars, ahead, marks, if_pos isQuote]
          have inside : (r.skip (chars.length + 1)).rest = rest := by
            rw [← Reader.skip_skip, Reader.rest_skip, Reader.rest_skip, first, ahead]
            rfl
          rw [placed_literal first (opening.trans opens), eq, ahead, marks]
          dsimp only
          rw [if_pos isQuote, inside]
        · exact named (by simp only [marked?, hchars, ahead, marks, if_neg isQuote])
            (by rw [eq, ahead, marks]; exact if_neg isQuote)
  · have opening : opening? c cs = none := by
      rw [opening?, if_neg quote, if_neg digit, if_neg name]
    rw [placed_plain opening, plain, if_neg digit, if_neg name]
    cases read : Punct.longest? (c :: cs) with
    | none =>
      rw [oneToken, if_neg quote, behind, if_neg digit', if_neg name, first, read]
      rfl
    | some p =>
      exact placed_within first line
        (by rw [oneToken, if_neg quote, behind, if_neg digit', if_neg name, first, read])

/-- Whether a token is a string literal. -/
def TokenKind.isString : TokenKind → Bool
  | .str _ | .fstring _ => true
  | _ => false

/-- Only a string goes over the end of a line. -/
theorem oneToken_string {c : Char} {r r' : Reader} {t : Token} (h : oneToken c r = .ok (t, r')) :
    t.endLine = t.pos.line ∨ t.kind.isString = true := by
  unfold oneToken at h
  dsimp only at h
  split at h
  · obtain ⟨_, -, eq⟩ := bind_eq_ok.1 h
    cases eq
    exact .inr rfl
  split at h
  · obtain ⟨_, -, eq⟩ := bind_eq_ok.1 h
    cases eq
    exact .inl rfl
  split at h
  · unfold word at h
    dsimp only at h
    split at h
    · split at h
      · obtain ⟨_, -, eq⟩ := bind_eq_ok.1 h
        cases eq
        refine .inr ?_
        dsimp only
        split <;> rfl
      · cases h
        exact .inl rfl
    · cases h
      exact .inl rfl
  · split at h
    · cases h
      exact .inl rfl
    · cases h

/-! ### Blanks, one at a time -/

/-- How many characters are skipped at once at the start of a text: none in front of what is no
blank, and no number where a backslash stands in front of anything but the end of a line. -/
def skips? (inBrackets : Bool) : List Char → Option Nat
  | [] => some 0
  | c :: cs =>
    if c = ' ' ∨ c = '\t' ∨ c = '\r' ∨ c = '\x0c' then some 1
    else if c = '\n' ∧ inBrackets then some 1
    else if c = '#' ∧ inBrackets then some ((cs.takeWhile (· ≠ '\n')).length + 1)
    else if c = '\\' then
      if ['\n'].isPrefixOf cs then some 2
      else if ['\r', '\n'].isPrefixOf cs then some 3
      else none
    else some 0

theorem skips?_comment (cs : List Char) :
    skips? true ('#' :: cs) = some ((cs.takeWhile (· ≠ '\n')).length + 1) := rfl

section

variable {inBrackets : Bool} {r : Reader} {cs : List Char}

theorem Reader.skipLine_comment (first : r.rest = '#' :: cs) :
    r.skipLine = r.skip ((cs.takeWhile (· ≠ '\n')).length + 1) := by
  rw [Reader.skipLine, Reader.skipWhile, first, List.takeWhile_cons_of_pos (by decide),
    List.length_cons]

theorem skipBlanks_succ (inBrackets : Bool) (fuel : Nat) (r : Reader) :
    skipBlanks inBrackets (fuel + 1) r =
      match skips? inBrackets r.rest with
      | none => .error ⟨.afterContinuation, r.pos⟩
      | some 0 => .ok r
      | some (n + 1) => skipBlanks inBrackets fuel (r.skip (n + 1)) := by
  rw [skipBlanks]
  cases first : r.rest with
  | nil => rfl
  | cons c cs =>
    rw [skips?]
    dsimp only
    split_ifs with blank feed comment backslash lineFeed carriage
    · rfl
    · rfl
    · rw [Reader.skipLine_comment (comment.1 ▸ first)]
    · obtain ⟨ds, rfl⟩ := List.isPrefixOf_iff_prefix.1 lineFeed
      rfl
    · obtain ⟨ds, rfl⟩ := List.isPrefixOf_iff_prefix.1 carriage
      rfl
    · split
      · simp at lineFeed
      · simp at carriage
      · rfl
    · rfl

theorem Reader.skips_lt {n : Nat} (h : skips? inBrackets r.rest = some (n + 1)) :
    (r.skip (n + 1)).rest.length < r.rest.length := by
  rw [Reader.rest_skip, List.length_drop]
  cases first : r.rest with
  | nil =>
    rw [first] at h
    cases h
  | cons c cs =>
    rw [List.length_cons]
    omega

end

/-! ### Strings, piece by piece -/

/-- More text in front of that of a string. -/
def prepend (front : List Char) (x : Except LexProblem (List Char × List Char)) :
    Except LexProblem (List Char × List Char) := do
  let (t, rest) ← x
  .ok (front ++ t, rest)

@[simp] theorem prepend_nil (x : Except LexProblem (List Char × List Char)) : prepend [] x = x := by
  cases x <;> rfl

/-- An escape, if a backslash does not stand for itself. -/
def escaped (style : StringStyle) (e : Char) (cs : List Char) :
    Except LexProblem (List Char × List Char) :=
  if e = '\n' then stringBody style cs
  else match simpleEscape? e with
    | some c => prepend [c] (stringBody style cs)
    | none =>
      if e = 'x' then
        match cs with
        | a :: b :: cs => do
          let c ← hexChar [a, b]
          prepend [c] (stringBody style cs)
        | _ => .error .truncatedEscape
      else if e = 'u' then
        match cs with
        | a :: b :: c :: d :: cs => do
          let u ← hexChar [a, b, c, d]
          prepend [u] (stringBody style cs)
        | _ => .error .truncatedEscape
      else prepend ['\\', e] (stringBody style cs)

section

variable {style : StringStyle}

theorem stringBody_backslash (e : Char) (cs : List Char) :
    stringBody style ('\\' :: e :: cs) =
      if style.raw then prepend ['\\', e] (stringBody style cs) else escaped style e cs := by
  rw [stringBody.eq_def]
  rfl

theorem escaped_lineEnd (cs : List Char) : escaped style '\n' cs = stringBody style cs := by
  unfold escaped
  exact if_pos rfl

theorem escaped_simple {e c : Char} (he : simpleEscape? e = some c) (cs : List Char) :
    escaped style e cs = prepend [c] (stringBody style cs) := by
  have line : e ≠ '\n' := by
    rintro rfl
    cases he
  unfold escaped
  rw [if_neg line, he]

theorem escaped_hex (a b : Char) (cs : List Char) :
    escaped style 'x' (a :: b :: cs) = (do
      let c ← hexChar [a, b]
      prepend [c] (stringBody style cs)) := rfl

theorem escaped_unicode (a b c d : Char) (cs : List Char) :
    escaped style 'u' (a :: b :: c :: d :: cs) = (do
      let u ← hexChar [a, b, c, d]
      prepend [u] (stringBody style cs)) := rfl

theorem escaped_other {e : Char} (line : e ≠ '\n') (he : simpleEscape? e = none) (hex : e ≠ 'x')
    (unicode : e ≠ 'u') (cs : List Char) :
    escaped style e cs = prepend ['\\', e] (stringBody style cs) := by
  unfold escaped
  rw [if_neg line, he]
  dsimp only
  rw [if_neg hex, if_neg unicode]

theorem stringBody_quote (escape : style.quote ≠ '\\') (cs : List Char) :
    stringBody style (style.quote :: cs) =
      if style.triple then
        if [style.quote, style.quote].isPrefixOf cs then .ok ([], cs.drop 2)
        else prepend [style.quote] (stringBody style cs)
      else .ok ([], cs) := by
  rw [stringBody, if_pos rfl]
  · rfl
  · exact escape

theorem stringBody_char {c : Char} (escape : c ≠ '\\') (quote : c ≠ style.quote) (cs : List Char) :
    stringBody style (c :: cs) =
      if c = '\n' ∧ !style.triple then .error .unterminatedString
      else prepend [c] (stringBody style cs) := by
  rw [stringBody, if_neg quote]
  · rfl
  · exact escape

/-- What holds of a string however it goes on, if it does for the text behind, holds of all. -/
theorem stringBody_induction
    {motive : List Char → Except LexProblem (List Char × List Char) → Prop}
    (nothing : motive [] (.error .unterminatedString))
    (backslash : motive ['\\'] (.error .unterminatedString))
    (raw : ∀ e cs, style.raw = true → motive cs (stringBody style cs) →
      motive ('\\' :: e :: cs) (prepend ['\\', e] (stringBody style cs)))
    (feed : ∀ cs, ¬style.raw = true → motive cs (stringBody style cs) →
      motive ('\\' :: '\n' :: cs) (stringBody style cs))
    (simple : ∀ e cs c, ¬style.raw = true → e ≠ '\n' → simpleEscape? e = some c →
      motive cs (stringBody style cs) →
      motive ('\\' :: e :: cs) (prepend [c] (stringBody style cs)))
    (hex : ∀ a b cs, ¬style.raw = true → motive cs (stringBody style cs) →
      motive ('\\' :: 'x' :: a :: b :: cs)
        (hexChar [a, b] >>= fun c => prepend [c] (stringBody style cs)))
    (hexShort : ∀ cs, ¬style.raw = true → cs.length < 2 →
      motive ('\\' :: 'x' :: cs) (.error .truncatedEscape))
    (unicode : ∀ a b c d cs, ¬style.raw = true → motive cs (stringBody style cs) →
      motive ('\\' :: 'u' :: a :: b :: c :: d :: cs)
        (hexChar [a, b, c, d] >>= fun u => prepend [u] (stringBody style cs)))
    (unicodeShort : ∀ cs, ¬style.raw = true → cs.length < 4 →
      motive ('\\' :: 'u' :: cs) (.error .truncatedEscape))
    (other : ∀ e cs, ¬style.raw = true → e ≠ '\n' → simpleEscape? e = none → e ≠ 'x' → e ≠ 'u' →
      motive cs (stringBody style cs) →
      motive ('\\' :: e :: cs) (prepend ['\\', e] (stringBody style cs)))
    (quotes : ∀ cs, style.quote ≠ '\\' → style.triple = true →
      [style.quote, style.quote].isPrefixOf cs = true →
      motive (style.quote :: cs) (.ok ([], cs.drop 2)))
    (quote : ∀ cs, style.quote ≠ '\\' → style.triple = true →
      ¬[style.quote, style.quote].isPrefixOf cs = true → motive cs (stringBody style cs) →
      motive (style.quote :: cs) (prepend [style.quote] (stringBody style cs)))
    (single : ∀ cs, style.quote ≠ '\\' → ¬style.triple = true →
      motive (style.quote :: cs) (.ok ([], cs)))
    (cut : ∀ cs, style.quote ≠ '\n' → ¬style.triple = true →
      motive ('\n' :: cs) (.error .unterminatedString))
    (char : ∀ c cs, c ≠ '\\' → c ≠ style.quote → ¬(c = '\n' ∧ !style.triple) →
      motive cs (stringBody style cs) → motive (c :: cs) (prepend [c] (stringBody style cs)))
    (cs : List Char) : motive cs (stringBody style cs) := by
  induction n : cs.length using Nat.strong_induction_on generalizing cs with
  | _ n ih =>
  subst n
  have behind (front : List Char) {ds : List Char} (filled : front ≠ []) (eq : cs = front ++ ds) :
      motive ds (stringBody style ds) := by
    refine ih ds.length ?_ ds rfl
    rw [eq, List.length_append]
    exact Nat.lt_add_of_pos_left (List.length_pos_iff.2 filled)
  clear ih
  rcases cs with _ | ⟨c, cs⟩
  · exact nothing
  by_cases escape : c = '\\'
  · subst escape
    rcases cs with _ | ⟨e, cs⟩
    · exact backslash
    have inner := behind ['\\', e] (by simp) rfl
    rw [stringBody_backslash]
    by_cases isRaw : style.raw = true
    · rw [if_pos isRaw]
      exact raw e cs isRaw inner
    rw [if_neg isRaw]
    by_cases line : e = '\n'
    · subst line
      exact feed cs isRaw inner
    cases he : simpleEscape? e with
    | some c =>
      rw [escaped_simple he]
      exact simple e cs c isRaw line he inner
    | none =>
      by_cases isX : e = 'x'
      · subst isX
        rcases cs with _ | ⟨a, _ | ⟨b, cs⟩⟩
        · exact hexShort _ isRaw (by simp)
        · exact hexShort _ isRaw (by simp)
        · exact hex a b cs isRaw (behind ['\\', 'x', a, b] (by simp) rfl)
      by_cases isU : e = 'u'
      · subst isU
        rcases cs with _ | ⟨a, _ | ⟨b, _ | ⟨c, _ | ⟨d, cs⟩⟩⟩⟩
        · exact unicodeShort _ isRaw (by simp)
        · exact unicodeShort _ isRaw (by simp)
        · exact unicodeShort _ isRaw (by simp)
        · exact unicodeShort _ isRaw (by simp)
        · exact unicode a b c d cs isRaw (behind ['\\', 'u', a, b, c, d] (by simp) rfl)
      rw [escaped_other line he isX isU]
      exact other e cs isRaw line he isX isU inner
  have inner := behind [c] (by simp) rfl
  by_cases isQuote : c = style.quote
  · subst isQuote
    rw [stringBody_quote escape]
    split_ifs with triple closing
    · exact quotes cs escape triple closing
    · exact quote cs escape triple closing inner
    · exact single cs escape triple
  · rw [stringBody_char escape isQuote]
    split_ifs with line
    · obtain ⟨rfl, isSingle⟩ := line
      exact cut cs (Ne.symm isQuote) (by simpa using isSingle)
    · exact char c cs escape isQuote line inner

end

/-! ### What stands behind the line -/

/-- Whether a text is empty or begins with the end of a line. -/
def Breaks (e : List Char) : Prop := ∀ c ∈ e.head?, c = '\n' ∨ c = '\r'

section

variable {a e : List Char}

theorem Breaks.head (h : Breaks e) {p : Char → Bool} (feed : p '\n' = false)
    (carriage : p '\r' = false) : ∀ c ∈ e.head?, p c = false := by
  intro c hc
  obtain rfl | rfl := h c hc
  · exact feed
  · exact carriage

theorem takeWhile_append_stop {p : Char → Bool} (stops : ∀ c ∈ e.head?, p c = false) :
    (a ++ e).takeWhile p = a.takeWhile p := by
  induction a with
  | nil =>
    cases e with
    | nil => rfl
    | cons c e => exact List.takeWhile_cons_of_neg (Bool.eq_false_iff.1 (stops c rfl))
  | cons c a ih =>
    rw [List.cons_append, List.takeWhile_cons, List.takeWhile_cons, ih]

theorem head?_any_append {p : Char → Bool} (stops : ∀ c ∈ e.head?, p c = false) :
    (a ++ e).head?.any p = a.head?.any p := by
  cases a with
  | nil =>
    cases e with
    | nil => rfl
    | cons c e => exact stops c rfl
  | cons c a => rfl

/-- The end of a line is no digit. -/
theorem Breaks.noDigit (h : Breaks e) : ∀ c ∈ e.head?, c.isDigit = false :=
  h.head (by decide) (by decide)

theorem radixDigits_append (radix : Nat) (ends : Breaks e) (a : List Char) :
    radixDigits radix (a ++ e) = ((radixDigits radix a).1, (radixDigits radix a).2 ++ e) := by
  induction a with
  | nil =>
    rw [List.nil_append, radixDigits, List.nil_append]
    cases e with
    | nil => rfl
    | cons c e => obtain rfl | rfl := ends c rfl <;> rfl
  | cons c a ih =>
    rw [List.cons_append, radixDigits, radixDigits, ih]
    split
    · rfl
    · split <;> rfl

theorem exponentAhead_append (ends : Breaks e) (a : List Char) :
    exponentAhead (a ++ e) = exponentAhead a := by
  match a, e with
  | a, [] => rw [List.append_nil]
  | [], c :: e => obtain rfl | rfl := ends c rfl <;> cases e <;> rfl
  | [s], c :: e =>
    have noDigit : c.isDigit = false := ends.noDigit c rfl
    rw [List.singleton_append, exponentAhead, exponentAhead, noDigit]
    split
    · next sign => obtain rfl | rfl := sign <;> rfl
    · rfl
  | s :: d :: a, c :: e => rfl

theorem numberTail_append (ends : Breaks e) (isFloat afterE : Bool) (a : List Char) :
    numberTail isFloat afterE (a ++ e) =
      ((numberTail isFloat afterE a).1, (numberTail isFloat afterE a).2.1,
        (numberTail isFloat afterE a).2.2 ++ e) := by
  induction a generalizing isFloat afterE with
  | nil =>
    rw [List.nil_append, numberTail, List.nil_append]
    cases e with
    | nil => rfl
    | cons c e => obtain rfl | rfl := ends c rfl <;> simp [numberTail]
  | cons c a ih =>
    rw [List.cons_append, numberTail, numberTail, exponentAhead_append ends]
    simp only [ih]
    split
    · rfl
    · split
      · rfl
      · split
        · rfl
        · split <;> rfl

theorem decimal_append (ends : Breaks e) (first : Char) (a : List Char) :
    number.decimal first (a ++ e) = number.decimal first a := by
  simp only [number.decimal, numberTail_append ends, List.length_append, Nat.add_sub_add_right]

theorem number_append (ends : Breaks e) (first : Char) (a : List Char) :
    number first (a ++ e) = number first a := by
  have ten := decimal_append ends first a
  match a, e with
  | a, [] => rw [List.append_nil]
  | [], c :: e =>
    have noBase : (if first = '0' then radixOf? c else none) = none := by
      obtain rfl | rfl := ends c rfl <;> split <;> rfl
    rw [List.nil_append, number, noBase, number]
    exact ten
  | r :: a, c :: e =>
    rw [List.cons_append, number, number]
    cases if first = '0' then radixOf? r else none with
    | none => exact ten
    | some radix =>
      simp only [radixDigits_append radix ends, List.length_append, List.length_cons]
      rw [Nat.add_right_comm, Nat.add_sub_add_right]

theorem isPrefixOf_append {p : List Char} (apart : ∀ c ∈ p, c ≠ '\n' ∧ c ≠ '\r') (ends : Breaks e)
    (a : List Char) : p.isPrefixOf (a ++ e) = p.isPrefixOf a := by
  induction p generalizing a with
  | nil => simp
  | cons c p ih =>
    obtain ⟨hc, apart⟩ := List.forall_mem_cons.1 apart
    cases a with
    | nil =>
      cases e with
      | nil => rfl
      | cons d e =>
        have differ : (c == d) = false := by
          obtain rfl | rfl := ends d rfl
          · exact beq_false_of_ne hc.1
          · exact beq_false_of_ne hc.2
        rw [List.nil_append, List.isPrefixOf_cons_cons, differ]
        rfl
    | cons d a => rw [List.cons_append, List.isPrefixOf_cons_cons, List.isPrefixOf_cons_cons, ih apart]

theorem longest?_append (ends : Breaks e) (a : List Char) :
    Punct.longest? (a ++ e) = Punct.longest? a := by
  have apart (p : Punct) : ∀ c ∈ p.chars, c ≠ '\n' ∧ c ≠ '\r' := by cases p <;> simp [Punct.chars]
  unfold Punct.longest?
  simp only [isPrefixOf_append (apart _) ends]

theorem startsNumber_append (ends : Breaks e) (c : Char) (a : List Char) :
    startsNumber c (a ++ e) = startsNumber c a := by
  rw [startsNumber, startsNumber, head?_any_append ends.noDigit]

theorem Breaks.noPart (h : Breaks e) : ∀ c ∈ e.head?, isNamePart c = false :=
  h.head (isNamePart_of_isSpace (by decide)) (isNamePart_of_isSpace (by decide))

theorem marked?_append (ends : Breaks e) (a : List Char) : marked? (a ++ e) = marked? a := by
  have short : (a.takeWhile isNamePart).length ≤ a.length := (List.takeWhile_prefix _).length_le
  unfold marked?
  rw [takeWhile_append_stop ends.noPart]
  dsimp only
  rw [List.drop_append_of_le_length short]
  generalize a.drop (a.takeWhile isNamePart).length = behind
  match behind, e with
  | [], [] => rfl
  | [], c :: e =>
    have noQuote : ¬(c = '"' ∨ c = '\'') := by obtain rfl | rfl := ends c rfl <;> decide
    cases stringMarks? (a.takeWhile isNamePart) with
    | none => rfl
    | some mark => exact if_neg noQuote
  | q :: behind, e => cases stringMarks? (a.takeWhile isNamePart) <;> rfl

theorem opening?_append (ends : Breaks e) (c : Char) (a : List Char) :
    opening? c (a ++ e) = opening? c a := by
  rw [opening?, opening?, startsNumber_append ends, ← List.cons_append, marked?_append ends]

/-- A token that is no string does not depend on what stands behind its line. -/
theorem plain_append (ends : Breaks e) (c : Char) (a : List Char) :
    plain c (a ++ e) = plain c a := by
  rw [plain, plain, startsNumber_append ends, number_append ends, ← List.cons_append,
    takeWhile_append_stop ends.noPart, longest?_append ends]

theorem indentWidth_append (ends : Breaks e) (width : Nat) (a : List Char) :
    indentWidth width (a ++ e) = indentWidth width a := by
  fun_induction indentWidth width a with
  | case1 width a ih => exact ih
  | case2 width a ih => exact ih
  | case3 width a ih => exact ih
  | case4 a width space tab feed =>
    match a, e with
    | a, [] => rw [List.append_nil, indentWidth.eq_4 width a space tab feed]
    | [], c :: e => obtain rfl | rfl := ends c rfl <;> rfl
    | c :: a, d :: e =>
      refine indentWidth.eq_4 width _ (fun cs h => ?_) (fun cs h => ?_) fun cs h => ?_
      · exact space a (by rw [(List.cons.inj h).1])
      · exact tab a (by rw [(List.cons.inj h).1])
      · exact feed a (by rw [(List.cons.inj h).1])

theorem blankLine?_comment (cs : List Char) :
    blankLine? ('#' :: cs) = some ((cs.takeWhile (· ≠ '\n')).length + 2) := by
  rw [blankLine?, List.takeWhile_cons_of_pos (by decide)]
  rfl

theorem blankLine?_none {c : Char} {cs : List Char} (feed : c ≠ '\n') (comment : c ≠ '#')
    (carriage : c = '\r' → cs.head? ≠ some '\n') : blankLine? (c :: cs) = none := by
  refine blankLine?.eq_4 _ (fun tail h => ?_) (fun tail h => ?_) fun tail h => ?_
  · exact feed (List.cons.inj h).1
  · obtain ⟨first, rfl⟩ := List.cons.inj h
    exact carriage first rfl
  · exact comment (List.cons.inj h).1

/-- A string literal opens within a line, with its quote. -/
theorem opening?_inLine {c : Char} {cs : List Char} {o : Opening} (h : opening? c cs = some o) :
    (o.quote = '"' ∨ o.quote = '\'') ∧ ∃ front behind, c :: cs = front ++ [o.quote] ++ behind ∧
      (front ++ [o.quote]).length = o.length ∧ ∀ d ∈ front ++ [o.quote], d ≠ '\n' := by
  have notLine {q : Char} (quote : q = '"' ∨ q = '\'') : ∀ d ∈ [q], d ≠ '\n' := by
    obtain rfl | rfl := quote <;> simp
  unfold opening? at h
  split at h
  · next quote =>
    cases h
    exact ⟨quote, [], cs, rfl, rfl, notLine quote⟩
  split at h
  · cases h
  split at h
  · unfold marked? at h
    dsimp only at h
    split at h
    · next q behind raw formatted ahead _ =>
      split at h
      · next quote =>
        cases h
        refine ⟨quote, (c :: cs).takeWhile isNamePart, behind, ?_, List.length_append, ?_⟩
        · rw [List.append_assoc, List.singleton_append, ← ahead]
          exact (List.prefix_iff_eq_append.1 (List.takeWhile_prefix _)).symm
        · exact List.forall_mem_append.2 ⟨takeWhile_inLine _, notLine quote⟩
      · cases h
    · cases h
  · cases h

end

end Stepwise.Script
