import Mathlib
import Stepwise.Proofs.Rounds
import Stepwise.Script.Parse.Cursor

/-!
# Layout and positions of tokens

The tokens of a text stand in it one after the other, each where its characters are, and their line
ends and blocks are well placed (`tokens_layout`).

## The model

The scan adds its tokens to the front of a list. What it has added so far lies in front of the place
it has come to (`Token.Before`), and the widths that it keeps are those of the blocks that are open
behind the last token (`Blocks`). Each round keeps this (`Scan.Sound.round`), so it holds where the
scan ends (`tokens_ended`); there the last line is ended and all blocks are closed
(`Scan.Sound.finish`).
-/

namespace Stepwise.Script

open Parse

/-! ### Kinds -/

namespace TokenKind

/-- Whether a token opens a block. -/
def isIndent : TokenKind → Bool
  | .indent => true
  | _ => false

/-- Whether a token closes a block. -/
def isDedent : TokenKind → Bool
  | .dedent => true
  | _ => false

/-- Whether a token is the end of the text. -/
def isEof : TokenKind → Bool
  | .eof => true
  | _ => false

/-- A token of the text is no layout, and not the end. -/
theorem isSolid_eq (k : TokenKind) : k.isSolid = (!k.isLayout && !k.isEof) := by
  cases k <;> rfl

theorem chars_of_not_solid {k : TokenKind} (h : k.isSolid = false) : k.chars = [] := by
  cases k <;> first | rfl | cases h

theorem isLayout_eq (k : TokenKind) : k.isLayout = (isNewline k || k.isIndent || k.isDedent) := by
  cases k <;> rfl

end TokenKind

/-- The number of blocks that open among some tokens. -/
def opened (ts : List Token) : Nat := ts.countP (·.kind.isIndent)

/-- The number of blocks that close among some tokens. -/
def closed (ts : List Token) : Nat := ts.countP (·.kind.isDedent)

/-! ### What is to be shown -/

/-- Whether some tokens are laid out as those of a text. -/
structure Layout (text : List Char) (ts : List Token) : Prop where
  /-- The end of the text is the last token, and no other. -/
  ended : ∃ init last, ts = init ++ [last] ∧ last.kind.isEof = true ∧
    ∀ t ∈ init, t.kind.isEof = false
  /-- All blocks are closed. -/
  balanced : closed ts = opened ts
  /-- No block is closed that is not open. -/
  nested : ∀ earlier, earlier <+: ts → closed earlier ≤ opened earlier
  /-- A line that ends holds a token. -/
  filled : ts.IsChain fun t u => isNewline u.kind = true → t.kind.isLayout = false
  inOrder : ts.Pairwise fun t u => t.pos ≤ u.pos
  /-- No two tokens of the text stand in one place. -/
  apart : ts.Pairwise fun t u => t.kind.isSolid = true → u.kind.isSolid = true → t.pos < u.pos
  endsBehind : ∀ t ∈ ts, t.pos.line ≤ t.endLine
  endsBefore : ts.Pairwise fun t u => t.endLine ≤ u.pos.line
  /-- Names, keywords and marks stand where they say. -/
  stands : ∀ t ∈ ts, StandsAt text t.pos t.kind.chars

/-! ### Tokens in front of a place -/

/-- Whether a token ends in front of a place. -/
structure Token.Before (t : Token) (p : Pos) : Prop where
  pos : t.pos ≤ p
  endLine : t.endLine ≤ p.line
  apart : t.kind.isSolid = true → t.pos < p

theorem Token.Before.mono {t : Token} {p q : Pos} (h : t.Before p) (le : p ≤ q) : t.Before q where
  pos := h.pos.trans le
  endLine := h.endLine.trans (Pos.line_le le)
  apart solid := (h.apart solid).trans_le le

/-- Whether a token stands in a text; one that is part of it ends with a character of its last
line. -/
structure Token.Within (t : Token) (text : List Char) : Prop where
  notEof : t.kind.isEof = false
  stands : StandsAt text t.pos t.kind.chars
  line : t.pos.line ≤ t.endLine
  last : t.kind.isSolid = true → ∃ p c, StandsAt text p [c] ∧ c ≠ '\n' ∧ p.line = t.endLine

/-- What is known of the tokens, newest first, in front of a place `p` of a text. -/
structure Placed (text : List Char) (p : Pos) (ts : List Token) : Prop where
  within : ∀ t ∈ ts, t.Within text
  before : ∀ t ∈ ts, t.Before p
  inOrder : ts.Pairwise fun u t => t.Before u.pos
  filled : ts.IsChain fun u t => isNewline u.kind = true → t.kind.isLayout = false

namespace Placed

variable {text : List Char} {p q : Pos} {ts : List Token}

theorem nil : Placed text p [] := ⟨by simp, by simp, .nil, .nil⟩

theorem mono (h : Placed text p ts) (le : p ≤ q) : Placed text q ts :=
  { h with before := fun t ht => (h.before t ht).mono le }

theorem add (h : Placed text p ts) {t : Token} (start : p ≤ t.pos) (within : t.Within text)
    (before : t.Before q) (filled : isNewline t.kind = true → ∀ u ∈ ts.head?,
      u.kind.isLayout = false) : Placed text q (t :: ts) where
  within := List.forall_mem_cons.2 ⟨within, h.within⟩
  before := List.forall_mem_cons.2
    ⟨before, fun u hu => (h.before u hu).mono (start.trans before.pos)⟩
  inOrder := h.inOrder.cons fun u hu => (h.before u hu).mono start
  filled := by
    cases ts with
    | nil => exact .singleton _
    | cons u us => exact .cons_cons (fun newline => filled newline u rfl) h.filled

/-- Layout is added at the place itself. -/
theorem layout (h : Placed text p ts) {r : Reader} (at_ : r.At text) (pos : r.pos = p)
    {k : TokenKind} (layout : k.isLayout = true) (filled : isNewline k = true → ∀ u ∈ ts.head?,
      u.kind.isLayout = false) : Placed text p (⟨k, p, p.line⟩ :: ts) := by
  subst pos
  have hollow : k.isSolid = false := by rw [k.isSolid_eq, layout]; rfl
  refine h.add le_rfl ⟨?_, ?_, le_rfl, ?_⟩ ⟨le_rfl, le_rfl, ?_⟩ filled
  · cases k <;> first | rfl | cases layout
  · rw [TokenKind.chars_of_not_solid hollow]
    exact at_.nothing
  · simp [hollow]
  · simp [hollow]

end Placed

/-! ### Open blocks -/

/-- Whether `ws` are the widths of the blocks, innermost first, that are open behind some tokens,
newest first, and the width 0 of what is outside of all blocks. -/
inductive Blocks : List Nat → List Token → Prop where
  | outside : Blocks [0] []
  | opens {w ws t ts} : 0 < w → t.kind.isIndent = true → Blocks ws ts → Blocks (w :: ws) (t :: ts)
  | closes {w ws t ts} : 0 < w → t.kind.isDedent = true → Blocks (w :: ws) ts →
    Blocks ws (t :: ts)
  | inside {ws t ts} : t.kind.isIndent = false → t.kind.isDedent = false → Blocks ws ts →
    Blocks ws (t :: ts)

namespace Blocks

variable {ws : List Nat} {ts : List Token}

theorem isIndent_false {t : Token} (h : t.kind.isDedent = true) : t.kind.isIndent = false := by
  cases hk : t.kind <;> rw [hk] at h <;> first | rfl | cases h

theorem isDedent_false {t : Token} (h : t.kind.isIndent = true) : t.kind.isDedent = false := by
  cases hk : t.kind <;> rw [hk] at h <;> first | rfl | cases h

/-- There are as many widths as blocks that are open. -/
theorem widths (h : Blocks ws ts) : ∃ inner, ws = inner ++ [0] ∧ (∀ w ∈ inner, 0 < w) ∧
    closed ts + inner.length = opened ts := by
  induction h with
  | outside => exact ⟨[], rfl, by simp, rfl⟩
  | @opens w _ t _ pos opens _ ih =>
    obtain ⟨inner, rfl, wide, count⟩ := ih
    refine ⟨w :: inner, rfl, List.forall_mem_cons.2 ⟨pos, wide⟩, ?_⟩
    simp only [closed, opened, List.countP_cons, opens, isDedent_false opens] at count ⊢
    simp only [List.length_cons, if_true, Bool.false_eq_true, if_false]
    omega
  | @closes w ws t _ pos closes _ ih =>
    obtain ⟨_ | ⟨_, inner⟩, eq, wide, count⟩ := ih
    · cases eq
      exact absurd pos (Nat.lt_irrefl 0)
    · obtain ⟨rfl, rfl⟩ := List.cons.inj eq
      refine ⟨inner, rfl, (List.forall_mem_cons.1 wide).2, ?_⟩
      simp only [closed, opened, List.countP_cons, closes, isIndent_false closes] at count ⊢
      simp only [List.length_cons, if_true, Bool.false_eq_true, if_false] at count ⊢
      omega
  | inside opens closes _ ih =>
    obtain ⟨inner, rfl, wide, count⟩ := ih
    refine ⟨inner, rfl, wide, ?_⟩
    simpa [closed, opened, List.countP_cons, opens, closes] using count

theorem closed_le (h : Blocks ws ts) : closed ts ≤ opened ts := by
  obtain ⟨inner, -, -, count⟩ := h.widths
  omega

/-- At no time more blocks were closed than opened. -/
theorem nested (h : Blocks ws ts) :
    ∀ earlier, earlier <:+ ts → closed earlier ≤ opened earlier := by
  induction h with
  | outside =>
    intro earlier suffix
    rw [List.suffix_nil.1 suffix]
    exact le_rfl
  | opens pos kind h ih =>
    intro earlier suffix
    rcases List.suffix_cons_iff.1 suffix with rfl | suffix
    · exact (Blocks.opens pos kind h).closed_le
    · exact ih earlier suffix
  | closes pos kind h ih =>
    intro earlier suffix
    rcases List.suffix_cons_iff.1 suffix with rfl | suffix
    · exact (Blocks.closes pos kind h).closed_le
    · exact ih earlier suffix
  | inside opens closes h ih =>
    intro earlier suffix
    rcases List.suffix_cons_iff.1 suffix with rfl | suffix
    · exact (Blocks.inside opens closes h).closed_le
    · exact ih earlier suffix

end Blocks

/-! ### The state of the scan -/

namespace Scan

/-- What holds between two tokens. -/
structure Sound (text : List Char) (s : Scan) : Prop where
  reader : s.reader.At text
  placed : Placed text s.reader.pos s.tokens
  blocks : Blocks s.widths s.tokens

variable {text : List Char} {s : Scan}

/-- The reader goes on. -/
theorem Sound.move (h : s.Sound text) {r : Reader} {cs : List Char}
    (passed : s.reader.Passes cs r) : Sound text { s with reader := r } where
  reader := passed.at h.reader
  placed := h.placed.mono (passed.pos ▸ Pos.le_past _ cs)
  blocks := h.blocks

theorem Sound.mark (h : s.Sound text) (b : Bool) : Sound text { s with atLineStart := b } :=
  ⟨h.reader, h.placed, h.blocks⟩

/-- The token is added that the reader goes over. -/
theorem Sound.take (h : s.Sound text) {t : Token} {r : Reader} (taken : t.Taken s.reader r) :
    Sound text (s.take t r) := by
  obtain ⟨used, last, passed, line⟩ := taken.passes
  have middle := Pos.lt_past s.reader.pos (List.append_ne_nil_of_right_ne_nil used
    (List.cons_ne_nil last []))
  rw [← passed.pos, ← taken.pos] at middle
  have notLayout : t.kind.isLayout = false ∧ t.kind.isEof = false := by
    simpa [TokenKind.isSolid_eq] using taken.solid
  have kinds := t.kind.isLayout_eq
  rw [notLayout.1, eq_comm, Bool.or_eq_false_iff, Bool.or_eq_false_iff] at kinds
  obtain ⟨⟨notNewline, notIndent⟩, notDedent⟩ := kinds
  have within : t.Within text := by
    obtain ⟨before, eq, pos⟩ := h.reader
    obtain ⟨behind, split⟩ := taken.spelling
    refine ⟨notLayout.2, ⟨before, behind, ?_, taken.pos.trans pos⟩, ?_, fun _ => ?_⟩
    · rw [eq, List.append_assoc, split]
    · rw [taken.endLine]
      exact Pos.line_le middle.le
    · refine ⟨_, last, ⟨before ++ used, r.rest, ?_, rfl⟩, line, ?_⟩
      · rw [eq, passed.rest]
        simp
      · rw [taken.endLine, passed.pos, pos, ← Pos.behind_append, ← List.append_assoc,
          Pos.behind_concat, Pos.after, if_neg line]
  refine ⟨passed.at h.reader, ?_, .inside notIndent notDedent h.blocks⟩
  exact h.placed.add taken.pos.ge within ⟨middle.le, taken.endLine.le, fun _ => middle⟩
    (by simp [notNewline])

/-- The line ends. -/
theorem Sound.endLine (h : s.Sound text) : s.endLine.Sound text := by
  unfold Scan.endLine
  split
  · next t ts eq =>
    split
    · exact h
    · next solid =>
      refine ⟨h.reader, ?_, .inside rfl rfl h.blocks⟩
      exact h.placed.layout h.reader rfl rfl fun _ u hu => by
        rw [eq] at hu
        cases hu
        simpa using solid
  · exact h

/-- Blocks are closed. -/
theorem Sound.closeBlocks {width : Nat} : ∀ {ws : List Nat} {s : Scan}, s.Sound text →
    s.widths = ws → (s.closeBlocks width ws).Sound text
  | [], _, h, _ => h
  | w :: ws, s, h, eq => by
    rw [Scan.closeBlocks]
    split
    · next wide =>
      refine Sound.closeBlocks (s := { s with widths := ws }.push .dedent s.reader.pos) ?_ rfl
      refine ⟨h.reader, h.placed.layout h.reader rfl rfl (by simp [isNewline]), ?_⟩
      exact .closes (Nat.zero_lt_of_lt wide) rfl (eq ▸ h.blocks)
    · exact h

theorem Sound.indent (h : s.Sound text) {width : Nat} {s' : Scan} (read : s.indent width = .ok s') :
    s'.Sound text := by
  unfold Scan.indent at read
  dsimp only at read
  split at read
  · next wider =>
    cases read
    refine ⟨h.reader, h.placed.layout h.reader rfl rfl (by simp [isNewline]), ?_⟩
    exact .opens (Nat.zero_lt_of_lt wider) rfl h.blocks
  · split at read
    · split at read
      · cases read
        exact h.closeBlocks rfl
      · cases read
    · cases read
      exact h

/-! ### Where lines end -/

/-- Whether each line among some tokens, newest first, ends below the tokens in front of its end,
and below the first line of the text. -/
structure Broken (ts : List Token) : Prop where
  below : ts.Pairwise fun u t => isNewline u.kind = true → t.endLine < u.pos.line
  notFirst : ∀ u ∈ ts, isNewline u.kind = true → 1 < u.pos.line

namespace Broken

theorem nil : Broken [] := ⟨.nil, by simp⟩

theorem push {ts : List Token} {t : Token} (h : Broken ts) (notNewline : isNewline t.kind = false) :
    Broken (t :: ts) where
  below := h.below.cons fun _ _ newline => by simp [notNewline] at newline
  notFirst := List.forall_mem_cons.2 ⟨fun newline => by simp [notNewline] at newline, h.notFirst⟩

theorem closeBlocks {width : Nat} : ∀ {ws : List Nat} {s : Scan}, Broken s.tokens →
    Broken (s.closeBlocks width ws).tokens
  | [], _, h => h
  | w :: ws, s, h => by
    rw [Scan.closeBlocks]
    split
    · exact Broken.closeBlocks (h.push rfl)
    · exact h

theorem indent {width : Nat} {s' : Scan} (read : s.indent width = .ok s') (h : Broken s.tokens) :
    Broken s'.tokens := by
  unfold Scan.indent at read
  dsimp only at read
  split at read
  · cases read
    exact h.push rfl
  · split at read
    · split at read
      · cases read
        exact h.closeBlocks
      · cases read
    · cases read
      exact h

theorem endLine (h : Broken s.tokens) (below : ∀ t ∈ s.tokens, t.endLine < s.reader.pos.line)
    (notFirst : 1 < s.reader.pos.line) : Broken s.endLine.tokens := by
  unfold Scan.endLine
  split
  · split
    · exact h
    · exact ⟨h.below.cons fun t ht _ => below t ht,
        List.forall_mem_cons.2 ⟨fun _ => notFirst, h.notFirst⟩⟩
  · exact h

end Broken

/-! ### Rounds -/

variable {t : Scan} {turn : Turn}

theorem Sound.lineEnd (h : s.Sound text) : s.lineEnd.Sound text := by
  have behind := h.move (.skipAny 1 s.reader)
  unfold Scan.lineEnd
  dsimp only
  split
  · exact behind.endLine.mark true
  · exact behind

theorem Sound.begins (h : s.Sound text) (begins : s.Begins turn) : turn.scan.Sound text := by
  have inside := h.move (.skipWhile isIndent s.reader)
  cases begins with
  | @blank n _ => exact inside.move (.skipAny n s.indented)
  | stops => exact inside.mark false
  | enters _ _ indent => exact (inside.mark false).indent indent

theorem Sound.readsOn (h : s.Sound text) (reads : s.ReadsOn turn) : turn.scan.Sound text := by
  cases reads with
  | stops => exact h
  | comment => exact h.move (.skipWhile (· ≠ '\n') s.reader)
  | lineEnd => exact h.lineEnd
  | token first _ inLine read => exact h.take (oneToken_taken first inLine read)

theorem Broken.readsOn (broken : Broken s.tokens) (h : s.Sound text) (reads : s.ReadsOn turn) :
    Broken turn.scan.tokens := by
  cases reads with
  | stops => exact broken
  | comment => exact broken
  | lineEnd first =>
    have line : (s.reader.skip 1).pos.line = s.reader.pos.line + 1 := by
      rw [(Reader.Passes.one first).pos, Pos.past_cons, Pos.past_nil, Pos.after, if_pos rfl]
    show Broken s.lineEnd.tokens
    unfold Scan.lineEnd
    dsimp only
    split
    · refine Broken.endLine broken (fun t ht => ?_) ?_
      · rw [line]
        exact Nat.lt_succ_of_le (h.placed.before t ht).endLine
      · rw [line]
        exact Nat.lt_succ_of_le h.reader.line_pos
    · exact broken
  | token first _ inLine read =>
    refine broken.push ?_
    have solid := (oneToken_taken first inLine read).solid
    cases hk : Token.kind _ <;> rw [hk] at solid <;> first | rfl | cases solid

/-- A round keeps what holds between two tokens. -/
theorem Sound.round (h : s.Sound text) (broken : Broken s.tokens) (read : s.round = .ok turn) :
    turn.scan.Sound text ∧ Broken turn.scan.tokens := by
  unfold Scan.round at read
  split at read
  · have begins := begin_iff.1 read
    refine ⟨h.begins begins, ?_⟩
    cases begins with
    | blank => exact broken
    | stops => exact broken
    | enters _ _ indent => exact .indent indent broken
  · obtain ⟨r, skipped, reads⟩ := inLine_iff.1 read
    obtain ⟨used, passed⟩ := skipBlanks_passes _ skipped
    have h := h.move passed
    exact ⟨h.readsOn reads, Broken.readsOn (s := { s with reader := r }) broken h reads⟩

theorem Sound.comes (h : s.Sound text) (broken : Broken s.tokens) (comes : s.Comes t) :
    t.Sound text ∧ Broken t.tokens := by
  induction comes with
  | refl => exact ⟨h, broken⟩
  | tail _ round ih => exact ih.1.round ih.2 round

theorem Sound.start (text : List Char) : (start text).Sound text :=
  ⟨⟨[], rfl, rfl⟩, .nil, .outside⟩

/-- Whether some tokens are those of a scan that has come to an end. -/
def Ended (text : List Char) (ts : List Token) : Prop :=
  ∃ s : Scan, s.Sound text ∧ Broken s.tokens ∧ ts = s.finish

/-! ### The end -/

theorem widths_closeBlocks : ∀ {inner : List Nat} {s : Scan}, (∀ w ∈ inner, 0 < w) →
    s.widths = inner ++ [0] → (s.closeBlocks 0 (inner ++ [0])).widths = [0]
  | [], s, _, eq => by
    rw [List.nil_append, Scan.closeBlocks, if_neg (Nat.lt_irrefl 0), eq]
    rfl
  | w :: inner, s, wide, eq => by
    obtain ⟨pos, wide⟩ := List.forall_mem_cons.1 wide
    rw [List.cons_append, Scan.closeBlocks, if_pos pos]
    exact widths_closeBlocks wide rfl

/-- Whether a scan has no more tokens of the text than one before, only more layout. -/
def Closes (s e : Scan) : Prop :=
  ∃ closing, e.tokens = closing ++ s.tokens ∧ ∀ t ∈ closing, t.kind.isSolid = false

theorem closes_endLine (s : Scan) : Closes s s.endLine := by
  unfold Scan.endLine
  split
  · split
    · exact ⟨[], rfl, by simp⟩
    · exact ⟨[_], rfl, List.forall_mem_singleton.2 rfl⟩
  · exact ⟨[], rfl, by simp⟩

theorem closes_closeBlocks (width : Nat) : ∀ (ws : List Nat) (s : Scan),
    Closes s (s.closeBlocks width ws)
  | [], s => ⟨[], rfl, by simp⟩
  | w :: ws, s => by
    rw [Scan.closeBlocks]
    split
    · obtain ⟨closing, eq, hollow⟩ :=
        closes_closeBlocks width ws ({ s with widths := ws }.push .dedent s.reader.pos)
      refine ⟨closing ++ [_], by rw [eq, List.append_assoc]; rfl, ?_⟩
      exact List.forall_mem_append.2 ⟨hollow, List.forall_mem_singleton.2 rfl⟩
    · exact ⟨[], rfl, by simp⟩

/-- At the end of the text no block is open, and the end is the last token. -/
theorem Sound.finish (h : s.Sound text) : ∃ e : Scan, e.Sound text ∧ e.widths = [0] ∧ Closes s e ∧
    s.finish = e.tokens.reverse ++ [⟨.eof, e.reader.pos, e.reader.pos.line⟩] := by
  obtain ⟨inner, eq, wide, -⟩ := h.endLine.blocks.widths
  refine ⟨_, h.endLine.closeBlocks rfl, ?_, ?_, List.reverse_cons⟩
  · rw [eq]
    exact widths_closeBlocks wide eq
  · obtain ⟨line, eq, hollow⟩ := closes_endLine s
    obtain ⟨closing, eq', hollow'⟩ := closes_closeBlocks 0 s.endLine.widths s.endLine
    exact ⟨closing ++ line, by rw [eq', eq, List.append_assoc],
      List.forall_mem_append.2 ⟨hollow', hollow⟩⟩

end Scan

/-- The tokens of a text are those of a scan of it. -/
theorem tokens_ended {source : String} {ts : List Token} (h : tokens source = .ok ts) :
    Scan.Ended source.toList ts := by
  obtain ⟨cs, rfl⟩ : ∃ cs, source = String.ofList cs := ⟨_, (String.ofList_toList ..).symm⟩
  rw [tokens_eq_result] at h
  rw [String.toList_ofList]
  obtain ⟨t, e, comes, stops, eq⟩ := Scan.comes_stop h
  obtain ⟨sound, broken⟩ := (Scan.Sound.start cs).comes .nil comes
  obtain ⟨sound, broken⟩ := sound.round broken stops
  exact ⟨e, sound, broken, eq⟩

/-! ### All tokens -/

section

variable {text : List Char} {r : Reader} {ts : List Token}

/-- The tokens of a text in their order, with the end of the text behind them. -/
def withEnd (ts : List Token) (p : Pos) : List Token := ts.reverse ++ [⟨.eof, p, p.line⟩]

theorem Placed.inOrder_withEnd (h : Placed text r.pos ts) :
    (withEnd ts r.pos).Pairwise fun t u => t.Before u.pos := by
  refine List.pairwise_append.2 ⟨List.pairwise_reverse.2 h.inOrder, List.pairwise_singleton _ _, ?_⟩
  intro t ht u hu
  rw [List.mem_singleton.1 hu]
  exact h.before t (List.mem_reverse.1 ht)

theorem Placed.filled_withEnd (h : Placed text r.pos ts) :
    (withEnd ts r.pos).IsChain fun t u => isNewline u.kind = true → t.kind.isLayout = false := by
  refine List.isChain_append.2 ⟨List.isChain_reverse.2 h.filled, .singleton _, ?_⟩
  intro t _ u hu newline
  cases hu
  cases newline

theorem Blocks.nested_withEnd {ws : List Nat} (h : Blocks ws ts) (p : Pos) :
    ∀ earlier, earlier <+: withEnd ts p → closed earlier ≤ opened earlier := by
  intro earlier isPrefix
  have reversed : ∀ us : List Token,
      closed us.reverse = closed us ∧ opened us.reverse = opened us := fun us => ⟨List.countP_reverse, List.countP_reverse⟩
  rcases List.prefix_concat_iff.1 isPrefix with rfl | inner
  · have := h.closed_le
    simpa [closed, opened, withEnd, TokenKind.isDedent, TokenKind.isIndent] using this
  · have := h.nested earlier.reverse (by simpa using List.reverse_suffix.2 inner)
    rwa [(reversed earlier).1, (reversed earlier).2] at this

/-- The tokens in front of a place and the end of the text there are well laid out, if no block is
open there. -/
theorem Placed.layout_withEnd (h : Placed text r.pos ts) (blocks : Blocks [0] ts)
    (at_ : r.At text) : Layout text (withEnd ts r.pos) where
  ended := ⟨_, _, rfl, rfl, fun t ht => (h.within t (List.mem_reverse.1 ht)).notEof⟩
  balanced := by
    obtain ⟨inner, eq, -, count⟩ := blocks.widths
    have none : inner = [] := by simpa using eq
    subst none
    simpa [closed, opened, withEnd, TokenKind.isDedent, TokenKind.isIndent] using count
  nested := blocks.nested_withEnd _
  filled := h.filled_withEnd
  inOrder := h.inOrder_withEnd.imp fun before => before.pos
  apart := h.inOrder_withEnd.imp fun before solid _ => before.apart solid
  endsBehind := by
    refine List.forall_mem_append.2 ⟨fun t ht => ?_, List.forall_mem_singleton.2 le_rfl⟩
    exact (h.within t (List.mem_reverse.1 ht)).line
  endsBefore := h.inOrder_withEnd.imp fun before => before.endLine
  stands := by
    refine List.forall_mem_append.2 ⟨fun t ht => ?_, List.forall_mem_singleton.2 ?_⟩
    · exact (h.within t (List.mem_reverse.1 ht)).stands
    · exact at_.nothing

end

/-- The tokens of every text are well laid out in it. -/
theorem tokens_layout {source : String} {ts : List Token} (h : tokens source = .ok ts) :
    Layout source.toList ts := by
  obtain ⟨s, sound, -, rfl⟩ := tokens_ended h
  obtain ⟨e, sound, outside, -, eq⟩ := sound.finish
  rw [eq]
  exact sound.placed.layout_withEnd (outside ▸ sound.blocks) sound.reader

/-- A string of two lines in a block: the line that ends behind it ends below both. -/
theorem tokens_layout_block :
    let source := "if a:\n  \"\"\"b\nc\"\"\"\nd"
    let ts : List Token :=
      [⟨.keyword .if, ⟨1, 1⟩, 1⟩, ⟨.ident "a", ⟨1, 4⟩, 1⟩, ⟨.punct .colon, ⟨1, 5⟩, 1⟩,
        ⟨.newline, ⟨2, 1⟩, 2⟩, ⟨.indent, ⟨2, 3⟩, 2⟩, ⟨.str "b\nc", ⟨2, 3⟩, 3⟩,
        ⟨.newline, ⟨4, 1⟩, 4⟩, ⟨.dedent, ⟨4, 1⟩, 4⟩, ⟨.ident "d", ⟨4, 1⟩, 4⟩,
        ⟨.newline, ⟨4, 2⟩, 4⟩, ⟨.eof, ⟨4, 2⟩, 4⟩]
    tokens source = .ok ts ∧ Layout source.toList ts := by
  intro source ts
  have read : tokens source = .ok ts := by cbv
  exact ⟨read, tokens_layout read⟩

end Stepwise.Script
