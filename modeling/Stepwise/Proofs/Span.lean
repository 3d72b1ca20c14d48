import Stepwise.Proofs.Layout
import Stepwise.Proofs.Onward
import Stepwise.Text.Cut
import Stepwise.Trace.Line

/-!
# The spans of statements

The statements of a program that is read from a text lie in the text like the parts of an outline:
a statement spans the statements in its suites and the lines of its clauses, and of two statements
of a suite the first ends where the second starts at the latest (`parseProgram_outlined`). So the
lines on which a trace may start are lines of the text, and none of them is a line of a function or
a class.

## The model

A cursor remembers the last line of the last token read that is not layout, and the tokens ahead go
down the text from this line on (`Down`). A statement is read from a token of the text that is
ahead, so its line is among those (`Cursor.lines`), and it ends on the line that the cursor
remembers then. Where a line has ended, all that is ahead is below the line that the cursor
remembers (`Cursor.Fresh`): this is the case behind every statement that has a suite, and behind
every line of other statements, so such statements do not share a line.
-/

namespace Stepwise.Script

open Parse Stepwise.Text

/-! ### Statements and what stands in them -/

/-- Whether an action is that of a statement with suites. -/
def Action.isCompound : Action → Bool
  | .if_ _ _ _ | .while_ _ _ _ | .for_ _ _ _ _ => true
  | .functionDef _ | .classDef _ | .try_ _ _ _ _ => true
  | _ => false

/-- The suites of a statement. -/
def Action.suites : Action → List (List Stmt)
  | .if_ _ body orelse | .while_ _ body orelse | .for_ _ _ body orelse => [body, orelse]
  | .functionDef fn => [fn.body]
  | .classDef cls => [cls.body]
  | .try_ body handlers orelse finalbody => body :: orelse :: finalbody :: handlers.map (·.body)
  | _ => []

/-- The lines on which the `except` clauses of a statement start. -/
def Action.clauseLines : Action → List Nat
  | .try_ _ handlers _ _ => handlers.map (·.pos.line)
  | _ => []

/-- The suites of a program, at any depth; it is one itself. -/
inductive Suite (p : Program) : List Stmt → Prop where
  | whole : Suite p p
  | inside {ss body : List Stmt} {s : Stmt} : Suite p ss → s ∈ ss → body ∈ s.action.suites →
    Suite p body

/-- Whether a statement spans what stands in it. -/
structure Stmt.Spans (s : Stmt) : Prop where
  line_le : s.line ≤ s.endLine
  suites : ∀ body ∈ s.action.suites, ∀ u ∈ body, s.line ≤ u.line ∧ u.endLine ≤ s.endLine
  clauses : ∀ l ∈ s.action.clauseLines, s.line ≤ l ∧ l ≤ s.endLine

/-- Whether one statement ends where another one starts at the latest; if one of them has suites,
they do not share a line. -/
def Stmt.Precedes (s u : Stmt) : Prop :=
  s.endLine ≤ u.line ∧
    (s.action.isCompound = true ∨ u.action.isCompound = true → s.endLine < u.line)

/-- Whether no statement of a suite starts above a line, and those with suites start below it. -/
def Behind (n : Nat) (ss : List Stmt) : Prop :=
  ∀ u ∈ ss, n ≤ u.line ∧ (u.action.isCompound = true → n < u.line)

/-- Whether what a `try` comes to later stands below what it has come to before, and the bodies of
its handlers stand behind their own lines. -/
def Action.InTurn : Action → Prop
  | .try_ body handlers orelse finalbody =>
    (∀ s ∈ body, ∀ u ∈ orelse ++ finalbody, s.endLine < u.line) ∧
      (∀ s ∈ orelse, ∀ u ∈ finalbody, s.endLine < u.line) ∧
      ∀ h ∈ handlers, Behind h.pos.line h.body ∧
        ∀ u ∈ finalbody, h.pos.line < u.line ∧ ∀ s ∈ h.body, s.endLine < u.line
  | _ => True

/-- Whether the suites of an action stand behind a line, and below one another. -/
structure Action.Descends (n : Nat) (a : Action) : Prop where
  suites : ∀ body ∈ a.suites, Behind n body
  inTurn : a.InTurn

/-- Whether a statement and all that stand in it, at any depth, span what stands in them, and go
down the text. -/
inductive Stmt.Nests : Stmt → Prop where
  | mk {s : Stmt} : s.Spans → s.action.Descends s.line →
    (∀ body ∈ s.action.suites, body.Pairwise Stmt.Precedes) →
    (∀ body ∈ s.action.suites, ∀ u ∈ body, u.Nests) → s.Nests

theorem Behind.mono {n n' : Nat} {ss : List Stmt} (h : Behind n ss) (le : n' ≤ n) : Behind n' ss :=
  fun u hu => ⟨le.trans (h u hu).1, fun compound => le.trans_lt ((h u hu).2 compound)⟩

theorem Behind.of_lt {n : Nat} {ss : List Stmt} (h : ∀ u ∈ ss, n < u.line) : Behind n ss :=
  fun u hu => ⟨(h u hu).le, fun _ => h u hu⟩

theorem Action.Descends.mono {n n' : Nat} {a : Action} (h : a.Descends n) (le : n' ≤ n) :
    a.Descends n' :=
  ⟨fun body hb => (h.suites body hb).mono le, h.inTurn⟩

theorem Suite.nests {p : Program} (ordered : p.Pairwise Stmt.Precedes) (nests : ∀ s ∈ p, s.Nests)
    {ss : List Stmt} (h : Suite p ss) : ss.Pairwise Stmt.Precedes ∧ ∀ s ∈ ss, s.Nests := by
  induction h with
  | whole => exact ⟨ordered, nests⟩
  | inside _ hs hb ih =>
    obtain ⟨_, -, ordered, nests⟩ := ih.2 _ hs
    exact ⟨ordered _ hb, nests _ hb⟩

/-- A statement without suites spans what stands in it. -/
theorem Stmt.nests_of_simple {s : Stmt} (simple : s.action.isCompound = false)
    (line : s.line ≤ s.endLine) : s.Nests := by
  have none : s.action.suites = [] ∧ s.action.clauseLines = [] ∧ s.action.InTurn := by
    cases h : s.action <;> rw [h] at simple <;> first | exact ⟨rfl, rfl, trivial⟩ | cases simple
  refine .mk ⟨line, ?_, ?_⟩ ⟨?_, none.2.2⟩ ?_ ?_ <;> simp [none]

/-! ### Tokens that go down a text -/

/-- Whether tokens go down a text from a line on, the end of the text last. Behind the end of a line
there are no more tokens of it, and no token of the text ends below the line `top`. -/
inductive Down (top : Nat) : Nat → List Token → Prop where
  | ends {n t} : t.kind.isEof = true → n ≤ t.pos.line → Down top n [t]
  | layout {n t ts} : t.kind.isLayout = true → n ≤ t.pos.line →
    (isNewline t.kind = true → ∀ u ∈ ts, u.kind.isSolid = true → n < u.pos.line) →
    Down top n ts → Down top n (t :: ts)
  | solid {n t ts} : t.kind.isSolid = true → n ≤ t.pos.line → t.pos.line ≤ t.endLine →
    t.endLine ≤ top → Down top t.endLine ts → Down top n (t :: ts)

namespace Down

variable {top n : Nat} {ts : List Token}

theorem line_le (h : Down top n ts) : ∀ t ∈ ts, n ≤ t.pos.line := by
  induction h with
  | ends _ le => exact List.forall_mem_singleton.2 le
  | layout _ le _ _ ih => exact List.forall_mem_cons.2 ⟨le, ih⟩
  | solid _ le le' _ _ ih =>
    exact List.forall_mem_cons.2 ⟨le, fun u hu => (le.trans le').trans (ih u hu)⟩

theorem le_top (h : Down top n ts) : ∀ t ∈ ts, t.kind.isSolid = true → t.pos.line ≤ top := by
  induction h with
  | @ends _ t eof =>
    refine List.forall_mem_singleton.2 fun solid => ?_
    simp [t.kind.isSolid_eq, eof] at solid
  | @layout _ t _ layout _ _ _ ih =>
    refine List.forall_mem_cons.2 ⟨fun solid => ?_, ih⟩
    simp [t.kind.isSolid_eq, layout] at solid
  | solid _ _ le le' _ ih => exact List.forall_mem_cons.2 ⟨fun _ => le.trans le', ih⟩

theorem ne_nil (h : Down top n ts) : ts ≠ [] := by
  cases h <;> simp

/-- Where nothing but layout is left, only the end of the text matters. -/
theorem of_layout {last : Token} (eof : last.kind.isEof = true) : ∀ {closing : List Token},
    (∀ t ∈ closing, t.kind.isLayout = true) → (∀ t ∈ closing ++ [last], n ≤ t.pos.line) →
    Down top n (closing ++ [last])
  | [], _, le => .ends eof (le last List.mem_cons_self)
  | t :: closing, isLayout, le => by
    obtain ⟨layout, layouts⟩ := List.forall_mem_cons.1 isLayout
    obtain ⟨le, les⟩ := List.forall_mem_cons.1 le
    refine .layout layout le (fun _ u hu solid => ?_) (of_layout eof layouts les)
    rcases List.mem_append.1 hu with hu | hu
    · simp [u.kind.isSolid_eq, layouts u hu] at solid
    · rw [List.mem_singleton.1 hu] at solid
      simp [last.kind.isSolid_eq, eof] at solid

/-- What is to be known of a token in front of others. -/
structure Fits (top : Nat) (t : Token) : Prop where
  notEof : t.kind.isEof = false
  line : t.pos.line ≤ t.endLine
  top : t.kind.isSolid = true → t.endLine ≤ top

/-- Tokens in front of others that go down a text go down it. -/
theorem of_append {tail : List Token} (rest : ∀ n, (∀ t ∈ tail, n ≤ t.pos.line) → Down top n tail) :
    ∀ {main : List Token} {n : Nat}, (∀ t ∈ main, Fits top t) →
    ((main ++ tail).Pairwise fun t u => t.endLine ≤ u.pos.line) →
    (main.Pairwise fun t u => isNewline u.kind = true → t.endLine < u.pos.line) →
    (∀ t ∈ main ++ tail, n ≤ t.pos.line) →
    (∀ u ∈ main, isNewline u.kind = true → n < u.pos.line) → Down top n (main ++ tail)
  | [], n, _, _, _, le, _ => rest n le
  | t :: main, n, fits, ordered, broken, le, below => by
    obtain ⟨fit, fits⟩ := List.forall_mem_cons.1 fits
    obtain ⟨before, ordered⟩ := List.pairwise_cons.1 ordered
    obtain ⟨ends, broken⟩ := List.pairwise_cons.1 broken
    obtain ⟨le, les⟩ := List.forall_mem_cons.1 le
    obtain ⟨newline, below⟩ := List.forall_mem_cons.1 below
    cases solid : t.kind.isSolid with
    | true => exact .solid solid le fit.line (fit.top solid) (of_append rest fits ordered broken
        before ends)
    | false =>
      have layout : t.kind.isLayout = true := by
        simpa [t.kind.isSolid_eq, fit.notEof] using solid
      refine .layout layout le (fun ended u hu _ => ?_)
        (of_append rest fits ordered broken les below)
      exact (newline ended).trans_le (fit.line.trans (before u hu))

end Down

/-! ### The lines of a text -/

/-- A text is cut at its first line feed. -/
theorem cut?_lineFeed (cs : List Char) :
    (cut? ['\n'] cs = none ∧ '\n' ∉ cs) ∨
      ∃ a b, cut? ['\n'] cs = some (a, b) ∧ cs = a ++ '\n' :: b ∧ '\n' ∉ a := by
  induction cs with
  | nil => exact .inl ⟨rfl, by simp⟩
  | cons c cs ih =>
    rw [cut?]
    by_cases hc : c = '\n'
    · subst hc
      exact .inr ⟨[], cs, rfl, rfl, by simp⟩
    · have notFirst : ['\n'].isPrefixOf (c :: cs) = false := by
        simp [List.isPrefixOf, Ne.symm hc]
      rw [notFirst]
      rcases ih with ⟨none, notMem⟩ | ⟨a, b, some, rfl, notMem⟩
      · exact .inl ⟨by simp [none], by simp [Ne.symm hc, notMem]⟩
      · exact .inr ⟨c :: a, b, by simp [some], rfl, by simp [Ne.symm hc, notMem]⟩

/-- There is one part more than line feeds. -/
theorem length_splitFirst_lineFeed : ∀ {fuel : Nat} {cs : List Char}, cs.count '\n' ≤ fuel →
    (splitFirst ['\n'] fuel cs).length = cs.count '\n' + 1
  | 0, cs, bound => by
    rw [splitFirst, Nat.le_zero.1 bound]
    rfl
  | fuel + 1, cs, bound => by
    rw [splitFirst]
    rcases cut?_lineFeed cs with ⟨none, notMem⟩ | ⟨a, b, some, rfl, notMem⟩
    · rw [none, List.count_eq_zero_of_not_mem notMem]
      rfl
    · rw [List.count_append, List.count_eq_zero_of_not_mem notMem, List.count_cons_self] at bound ⊢
      rw [some, List.length_cons, length_splitFirst_lineFeed (by omega)]
      omega

/-- If a text does not end with a line feed, there is something in its last part. -/
theorem getLast?_splitFirst_lineFeed {d : Char} (hd : d ≠ '\n') : ∀ (fuel : Nat) {cs : List Char},
    cs.getLast? = some d → ∃ e es, (splitFirst ['\n'] fuel cs).getLast? = some (e :: es)
  | 0, cs, last => by
    cases cs with
    | nil => cases last
    | cons c cs => exact ⟨c, cs, rfl⟩
  | fuel + 1, cs, last => by
    rw [splitFirst]
    rcases cut?_lineFeed cs with ⟨none, -⟩ | ⟨a, b, some, rfl, -⟩
    · rw [none]
      cases cs with
      | nil => cases last
      | cons c cs => exact ⟨c, cs, rfl⟩
    · rw [some]
      have last : b.getLast? = .some d := by
        cases b with
        | nil => simp [Ne.symm hd] at last
        | cons c b => simpa using last
      obtain ⟨e, es, eq⟩ := getLast?_splitFirst_lineFeed hd fuel last
      exact ⟨e, es, by simp [List.getLast?_cons, eq]⟩

/-- Where a character stands that is no line feed, there is a line. -/
theorem line_le_length_lines {source : String} {p : Pos} {c : Char}
    (h : StandsAt source.toList p [c]) (notBreak : c ≠ '\n') : p.line ≤ (lines source).length := by
  obtain ⟨before, behind, eq, rfl⟩ := h
  have parts : (splitOn ['\n'] none source.toList).length = source.toList.count '\n' + 1 :=
    length_splitFirst_lineFeed List.count_le_length
  have total : source.toList.count '\n' = before.count '\n' + behind.count '\n' := by
    simp [eq, List.count_append, List.count_cons_of_ne notBreak]
  rw [Pos.behind, lines]
  simp only [List.length_map, List.length_append, List.length_dropLast, parts, total]
  by_cases more : '\n' ∈ behind
  · have := List.count_pos_iff.2 more
    omega
  · -- the character is in the last part, so this part is a line
    obtain ⟨d, last, hd⟩ : ∃ d, source.toList.getLast? = some d ∧ d ≠ '\n' := by
      rw [eq, List.getLast?_append]
      cases h : behind.getLast? with
      | none => exact ⟨c, by simp, notBreak⟩
      | some d =>
        refine ⟨d, by simp, ?_⟩
        rintro rfl
        exact more (List.mem_of_getLast? h)
    obtain ⟨e, es, filled⟩ := getLast?_splitFirst_lineFeed hd source.toList.length last
    rw [splitOn, filled]
    simp [List.count_eq_zero_of_not_mem more]

/-- The tokens of a text go down it. -/
theorem tokens_down {source : String} {ts : List Token} (h : tokens source = .ok ts) :
    Down (lines source).length 1 ts := by
  obtain ⟨s, sound, broken, rfl⟩ := tokens_ended h
  obtain ⟨e, sound, outside, ⟨closing, eq, hollow⟩, finish⟩ := sound.finish
  have ordered := sound.placed.inOrder_withEnd.imp fun before => before.endLine
  have placed := sound.placed
  rw [withEnd, eq, List.reverse_append, List.append_assoc] at ordered
  rw [finish, eq, List.reverse_append, List.append_assoc]
  rw [eq] at placed
  refine Down.of_append (fun n le => ?_) (fun t ht => ?_) ordered
    (List.pairwise_reverse.2 broken.below) ?_ fun u hu => broken.notFirst u (List.mem_reverse.1 hu)
  · refine Down.of_layout rfl (fun t ht => ?_) le
    have ht := List.mem_reverse.1 ht
    have notEof := (placed.within t (List.mem_append_left _ ht)).notEof
    simpa [t.kind.isSolid_eq, notEof] using hollow t ht
  · have within := placed.within t (List.mem_append_right _ (List.mem_reverse.1 ht))
    refine ⟨within.notEof, within.line, fun solid => ?_⟩
    obtain ⟨p, c, stands, notBreak, line⟩ := within.last solid
    rw [← line]
    exact line_le_length_lines stands notBreak
  · have stands := (sound.placed.layout_withEnd (outside ▸ sound.blocks) sound.reader).stands
    rw [withEnd, eq, List.reverse_append, List.append_assoc] at stands
    exact fun t ht => (stands t ht).line_pos

/-! ### Cursors that go down a text -/

namespace Cursor

/-- Whether the tokens ahead of a cursor go down a text from the line that it remembers. -/
structure Fits (top : Nat) (c : Cursor) : Prop where
  down : Down top c.lastLine (c.token :: c.rest)
  top : c.lastLine ≤ max 1 top

/-- The lines on which the tokens of the text start that are ahead of a cursor. -/
def lines (c : Cursor) : List Nat :=
  ((c.token :: c.rest).filter (·.kind.isSolid)).map (·.pos.line)

/-- Whether all that is ahead is below the line that a cursor remembers. -/
def Fresh (c : Cursor) : Prop := ∀ l ∈ c.lines, c.lastLine < l

variable {top : Nat} {c c' : Cursor}

theorem mem_lines {l : Nat} :
    l ∈ c.lines ↔ ∃ t ∈ c.token :: c.rest, t.kind.isSolid = true ∧ t.pos.line = l := by
  simp only [lines, List.mem_map, List.mem_filter, and_assoc]

theorem token_mem_lines (solid : c.token.kind.isSolid = true) : c.token.pos.line ∈ c.lines :=
  mem_lines.2 ⟨_, List.mem_cons_self, solid, rfl⟩

theorem lines_next : c.next.lines ⊆ c.lines := by
  intro l hl
  obtain ⟨t, ht, solid, line⟩ := mem_lines.1 hl
  refine mem_lines.2 ⟨t, ?_, solid, line⟩
  unfold next at ht
  split at ht
  · exact ht
  · next eq =>
    rw [eq]
    exact List.mem_cons_of_mem _ ht

theorem Onward.lines (h : c.Onward c') : c'.lines ⊆ c.lines := by
  induction h with
  | refl => exact List.Subset.refl _
  | tail _ step ih => exact step ▸ List.Subset.trans lines_next ih

namespace Fits

theorem line_le (h : c.Fits top) {l : Nat} (hl : l ∈ c.lines) : c.lastLine ≤ l := by
  obtain ⟨t, ht, -, rfl⟩ := mem_lines.1 hl
  exact h.down.line_le t ht

theorem le_top (h : c.Fits top) {l : Nat} (hl : l ∈ c.lines) : l ≤ top := by
  obtain ⟨t, ht, solid, rfl⟩ := mem_lines.1 hl
  exact h.down.le_top t ht solid

/-- A cursor that reads a token remembers its last line, if it is part of the text. -/
theorem next (h : c.Fits top) : c.next.Fits top ∧
    c.next.lastLine = if c.token.kind.isSolid then c.token.endLine else c.lastLine := by
  obtain ⟨down, le⟩ := h
  obtain ⟨t, ts, n⟩ := c
  cases down with
  | ends eof line =>
    refine ⟨⟨.ends eof line, le⟩, ?_⟩
    simp [Cursor.next, t.kind.isSolid_eq, eof]
  | layout layout line ended down =>
    have hollow : t.kind.isSolid = false := by rw [t.kind.isSolid_eq, layout]; rfl
    cases ts with
    | nil => exact absurd rfl down.ne_nil
    | cons u us => simpa [Cursor.next, layout, hollow] using ⟨down, le⟩
  | solid solid line line' top down =>
    have notLayout : t.kind.isLayout = false := by
      rw [t.kind.isSolid_eq, Bool.and_eq_true, Bool.not_eq_true'] at solid
      exact solid.1
    cases ts with
    | nil => exact absurd rfl down.ne_nil
    | cons u us => simpa [Cursor.next, notLayout, solid] using ⟨down, top.trans (le_max_right _ _)⟩

/-- A token of the text that is read ends on the line that is remembered then. -/
theorem token_le (h : c.Fits top) (solid : c.token.kind.isSolid = true) :
    c.token.pos.line ≤ c.next.lastLine := by
  rw [h.next.2, if_pos solid]
  obtain ⟨t, ts, n⟩ := c
  obtain ⟨down, -⟩ := h
  cases down with
  | ends eof => simp [TokenKind.isSolid_eq, eof] at solid
  | layout layout => simp [TokenKind.isSolid_eq, layout] at solid
  | solid _ _ line => exact line

theorem lastLine_le (h : c.Fits top) : c.lastLine ≤ c.next.lastLine := by
  cases solid : c.token.kind.isSolid with
  | true => exact (h.line_le (token_mem_lines solid)).trans (h.token_le solid)
  | false => rw [h.next.2, solid]; rfl

theorem onward (h : c.Fits top) (on : c.Onward c') : c'.Fits top ∧ c.lastLine ≤ c'.lastLine := by
  induction on with
  | refl => exact ⟨h, le_rfl⟩
  | tail _ step ih =>
    obtain ⟨fits, le⟩ := ih
    subst step
    exact ⟨fits.next.1, le.trans fits.lastLine_le⟩

/-- Where the text ends, nothing is ahead. -/
theorem fresh_of_atEnd (h : c.Fits top) (atEnd : c.atEnd = true) : c.Fresh := by
  obtain ⟨t, ts, n⟩ := c
  have eof : t.kind = .eof := by
    revert atEnd
    unfold Cursor.atEnd
    dsimp only
    split
    · exact fun _ => ‹_›
    · exact fun h => nomatch h
  obtain ⟨down, -⟩ := h
  cases down with
  | ends => simp [Fresh, lines, eof, TokenKind.isSolid]
  | layout layout => simp [eof, TokenKind.isLayout] at layout
  | solid solid => simp [eof, TokenKind.isSolid] at solid

/-- Where a line ends, nothing of it is ahead. -/
theorem fresh_of_newline (h : c.Fits top) (newline : isNewline c.token.kind = true) :
    c.next.Fresh := by
  have kind := c.token.kind.isSolid_eq
  rw [c.token.kind.isLayout_eq, newline, Bool.true_or, Bool.true_or, Bool.not_true,
    Bool.false_and] at kind
  intro l hl
  rw [h.next.2, kind]
  obtain ⟨t, ht, solid, rfl⟩ := mem_lines.1 (lines_next hl)
  obtain ⟨u, us, n⟩ := c
  obtain ⟨down, -⟩ := h
  rcases List.mem_cons.1 ht with rfl | ht
  · exact absurd solid (by simp [kind])
  · cases down with
    | ends => simp at ht
    | layout _ _ ended => exact ended newline t ht solid
    | solid solid' => exact absurd solid' (by simp [kind])

end Fits

theorem Fresh.next (fresh : c.Fresh) (fits : c.Fits top) (hollow : c.token.kind.isSolid = false) :
    c.next.Fresh := by
  intro l hl
  rw [fits.next.2, hollow]
  exact fresh l (lines_next hl)

end Cursor

/-! ### What is read of statements -/

/-- What is known of the statements of a suite that is read between two cursors. -/
structure Holds (c : Cursor) (ss : List Stmt) (c' : Cursor) : Prop where
  ordered : ss.Pairwise Stmt.Precedes
  nests : ∀ s ∈ ss, s.Nests
  lines : ∀ s ∈ ss, s.line ∈ c.lines
  ends : ∀ s ∈ ss, s.endLine ≤ c'.lastLine

/-- Whether whole lines of statements are read. -/
structure Lays (c : Cursor) (ss : List Stmt) (c' : Cursor) : Prop where
  onward : c.Onward c'
  fresh : c'.Fresh
  holds : Holds c ss c'

/-- Whether the action of a statement with suites is read behind its first token. -/
structure Acts (c : Cursor) (a : Action) (c' : Cursor) : Prop where
  onward : c.Onward c'
  fresh : c'.Fresh
  descends : a.Descends c.lastLine
  suites : ∀ body ∈ a.suites, Holds c body c'
  clauses : ∀ l ∈ a.clauseLines, l ∈ c.lines ∧ l ≤ c'.lastLine

section

variable {top : Nat} {c c₁ c₂ c' : Cursor} {ss more : List Stmt} {a : Action}

theorem Holds.nil : Holds c [] c' := ⟨.nil, by simp, by simp, by simp⟩

/-- What is read in between is read in a longer run. -/
theorem Holds.mono (h : Holds c₁ ss c₂) (before : c.Onward c₁) (after : c₂.lastLine ≤ c'.lastLine) :
    Holds c ss c' where
  ordered := h.ordered
  nests := h.nests
  lines s hs := before.lines (h.lines s hs)
  ends s hs := (h.ends s hs).trans after

theorem Lays.nil (fresh : c.Fresh) : Lays c [] c := ⟨.refl c, fresh, .nil⟩

theorem Lays.later (h : Lays c₁ ss c') (before : c.Onward c₁) : Lays c ss c' :=
  ⟨before.trans h.onward, h.fresh, h.holds.mono before le_rfl⟩

/-- Where a line has ended, statements are read from below it. -/
theorem Lays.below (h : Lays c ss c') (fresh : c.Fresh) : ∀ u ∈ ss, c.lastLine < u.line :=
  fun u hu => fresh _ (h.holds.lines u hu)

/-- Lines of statements are read one after the other. -/
theorem Lays.append (h : Lays c ss c₁) (fits : c.Fits top) (between : c₁.Onward c₂)
    (h' : Lays c₂ more c') : Lays c (ss ++ more) c' where
  onward := (h.onward.trans between).trans h'.onward
  fresh := h'.fresh
  holds := by
    have fits := (fits.onward h.onward).1
    have on := between.trans h'.onward
    have first := h.holds.mono (.refl c) (fits.onward on).2
    have second := h'.holds.mono (h.onward.trans between) le_rfl
    refine ⟨List.pairwise_append.2 ⟨first.ordered, second.ordered, fun s hs u hu => ?_⟩,
      List.forall_mem_append.2 ⟨first.nests, second.nests⟩,
      List.forall_mem_append.2 ⟨first.lines, second.lines⟩,
      List.forall_mem_append.2 ⟨first.ends, second.ends⟩⟩
    have below : s.endLine < u.line :=
      (h.holds.ends s hs).trans_lt (h.fresh _ (between.lines (h'.holds.lines u hu)))
    exact ⟨below.le, fun _ => below⟩

/-- A statement with suites, from its first token on. -/
theorem Acts.holds (h : Acts c.next a c') (fits : c.Fits top)
    (solid : c.token.kind.isSolid = true) : Holds c [.mk a c.token.pos c'.lastLine] c' := by
  obtain ⟨fits', -⟩ := fits.next
  have start := fits.token_le solid
  have below : ∀ l ∈ c.next.lines, c.token.pos.line ≤ l := fun l hl =>
    start.trans (fits'.line_le hl)
  have spans : (Stmt.mk a c.token.pos c'.lastLine).Spans := by
    refine ⟨start.trans (fits'.onward h.onward).2, fun body hb u hu => ?_, fun l hl => ?_⟩
    · have held := h.suites body hb
      exact ⟨below _ (held.lines u hu), held.ends u hu⟩
    · obtain ⟨ahead, le⟩ := h.clauses l hl
      exact ⟨below l ahead, le⟩
  refine ⟨List.pairwise_singleton _ _, ?_, ?_, ?_⟩ <;> refine List.forall_mem_singleton.2 ?_
  · exact .mk spans (h.descends.mono start) (fun body hb => (h.suites body hb).ordered)
      fun body hb => (h.suites body hb).nests
  · exact Cursor.token_mem_lines solid
  · exact le_rfl

/-- A statement without suites, with what was read of it. -/
theorem holds_simple (simple : a.isCompound = false) (fits : c.Fits top)
    (solid : c.token.kind.isSolid = true) (on : c.next.Onward c') :
    Holds c [.mk a c.token.pos c'.lastLine] c' := by
  refine ⟨List.pairwise_singleton _ _, ?_, ?_, ?_⟩ <;> refine List.forall_mem_singleton.2 ?_
  · exact Stmt.nests_of_simple simple ((fits.token_le solid).trans (fits.next.1.onward on).2)
  · exact Cursor.token_mem_lines solid
  · exact le_rfl

end

/-! ### Simple statements -/

variable {α β : Type}

/-- What a reader makes is a matter of its last part. -/
theorem yields_last {p : Parse α} {f : α → Parse β} {c : Cursor} {P : β → Prop}
    (h : ∀ a c', Yields (f a) c' fun b _ => P b) : Yields (p >>= f) c fun b _ => P b :=
  Yields.bind (fun _ _ _ => trivial) fun a c' (_ : True) => h a c'

section

variable (budget : Nat) (c : Cursor)

theorem fromImport_simple : Yields (fromImport budget) c fun a _ => a.isCompound = false := by
  unfold fromImport
  dsimp only
  repeat' first
    | exact .pure rfl
    | refine yields_last fun _ _ => ?_
    | split

theorem expressionStatement_simple :
    Yields (expressionStatement budget) c fun a _ => a.isCompound = false := by
  unfold expressionStatement
  dsimp only
  repeat' first
    | exact .pure rfl
    | refine yields_last fun _ _ => ?_
    | split

/-- What a simple statement does has no suites. -/
theorem simpleStatement_simple :
    Yields (simpleStatement budget) c fun a _ => a.isCompound = false := by
  unfold simpleStatement
  repeat' first
    | exact .pure rfl
    | exact fromImport_simple budget _
    | exact expressionStatement_simple budget _
    | refine yields_last fun _ _ => ?_
    | split

/-- The statement that an action makes up ends on the line that is remembered behind it. -/
theorem spanned_bind {start : Pos} {p : Parse Action} {f : Stmt → Parse β} {c : Cursor}
    {S : β → Cursor → Prop}
    (h : Yields p c fun a c' => Yields (f (.mk a start c'.lastLine)) c' S) :
    Yields (spanned start p >>= f) c S := by
  rw [spanned, bind_assoc]
  exact h.bind fun a c' rest => rest

/-- The statements of a line have no suites. -/
theorem simpleList_holds {top : Nat} : ∀ (fuel : Nat) {c : Cursor}, c.Fits top →
    Yields (simpleList budget fuel) c fun ss c' =>
      c.Onward c' ∧ Holds c ss c' ∧ ∀ s ∈ ss, s.action.isCompound = false
  | 0, _, _ => Yields.fail
  | fuel + 1, c, fits => by
    unfold simpleList
    refine Yields.pos_bind (spanned_bind ?_)
    refine ((simpleStatement_eats c).and (simpleStatement_simple budget c)).imp ?_
    rintro a c₁ ⟨⟨solid, on⟩, simple⟩
    have held := holds_simple simple fits solid on
    have on₁ := (Cursor.Onward.next c).trans on
    have fits₁ := (fits.onward on₁).1
    have alone : ∀ s ∈ [Stmt.mk a c.token.pos c₁.lastLine], s.action.isCompound = false :=
      List.forall_mem_singleton.2 simple
    refine Yields.acceptIf_bind (fun _ => Yields.ahead_bind ?_) fun _ => .pure ⟨on₁, held, alone⟩
    have on₂ := on₁.trans (.next c₁)
    refine Yields.ite (fun _ => ?_) fun _ => ?_
    · exact .pure ⟨on₂, held.mono (.refl c) fits₁.lastLine_le, alone⟩
    · refine Yields.bind (simpleList_holds fuel fits₁.next.1) ?_
      rintro more c₃ ⟨on₃, held', simple'⟩
      have first := held.mono (.refl c) (fits₁.onward ((Cursor.Onward.next c₁).trans on₃)).2
      have second := held'.mono on₂ le_rfl
      have all : ∀ s ∈ Stmt.mk a c.token.pos c₁.lastLine :: more, s.action.isCompound = false :=
        List.forall_mem_cons.2 ⟨simple, simple'⟩
      refine .pure ⟨on₂.trans on₃, ⟨?_, ?_, ?_, ?_⟩, all⟩
      · refine List.pairwise_cons.2 ⟨fun u hu => ⟨?_, ?_⟩, held'.ordered⟩
        · exact fits₁.lastLine_le.trans (fits₁.next.1.line_le (held'.lines u hu))
        · rintro (compound | compound)
          · exact absurd compound (by simp [Stmt.action, simple])
          · exact absurd compound (by simp [simple' u hu])
      · exact List.forall_mem_append.2 ⟨first.nests, second.nests⟩
      · exact List.forall_mem_append.2 ⟨first.lines, second.lines⟩
      · exact List.forall_mem_append.2 ⟨first.ends, second.ends⟩

theorem simpleLine_lays {top : Nat} {c : Cursor} (fits : c.Fits top) :
    Yields (simpleLine budget) c fun ss c' => Lays c ss c' ∧ Behind c.lastLine ss := by
  unfold simpleLine
  refine Yields.bind (simpleList_holds budget budget fits) ?_
  rintro ss c₁ ⟨on, held, simple⟩
  have fits₁ := (fits.onward on).1
  have behind : Behind c.lastLine ss := fun u hu =>
    ⟨fits.line_le (held.lines u hu), fun compound => by simp [simple u hu] at compound⟩
  refine Yields.get_bind ?_
  split
  · next atEnd => exact .pure ⟨⟨on, fits₁.fresh_of_atEnd atEnd, held⟩, behind⟩
  · refine Yields.expectIf_bind fun newline => .pure ⟨⟨on.trans (.next c₁), ?_, ?_⟩, behind⟩
    · exact fits₁.fresh_of_newline newline
    · exact held.mono (.refl c) fits₁.lastLine_le

end

/-! ### Blocks -/

section

variable {top budget : Nat} {c : Cursor} {stmt : Parse (List Stmt)}

/-- Line ends that are read leave nothing of their lines ahead. -/
theorem skipNewlines_fresh : ∀ (fuel : Nat) {c : Cursor}, c.Fits top → c.Fresh →
    Yields (skipNewlines fuel) c fun _ c' => c.Onward c' ∧ c'.Fresh
  | 0, c, _, fresh => .pure ⟨.refl c, fresh⟩
  | fuel + 1, c, fits, fresh => by
    unfold skipNewlines
    refine Yields.acceptIf_bind (fun newline => ?_) fun _ => .pure ⟨.refl c, fresh⟩
    refine (skipNewlines_fresh fuel fits.next.1 (fits.fresh_of_newline newline)).imp ?_
    exact fun _ _ ⟨on, fresh⟩ => ⟨(Cursor.Onward.next c).trans on, fresh⟩

/-- Whether a reader of statements reads whole lines of them. -/
def ReadsLines (top : Nat) (stmt : Parse (List Stmt)) : Prop :=
  ∀ c : Cursor, c.Fits top → Yields stmt c (Lays c)

variable (lines : ReadsLines top stmt)

include lines

theorem blockBody_lays : ∀ (fuel : Nat) {c : Cursor}, c.Fits top → c.Fresh →
    Yields (blockBody budget stmt fuel) c (Lays c)
  | 0, _, _, _ => Yields.fail
  | fuel + 1, c, fits, fresh => by
    unfold blockBody
    refine Yields.ahead_bind (Yields.get_bind ?_)
    refine Yields.ite (fun _ => .pure (.nil fresh)) fun _ => ?_
    refine (lines c fits).bind fun ss c₁ laid => ?_
    have fits₁ := (fits.onward laid.onward).1
    refine (skipNewlines_fresh budget fits₁ laid.fresh).bind fun _ c₂ ⟨between, fresh₂⟩ => ?_
    refine (blockBody_lays fuel (fits₁.onward between).1 fresh₂).bind fun more c₃ rest => ?_
    exact .pure (laid.append fits between rest)

theorem block_lays (fits : c.Fits top) :
    Yields (block budget stmt) c fun body c' => Lays c body c' ∧ Behind c.lastLine body := by
  unfold block
  refine Yields.acceptIf_bind (fun newline => ?_) fun _ => simpleLine_lays budget fits
  have fits₁ := fits.next.1
  have fresh₁ := fits.fresh_of_newline newline
  refine (skipNewlines_fresh budget fits₁ fresh₁).bind fun _ c₂ ⟨on₂, fresh₂⟩ => ?_
  have fits₂ := (fits₁.onward on₂).1
  refine Yields.expectIf_bind fun indent => ?_
  have hollow₂ : c₂.token.kind.isSolid = false := by
    revert indent
    cases c₂.token.kind <;> simp [TokenKind.isSolid]
  have fits₃ := fits₂.next.1
  refine (blockBody_lays lines budget fits₃ (fresh₂.next fits₂ hollow₂)).bind fun body c₄ laid => ?_
  have before := ((Cursor.Onward.next c).trans on₂).trans (.next c₂)
  have fits₄ := (fits₃.onward laid.onward).1
  have on₄ := before.trans laid.onward
  have behind : Behind c.lastLine body :=
    (Behind.of_lt (laid.below (fresh₂.next fits₂ hollow₂))).mono (fits.onward before).2
  refine Yields.acceptIf_bind (fun dedent => .pure ⟨?_, behind⟩) fun _ => .pure ⟨?_, behind⟩
  · have hollow₄ : c₄.token.kind.isSolid = false := by
      revert dedent
      cases c₄.token.kind <;> simp [TokenKind.isSolid]
    exact ⟨on₄.trans (.next c₄), laid.fresh.next fits₄ hollow₄,
      laid.holds.mono before fits₄.lastLine_le⟩
  · exact ⟨on₄, laid.fresh, laid.holds.mono before le_rfl⟩

/-- What is read behind a block only if it is there. -/
theorem optionalElse_lays (fits : c.Fits top) (fresh : c.Fresh) :
    Yields (optionalElse budget stmt) c (Lays c) := by
  unfold optionalElse
  refine Yields.acceptIf_bind (fun _ => ?_) fun _ => .pure (.nil fresh)
  refine Yields.expectIf_bind fun _ => ?_
  have on := (Cursor.Onward.next c).trans (.next c.next)
  exact (block_lays lines fits.next.1.next.1).imp fun _ _ laid => laid.1.later on

/-! ### Statements with suites -/

/-- A block behind the header of a statement. -/
theorem yields_block {f : List Stmt → Parse β} {c₀ : Cursor} {S : β → Cursor → Prop}
    (fits : c₀.Fits top) (on : c₀.Onward c)
    (hf : ∀ body c', Lays c₀ body c' → Behind c₀.lastLine body → Yields (f body) c' S) :
    Yields (block budget stmt >>= f) c S :=
  (block_lays lines (fits.onward on).1).bind fun body c' laid =>
    hf body c' (laid.1.later on) (laid.2.mono (fits.onward on).2)

/-- The part `else` behind a block. -/
theorem yields_else {f : List Stmt → Parse β} {c₀ : Cursor} {S : β → Cursor → Prop} {ss : List Stmt}
    (fits : c₀.Fits top) (before : Lays c₀ ss c)
    (hf : ∀ orelse c', Lays c orelse c' → Yields (f orelse) c' S) :
    Yields (optionalElse budget stmt >>= f) c S :=
  (optionalElse_lays lines (fits.onward before.onward).1 before.fresh).bind hf

omit lines in
/-- A statement with a suite and the part `else` behind it. -/
theorem Acts.of_else {a : Action} {body orelse : List Stmt} {c₁ c' : Cursor}
    (suites : a.suites = [body, orelse]) (none : a.clauseLines = []) (inTurn : a.InTurn)
    (fits : c.Fits top) (laid : Lays c body c₁) (behind : Behind c.lastLine body)
    (rest : Lays c₁ orelse c') : Acts c a c' where
  onward := laid.onward.trans rest.onward
  fresh := rest.fresh
  descends := by
    refine ⟨?_, inTurn⟩
    rw [suites]
    have below := (Behind.of_lt (rest.below laid.fresh)).mono (fits.onward laid.onward).2
    exact List.forall_mem_cons.2 ⟨behind, List.forall_mem_singleton.2 below⟩
  suites := by
    have le := ((fits.onward laid.onward).1.onward rest.onward).2
    rw [suites]
    exact List.forall_mem_cons.2 ⟨laid.holds.mono (.refl c) le,
      List.forall_mem_singleton.2 (rest.later laid.onward).holds⟩
  clauses := by simp [none]

theorem whileStatement_acts (fits : c.Fits top) :
    Yields (whileStatement budget stmt) c (Acts c) := by
  unfold whileStatement
  refine Yields.goes_bind fun test c₁ on₁ => Yields.goes_bind fun _ c₂ on₂ => ?_
  refine yields_block lines fits (on₁.trans on₂) fun body c₃ laid behind => ?_
  refine yields_else lines fits laid fun orelse c₄ rest => ?_
  exact .pure (.of_else rfl rfl trivial fits laid behind rest)

theorem forStatement_acts (fits : c.Fits top) :
    Yields (forStatement budget stmt) c (Acts c) := by
  unfold forStatement
  refine Yields.goes_bind fun target c₁ on₁ => Yields.goes_bind fun _ c₂ on₂ => ?_
  refine Yields.goes_bind fun items c₃ on₃ => Yields.goes_bind fun _ c₄ on₄ => ?_
  have on := ((on₁.trans on₂).trans on₃).trans on₄
  refine yields_block lines fits on fun body c₅ laid behind => ?_
  refine yields_else lines fits laid fun orelse c₆ rest => ?_
  exact .pure (.of_else rfl rfl trivial fits laid behind rest)

/-- An `elif` is a statement of its own in the part `else`. -/
theorem ifStatement_acts : ∀ (fuel : Nat) {c : Cursor}, c.Fits top →
    Yields (ifStatement budget stmt fuel) c (Acts c)
  | 0, _, _ => Yields.fail
  | fuel + 1, c, fits => by
    unfold ifStatement
    refine Yields.goes_bind fun test c₁ on₁ => Yields.goes_bind fun _ c₂ on₂ => ?_
    refine yields_block lines fits (on₁.trans on₂) fun body c₃ laid behind => ?_
    have fits₃ := (fits.onward laid.onward).1
    refine Yields.ahead_bind (Yields.ite (fun elif => ?_) fun _ => ?_)
    · refine Yields.pos_bind (Yields.advance_bind (spanned_bind ?_))
      refine (ifStatement_acts fuel fits₃.next.1).imp fun a c₄ acts => .pure ?_
      have on₄ := (Cursor.Onward.next c₃).trans acts.onward
      have held := acts.holds fits₃ (isSolid_of_isKeyword elif)
      exact .of_else rfl rfl trivial fits laid behind ⟨on₄, acts.fresh, held⟩
    · refine yields_else lines fits laid fun orelse c₄ rest => ?_
      exact .pure (.of_else rfl rfl trivial fits laid behind rest)

/-- A definition behind its header. -/
theorem definition_acts {c₀ : Cursor} (fits : c₀.Fits top) (on : c₀.Onward c) {what : String}
    {make : List Stmt → Action} (suites : ∀ body, (make body).suites = [body])
    (none : ∀ body, (make body).clauseLines = []) (inTurn : ∀ body, (make body).InTurn) :
    Yields (expect .colon what >>= fun _ => block budget stmt >>= fun body => pure (make body)) c
      (Acts c₀) := by
  refine Yields.goes_bind fun _ c₁ on₁ => ?_
  refine yields_block lines fits (on.trans on₁) fun body c₂ laid behind => .pure ?_
  refine ⟨laid.onward, laid.fresh, ⟨?_, inTurn body⟩, ?_, by simp [none]⟩ <;> rw [suites]
  · exact List.forall_mem_singleton.2 behind
  · exact List.forall_mem_singleton.2 laid.holds

theorem functionStatement_acts (fits : c.Fits top) (start : Pos) :
    Yields (functionStatement budget stmt start) c (Acts c) := by
  unfold functionStatement
  refine Yields.goes_bind fun name c₁ on₁ => Yields.goes_bind fun _ c₂ on₂ => ?_
  refine Yields.goes_bind fun ps c₃ on₃ => Yields.goes_bind fun _ c₄ on₄ => ?_
  have on := ((on₁.trans on₂).trans on₃).trans on₄
  dsimp only
  refine Yields.goes_bind fun arrow c₅ on₅ => Yields.ite (fun _ => ?_) fun _ => ?_
  · refine Yields.goes_bind fun _ c₆ on₆ => ?_
    exact definition_acts lines fits ((on.trans on₅).trans on₆) (fun _ => rfl) (fun _ => rfl)
      fun _ => trivial
  · exact definition_acts lines fits (on.trans on₅) (fun _ => rfl) (fun _ => rfl)
      fun _ => trivial

theorem classStatement_acts (fits : c.Fits top) (start : Pos) :
    Yields (classStatement budget stmt start) c (Acts c) := by
  unfold classStatement
  dsimp only
  refine Yields.goes_bind fun name c₁ on₁ => Yields.goes_bind fun bracket c₂ on₂ => ?_
  have on := on₁.trans on₂
  refine Yields.ite (fun _ => ?_) fun _ => ?_
  · refine Yields.goes_bind fun bs c₃ on₃ => Yields.goes_bind fun _ c₄ on₄ => ?_
    exact definition_acts lines fits ((on.trans on₃).trans on₄) (fun _ => rfl) (fun _ => rfl)
      fun _ => trivial
  · exact definition_acts lines fits on (fun _ => rfl) (fun _ => rfl)
      fun _ => trivial

/-- What is known of the handlers that are read between two cursors. -/
structure Handles (c : Cursor) (hs : List Handler) (c' : Cursor) : Prop where
  onward : c.Onward c'
  fresh : c'.Fresh
  bodies : ∀ h ∈ hs, Holds c h.body c'
  behind : ∀ h ∈ hs, Behind h.pos.line h.body
  lines : ∀ h ∈ hs, h.pos.line ∈ c.lines ∧ h.pos.line ≤ c'.lastLine

theorem handlers_handles : ∀ (fuel : Nat) {c : Cursor}, c.Fits top → c.Fresh →
    Yields (handlers budget stmt fuel) c (Handles c)
  | 0, _, _, _ => Yields.fail
  | fuel + 1, c, fits, fresh => by
    unfold handlers
    dsimp only
    refine Yields.pos_bind (Yields.acceptIf_bind (fun except => ?_) fun _ => ?_)
    · have solid := isSolid_of_isKeyword except
      -- behind what a clause takes there is its body, and the other clauses behind that
      have clause : ∀ (x : Option Expr × Option String) {c₁ : Cursor}, c.next.Onward c₁ →
          Yields (do
            expect .colon "after except clause"
            let body ← block budget stmt
            return .mk x.1 x.2 body c.token.pos :: (← handlers budget stmt fuel)) c₁
            (Handles c) := by
        intro x c₁ on₁
        refine Yields.goes_bind fun _ c₂ on₂ => ?_
        refine yields_block lines fits.next.1 (on₁.trans on₂) fun body c₃ laid behind => ?_
        have fits₃ := (fits.next.1.onward laid.onward).1
        refine (handlers_handles fuel fits₃ laid.fresh).bind fun hs c₄ handled => .pure ?_
        have before := (Cursor.Onward.next c).trans laid.onward
        have le := (fits₃.onward handled.onward).2
        have start := (fits.token_le solid).trans (fits.next.1.onward laid.onward).2
        refine ⟨before.trans handled.onward, handled.fresh, ?_, ?_, ?_⟩
        · exact List.forall_mem_cons.2 ⟨laid.holds.mono (.next c) le,
            fun h hh => (handled.bodies h hh).mono before le_rfl⟩
        · exact List.forall_mem_cons.2 ⟨behind.mono (fits.token_le solid), handled.behind⟩
        · exact List.forall_mem_cons.2 ⟨⟨Cursor.token_mem_lines solid, start.trans le⟩,
            fun h hh => (handled.lines h hh).imp_left (before.lines ·)⟩
      refine Yields.ite (fun _ => Yields.ahead_bind (Yields.ite (fun _ => ?_) fun _ => ?_)) nofun
      · exact clause (none, none) (.refl _)
      · refine Yields.goes_bind fun filter c₁ on₁ => Yields.goes_bind fun named c₂ on₂ => ?_
        refine Yields.ite (fun _ => ?_) fun _ => ?_
        · refine Yields.goes_bind fun binding c₃ on₃ => ?_
          exact clause (some filter, binding) ((on₁.trans on₂).trans on₃)
        · exact clause (some filter, none) (on₁.trans on₂)
    · exact .pure ⟨.refl c, fresh, by simp, by simp, by simp⟩

omit lines in
theorem Acts.of_try {body orelse finalbody : List Stmt} {hs : List Handler} {c₁ c₂ c₃ c' : Cursor}
    (fits : c.Fits top) (laid : Lays c body c₁) (behind : Behind c.lastLine body)
    (handled : Handles c₁ hs c₂) (other : Lays c₂ orelse c₃) (last : Lays c₃ finalbody c') :
    Acts c (.try_ body hs orelse finalbody) c' := by
  have on₂ := laid.onward.trans handled.onward
  have on₃ := on₂.trans other.onward
  have fits₂ := (fits.onward on₂).1
  -- the lines that the cursor remembers behind each of the parts
  have le₀ := (fits.onward laid.onward).2
  have upto₂ := ((fits.onward laid.onward).1.onward handled.onward).2
  have upto₃ := (fits₂.onward other.onward).2
  have below₂ := other.below handled.fresh
  have below₃ := last.below other.fresh
  have le₃ := ((fits.onward on₃).1.onward last.onward).2
  have le₂ := upto₃.trans le₃
  have le₁ := upto₂.trans le₂
  refine ⟨on₃.trans last.onward, last.fresh, ⟨?_, ?_⟩, ?_, ?_⟩
  · refine List.forall_mem_cons.2 ⟨behind, List.forall_mem_cons.2
      ⟨(Behind.of_lt below₂).mono (le₀.trans upto₂), List.forall_mem_cons.2
        ⟨(Behind.of_lt below₃).mono ((le₀.trans upto₂).trans upto₃), ?_⟩⟩⟩
    refine List.forall_mem_map.2 fun h hh => (handled.behind h hh).mono ?_
    exact le₀.trans ((fits.onward laid.onward).1.line_le (handled.lines h hh).1)
  · refine ⟨fun s hs => List.forall_mem_append.2 ⟨fun u hu => ?_, fun u hu => ?_⟩,
      fun s hs u hu => (other.holds.ends s hs).trans_lt (below₃ u hu), fun h hh =>
      ⟨handled.behind h hh, fun u hu => ⟨?_, fun s hs => ?_⟩⟩⟩
    · exact ((laid.holds.ends s hs).trans upto₂).trans_lt (below₂ u hu)
    · exact (((laid.holds.ends s hs).trans upto₂).trans upto₃).trans_lt (below₃ u hu)
    · exact ((handled.lines h hh).2.trans upto₃).trans_lt (below₃ u hu)
    · exact (((handled.bodies h hh).ends s hs).trans upto₃).trans_lt (below₃ u hu)
  · refine List.forall_mem_cons.2 ⟨laid.holds.mono (.refl c) le₁, List.forall_mem_cons.2
      ⟨other.holds.mono on₂ le₃, List.forall_mem_cons.2 ⟨last.holds.mono on₃ le_rfl, ?_⟩⟩⟩
    exact List.forall_mem_map.2 fun h hh => (handled.bodies h hh).mono laid.onward le₂
  · refine List.forall_mem_map.2 fun h hh => ?_
    exact (handled.lines h hh).imp (laid.onward.lines ·) (·.trans le₂)

theorem tryStatement_acts (fits : c.Fits top) :
    Yields (tryStatement budget stmt) c (Acts c) := by
  unfold tryStatement
  dsimp only
  refine Yields.goes_bind fun _ c₁ on₁ => ?_
  refine yields_block lines fits on₁ fun body c₂ laid behind => ?_
  have fits₂ := (fits.onward laid.onward).1
  refine (handlers_handles lines budget fits₂ laid.fresh).bind fun hs c₃ handled => ?_
  have fits₃ := (fits₂.onward handled.onward).1
  have final : ∀ {orelse : List Stmt} {c₄ : Cursor}, Lays c₃ orelse c₄ → Yields (do
      let finalbody ← if ← acceptWord .finally then do
          expect .colon "after 'finally'"
          block budget stmt
        else pure []
      if hs.isEmpty && finalbody.isEmpty then Parse.fail .noHandler
      return .try_ body hs orelse finalbody) c₄ (Acts c) := by
    intro orelse c₄ other
    have fits₄ := (fits₃.onward other.onward).1
    have whole : ∀ {finalbody : List Stmt} {c₅ : Cursor}, Lays c₄ finalbody c₅ → Yields (do
        if hs.isEmpty && finalbody.isEmpty then Parse.fail .noHandler
        return .try_ body hs orelse finalbody) c₅ (Acts c) := by
      intro finalbody c₅ last
      refine Yields.ite (fun _ => ?_) fun _ => .pure (.of_try fits laid behind handled other last)
      exact Yields.bind (R := fun _ _ => False) .fail nofun
    refine Yields.acceptIf_bind (fun _ => ?_) fun _ => ?_
    · refine Yields.goes_bind fun _ c₅ on₅ => ?_
      exact yields_block lines fits₄ ((Cursor.Onward.next c₄).trans on₅) fun _ _ last _ => whole last
    · exact whole (.nil other.fresh)
  refine Yields.ite (fun _ => ?_) fun _ => ?_
  · exact final (.nil handled.fresh)
  · exact (optionalElse_lays lines fits₃ handled.fresh).bind fun _ _ other => final other

theorem statement_lays (fits : c.Fits top) : Yields (statement budget stmt) c (Lays c) := by
  unfold statement
  dsimp only
  have compound : ∀ {action : Parse Action}, c.token.kind.isSolid = true →
      Yields action c.next (Acts c.next) → Yields (do
        advance
        return [← spanned c.token.pos action]) c (Lays c) := by
    intro action solid acts
    refine Yields.advance_bind (spanned_bind (acts.imp fun a c' acts => .pure ?_))
    exact ⟨(Cursor.Onward.next c).trans acts.onward, acts.fresh, acts.holds fits solid⟩
  have fits' := fits.next.1
  refine Yields.pos_bind (Yields.peek_bind ?_)
  split
  · next h => exact compound (by rw [h]; rfl) (ifStatement_acts lines budget fits')
  · next h => exact compound (by rw [h]; rfl) (whileStatement_acts lines fits')
  · next h => exact compound (by rw [h]; rfl) (forStatement_acts lines fits')
  · next h => exact compound (by rw [h]; rfl) (functionStatement_acts lines fits' _)
  · next h => exact compound (by rw [h]; rfl) (classStatement_acts lines fits' _)
  · next h => exact compound (by rw [h]; rfl) (tryStatement_acts lines fits')
  · exact (simpleLine_lays budget fits).imp fun _ _ laid => laid.1

end

/-! ### Programs -/

/-- Statements are read by whole lines, however deep they stand. -/
theorem stmtAt_readsLines (top : Nat) : ∀ budget : Nat, ReadsLines top (stmtAt budget)
  | 0, _, _ => Yields.fail
  | budget + 1, _, fits => statement_lays (stmtAt_readsLines top budget) fits

theorem programBody_lays {top budget : Nat} : ∀ (fuel : Nat) {c : Cursor}, c.Fits top →
    Yields (programBody budget fuel) c (Lays c)
  | 0, _, _ => Yields.fail
  | fuel + 1, c, fits => by
    unfold programBody
    dsimp only
    refine Yields.get_bind (Yields.ite (fun atEnd => ?_) fun _ => ?_)
    · exact .pure (.nil (fits.fresh_of_atEnd atEnd))
    · refine Yields.ahead_bind (Yields.ite (fun _ => ?_) fun _ => ?_)
      · exact Yields.bind (R := fun _ _ => False) .fail nofun
      · refine (stmtAt_readsLines top budget c fits).bind fun ss c₁ laid => ?_
        have fits₁ := (fits.onward laid.onward).1
        refine Yields.goes_bind fun _ c₂ between => ?_
        refine (programBody_lays fuel (fits₁.onward between).1).bind fun more c₃ rest => ?_
        exact .pure (laid.append fits between rest)

/-- The program of a text is read from tokens that go down it. -/
theorem parseProgram_run {source : String} {p : Program} (h : parseProgram source = .ok p) :
    ∃ c c' : Cursor, c.Fits (lines source).length ∧ (∀ l ∈ c.lines, 1 ≤ l) ∧
      (program (nestingBudget source)).run c = .ok (p, c') := by
  unfold parseProgram runOn at h
  split at h
  · cases h
  · next ts lexed =>
    have down := tokens_down lexed
    cases read : (program (nestingBudget source)).run (.ofTokens ts) with
    | error e =>
      rw [read] at h
      cases h
    | ok r =>
      rw [read] at h
      obtain rfl : r.1 = p := Except.ok.inj h
      cases ts with
      | nil => exact absurd rfl down.ne_nil
      | cons t ts =>
        have fits : (Cursor.ofTokens (t :: ts)).Fits (lines source).length :=
          ⟨down, le_max_left _ _⟩
        exact ⟨_, r.2, fits, fun l hl => fits.line_le hl, read⟩

theorem parseProgram_lays {source : String} {p : Program} (h : parseProgram source = .ok p) :
    ∃ c c' : Cursor, c.Fits (lines source).length ∧ Lays c p c' ∧ ∀ l ∈ c.lines, 1 ≤ l := by
  obtain ⟨c, c', fits, positive, read⟩ := parseProgram_run h
  have laid : Yields (program (nestingBudget source)) c (Lays c) := by
    unfold program
    refine Yields.goes_bind fun _ c₁ on => ?_
    exact (programBody_lays _ (fits.onward on).1).imp fun _ _ laid => laid.later on
  exact ⟨c, c', fits, laid _ _ read, positive⟩

end Stepwise.Script

namespace Stepwise

open Script

/-! ### Main lines -/

theorem mem_insertLine {k n : Nat} {ls : List Nat} : k ∈ insertLine n ls ↔ k = n ∨ k ∈ ls := by
  induction ls with
  | nil => simp [insertLine]
  | cons m ms ih =>
    rw [insertLine]
    split
    · exact List.mem_cons
    · split
      · next eq =>
        subst eq
        simp
      · rw [List.mem_cons, ih, List.mem_cons]
        exact or_left_comm

theorem pairwise_insertLine {n : Nat} {ls : List Nat} (h : ls.Pairwise (· < ·)) :
    (insertLine n ls).Pairwise (· < ·) := by
  induction ls with
  | nil => exact List.pairwise_singleton _ _
  | cons m ms ih =>
    obtain ⟨least, rest⟩ := List.pairwise_cons.1 h
    rw [insertLine]
    split
    · next less =>
      exact h.cons (List.forall_mem_cons.2 ⟨less, fun k hk => less.trans (least k hk)⟩)
    · split
      · exact h
      · refine (ih rest).cons fun k hk => ?_
        rcases mem_insertLine.1 hk with rfl | hk
        · omega
        · exact least k hk

theorem foldl_insertLine (ns : List Nat) : ∀ {ls : List Nat}, ls.Pairwise (· < ·) →
    (ns.foldl (fun lines n => insertLine n lines) ls).Pairwise (· < ·) ∧
      ∀ k, k ∈ ns.foldl (fun lines n => insertLine n lines) ls ↔ k ∈ ns ∨ k ∈ ls := by
  induction ns with
  | nil => exact fun h => ⟨h, by simp⟩
  | cons n ns ih =>
    intro ls h
    obtain ⟨increasing, mem⟩ := ih (pairwise_insertLine (n := n) h)
    refine ⟨increasing, fun k => ?_⟩
    rw [List.foldl_cons, mem, mem_insertLine, List.mem_cons]
    exact or_left_comm.trans or_assoc.symm

theorem mem_linesOf {k : Nat} {s : Stmt} :
    k ∈ linesOf s ↔ s.line ≤ k ∧ k ≤ max s.endLine s.line := by
  rw [linesOf, List.mem_range'_1]
  omega

theorem mem_mainLines {k : Nat} {p : Program} : k ∈ mainLines p ↔
    ∃ s ∈ p, s.isDefinition = false ∧ s.isDocstring = false ∧
      s.line ≤ k ∧ k ≤ max s.endLine s.line := by
  rw [mainLines, (foldl_insertLine _ .nil).2]
  simp only [List.mem_flatMap, List.mem_filter, mem_linesOf, List.not_mem_nil, or_false,
    Bool.and_eq_true, Bool.not_eq_true', and_assoc]

/-- Whether a statement is that of a function or a class. -/
def Script.Stmt.isBlockDefinition (s : Stmt) : Bool :=
  match s.action with
  | .functionDef _ | .classDef _ => true
  | _ => false

/-- Whether the statements of a program lie in its text like the parts of an outline. -/
structure Outlined (source : String) (p : Program) : Prop where
  spans : ∀ ss, Suite p ss → ∀ s ∈ ss, s.Spans
  ordered : ∀ ss, Suite p ss → ss.Pairwise fun s u => s.endLine ≤ u.line
  increasing : (mainLines p).Pairwise (· < ·)
  inside : ∀ l ∈ mainLines p, 1 ≤ l ∧ l ≤ (Text.lines source).length
  apart : ∀ l ∈ mainLines p, ∀ d ∈ p, d.isBlockDefinition = true → ¬(d.line ≤ l ∧ l ≤ d.endLine)

/-- The program that is read from a text is outlined in it. -/
theorem parseProgram_outlined {source : String} {p : Program} (h : parseProgram source = .ok p) :
    Outlined source p := by
  obtain ⟨c, c', fits, laid, positive⟩ := parseProgram_lays h
  have suites : ∀ {ss}, Suite p ss → ss.Pairwise Stmt.Precedes ∧ ∀ s ∈ ss, s.Nests :=
    fun suite => suite.nests laid.holds.ordered laid.holds.nests
  have spans : ∀ {ss}, Suite p ss → ∀ s ∈ ss, s.Spans := fun suite s hs => by
    obtain ⟨spans, -, -, -⟩ := (suites suite).2 s hs
    exact spans
  have main : ∀ l ∈ mainLines p, ∃ s ∈ p, s.isDefinition = false ∧ s.line ≤ l ∧ l ≤ s.endLine := by
    intro l hl
    obtain ⟨s, hs, plain, -, low, high⟩ := mem_mainLines.1 hl
    have := (spans .whole s hs).line_le
    exact ⟨s, hs, plain, low, by omega⟩
  refine ⟨fun _ => spans, fun _ suite => (suites suite).1.imp fun before => before.1,
    (foldl_insertLine _ .nil).1, fun l hl => ?_, fun l hl d hd block => ?_⟩
  · obtain ⟨s, hs, -, low, high⟩ := main l hl
    have ahead := laid.holds.lines s hs
    have first := positive _ ahead
    have last := fits.le_top ahead
    have ends := (laid.holds.ends s hs).trans (fits.onward laid.onward).1.top
    omega
  · obtain ⟨s, hs, plain, low, high⟩ := main l hl
    have compound : d.action.isCompound = true ∧ d.isDefinition = true := by
      unfold Stmt.isBlockDefinition at block
      unfold Stmt.isDefinition
      cases hd : d.action <;> rw [hd] at block <;> first | exact ⟨rfl, rfl⟩ | cases block
    have ne : s ≠ d := by
      rintro rfl
      exact Bool.false_ne_true (plain.symm.trans compound.2)
    rintro ⟨low', high'⟩
    -- one of the two stands in front of the other, and they share no line
    have either : p.Pairwise fun s u => s.Precedes u ∨ u.Precedes s :=
      laid.holds.ordered.imp .inl
    have : Std.Symm fun s u : Stmt => s.Precedes u ∨ u.Precedes s := ⟨fun _ _ => Or.symm⟩
    rcases either.forall hs hd ne with before | before
    · have := before.2 (.inr compound.1)
      omega
    · have := before.2 (.inl compound.1)
      omega

/-- A class in front of a `try`: the trace may start on the lines of the `try`. -/
theorem parseProgram_outlined_try :
    let source := "class A:\n  pass\ntry:\n  x\nexcept:\n  y"
    let p : Program := [
      .mk (.classDef (.mk "A" [] [.mk .pass ⟨2, 3⟩ 2] ⟨1, 1⟩)) ⟨1, 1⟩ 2,
      .mk (.try_ [.mk (.expr (.name "x")) ⟨4, 3⟩ 4]
        [.mk none none [.mk (.expr (.name "y")) ⟨6, 3⟩ 6] ⟨5, 1⟩] [] []) ⟨3, 1⟩ 6]
    parseProgram source = .ok p ∧ mainLines p = [3, 4, 5, 6] ∧ Outlined source p := by
  intro source p
  have read : parseProgram source = .ok p := by cbv
  exact ⟨read, by decide, parseProgram_outlined read⟩

end Stepwise
