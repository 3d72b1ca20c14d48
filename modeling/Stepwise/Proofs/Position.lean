import Mathlib.Data.List.TakeWhile
import Mathlib.Data.Prod.Lex
import Stepwise.Proofs.Spelling

/-!
# Places in a text

Every token stands where it says: at the line and column at which its characters are found in the
text, counted by the line feeds in front of it (`Pos.behind`, `StandsAt`). A reader that goes on
reads characters one after the other and its position moves with them (`Reader.Passes`), and this is
all that the parts of the lexer do (`skipBlanks_passes`, `oneToken_taken`).
-/

namespace Stepwise.Script

open Stepwise.Text

/-! ### Positions -/

namespace Pos

/-- Positions are compared by their lines, and in one line by their columns. -/
instance : PartialOrder Pos :=
  PartialOrder.lift (fun p => toLex (p.line, p.column)) fun p q h => by
    obtain ⟨hl, hc⟩ := Prod.mk.inj (toLex.injective h)
    cases p
    cases q
    exact congrArg₂ Pos.mk hl hc

theorem le_iff {p q : Pos} :
    p ≤ q ↔ p.line < q.line ∨ p.line = q.line ∧ p.column ≤ q.column := Prod.Lex.le_iff

theorem lt_iff {p q : Pos} :
    p < q ↔ p.line < q.line ∨ p.line = q.line ∧ p.column < q.column := Prod.Lex.lt_iff

theorem line_le {p q : Pos} (h : p ≤ q) : p.line ≤ q.line := by
  rw [le_iff] at h
  omega

theorem lt_after (p : Pos) (c : Char) : p < p.after c := by
  rw [lt_iff, after]
  split <;> simp

/-- The position behind some characters. -/
def past (p : Pos) (cs : List Char) : Pos := cs.foldl after p

@[simp] theorem past_nil (p : Pos) : p.past [] = p := rfl

@[simp] theorem past_cons (p : Pos) (c : Char) (cs : List Char) :
    p.past (c :: cs) = (p.after c).past cs := rfl

@[simp] theorem past_append (p : Pos) (cs ds : List Char) :
    p.past (cs ++ ds) = (p.past cs).past ds := List.foldl_append

theorem le_past (p : Pos) : ∀ cs : List Char, p ≤ p.past cs
  | [] => le_rfl
  | c :: cs => (p.lt_after c).le.trans (le_past _ cs)

theorem lt_past (p : Pos) {cs : List Char} (h : cs ≠ []) : p < p.past cs := by
  cases cs with
  | nil => exact absurd rfl h
  | cons c cs => exact (p.lt_after c).trans_le (le_past _ cs)

/-- Within a line only the column changes. -/
theorem past_of_line (p : Pos) : ∀ {cs : List Char}, (∀ c ∈ cs, c ≠ '\n') →
    p.past cs = ⟨p.line, p.column + cs.length⟩
  | [], _ => rfl
  | c :: cs, h => by
    obtain ⟨hc, h⟩ := List.forall_mem_cons.1 h
    rw [past_cons, after, if_neg hc, past_of_line _ h]
    simp only [List.length_cons, Nat.add_assoc, Nat.add_comm 1]

/-- Where a text goes on behind its beginning `before`: the line is one more than the number of line
feeds in front, the column one more than the number of characters behind the last of these. -/
def behind (before : List Char) : Pos :=
  ⟨before.count '\n' + 1, (before.reverse.takeWhile (· ≠ '\n')).length + 1⟩

theorem behind_concat (before : List Char) (c : Char) :
    behind (before ++ [c]) = (behind before).after c := by
  by_cases hc : c = '\n' <;> simp [behind, after, hc, List.count_append]

theorem behind_append (before : List Char) : ∀ cs : List Char,
    behind (before ++ cs) = (behind before).past cs
  | [] => by simp
  | c :: cs => by
    rw [List.append_cons, behind_append _ cs, behind_concat, past_cons]

end Pos

/-- Whether the characters `word` stand in a text at a position. -/
def StandsAt (text : List Char) (p : Pos) (word : List Char) : Prop :=
  ∃ before after, text = before ++ word ++ after ∧ p = Pos.behind before

theorem StandsAt.line_pos {text word : List Char} {p : Pos} (h : StandsAt text p word) :
    0 < p.line := by
  obtain ⟨before, after, -, rfl⟩ := h
  exact Nat.succ_pos _

/-! ### Readers that go on -/

/-- Whether a reader comes from `r` to `r'` by reading the characters `cs`. -/
structure Reader.Passes (r : Reader) (cs : List Char) (r' : Reader) : Prop where
  rest : r.rest = cs ++ r'.rest
  pos : r'.pos = r.pos.past cs

namespace Reader

variable {r r' r'' : Reader} {cs ds rest : List Char}

theorem Passes.refl (r : Reader) : r.Passes [] r := ⟨rfl, rfl⟩

theorem Passes.trans (h : r.Passes cs r') (h' : r'.Passes ds r'') : r.Passes (cs ++ ds) r'' where
  rest := by rw [h.rest, h'.rest, List.append_assoc]
  pos := by rw [h'.pos, h.pos, Pos.past_append]

theorem pos_skip : ∀ {cs : List Char} {r : Reader}, r.rest = cs ++ rest →
    (r.skip cs.length).pos = r.pos.past cs
  | [], _, _ => rfl
  | c :: cs, r, h => by
    rw [List.length_cons, skip, h, List.cons_append, Pos.past_cons]
    exact pos_skip (r := ⟨cs ++ rest, r.pos.after c⟩) rfl

theorem Passes.skip (cs : List Char) (h : r.rest = cs ++ rest) :
    r.Passes cs (r.skip cs.length) where
  rest := by rw [rest_skip_append h, h]
  pos := pos_skip h

theorem Passes.skipAny : ∀ (n : Nat) (r : Reader), r.Passes (r.rest.take n) (r.skip n)
  | 0, r => .refl r
  | n + 1, r => by
    rw [Reader.skip]
    split
    · next first =>
      rw [first]
      exact .refl r
    · next c cs first =>
      rw [first]
      have one : r.Passes [c] ⟨cs, r.pos.after c⟩ := ⟨first, rfl⟩
      exact one.trans (skipAny n _)

theorem Passes.skipWhile (p : Char → Bool) (r : Reader) :
    r.Passes (r.rest.takeWhile p) (r.skipWhile p) :=
  .skip _ List.takeWhile_append_dropWhile.symm

theorem rest_one {c : Char} (h : r.rest = c :: rest) : (r.skip 1).rest = rest := by
  rw [rest_skip, h]
  rfl

theorem Passes.one {c : Char} (h : r.rest = c :: rest) : r.Passes [c] (r.skip 1) :=
  .skip [c] h

/-- Readers that are at a place of a text. -/
def At (text : List Char) (r : Reader) : Prop :=
  ∃ before, text = before ++ r.rest ∧ r.pos = Pos.behind before

/-- Nothing stands everywhere. -/
theorem At.nothing {text : List Char} (h : r.At text) : StandsAt text r.pos [] := by
  obtain ⟨before, eq, pos⟩ := h
  exact ⟨before, r.rest, by rw [List.append_nil, eq], pos⟩

theorem At.line_pos {text : List Char} (h : r.At text) : 0 < r.pos.line :=
  h.nothing.line_pos

theorem Passes.at {text : List Char} (h : r.Passes cs r') (start : r.At text) : r'.At text := by
  obtain ⟨before, eq, pos⟩ := start
  exact ⟨before ++ cs, by rw [eq, h.rest, List.append_assoc], by
    rw [h.pos, pos, Pos.behind_append]⟩

end Reader

/-! ### Blanks and comments -/

theorem skipBlanks_passes (inBrackets : Bool) : ∀ {fuel : Nat} {r r' : Reader},
    skipBlanks inBrackets fuel r = .ok r' → ∃ used, r.Passes used r'
  | 0, r, _, h => by
    cases h
    exact ⟨[], .refl r⟩
  | fuel + 1, r, r', h => by
    have onward : ∀ {used r₁}, r.Passes used r₁ → skipBlanks inBrackets fuel r₁ = .ok r' →
        ∃ used, r.Passes used r' := fun passed h =>
      (skipBlanks_passes inBrackets h).imp' _ fun _ => passed.trans
    rw [skipBlanks] at h
    split at h
    · next c cs first =>
      repeat' split at h
      · exact onward (.one first) h
      · exact onward (.one first) h
      · exact onward (.skipWhile _ r) h
      · exact onward (.skip [c, '\n'] first) h
      · exact onward (.skip [c, '\r', '\n'] first) h
      · cases h
      · cases h
        exact ⟨[], .refl r⟩
    · cases h
      exact ⟨[], .refl r⟩

/-! ### Literals -/

/-- What a bind comes to is what its second part comes to behind the first. -/
theorem bind_eq_ok {ε α β : Type} {x : Except ε α} {f : α → Except ε β} {b : β} :
    x >>= f = .ok b ↔ ∃ a, x = .ok a ∧ f a = .ok b := by
  cases x <;> simp [bind, Except.bind]

theorem Reader.located_eq_ok {α : Type} {r : Reader} {x : Except LexProblem α} {a : α} :
    r.located x = .ok a ↔ x = .ok a := by
  cases x <;> simp [Reader.located]

/-- With more text in front, what follows is the same. -/
theorem rest_of_map {ε α β : Type} {x : Except ε (α × β)} {f : α → α} {t : α} {rest : β}
    (h : (do let (t, rest) ← x; Except.ok (f t, rest)) = .ok (t, rest)) :
    ∃ t', x = .ok (t', rest) := by
  obtain ⟨⟨t', rest'⟩, hx, eq⟩ := bind_eq_ok.1 h
  cases eq
  exact ⟨t', hx⟩

/-- A string goes on up to a closing quote. -/
theorem stringBody_closes (style : StringStyle) {cs t rest : List Char}
    (h : stringBody style cs = .ok (t, rest)) : style.quote :: rest <:+ cs := by
  induction n : cs.length using Nat.strong_induction_on generalizing cs t with
  | _ n ih =>
  subst n
  have on : ∀ (used : List Char) {cs' t' : List Char}, used ≠ [] → cs = used ++ cs' →
      stringBody style cs' = .ok (t', rest) → style.quote :: rest <:+ cs := by
    rintro used cs' t' filled rfl inner
    have shorter : cs'.length < (used ++ cs').length := by
      rw [List.length_append]
      exact Nat.lt_add_of_pos_left (List.length_pos_iff.2 filled)
    exact (ih _ shorter inner rfl).trans (List.suffix_append used cs')
  unfold stringBody at h
  split at h
  · cases h
  · split at h
    · cases h
    · next c cs =>
      split at h
      · obtain ⟨_, inner⟩ := rest_of_map (f := ('\\' :: c :: ·)) h
        exact on ['\\', c] (by simp) rfl inner
      split at h
      · exact on ['\\', c] (by simp) rfl h
      split at h
      · obtain ⟨_, inner⟩ := rest_of_map h
        exact on ['\\', c] (by simp) rfl inner
      split at h
      · split at h
        · next a b cs =>
          obtain ⟨_, -, h⟩ := bind_eq_ok.1 h
          obtain ⟨_, inner⟩ := rest_of_map h
          exact on ['\\', c, a, b] (by simp) rfl inner
        · cases h
      split at h
      · split at h
        · next a b d e cs =>
          obtain ⟨_, -, h⟩ := bind_eq_ok.1 h
          obtain ⟨_, inner⟩ := rest_of_map h
          exact on ['\\', c, a, b, d, e] (by simp) rfl inner
        · cases h
      obtain ⟨_, inner⟩ := rest_of_map (f := ('\\' :: c :: ·)) h
      exact on ['\\', c] (by simp) rfl inner
  · next c cs _ =>
    split_ifs at h with quote triple quotes newline
    · cases h
      obtain ⟨cs, rfl⟩ := List.isPrefixOf_iff_prefix.1 quotes
      exact ⟨[c, c], by simp [quote]⟩
    · obtain ⟨_, inner⟩ := rest_of_map h
      exact on [c] (by simp) rfl inner
    · cases h
      exact quote ▸ List.suffix_rfl
    · obtain ⟨_, inner⟩ := rest_of_map h
      exact on [c] (by simp) rfl inner

theorem stringLiteral_passes {r : Reader} {quote : Char} {raw : Bool} {text : String} {n : Nat}
    (h : stringLiteral quote raw r.rest = .ok (text, n)) :
    ∃ used, r.Passes (used ++ [quote]) (r.skip n) := by
  obtain ⟨⟨t, rest⟩, body, eq⟩ := bind_eq_ok.1 h
  cases eq
  have opened :
      (if [quote, quote].isPrefixOf r.rest then r.rest.drop 2 else r.rest) <:+ r.rest := by
    split
    · exact List.drop_suffix 2 _
    · exact List.suffix_rfl
  obtain ⟨used, split⟩ := (stringBody_closes _ body).trans opened
  have split : r.rest = (used ++ [quote]) ++ rest := by simp [← split]
  refine ⟨used, ?_⟩
  rw [show r.rest.length - rest.length = (used ++ [quote]).length by simp [split]; omega]
  exact .skip _ split

/-- Whether `rest` is what is left of `cs` behind some characters of one line. -/
def SameLine (cs rest : List Char) : Prop := ∃ used, cs = used ++ rest ∧ ∀ c ∈ used, c ≠ '\n'

theorem SameLine.refl (cs : List Char) : SameLine cs cs := ⟨[], rfl, by simp⟩

theorem SameLine.cons {c : Char} {cs rest : List Char} (hc : c ≠ '\n') (h : SameLine cs rest) :
    SameLine (c :: cs) rest := by
  obtain ⟨used, rfl, line⟩ := h
  exact ⟨c :: used, rfl, List.forall_mem_cons.2 ⟨hc, line⟩⟩

theorem radixDigits_sameLine (radix : Nat) (cs : List Char) :
    SameLine cs (radixDigits radix cs).2 := by
  fun_induction radixDigits radix cs with
  | case1 => exact .refl _
  | case2 cs ih => exact ih.cons (by decide)
  | case3 c cs _ digit ds rest eq ih =>
    rw [eq] at ih
    refine ih.cons ?_
    rintro rfl
    exact Bool.false_ne_true digit
  | case4 => exact .refl _

theorem numberTail_sameLine (isFloat afterE : Bool) (cs : List Char) :
    SameLine cs (numberTail isFloat afterE cs).2.2 := by
  fun_induction numberTail isFloat afterE cs with
  | case1 => exact .refl _
  | case2 _ _ c cs part _ _ _ eq ih =>
    rw [eq] at ih
    refine ih.cons ?_
    rintro rfl
    simp at part
  | case3 _ _ cs _ ih => exact ih.cons (by decide)
  | case4 _ _ c cs _ _ dot _ _ _ eq ih =>
    rw [eq] at ih
    exact ih.cons (by simp [dot.1])
  | case5 _ _ c cs _ _ _ e _ _ _ eq ih =>
    rw [eq] at ih
    refine ih.cons ?_
    rintro rfl
    simp at e
  | case6 => exact .refl _

/-- The kinds of tokens that are numbers. -/
inductive TokenKind.IsNumber : TokenKind → Prop where
  | int {n} : IsNumber (.int n)
  | float {x} : IsNumber (.float x)

/-- A number is part of one line. -/
theorem number_sameLine {c : Char} {cs : List Char} {k : TokenKind} {n : Nat}
    (h : number c cs = .ok (k, n)) :
    k.IsNumber ∧ ∃ rest, SameLine cs rest ∧ n = cs.length - rest.length := by
  have base_ten : ∀ {cs}, number.decimal c cs = .ok (k, n) →
      k.IsNumber ∧ ∃ rest, SameLine cs rest ∧ n = cs.length - rest.length := by
    intro cs h
    have line := numberTail_sameLine (c = '.') false cs
    unfold number.decimal at h
    dsimp only at h
    repeat' split at h
    all_goals cases h
    · exact ⟨.float, _, line, rfl⟩
    · exact ⟨.int, _, line, rfl⟩
  unfold number at h
  split at h
  · next r digits =>
    split at h
    · next radix eq =>
      dsimp only at h
      split at h
      · cases h
      · cases h
        have letter : r ≠ '\n' := by
          rintro rfl
          split at eq <;> cases eq
        exact ⟨.int, _, (radixDigits_sameLine radix digits).cons letter, rfl⟩
    · exact base_ten h
  · exact base_ten h

/-! ### Tokens -/

/-- Whether a token stands for characters of the text: it is neither layout nor the end. -/
def TokenKind.isSolid : TokenKind → Bool
  | .newline | .indent | .dedent | .eof => false
  | _ => true

/-- Whether a token is read by a reader that comes from `r` to `r'`. It ends where its last
character does. -/
structure Token.Taken (t : Token) (r r' : Reader) : Prop where
  passes : ∃ used last, r.Passes (used ++ [last]) r' ∧ last ≠ '\n'
  solid : t.kind.isSolid = true
  pos : t.pos = r.pos
  endLine : t.endLine = r'.pos.line
  spelling : t.kind.chars <+: r.rest

/-- A token within a line ends on the line it starts on. -/
theorem Token.Taken.within {r r' : Reader} {k : TokenKind} {cs : List Char} (h : r.Passes cs r')
    (filled : cs ≠ []) (line : ∀ c ∈ cs, c ≠ '\n') (solid : k.isSolid = true)
    (spelling : k.chars <+: r.rest) : Token.Taken ⟨k, r.pos, r.pos.line⟩ r r' where
  passes := by
    refine ⟨cs.dropLast, cs.getLast filled, ?_, line _ (List.getLast_mem filled)⟩
    rwa [List.dropLast_concat_getLast]
  solid := solid
  pos := rfl
  endLine := by rw [h.pos, Pos.past_of_line _ line]
  spelling := spelling

theorem chars_ofText? {name : String} {k : Keyword} (h : Keyword.ofText? name = some k) :
    k.text = name := by
  simpa using List.find?_some h

theorem takeWhile_inLine (cs : List Char) : ∀ c ∈ cs.takeWhile isNamePart, c ≠ '\n' := by
  rintro c hc rfl
  have part := List.mem_takeWhile_imp hc
  rw [isNamePart_of_isSpace (by decide)] at part
  exact Bool.false_ne_true part

theorem plain_taken {r : Reader} (filled : r.rest.takeWhile isNamePart ≠ []) :
    (word.plain r (r.rest.takeWhile isNamePart)).Taken r
      (r.skip (r.rest.takeWhile isNamePart).length) := by
  have passed := Reader.Passes.skipWhile isNamePart r
  refine .within passed filled (takeWhile_inLine _) ?_ ?_
  · split <;> rfl
  · split
    · next k known =>
      rw [TokenKind.chars, chars_ofText? known, String.toList_ofList]
      exact List.takeWhile_prefix _
    · rw [TokenKind.chars, String.toList_ofList]
      exact List.takeWhile_prefix _

/-- A string literal ends where its closing quote does. -/
theorem string_taken {r inside : Reader} {quote : Char} {raw : Bool} {text : String} {n : Nat}
    {cs : List Char} {k : TokenKind} (isQuote : quote = '"' ∨ quote = '\'')
    (open_ : r.Passes cs inside) (h : stringLiteral quote raw inside.rest = .ok (text, n))
    (hk : k = .str text ∨ k = .fstring text) :
    Token.Taken ⟨k, r.pos, (inside.skip n).pos.line⟩ r (inside.skip n) where
  passes := by
    obtain ⟨used, passed⟩ := stringLiteral_passes h
    refine ⟨cs ++ used, quote, ?_, by rcases isQuote with rfl | rfl <;> decide⟩
    rw [List.append_assoc]
    exact open_.trans passed
  solid := by rcases hk with rfl | rfl <;> rfl
  pos := rfl
  endLine := rfl
  spelling := by rcases hk with rfl | rfl <;> exact List.nil_prefix

theorem word_taken {r r' : Reader} {t : Token} (filled : r.rest.takeWhile isNamePart ≠ [])
    (h : word r = .ok (t, r')) : t.Taken r r' := by
  have passed := Reader.Passes.skipWhile isNamePart r
  unfold word at h
  dsimp only at h
  split at h
  · next quote cs raw formatted ahead _ =>
    split at h
    · next isQuote =>
      obtain ⟨⟨text, n⟩, read, eq⟩ := bind_eq_ok.1 h
      rw [Reader.located_eq_ok, ← Reader.rest_one ahead] at read
      cases eq
      exact string_taken isQuote (passed.trans (.one ahead)) read (by cases formatted <;> simp)
    · cases h
      exact plain_taken filled
  · cases h
    exact plain_taken filled

theorem chars_inLine (p : Punct) : p.chars ≠ [] ∧ ∀ c ∈ p.chars, c ≠ '\n' := by
  have line : '\n' ∉ p.chars := by cases p <;> decide
  exact ⟨by cases p <;> decide, fun _ hc => ne_of_mem_of_not_mem hc line⟩

theorem oneToken_taken {r r' : Reader} {c : Char} {t : Token} {rest : List Char}
    (first : r.rest = c :: rest) (line : c ≠ '\n') (h : oneToken c r = .ok (t, r')) :
    t.Taken r r' := by
  have opened := Reader.Passes.one first
  unfold oneToken at h
  dsimp only at h
  split at h
  · next isQuote =>
    obtain ⟨⟨text, n⟩, read, eq⟩ := bind_eq_ok.1 h
    rw [Reader.located_eq_ok] at read
    cases eq
    exact string_taken isQuote opened read (.inl rfl)
  · split at h
    · obtain ⟨⟨kind, n⟩, read, eq⟩ := bind_eq_ok.1 h
      rw [Reader.located_eq_ok] at read
      cases eq
      obtain ⟨isNumber, rest', ⟨used, split, inLine⟩, rfl⟩ := number_sameLine read
      have taken : (r.skip 1).rest.length - rest'.length = used.length := by simp [split]
      rw [taken]
      refine .within (opened.trans (.skip used split)) (by simp) ?_ ?_ ?_
      · exact List.forall_mem_cons.2 ⟨line, inLine⟩
      · cases isNumber <;> rfl
      · cases isNumber <;> exact List.nil_prefix
    · split at h
      · next start =>
        refine word_taken ?_ h
        rw [first, List.takeWhile_cons_of_pos (isNamePart_of_isNameStart start)]
        exact List.cons_ne_nil _ _
      · split at h
        · next p longest =>
          cases h
          obtain ⟨filled, inLine⟩ := chars_inLine p
          have spelled : p.chars <+: r.rest := by
            simpa using List.find?_some longest
          obtain ⟨behind, split⟩ := spelled
          exact .within (.skip _ split.symm) filled inLine rfl ⟨behind, split⟩
        · cases h

end Stepwise.Script
