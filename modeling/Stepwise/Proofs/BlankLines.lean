import Stepwise.Proofs.Layout
import Stepwise.Proofs.Rounds

/-!
# Lines without tokens

A line of blanks, with or without a comment, that is put in where a logical line begins moves what
stands below it down by one line and changes nothing else (`blank_line_invisible`). A logical line
begins where a line starts unless a string or brackets go on there, or a backslash stands in front
of the line end (`Scan.line_starts`).

## The model

What a scan has done where a line begins does not depend on what stands there (`Scan.Comes.on`):
nothing that ends in front of a line end looks behind it, not even a string (`stringBody_local`).
Below the new line the scan is the one without it, one line further down, and two scans that are so
related (`Scan.Below`) stay so round by round (`Scan.Below.round`).
-/

namespace Stepwise.Script

open Parse Stepwise.Text

/-! ### What is read decides -/

/-- Whether a text starts with a string that has the text `t`, whatever stands in place of `rest`
behind it. -/
def Spoken (style : StringStyle) (cs t rest : List Char) : Prop :=
  ∃ used, cs = used ++ rest ∧ (style.triple = true → 3 ≤ used.length) ∧
    ∀ rest', stringBody style (used ++ rest') = .ok (t, rest')

section

variable {style : StringStyle} {cs t rest : List Char}

theorem Spoken.more (h : Spoken style cs t rest) (front text : List Char)
    (step : ∀ ds, (style.triple = true → ∃ us vs, cs = us ++ rest ∧ ds = us ++ vs ∧ 3 ≤ us.length) →
      stringBody style (front ++ ds) = prepend text (stringBody style ds)) :
    Spoken style (front ++ cs) (text ++ t) rest := by
  obtain ⟨used, rfl, long, spoken⟩ := h
  refine ⟨front ++ used, (List.append_assoc ..).symm, fun triple => ?_, fun rest' => ?_⟩
  · rw [List.length_append]
    exact (long triple).trans (Nat.le_add_left ..)
  · rw [List.append_assoc, step _ fun triple => ⟨used, rest', rfl, rfl, long triple⟩, spoken]
    rfl

theorem isPrefixOf_two {a b : Char} {us vs : List Char} (long : 2 ≤ us.length) :
    [a, b].isPrefixOf (us ++ vs) = [a, b].isPrefixOf us := by
  match us, long with
  | _ :: _ :: _, _ => rfl

/-- A string does not depend on what stands behind it. -/
theorem stringBody_local (h : stringBody style cs = .ok (t, rest)) : Spoken style cs t rest := by
  revert t rest
  apply stringBody_induction (motive := fun cs x =>
    ∀ {t rest}, x = .ok (t, rest) → Spoken style cs t rest)
  case nothing | backslash | hexShort | unicodeShort | cut => intros; contradiction
  case raw =>
    intro e cs raw ih t rest h
    obtain ⟨⟨t, rest⟩, inner, ⟨⟩⟩ := bind_eq_ok.1 h
    refine (ih inner).more ['\\', e] ['\\', e] fun ds _ => ?_
    exact (stringBody_backslash e ds).trans (if_pos raw)
  case feed =>
    intro cs raw ih t rest h
    refine (ih h).more ['\\', '\n'] [] fun ds _ => ?_
    rw [List.cons_append, List.singleton_append, stringBody_backslash, if_neg raw,
      escaped_lineEnd, prepend_nil]
  case simple =>
    intro e cs c raw line he ih t rest h
    obtain ⟨⟨t, rest⟩, inner, ⟨⟩⟩ := bind_eq_ok.1 h
    refine (ih inner).more ['\\', e] [c] fun ds _ => ?_
    rw [List.cons_append, List.singleton_append, stringBody_backslash, if_neg raw,
      escaped_simple he]
  case hex =>
    intro a b cs raw ih t rest h
    obtain ⟨c, hex, h⟩ := bind_eq_ok.1 h
    obtain ⟨⟨t, rest⟩, inner, ⟨⟩⟩ := bind_eq_ok.1 h
    refine (ih inner).more ['\\', 'x', a, b] [c] fun ds _ => ?_
    show stringBody style ('\\' :: 'x' :: a :: b :: ds) = _
    rw [stringBody_backslash, if_neg raw, escaped_hex, hex]
    rfl
  case unicode =>
    intro a b c d cs raw ih t rest h
    obtain ⟨u, hex, h⟩ := bind_eq_ok.1 h
    obtain ⟨⟨t, rest⟩, inner, ⟨⟩⟩ := bind_eq_ok.1 h
    refine (ih inner).more ['\\', 'u', a, b, c, d] [u] fun ds _ => ?_
    show stringBody style ('\\' :: 'u' :: a :: b :: c :: d :: ds) = _
    rw [stringBody_backslash, if_neg raw, escaped_unicode, hex]
    rfl
  case other =>
    intro e cs raw line he hex unicode ih t rest h
    obtain ⟨⟨t, rest⟩, inner, ⟨⟩⟩ := bind_eq_ok.1 h
    refine (ih inner).more ['\\', e] ['\\', e] fun ds _ => ?_
    rw [List.cons_append, List.singleton_append, stringBody_backslash, if_neg raw,
      escaped_other line he hex unicode]
  case quotes =>
    rintro cs escape triple quotes t rest ⟨⟩
    obtain ⟨cs, rfl⟩ := List.isPrefixOf_iff_prefix.1 quotes
    refine ⟨[style.quote, style.quote, style.quote], rfl, fun _ => le_rfl, fun rest' => ?_⟩
    show stringBody style (style.quote :: ([style.quote, style.quote] ++ rest')) = _
    rw [stringBody_quote escape, if_pos triple,
      if_pos (List.isPrefixOf_iff_prefix.2 (List.prefix_append ..))]
    rfl
  case quote =>
    intro cs escape triple quotes ih t rest h
    obtain ⟨⟨t, rest⟩, inner, ⟨⟩⟩ := bind_eq_ok.1 h
    refine (ih inner).more [style.quote] [style.quote] fun ds long => ?_
    obtain ⟨us, vs, rfl, rfl, enough⟩ := long triple
    rw [isPrefixOf_two (Nat.le_of_succ_le enough)] at quotes
    rw [List.singleton_append, stringBody_quote escape, if_pos triple,
      isPrefixOf_two (Nat.le_of_succ_le enough), if_neg quotes]
  case single =>
    rintro cs escape single t rest ⟨⟩
    refine ⟨[style.quote], rfl, fun triple => absurd triple single, fun rest' => ?_⟩
    exact (stringBody_quote escape rest').trans (if_neg single)
  case char =>
    intro c cs escape quote line ih t rest h
    obtain ⟨⟨t, rest⟩, inner, ⟨⟩⟩ := bind_eq_ok.1 h
    refine (ih inner).more [c] [c] fun ds _ => ?_
    exact (stringBody_char escape quote ds).trans (if_neg line)

end

section

variable {a e e' : List Char}

/-- Whether a quote is written three times is seen in the line. -/
theorem opened_append {q : Char} (quote : q = '"' ∨ q = '\'') (a : List Char) :
    ∃ front m, a = front ++ m ∧ ∀ e, Breaks e →
      [q, q].isPrefixOf (a ++ e) = [q, q].isPrefixOf a ∧
        (if [q, q].isPrefixOf (a ++ e) then (a ++ e).drop 2 else a ++ e) = m ++ e := by
  have apart : ∀ c ∈ [q, q], c ≠ '\n' ∧ c ≠ '\r' := by
    have : q ≠ '\n' ∧ q ≠ '\r' := by obtain rfl | rfl := quote <;> decide
    exact List.forall_mem_cons.2 ⟨this, List.forall_mem_singleton.2 this⟩
  by_cases triple : [q, q].isPrefixOf a
  · obtain ⟨m, rfl⟩ := List.isPrefixOf_iff_prefix.1 triple
    refine ⟨[q, q], m, rfl, fun e ends => ⟨isPrefixOf_append apart ends _, ?_⟩⟩
    rw [isPrefixOf_append apart ends, if_pos triple]
    rfl
  · refine ⟨[], a, rfl, fun e ends => ⟨isPrefixOf_append apart ends _, ?_⟩⟩
    rw [isPrefixOf_append apart ends, if_neg triple]

/-- A literal that ends in front of a line end does not depend on what stands behind that. -/
theorem stringLiteral_local {q : Char} {raw : Bool} {text : String} {n : Nat}
    (quote : q = '"' ∨ q = '\'') (ends : Breaks e) (ends' : Breaks e')
    (h : stringLiteral q raw (a ++ e) = .ok (text, n)) (inside : n ≤ a.length) :
    stringLiteral q raw (a ++ e') = .ok (text, n) := by
  obtain ⟨front, m, rfl, opened⟩ := opened_append quote a
  obtain ⟨triple, body⟩ := opened e ends
  obtain ⟨triple', body'⟩ := opened e' ends'
  unfold stringLiteral at h ⊢
  dsimp only at h ⊢
  rw [body, triple] at h
  rw [body', triple']
  obtain ⟨⟨t, rest⟩, read, eq⟩ := bind_eq_ok.1 h
  obtain ⟨used, split, -, spoken⟩ := stringBody_local read
  obtain ⟨rfl, taken⟩ : String.ofList t = text ∧ (front ++ m ++ e).length - rest.length = n := by
    simpa using eq
  -- The literal ends in front of `e`, so what is left of the line stands behind it.
  have short : e.length ≤ rest.length := by
    have := congrArg List.length split
    simp only [List.length_append] at taken inside this
    omega
  obtain ⟨left, rfl⟩ : ∃ left, rest = left ++ e := by
    have behind : e <:+ rest :=
      List.suffix_of_suffix_length_le (List.suffix_append m e) (split ▸ List.suffix_append ..) short
    obtain ⟨left, rfl⟩ := behind
    exact ⟨left, rfl⟩
  have line : m = used ++ left := by
    rw [← List.append_assoc] at split
    exact List.append_cancel_right split
  have read' : stringBody ⟨q, [q, q].isPrefixOf (front ++ m), raw⟩ (m ++ e') =
      .ok (t, left ++ e') := by
    have := spoken (left ++ e')
    rwa [← List.append_assoc, ← line] at this
  have count : (front ++ m ++ e').length - (left ++ e').length = n := by
    simp only [List.length_append] at taken ⊢
    omega
  rw [read', ← count]
  rfl

/-- A token that ends in front of a line end does not depend on what stands behind that. -/
theorem spell_local {c : Char} {k : TokenKind} {n : Nat} (ends : Breaks e) (ends' : Breaks e')
    (h : spell c (a ++ e) = .ok (k, n)) (inside : n ≤ (c :: a).length) :
    spell c (a ++ e') = .ok (k, n) := by
  unfold spell at h ⊢
  rw [opening?_append ends] at h
  rw [opening?_append ends']
  cases opened : opening? c a with
  | none =>
    rw [opened] at h
    dsimp only at h ⊢
    rwa [plain_append ends', ← plain_append ends]
  | some o =>
    rw [opened] at h
    dsimp only at h ⊢
    obtain ⟨quote, front, m, split, length, -⟩ := opening?_inLine opened
    generalize front ++ [o.quote] = front at split length
    have drop (e : List Char) : (c :: (a ++ e)).drop o.length = m ++ e := by
      rw [← List.cons_append, split, ← length, List.append_assoc, List.drop_left]
    rw [split, List.length_append] at inside
    rw [drop] at h ⊢
    unfold Opening.literal at h ⊢
    cases read : stringLiteral o.quote o.raw (m ++ e) with
    | error p =>
      rw [read] at h
      cases h
    | ok literal =>
      obtain ⟨text, taken⟩ := literal
      rw [read] at h
      obtain ⟨rfl, rfl⟩ : _ = k ∧ o.length + taken = n := by simpa [Except.map] using h
      rw [stringLiteral_local quote ends ends' read (by omega)]
      rfl

end

/-! ### Readers in front of a line end -/

section

variable {p q : List Char} {pos pos' : Pos} {n : Nat}

theorem Reader.skip_used (rest : List Char) : ∀ (used : List Char) (pos : Pos),
    (⟨used ++ rest, pos⟩ : Reader).skip used.length = ⟨rest, pos.past used⟩
  | [], _ => rfl
  | c :: used, pos => skip_used rest used (pos.after c)

theorem Reader.skip_front (inside : n ≤ p.length) (rest : List Char) (pos : Pos) :
    (⟨p ++ rest, pos⟩ : Reader).skip n = ⟨p.drop n ++ rest, pos.past (p.take n)⟩ := by
  have := skip_used (p.drop n ++ rest) (p.take n) pos
  rwa [← List.append_assoc, List.take_append_drop, List.length_take_of_le inside] at this

theorem Reader.skipWhile_front {f : Char → Bool} {rest : List Char}
    (stops : ∀ c ∈ rest.head?, f c = false) (p : List Char) (pos : Pos) :
    (⟨p ++ rest, pos⟩ : Reader).skipWhile f =
      ⟨p.dropWhile f ++ rest, pos.past (p.takeWhile f)⟩ := by
  have := skip_used (p.dropWhile f ++ rest) (p.takeWhile f) pos
  rw [← List.append_assoc, List.takeWhile_append_dropWhile] at this
  rw [Reader.skipWhile, takeWhile_append_stop (a := p) stops, this]

theorem Reader.skipLine_front (p rest : List Char) (pos : Pos) :
    (⟨p ++ '\n' :: rest, pos⟩ : Reader).skipLine =
      ⟨p.dropWhile (· ≠ '\n') ++ '\n' :: rest, pos.past (p.takeWhile (· ≠ '\n'))⟩ :=
  skipWhile_front (by simp) p pos

/-- A comment does not depend on what stands behind its line. -/
theorem Reader.skipLine_local {r : Reader} {b : List Char} (front : r.rest = p ++ '\n' :: b)
    (c : List Char) : r.skipLine.rest = p.dropWhile (· ≠ '\n') ++ '\n' :: b ∧
      (⟨p ++ '\n' :: c, r.pos⟩ : Reader).skipLine =
        ⟨p.dropWhile (· ≠ '\n') ++ '\n' :: c, r.skipLine.pos⟩ := by
  obtain ⟨_, pos⟩ := r
  subst front
  rw [skipLine_front, skipLine_front]
  exact ⟨rfl, rfl⟩

/-- What ends in front of `b` ends in front of the line end before it, or is `b` itself. -/
theorem suffix_line {x p b : List Char} (h : x <:+ p ++ '\n' :: b) (long : b.length < x.length) :
    ∃ q, x = q ++ '\n' :: b := by
  obtain ⟨q, rfl⟩ := List.suffix_of_suffix_length_le (List.suffix_append p ('\n' :: b)) h long
  exact ⟨q, rfl⟩

/-- Nor does a token that ends in front of it. -/
theorem oneToken_local {r r' : Reader} {d : Char} {t : Token} {b : List Char}
    (front : r.rest = d :: p ++ '\n' :: b) (inLine : d ≠ '\n')
    (read : oneToken d r = .ok (t, r')) (stays : b <:+ r'.rest) (c : List Char) :
    ∃ w, r'.rest = w ++ '\n' :: b ∧
      oneToken d ⟨d :: p ++ '\n' :: c, r.pos⟩ = .ok (t, ⟨w ++ '\n' :: c, r'.pos⟩) := by
  obtain ⟨used, last, passed, notLine⟩ := (oneToken_taken front inLine read).passes
  obtain ⟨w, here⟩ : ∃ w, r'.rest = w ++ '\n' :: b := by
    have split := front.symm.trans passed.rest
    refine suffix_line (p := d :: p) ⟨_, split.symm⟩ (lt_of_le_of_ne stays.length_le ?_)
    -- Otherwise the line end would be the last character of the token.
    intro same
    obtain rfl := stays.eq_of_length same
    rw [List.append_cons] at split
    have ends := List.append_cancel_right split
    exact notLine (List.cons.inj (List.append_inj_right' ends rfl)).1.symm
  have spells (r : Reader) (rest : List Char) (front : r.rest = d :: p ++ '\n' :: rest) :
      oneToken d r = r.placed (spell d (p ++ '\n' :: rest)) := oneToken_eq front inLine
  rw [spells r b front] at read
  cases spelled : spell d (p ++ '\n' :: b) with
  | error e =>
    rw [spelled] at read
    cases read
  | ok kn =>
    obtain ⟨k, n⟩ := kn
    rw [spelled] at read
    obtain ⟨rfl, rfl⟩ := Prod.mk.inj (Except.ok.inj read)
    have inside : n ≤ (d :: p).length := by
      have := congrArg List.length here
      rw [Reader.rest_skip, front] at this
      simp only [List.length_drop, List.length_append, List.length_cons] at this ⊢
      omega
    have spelled' : spell d (p ++ '\n' :: c) = .ok (k, n) :=
      spell_local (by simp [Breaks]) (by simp [Breaks]) spelled inside
    have skip (rest : List Char) := Reader.skip_front inside ('\n' :: rest) r.pos
    have self : r = ⟨d :: p ++ '\n' :: b, r.pos⟩ := by rw [← front]
    have here := (congrArg (Reader.skip · n) self).trans (skip b)
    refine ⟨(d :: p).drop n, congrArg Reader.rest here, ?_⟩
    rw [spells _ c rfl, spelled', Reader.placed, skip c, here]

/-- What is skipped in a line does not depend on what stands behind it, and the end of the line is
skipped too in brackets, and behind a backslash. -/
theorem skips?_line {inBrackets : Bool} {p b : List Char} {n : Nat}
    (h : skips? inBrackets (p ++ '\n' :: b) = some n) :
    (n ≤ p.length ∧ ∀ c, skips? inBrackets (p ++ '\n' :: c) = some n) ∨
      p.length < n ∧ (p = [] ∧ inBrackets = true ∨ p = ['\\'] ∨ p = ['\\', '\r']) := by
  rcases p with _ | ⟨d, p⟩
  · cases inBrackets <;> cases h
    · exact .inl ⟨le_rfl, fun _ => rfl⟩
    · exact .inr ⟨Nat.one_pos, .inl ⟨rfl, rfl⟩⟩
  by_cases backslash : d = '\\'
  · subst backslash
    rcases p with _ | ⟨e, p⟩
    · cases h
      exact .inr ⟨Nat.lt_succ_self 1, .inr (.inl rfl)⟩
    by_cases feed : e = '\n'
    · subst feed
      cases h
      exact .inl ⟨Nat.le_add_left 2 _, fun _ => rfl⟩
    by_cases carriage : e = '\r'
    · subst carriage
      rcases p with _ | ⟨f, p⟩
      · cases h
        exact .inr ⟨Nat.lt_succ_self 2, .inr (.inr rfl)⟩
      by_cases feed : f = '\n'
      · subst feed
        cases h
        exact .inl ⟨Nat.le_add_left 3 _, fun _ => rfl⟩
      · simp [skips?, Ne.symm feed] at h
    · simp [skips?, Ne.symm feed, Ne.symm carriage] at h
  · have same (c : List Char) : skips? inBrackets (d :: p ++ '\n' :: c) = skips? inBrackets (d :: p) := by
      have comment : (p ++ '\n' :: c).takeWhile (· ≠ '\n') = p.takeWhile (· ≠ '\n') :=
        takeWhile_append_stop (by simp)
      rw [List.cons_append, skips?, skips?, comment, if_neg backslash, if_neg backslash]
    have short : n ≤ (d :: p).length := by
      have := (List.takeWhile_sublist (l := p) (· ≠ '\n')).length_le
      rw [same, skips?, if_neg backslash] at h
      rw [List.length_cons]
      split_ifs at h <;> cases h <;> omega
    exact .inl ⟨short, fun c => (same c).trans ((same b).symm.trans h)⟩

/-- What is skipped in front of a line end does not depend on what stands behind it. -/
theorem skipBlanks_local {inBrackets : Bool} {b c : List Char} : ∀ {fuel fuel' : Nat}
    {p q : List Char} {pos pos' : Pos}, p.length < fuel → p.length < fuel' →
      skipBlanks inBrackets fuel ⟨p ++ '\n' :: b, pos⟩ = .ok ⟨q ++ '\n' :: b, pos'⟩ →
      skipBlanks inBrackets fuel' ⟨p ++ '\n' :: c, pos⟩ = .ok ⟨q ++ '\n' :: c, pos'⟩
  | 0, _, _, _, _, _, bound, _, _ => absurd bound (Nat.not_lt_zero _)
  | _, 0, _, _, _, _, _, bound, _ => absurd bound (Nat.not_lt_zero _)
  | fuel + 1, fuel' + 1, p, q, pos, pos', bound, bound', h => by
    rw [skipBlanks_succ] at h ⊢
    dsimp only at h ⊢
    cases skips : skips? inBrackets (p ++ '\n' :: b) with
    | none =>
      rw [skips] at h
      cases h
    | some n =>
      rw [skips] at h
      have inside := skips?_line skips
      cases n with
      | zero =>
        obtain ⟨-, same⟩ := inside.resolve_right fun beyond => absurd beyond.1 (Nat.not_lt_zero _)
        rw [same c]
        obtain ⟨all, rfl⟩ : p ++ '\n' :: b = q ++ '\n' :: b ∧ pos = pos' :=
          Reader.mk.inj (Except.ok.inj h)
        rw [List.append_cancel_right all]
      | succ n =>
        dsimp only at h
        obtain ⟨short, same⟩ := inside.resolve_right fun beyond => by
          -- The scan does not come back in front of the line end.
          obtain ⟨used, passed⟩ := skipBlanks_passes _ h
          have left := congrArg List.length passed.rest
          rw [Reader.rest_skip] at left
          have := beyond.1
          simp only [List.length_drop, List.length_append, List.length_cons] at *
          omega
        rw [same c]
        dsimp only
        rw [Reader.skip_front short] at h ⊢
        refine skipBlanks_local ?_ ?_ h
        all_goals
          rw [List.length_drop]
          omega

end

/-- Whether a text is empty or ends with the end of a line. -/
def Whole (v : List Char) : Prop := ∀ c ∈ v.getLast?, c = '\n'

theorem Whole.suffix {v w : List Char} (h : Whole v) (suffix : w <:+ v) : Whole w := by
  obtain ⟨u, rfl⟩ := suffix
  intro c hc
  exact h c (by simp [List.getLast?_append, Option.mem_def.1 hc])

theorem lt_line (q b : List Char) : b.length < (q ++ '\n' :: b).length := by
  rw [List.length_append, List.length_cons]
  omega

theorem eq_nil_of_short {v b : List Char} (h : (v ++ b).length ≤ b.length) : v = [] := by
  rw [List.length_append] at h
  exact List.eq_nil_of_length_eq_zero (by omega)

namespace Scan

/-! ### Scans in front of a line end -/

/-- A scan with other text ahead of it. -/
def on (s : Scan) (cs : List Char) : Scan := { s with reader := ⟨cs, s.reader.pos⟩ }

section

variable {s t : Scan} {p b : List Char}

theorem on_self (s : Scan) : s.on s.reader.rest = s := rfl

theorem lineEnd_on (s : Scan) {cs rest : List Char} {c : Char} (first : s.reader.rest = c :: cs) :
    (s.on (c :: rest)).lineEnd = s.lineEnd.on rest := by
  obtain ⟨⟨_, pos⟩, b, ws, d, ts⟩ := s
  subst first
  rw [lineEnd_eq, lineEnd_eq]
  rfl

theorem indent_on {width : Nat} (cs : List Char) (h : s.indent width = .ok t) :
    (s.on cs).indent width = .ok (t.on cs) := by
  obtain ⟨ws, kinds, levels, rfl⟩ := indent_iff.1 h
  exact indent_iff.2 ⟨ws, kinds, levels, rfl⟩

theorem skipped_on {r : Reader} {q c : List Char} (front : s.reader.rest = p ++ '\n' :: b)
    (h : s.skipped = .ok r) (behind : r.rest = q ++ '\n' :: b) :
    (s.on (p ++ '\n' :: c)).skipped = .ok ⟨q ++ '\n' :: c, r.pos⟩ := by
  obtain ⟨⟨_, pos⟩, _, _, depth, _⟩ := s
  obtain ⟨_, pos'⟩ := r
  subst front behind
  unfold skipped at h ⊢
  dsimp only [on] at h ⊢
  refine skipBlanks_local ?_ ?_ h
  all_goals
    rw [List.length_append]
    omega

/-- Whether a line holds no token is seen in the line. -/
theorem blankLine?_line (m y : List Char) :
    blankLine? (m ++ '\n' :: y) = blankLine? (m ++ ['\n']) ∧
      ∀ n ∈ blankLine? (m ++ ['\n']), n ≤ (m ++ ['\n']).length := by
  cases m with
  | nil => exact ⟨rfl, by simp [blankLine?]⟩
  | cons c m =>
    rw [List.cons_append, List.cons_append]
    by_cases feed : c = '\n'
    · subst feed
      exact ⟨rfl, by simp [blankLine?]⟩
    by_cases comment : c = '#'
    · have stops (y : List Char) : (m ++ '\n' :: y).takeWhile (· ≠ '\n') =
          m.takeWhile (· ≠ '\n') := takeWhile_append_stop (by simp)
      have short := (List.takeWhile_prefix (l := m) (· ≠ '\n')).length_le
      subst comment
      rw [blankLine?_comment, blankLine?_comment, stops, stops]
      refine ⟨rfl, ?_⟩
      rintro _ ⟨⟩
      simpa using short
    by_cases carriage : c = '\r' ∧ (m ++ ['\n']).head? = some '\n'
    · obtain ⟨rfl, next⟩ := carriage
      cases m with
      | nil => exact ⟨rfl, by simp [blankLine?]⟩
      | cons d m =>
        cases next
        exact ⟨rfl, by simp [blankLine?]⟩
    · have other (y : List Char) : blankLine? (c :: (m ++ '\n' :: y)) = none := by
        refine blankLine?_none feed comment fun first next => carriage ⟨first, ?_⟩
        cases m with
        | nil => rfl
        | cons d m => exact next
      rw [other, other]
      exact ⟨rfl, by simp⟩

theorem indented_front (s : Scan) (p rest : List Char) :
    (s.on (p ++ '\n' :: rest)).indented =
      ⟨p.dropWhile isIndent ++ '\n' :: rest, s.reader.pos.past (p.takeWhile isIndent)⟩ :=
  Reader.skipWhile_front (by simp [isIndent]) p s.reader.pos

/-- What a line in front of `b` begins with does not depend on `b`. -/
theorem Begins.on {c : List Char} (h : s.Begins (.go t))
    (front : s.reader.rest = p ++ '\n' :: b) :
    ∃ w, t.reader.rest = w ++ b ∧ (s.on (p ++ '\n' :: c)).Begins (.go (t.on (w ++ c))) := by
  have here := indented_front s p b
  have there := indented_front s p c
  rw [← front, on_self] at here
  generalize p.dropWhile isIndent = m at here there
  generalize s.reader.pos.past (p.takeWhile isIndent) = pos at here there
  cases h with
  | @blank n blank =>
    rw [here] at blank
    have same := (blankLine?_line m b).1.trans (blankLine?_line m c).1.symm
    have inside := (blankLine?_line m b).2 n ((blankLine?_line m b).1 ▸ blank)
    have skip (rest : List Char) := Reader.skip_front inside rest pos
    simp only [List.append_assoc, List.singleton_append] at skip
    have left : (s.indented.skip n).rest = (m ++ ['\n']).drop n ++ b := by rw [here, skip]
    have left' : (s.on (p ++ '\n' :: c)).indented.skip n =
        ⟨(m ++ ['\n']).drop n ++ c, (s.indented.skip n).pos⟩ := by rw [there, here, skip, skip]
    have blank' : blankLine? (s.on (p ++ '\n' :: c)).indented.rest = some n := by
      rw [there, ← same, blank]
    have begins := Begins.blank blank'
    rw [left'] at begins
    exact ⟨_, left, begins⟩
  | enters filled more indent =>
    have reader := (indent_keeps indent).2
    have filled' : blankLine? (s.on (p ++ '\n' :: c)).indented.rest = none := by
      rw [there, ← filled, here]
      exact (blankLine?_line m c).1.trans (blankLine?_line m b).1.symm
    refine ⟨m ++ ['\n'], by rw [reader, List.append_assoc]; exact congrArg Reader.rest here, ?_⟩
    refine .enters filled' (by rw [there]; simp) ?_
    have width : indentWidth 0 (p ++ '\n' :: c) = indentWidth 0 s.reader.rest := by
      rw [front, indentWidth_append (by simp [Breaks]), indentWidth_append (by simp [Breaks])]
    have inside : ({ s.on (p ++ '\n' :: c) with
          reader := (s.on (p ++ '\n' :: c)).indented, atLineStart := false } : Scan) =
        ({ s with reader := s.indented, atLineStart := false } : Scan).on (m ++ ['\n'] ++ c) := by
      rw [there, List.append_assoc]
      show _ = ({ s with reader := ⟨_, s.indented.pos⟩, atLineStart := false } : Scan)
      rw [here]
      rfl
    rw [inside]
    exact width ▸ indent_on (m ++ ['\n'] ++ c) indent

/-- What is read behind blanks, in front of `b`, does not depend on `b`. -/
theorem ReadsOn.on {q c : List Char} (h : s.ReadsOn (.go t))
    (front : s.reader.rest = q ++ '\n' :: b) (stays : b <:+ t.reader.rest) :
    ∃ w, t.reader.rest = w ++ b ∧ (s.on (q ++ '\n' :: c)).ReadsOn (.go (t.on (w ++ c))) := by
  cases q with
  | nil =>
    cases h with
    | comment first => cases front.symm.trans first
    | lineEnd first =>
      refine ⟨[], ?_, lineEnd_on s first ▸ .lineEnd rfl⟩
      rw [reader_lineEnd, Reader.rest_one front]
      rfl
    | token first _ inLine _ => exact absurd (List.cons.inj (front.symm.trans first)).1.symm inLine
  | cons d q =>
    cases h with
    | comment first =>
      obtain ⟨rfl, -⟩ := List.cons.inj (front.symm.trans first)
      obtain ⟨here, there⟩ := Reader.skipLine_local front c
      have reads : (s.on ('#' :: q ++ '\n' :: c)).ReadsOn
        (.go { s with reader := (⟨'#' :: q ++ '\n' :: c, s.reader.pos⟩ : Reader).skipLine }) :=
        .comment rfl
      rw [there] at reads
      refine ⟨_, here.trans (List.append_cons ..), ?_⟩
      rw [← List.append_cons]
      exact reads
    | lineEnd first =>
      obtain ⟨rfl, -⟩ := List.cons.inj (front.symm.trans first)
      refine ⟨q ++ ['\n'], ?_, ?_⟩
      · rw [reader_lineEnd, Reader.rest_one front]
        exact List.append_cons ..
      · rw [← List.append_cons, ← lineEnd_on s first]
        exact .lineEnd rfl
    | token first noComment inLine read =>
      obtain ⟨rfl, -⟩ := List.cons.inj (front.symm.trans first)
      obtain ⟨w, here, there⟩ := oneToken_local front inLine read stays c
      refine ⟨w ++ ['\n'], here.trans (List.append_cons ..), ?_⟩
      rw [← List.append_cons]
      exact .token rfl noComment inLine there

/-- A round in front of `b` does not depend on `b`. -/
theorem round_on (h : s.round = .ok (.go t)) (front : s.reader.rest = p ++ '\n' :: b)
    (stays : b <:+ t.reader.rest) (c : List Char) :
    ∃ w, t.reader.rest = w ++ b ∧ (s.on (p ++ '\n' :: c)).round = .ok (.go (t.on (w ++ c))) := by
  unfold round at h ⊢
  show ∃ w, _ ∧ (if s.atLineStart = true then _ else _) = _
  split at h
  · next start =>
    obtain ⟨w, eq, begins⟩ := (begin_iff.1 h).on (c := c) front
    exact ⟨w, eq, (if_pos start).trans (begin_iff.2 begins)⟩
  · next inside =>
    obtain ⟨r, skipped, reads⟩ := inLine_iff.1 h
    obtain ⟨used, passed⟩ := skipBlanks_passes _ skipped
    obtain ⟨used', last, passed', -⟩ := reads.passes
    obtain ⟨q, behind⟩ : ∃ q, r.rest = q ++ '\n' :: b := by
      refine suffix_line (p := p) ⟨used, passed.rest.symm.trans front⟩ ?_
      have := congrArg List.length passed'.rest
      have := stays.length_le
      simp only [List.length_append, List.length_singleton] at *
      omega
    obtain ⟨w, eq, reads⟩ := reads.on (c := c) behind stays
    refine ⟨w, eq, (if_neg inside).trans (inLine_iff.2 ⟨_, skipped_on front skipped behind, ?_⟩)⟩
    exact reads

theorem Comes.left_le (h : s.Comes t) : t.left ≤ s.left := by
  induction h with
  | refl => exact le_rfl
  | tail _ round ih => exact (left_lt round).le.trans ih

/-- The way to a line does not depend on what stands behind it. -/
theorem Comes.on (h : s.Comes t) (start : t.atLineStart = true) {v : List Char}
    (front : s.reader.rest = v ++ t.reader.rest) (whole : Whole v) (c : List Char) :
    (s.on (v ++ c)).Comes (t.on c) := by
  induction h using Relation.ReflTransGen.head_induction_on generalizing v with
  | refl =>
    obtain rfl : v = [] := List.append_left_eq_self.1 front.symm
    exact .refl
  | @head s s₁ round rest ih =>
    have stays := Comes.suffix rest
    cases v using List.reverseRecOn with
    | nil =>
      have lt := (Comes.left_le rest).trans_lt (left_lt round)
      have := s.atLineStart.toNat_le
      unfold left at lt
      rw [front, start, Bool.toNat_true, List.nil_append] at lt
      omega
    | append_singleton p d =>
      obtain rfl : d = '\n' := whole d (by simp)
      rw [← List.append_cons] at front ⊢
      obtain ⟨w, eq, round'⟩ := round_on round front stays c
      refine .head round' (ih eq (whole.suffix ?_))
      obtain ⟨used, passed⟩ := round_passes round
      have split := front.symm.trans passed.rest
      rw [eq, List.append_cons, ← List.append_assoc] at split
      exact ⟨used, (List.append_cancel_right split).symm⟩

end

end Scan

/-! ### One line further down -/

/-- A place one line further down. -/
def Pos.down (p : Pos) : Pos := ⟨p.line + 1, p.column⟩

/-- A reader one line further down. -/
def Reader.down (r : Reader) : Reader := ⟨r.rest, r.pos.down⟩

/-- A token one line further down. -/
def Token.down (t : Token) : Token := ⟨t.kind, t.pos.down, t.endLine + 1⟩

section

variable {r r' : Reader} {t : Token}

theorem Pos.after_down (p : Pos) (c : Char) : p.down.after c = (p.after c).down := by
  unfold Pos.after
  split <;> rfl

theorem Reader.skip_down (r : Reader) (n : Nat) : r.down.skip n = (r.skip n).down := by
  induction n generalizing r with
  | zero => rfl
  | succ n ih =>
    obtain ⟨cs, p⟩ := r
    cases cs with
    | nil => rfl
    | cons c cs =>
      show Reader.skip ⟨cs, p.down.after c⟩ n = (Reader.skip ⟨cs, p.after c⟩ n).down
      rw [Pos.after_down]
      exact ih ⟨cs, p.after c⟩

theorem oneToken_down {c : Char} {cs : List Char} (first : r.rest = c :: cs) (inLine : c ≠ '\n')
    (h : oneToken c r = .ok (t, r')) : oneToken c r.down = .ok (t.down, r'.down) := by
  have first' : r.down.rest = c :: cs := first
  rw [oneToken_eq first inLine] at h
  rw [oneToken_eq first' inLine]
  cases spelled : spell c cs with
  | error e =>
    rw [spelled] at h
    cases h
  | ok kn =>
    rw [spelled] at h
    obtain ⟨rfl, rfl⟩ := Prod.mk.inj (Except.ok.inj h)
    rw [Reader.placed, Reader.skip_down]
    rfl

theorem skipBlanks_down {inBrackets : Bool} {fuel : Nat} {r r' : Reader}
    (h : skipBlanks inBrackets fuel r = .ok r') : skipBlanks inBrackets fuel r.down = .ok r'.down := by
  induction fuel generalizing r with
  | zero =>
    cases h
    rfl
  | succ fuel ih =>
    have same : r.down.rest = r.rest := rfl
    rw [skipBlanks_succ] at h ⊢
    rw [same]
    generalize skips? inBrackets r.rest = n at h ⊢
    rcases n with _ | _ | n
    · cases h
    · cases h
      rfl
    · dsimp only at h ⊢
      rw [Reader.skip_down]
      exact ih h

end

namespace Scan

/-- Whether two scans differ by one line in where they are, and in the tokens that have been added
to `old`, all of them in the line `l` or below. -/
structure Below (old : List Token) (l : Nat) (s s' : Scan) : Prop where
  reader : s'.reader = s.reader.down
  atLineStart : s'.atLineStart = s.atLineStart
  widths : s'.widths = s.widths
  depth : s'.depth = s.depth
  tokens : ∃ new, s.tokens = new ++ old ∧ s'.tokens = new.map Token.down ++ old ∧
    ∀ t ∈ new, l ≤ t.pos.line
  line : l ≤ s.reader.pos.line

namespace Below

variable {old : List Token} {l : Nat} {s s' t : Scan}

theorem move (h : Below old l s s') {r : Reader} {cs : List Char} (passed : s.reader.Passes cs r) :
    Below old l { s with reader := r } { s' with reader := r.down } :=
  { h with
    reader := rfl
    line := h.line.trans (passed.pos ▸ Pos.line_le (Pos.le_past _ cs)) }

theorem pushAll (h : Below old l s s') (kinds : List TokenKind) :
    Below old l (s.pushAll kinds) (s'.pushAll kinds) := by
  obtain ⟨new, tokens, tokens', low⟩ := h.tokens
  refine { h with tokens := ⟨kinds.map (⟨·, s.reader.pos, s.reader.pos.line⟩) ++ new, ?_, ?_, ?_⟩ }
  · rw [Scan.pushAll, tokens, List.append_assoc]
  · rw [Scan.pushAll, tokens', h.reader, List.map_append, List.map_map, List.append_assoc]
    rfl
  · refine List.forall_mem_append.2 ⟨fun t ht => ?_, low⟩
    obtain ⟨k, -, rfl⟩ := List.mem_map.1 ht
    exact h.line

theorem lineLayout (h : Below old l s s') : lineLayout s'.tokens = lineLayout s.tokens := by
  obtain ⟨new, tokens, tokens', -⟩ := h.tokens
  rw [tokens, tokens']
  cases new <;> rfl

theorem indented (h : Below old l s s') : s'.indented = s.indented.down := by
  unfold Scan.indented
  rw [h.reader]
  exact Reader.skip_down ..

/-- A line begins alike one line further down. -/
theorem begins (h : Below old l s s') {turn : Turn} (begins : s.Begins turn) :
    ∃ turn', s'.Begins turn' ∧ turn.Both (Below old l) turn' := by
  have passed : s.reader.Passes _ s.indented := .skipWhile isIndent s.reader
  have inside := h.move passed
  have rest : s'.indented.rest = s.indented.rest := by
    rw [h.indented]
    rfl
  cases begins with
  | @blank n blank =>
    refine ⟨_, .blank (rest.symm ▸ blank), .go ?_⟩
    rw [h.indented, Reader.skip_down]
    exact h.move (passed.trans (.skipAny n s.indented))
  | stops nothing =>
    refine ⟨_, .stops (rest.trans nothing), .stop ?_⟩
    rw [h.indented]
    exact { inside with atLineStart := rfl }
  | enters filled more indent =>
    obtain ⟨ws, kinds, levels, rfl⟩ := indent_iff.1 indent
    refine ⟨_, .enters (rest.symm ▸ filled) (rest.symm ▸ more)
      (indent_iff.2 ⟨ws, kinds, ?_, rfl⟩), .go ?_⟩
    · rw [h.reader]
      exact h.widths.symm ▸ levels
    · rw [h.indented]
      refine pushAll (s := ⟨s.indented, false, ws, s.depth, s.tokens⟩) ?_ kinds
      exact { inside with atLineStart := rfl, widths := rfl }

/-- It goes on alike. -/
theorem readsOn (h : Below old l s s') {turn : Turn} (reads : s.ReadsOn turn) :
    ∃ turn', s'.ReadsOn turn' ∧ turn.Both (Below old l) turn' := by
  have rest : s'.reader.rest = s.reader.rest := by
    rw [h.reader]
    rfl
  cases reads with
  | stops nothing => exact ⟨_, .stops (rest.trans nothing), .stop h⟩
  | comment first =>
    refine ⟨_, .comment (rest.trans first), .go ?_⟩
    have down : s.reader.down.skipLine = s.reader.skipLine.down := Reader.skip_down ..
    rw [h.reader, down]
    exact h.move (.skipWhile (· ≠ '\n') s.reader)
  | lineEnd first =>
    refine ⟨_, .lineEnd (rest.trans first), .go ?_⟩
    rw [lineEnd_eq, lineEnd_eq, h.depth, h.lineLayout, h.atLineStart, h.reader, Reader.skip_down]
    have behind := (h.move (.one first)).pushAll
      (if s.depth = 0 then Scan.lineLayout s.tokens else [])
    exact { behind with atLineStart := rfl, depth := rfl }
  | @token c cs t r first noComment inLine read =>
    have taken := oneToken_taken first inLine read
    have read' : oneToken c s'.reader = .ok (t.down, r.down) := by
      rw [h.reader]
      exact oneToken_down first inLine read
    refine ⟨_, .token (rest.trans first) noComment inLine read', .go ?_⟩
    obtain ⟨used, last, passed, -⟩ := taken.passes
    have behind := h.move passed
    obtain ⟨new, tokens, tokens', low⟩ := h.tokens
    refine { behind with depth := ?_, tokens := ⟨t :: new, ?_, ?_, ?_⟩ }
    · unfold Scan.take
      rw [h.depth]
      rfl
    · rw [Scan.take, tokens]
      rfl
    · rw [Scan.take, tokens']
      rfl
    · exact List.forall_mem_cons.2 ⟨taken.pos ▸ h.line, low⟩

/-- A round is alike one line further down. -/
theorem round (h : Below old l s s') {turn : Turn} (read : s.round = .ok turn) :
    ∃ turn', s'.round = .ok turn' ∧ turn.Both (Below old l) turn' := by
  unfold Scan.round at read ⊢
  rw [h.atLineStart]
  split at read
  · next start =>
    obtain ⟨turn', begins, both⟩ := h.begins (begin_iff.1 read)
    exact ⟨turn', (if_pos start).trans (begin_iff.2 begins), both⟩
  · next inside =>
    obtain ⟨r, skipped, reads⟩ := inLine_iff.1 read
    obtain ⟨blanks, passed⟩ := skipBlanks_passes _ skipped
    obtain ⟨turn', reads', both⟩ := (h.move passed).readsOn reads
    have skipped' : s'.skipped = .ok r.down := by
      unfold Scan.skipped
      rw [h.depth, h.reader]
      exact skipBlanks_down skipped
    exact ⟨turn', (if_neg inside).trans (inLine_iff.2 ⟨_, skipped', reads'⟩), both⟩

/-- So is the end of the text. -/
theorem finish (h : Below old l s s') : ∃ after, s.finish = old.reverse ++ after ∧
    s'.finish = old.reverse ++ after.map Token.down ∧ ∀ t ∈ after, l ≤ t.pos.line := by
  have layout : s'.endLayout = s.endLayout := by rw [endLayout, endLayout, h.widths, h.lineLayout]
  obtain ⟨new, tokens, tokens', low⟩ := (h.pushAll s.endLayout).tokens
  refine ⟨new.reverse, ?_, ?_, fun u hu => low u (List.mem_reverse.1 hu)⟩
  · rw [finish_eq, tokens, List.reverse_append]
  · rw [finish_eq, layout, tokens', List.reverse_append, List.map_reverse]

/-- The tokens that are added to `old` are the same, one line further down. -/
theorem result (h : Below old l s s') {ts : List Token} (read : s.result = .ok ts) :
    ∃ after, ts = old.reverse ++ after ∧ s'.result = .ok (old.reverse ++ after.map Token.down) ∧
      ∀ t ∈ after, l ≤ t.pos.line := by
  refine result_sim (R := Below old l) (Q := fun x x' => ∀ ts, x = .ok ts →
    ∃ after, ts = old.reverse ++ after ∧ x' = .ok (old.reverse ++ after.map Token.down) ∧
      ∀ t ∈ after, l ≤ t.pos.line) (fun s s' h => ?_) h ts read
  cases read : s.round with
  | error e =>
    refine .inr fun ts result => ?_
    rw [result_eq, read] at result
    cases result
  | ok turn =>
    obtain ⟨turn', read', both⟩ := h.round read
    cases both with
    | go h => exact .inl ⟨_, _, rfl, read', h⟩
    | @stop t t' h =>
      refine .inr fun ts result => ?_
      rw [result_eq, read] at result
      obtain rfl := Except.ok.inj result
      obtain ⟨after, eq, eq', low⟩ := h.finish
      exact ⟨after, eq, by rw [result_eq, read', ← eq']; rfl, low⟩

theorem self (s : Scan) :
    Below s.tokens s.reader.pos.line s { s with reader := s.reader.down } where
  reader := rfl
  atLineStart := rfl
  widths := rfl
  depth := rfl
  tokens := ⟨[], rfl, rfl, fun _ h => absurd h List.not_mem_nil⟩
  line := le_rfl

end Below

/-- The tokens that a scan comes to go on from those it has, in the line it has come to. -/
theorem result_adds {ts : List Token} {s : Scan} (h : s.result = .ok ts) :
    ∃ after, ts = s.tokens.reverse ++ after ∧ ∀ t ∈ after, s.reader.pos.line ≤ t.pos.line := by
  obtain ⟨after, eq, -, low⟩ := (Below.self s).result h
  exact ⟨after, eq, low⟩

theorem readsOn_adds {ts : List Token} {s : Scan} {turn : Turn} (reads : s.ReadsOn turn)
    (h : turn.onward Scan.result = .ok ts) :
    ∃ after, ts = s.tokens.reverse ++ after ∧ ∀ t ∈ after, s.reader.pos.line ≤ t.pos.line := by
  obtain ⟨turn', -, both⟩ := (Below.self s).readsOn reads
  cases both with
  | stop below =>
    obtain rfl := Except.ok.inj h
    obtain ⟨after, eq, -, low⟩ := below.finish
    exact ⟨after, eq, low⟩
  | go below =>
    obtain ⟨after, eq, -, low⟩ := below.result h
    exact ⟨after, eq, low⟩

end Scan

/-! ### Lines of blanks -/

/-- A line of blanks, with or without a comment. -/
structure BlankLine where
  /-- The blanks it starts with. -/
  blanks : List Char
  /-- What stands behind the `#` of its comment. -/
  comment : Option (List Char)
  /-- Whether there is a carriage return in front of its line feed. -/
  carriage : Bool
  blank : ∀ c ∈ blanks, c = ' ' ∨ c = '\t'
  inLine : ∀ text ∈ comment, ∀ c ∈ text, c ≠ '\n'

namespace BlankLine

variable (l : BlankLine)

/-- What stands between its blanks and its line feed. -/
def tail : List Char :=
  (match l.comment with
    | some text => '#' :: text
    | none => []) ++ if l.carriage then ['\r'] else []

/-- Its characters. -/
def chars : List Char := l.blanks ++ l.tail ++ ['\n']

theorem tail_inLine : ∀ c ∈ l.tail, c ≠ '\n' := by
  have carriage : ∀ c ∈ if l.carriage then ['\r'] else [], c ≠ '\n' := by
    cases l.carriage <;> simp
  unfold tail
  refine List.forall_mem_append.2 ⟨?_, carriage⟩
  split
  · next text comment => exact List.forall_mem_cons.2 ⟨by decide, l.inLine text comment⟩
  · exact fun _ h => absurd h List.not_mem_nil

theorem blanks_inLine : ∀ c ∈ l.blanks, c ≠ '\n' := by
  rintro c hc rfl
  rcases l.blank _ hc with h | h <;> cases h

theorem past_chars (p : Pos) : p.past l.chars = ⟨p.line + 1, 1⟩ := by
  rw [chars, Pos.past_append, Pos.past_append, Pos.past_of_line p l.blanks_inLine,
    Pos.past_of_line _ l.tail_inLine]
  rfl

theorem not_isIndent_tail (b : List Char) :
    ∀ c ∈ (l.tail ++ '\n' :: b).head?, Scan.isIndent c = false := by
  unfold tail
  cases l.comment with
  | some text => rintro _ ⟨⟩; rfl
  | none => cases l.carriage <;> rintro _ ⟨⟩ <;> rfl

theorem blankLine?_tail (b : List Char) :
    blankLine? (l.tail ++ '\n' :: b) = some (l.tail.length + 1) := by
  have inLine := l.tail_inLine
  revert inLine
  unfold tail
  cases l.comment with
  | some text =>
    intro inLine
    obtain ⟨-, inLine⟩ : _ ∧ ∀ c ∈ text ++ _, c ≠ '\n' := List.forall_mem_cons.1 inLine
    have all := List.takeWhile_eq_self_iff.2 fun c hc => decide_eq_true (inLine c hc)
    dsimp only
    rw [List.cons_append, List.cons_append, blankLine?_comment, takeWhile_append_stop (by simp),
      all]
    rfl
  | none => cases l.carriage <;> exact fun _ => rfl

/-- A round goes over the line. -/
theorem round {s : Scan} {b : List Char} (start : s.atLineStart = true)
    (front : s.reader.rest = l.chars ++ b) :
    s.round = .ok (.go { s with reader := ⟨b, ⟨s.reader.pos.line + 1, 1⟩⟩ }) := by
  have blanks : ∀ c ∈ l.blanks, Scan.isIndent c = true := fun c hc =>
    decide_eq_true ((l.blank c hc).imp id .inl)
  have indented : s.indented = ⟨l.tail ++ '\n' :: b, s.reader.pos.past l.blanks⟩ := by
    obtain ⟨⟨_, pos⟩, _, _, _, _⟩ := s
    subst front
    have := Reader.skipWhile_front (l.not_isIndent_tail b) l.blanks pos
    rw [List.takeWhile_eq_self_iff.2 blanks, List.dropWhile_eq_nil_iff.2 blanks] at this
    simpa [Scan.indented, chars] using this
  have behind : s.indented.skip (l.tail.length + 1) = ⟨b, ⟨s.reader.pos.line + 1, 1⟩⟩ := by
    have := Reader.skip_used b (l.tail ++ ['\n']) (s.reader.pos.past l.blanks)
    rw [← Pos.past_append, ← List.append_assoc, ← chars, past_chars, List.length_append] at this
    rw [indented, ← this, List.append_assoc]
    rfl
  rw [Scan.round, if_pos start, ← behind]
  exact Scan.begin_iff.2 (.blank (by rw [indented, blankLine?_tail]))

end BlankLine

/-! ### Where logical lines begin -/

/-- The number of brackets that are open behind a token, if `n` are open in front of it. -/
def Token.bracketsBehind (n : Nat) (t : Token) : Nat :=
  match t.kind with
  | .punct p => if p.opens then n + 1 else if p.closes then n - 1 else n
  | _ => n

/-- The number of brackets that are open behind some tokens. -/
def openBrackets (ts : List Token) : Nat := ts.foldl Token.bracketsBehind 0

/-- Whether a line starts inside a string. -/
def InString (ts : List Token) (line : Nat) : Prop :=
  ∃ t ∈ ts, t.kind.isString = true ∧ t.pos.line < line ∧ line ≤ t.endLine

/-- Whether a line starts inside brackets. -/
def InBrackets (ts : List Token) (line : Nat) : Prop :=
  0 < openBrackets (ts.filter (·.pos.line < line))

/-- Whether a logical line goes on from `u` to `b` with no token and no bracket between them, as it
does behind a backslash at the end of a line. -/
def Continued (u b : List Char) : Prop :=
  ∃ s r, (Scan.start (u ++ b)).Comes s ∧ s.atLineStart = false ∧ s.depth = 0 ∧
    s.skipped = .ok r ∧ b.length < s.reader.rest.length ∧ r.rest.length ≤ b.length

/-- Whether a logical line begins at `b`, behind `u`. -/
def Begun (u b : List Char) : Prop :=
  ∃ s, (Scan.start (u ++ b)).Comes s ∧ s.reader.rest = b ∧ s.atLineStart = true

namespace Scan

/-! ### Open brackets -/

/-- Whether a scan has counted the brackets among its tokens. -/
def Counts (s : Scan) : Prop := s.depth = openBrackets s.tokens.reverse

variable {s t : Scan} {turn : Turn}

theorem bracketsBehind_layout {t : Token} (layout : t.kind.isLayout = true) (n : Nat) :
    t.bracketsBehind n = n := by
  obtain ⟨k, _, _⟩ := t
  cases k <;> first | rfl | cases layout

theorem openBrackets_layout {ts : List Token} : ∀ {new : List Token},
    (∀ t ∈ new, t.kind.isLayout = true) →
      openBrackets (new ++ ts).reverse = openBrackets ts.reverse
  | [], _ => rfl
  | t :: new, h => by
    obtain ⟨layout, h⟩ := List.forall_mem_cons.1 h
    rw [List.cons_append, List.reverse_cons, openBrackets, List.foldl_append]
    exact (bracketsBehind_layout layout _).trans (openBrackets_layout h)

theorem Counts.pushAll (h : s.Counts) {kinds : List TokenKind}
    (layout : ∀ k ∈ kinds, k.isLayout = true) : (s.pushAll kinds).Counts := by
  refine Eq.trans h (openBrackets_layout fun t ht => ?_).symm
  obtain ⟨k, hk, rfl⟩ := List.mem_map.1 ht
  exact layout k hk

theorem eq_newline {k : TokenKind} {n : Nat} {ts : List Token}
    (h : k ∈ if n = 0 then lineLayout ts else []) : k = .newline := by
  unfold lineLayout at h
  split at h
  · split at h
    · exact List.mem_singleton.1 h
    · cases h
  · cases h

theorem relevel?_layout {width : Nat} {ws ws' : List Nat} {kinds : List TokenKind}
    (h : relevel? width ws = some (ws', kinds)) : ∀ k ∈ kinds, k.isLayout = true := by
  unfold relevel? at h
  split at h
  · cases h
    exact List.forall_mem_singleton.2 rfl
  split at h
  · split at h
    · cases h
      intro k hk
      rw [List.eq_of_mem_replicate hk]
      rfl
    · cases h
  · cases h
    exact fun _ h => absurd h List.not_mem_nil

theorem Counts.readsOn (h : s.Counts) (reads : s.ReadsOn turn) : turn.scan.Counts := by
  cases reads with
  | stops => exact h
  | comment => exact h
  | lineEnd =>
    show s.lineEnd.Counts
    rw [lineEnd_eq]
    refine Counts.pushAll (s := { s with reader := s.reader.skip 1 }) h fun k hk => ?_
    rw [eq_newline hk]
    rfl
  | @token _ _ t r =>
    show t.bracketsBehind s.depth = openBrackets (t :: s.tokens).reverse
    rw [h, List.reverse_cons, openBrackets, openBrackets, List.foldl_append]
    rfl

theorem Counts.round (h : s.Counts) (read : s.round = .ok turn) : turn.scan.Counts := by
  unfold Scan.round at read
  split at read
  · cases begin_iff.1 read with
    | blank => exact h
    | stops => exact h
    | enters _ _ indent =>
      obtain ⟨ws, kinds, levels, rfl⟩ := indent_iff.1 indent
      exact Counts.pushAll (s := ⟨s.indented, false, ws, s.depth, s.tokens⟩) h
        (relevel?_layout levels)
  · obtain ⟨r, -, reads⟩ := inLine_iff.1 read
    exact Counts.readsOn (s := { s with reader := r }) h reads

theorem Counts.comes {cs : List Char} (h : (start cs).Comes s) : s.Counts := by
  induction h with
  | refl => rfl
  | tail _ round ih => exact ih.round round

/-! ### The start of a line -/

end Scan

section

variable {u b : List Char} {r : Reader}

theorem Whole.column (whole : Whole u) : Pos.behind u = ⟨(Pos.behind u).line, 1⟩ := by
  cases u using List.reverseRecOn with
  | nil => rfl
  | append_singleton u c =>
    obtain rfl : c = '\n' := whole c (by simp)
    rw [Pos.behind_concat]
    rfl

/-- A reader in front of the start of a line is in front of the line end there. -/
theorem Reader.At.in_front (h : r.At (u ++ b)) (whole : Whole u)
    (long : b.length < r.rest.length) :
    r.pos.line < (Pos.behind u).line ∧ ∃ p, r.rest = p ++ '\n' :: b := by
  obtain ⟨before, eq, pos⟩ := h
  obtain ⟨v, rest⟩ : b <:+ r.rest :=
    List.suffix_of_suffix_length_le (List.suffix_append u b) (eq ▸ List.suffix_append ..) long.le
  rw [← rest, ← List.append_assoc] at eq
  obtain rfl := List.append_cancel_right eq
  have inner := whole.suffix (List.suffix_append before v)
  cases v using List.reverseRecOn with
  | nil =>
    rw [← rest] at long
    exact absurd long (Nat.lt_irrefl _)
  | append_singleton p c =>
    obtain rfl : c = '\n' := inner c (by simp)
    refine ⟨?_, p, by rw [← rest, List.append_assoc]; rfl⟩
    rw [pos, ← List.append_assoc, Pos.behind_concat, Pos.behind_append]
    exact Nat.lt_succ_of_le (Pos.line_le (Pos.le_past _ p))

theorem Reader.At.behind (h : r.At (u ++ b)) (short : r.rest.length ≤ b.length) :
    (Pos.behind u).line ≤ r.pos.line := by
  obtain ⟨before, eq, pos⟩ := h
  have longer : u.length ≤ before.length := by
    have := congrArg List.length eq
    simp only [List.length_append] at this
    omega
  obtain ⟨w, rfl⟩ : u <+: before :=
    List.prefix_of_prefix_length_le (List.prefix_append u b) (eq ▸ List.prefix_append ..) longer
  rw [pos, Pos.behind_append]
  exact Pos.line_le (Pos.le_past _ w)

namespace Scan

variable {s : Scan} {turn : Turn} {ts : List Token}

/-- If a bracket is open above a line and the scan goes on below, the line starts inside
brackets. -/
theorem Comes.inBrackets (comes : (start (u ++ b)).Comes s)
    (above : s.reader.pos.line < (Pos.behind u).line) (opened : 0 < s.depth) {after : List Token}
    (eq : ts = s.tokens.reverse ++ after)
    (below : ∀ t ∈ after, (Pos.behind u).line ≤ t.pos.line) :
    InBrackets ts (Pos.behind u).line := by
  have sound := ((Sound.start (u ++ b)).comes .nil comes).1
  have early : s.tokens.reverse.filter (·.pos.line < (Pos.behind u).line) = s.tokens.reverse := by
    refine List.filter_eq_self.2 fun t ht => decide_eq_true ?_
    exact (Pos.line_le (sound.placed.before t (List.mem_reverse.1 ht)).pos).trans_lt above
  have late : after.filter (·.pos.line < (Pos.behind u).line) = [] :=
    List.filter_eq_nil_iff.2 fun t ht => by simpa using below t ht
  rw [InBrackets, eq, List.filter_append, early, late, List.append_nil]
  exact Counts.comes comes ▸ opened

/-- A round at the start of a line comes to that of the next line if that line is blank. -/
theorem Comes.begun {p : List Char} (comes : (start (u ++ b)).Comes s)
    (front : s.reader.rest = p ++ '\n' :: b) (start : s.atLineStart = true)
    (begins : s.begin = .ok turn) (short : turn.scan.reader.rest.length ≤ b.length) :
    Begun u b := by
  have indented : s.indented.rest = p.dropWhile isIndent ++ '\n' :: b := by
    have := congrArg Reader.rest (indented_front s p b)
    rwa [← front, on_self] at this
  cases begin_iff.1 begins with
  | blank blank =>
    obtain ⟨w, rest, -⟩ := (Begins.blank blank).on (c := b) front
    obtain rfl := eq_nil_of_short (rest ▸ short)
    exact ⟨_, comes.tail ((if_pos start).trans begins), rest, start⟩
  | stops nothing => simp [nothing] at indented
  | enters _ _ indent =>
    have rest := (congrArg Reader.rest (indent_keeps indent).2).trans indented
    exact absurd (rest ▸ short) (lt_line _ b).not_ge

/-- How a round can come to the start of a line or go over it. -/
theorem crosses (comes : (start (u ++ b)).Comes s) (whole : Whole u)
    (long : b.length < s.reader.rest.length) (round : s.round = .ok turn)
    (read : turn.onward result = .ok ts) (short : turn.scan.reader.rest.length ≤ b.length) :
    Begun u b ∨ InString ts (Pos.behind u).line ∨ InBrackets ts (Pos.behind u).line ∨
      Continued u b := by
  have sound := ((Sound.start (u ++ b)).comes .nil comes).1
  obtain ⟨above, p, front⟩ := sound.reader.in_front whole long
  unfold Scan.round at round
  split at round
  · next start => exact .inl (comes.begun front start round short)
  · next inside =>
    obtain ⟨r, skipped, reads⟩ := inLine_iff.1 round
    obtain ⟨used, passed⟩ := skipBlanks_passes _ skipped
    have sound := sound.move passed
    have behind := (sound.readsOn reads).reader.behind short
    by_cases gone : r.rest.length ≤ b.length
    · -- The blanks go over the start of the line.
      rcases s.depth.eq_zero_or_pos with closed | opened
      · exact .inr (.inr (.inr ⟨s, r, comes, Bool.eq_false_iff.2 inside, closed, skipped, long, gone⟩))
      · obtain ⟨after, eq, below⟩ := readsOn_adds reads read
        refine .inr (.inr (.inl (comes.inBrackets above opened eq fun t ht => ?_)))
        exact (sound.reader.behind gone).trans (below t ht)
    obtain ⟨above', q, rest⟩ := sound.reader.in_front whole (not_le.1 gone)
    cases reads with
    | stops nothing => exact absurd (rest.symm.trans nothing) (by simp)
    | comment =>
      obtain ⟨rest, -⟩ := Reader.skipLine_local rest b
      exact absurd (rest ▸ short) (lt_line _ b).not_ge
    | @lineEnd cs first =>
      have rest' : ({ s with reader := r } : Scan).lineEnd.reader.rest = cs := by
        rw [reader_lineEnd]
        exact Reader.rest_one first
      obtain rfl : b = cs := by
        cases q with
        | nil => exact (List.cons.inj (rest.symm.trans first)).2
        | cons d q =>
          have eq : q ++ '\n' :: b = cs := (List.cons.inj (rest.symm.trans first)).2
          exact absurd (rest'.trans eq.symm ▸ short) (lt_line q b).not_ge
      rcases s.depth.eq_zero_or_pos with closed | opened
      · refine .inl ⟨_, comes.tail ((if_neg inside).trans round), rest', ?_⟩
        simp [lineEnd_eq, closed]
      · obtain ⟨after, eq, below⟩ := result_adds read
        rw [lineEnd_eq, if_neg opened.ne'] at eq
        exact .inr (.inr (.inl (comes.inBrackets above opened eq fun t ht => behind.trans (below t ht))))
    | @token c cs t r' first _ inLine read' =>
      have taken := oneToken_taken first inLine read'
      have last : t.endLine = r'.pos.line := taken.endLine
      rw [← taken.pos] at above'
      refine .inr (.inl ⟨t, ?_, ?_, above', behind.trans last.ge⟩)
      · obtain ⟨after, eq, -⟩ := result_adds read
        rw [eq]
        simp [take]
      · exact (oneToken_string read').resolve_left (above'.trans_le (behind.trans last.ge)).ne'

/-- Where a line starts, a logical line begins or one goes on. -/
theorem line_starts (whole : Whole u) (comes : (start (u ++ b)).Comes s)
    (long : b.length < s.reader.rest.length) (read : s.result = .ok ts) :
    Begun u b ∨ InString ts (Pos.behind u).line ∨ InBrackets ts (Pos.behind u).line ∨
      Continued u b := by
  induction n : s.left using Nat.strong_induction_on generalizing s with
  | _ n ih =>
  subst n
  rw [result_eq] at read
  obtain ⟨turn, round, read⟩ := bind_eq_ok.1 read
  by_cases short : turn.scan.reader.rest.length ≤ b.length
  · exact crosses comes whole long round read short
  · cases turn with
    | go t => exact ih _ (left_lt round) (comes.tail round) (not_le.1 short) read rfl
    | stop t =>
      simp [Turn.scan, rest_of_stop round] at short

end Scan

/-- Only a backslash in front of a line end makes a logical line go on there. -/
theorem skipBlanks_continued : ∀ {fuel : Nat} {p : List Char} {pos : Pos},
    skipBlanks false fuel ⟨p ++ '\n' :: b, pos⟩ = .ok r → r.rest.length ≤ b.length →
      ['\\'] <:+ p ∨ ['\\', '\r'] <:+ p
  | 0, p, _, h, short => by
    cases h
    exact absurd short (lt_line p b).not_ge
  | fuel + 1, p, pos, h, short => by
    rw [skipBlanks_succ] at h
    dsimp only at h
    cases skips : skips? false (p ++ '\n' :: b) with
    | none =>
      rw [skips] at h
      cases h
    | some n =>
      rw [skips] at h
      rcases skips?_line skips with ⟨inside, -⟩ | ⟨-, bracket | rfl | rfl⟩
      · cases n with
        | zero =>
          cases h
          exact absurd short (lt_line p b).not_ge
        | succ n =>
          dsimp only at h
          rw [Reader.skip_front inside] at h
          exact (skipBlanks_continued h short).imp (·.trans (List.drop_suffix ..))
            (·.trans (List.drop_suffix ..))
      · cases bracket.2
      · exact .inl List.suffix_rfl
      · exact .inr List.suffix_rfl

theorem Continued.ends (h : Continued u b) (whole : Whole u) :
    ['\\', '\n'] <:+ u ∨ ['\\', '\r', '\n'] <:+ u := by
  obtain ⟨s, r, comes, -, closed, skipped, long, short⟩ := h
  have sound := ((Scan.Sound.start (u ++ b)).comes .nil comes).1
  obtain ⟨-, p, front⟩ := sound.reader.in_front whole long
  obtain ⟨v, split⟩ := comes.suffix
  have line : v ++ (p ++ ['\n']) = u := by
    have whole : v ++ (p ++ ['\n']) ++ b = u ++ b := by
      rw [List.append_assoc, List.append_assoc]
      exact front ▸ split
    exact List.append_cancel_right whole
  have ends : ['\\'] <:+ p ∨ ['\\', '\r'] <:+ p := by
    unfold Scan.skipped at skipped
    obtain ⟨⟨_, pos⟩, _, _, _, _⟩ := s
    subst front closed
    exact skipBlanks_continued skipped short
  rw [← line]
  refine ends.imp (fun h => ?_) fun h => ?_
  all_goals
    obtain ⟨q, rfl⟩ := h
    exact ⟨v ++ q, by simp⟩

end

/-! ### Tokens above a line -/

/-- Whether a token ends above a line, or is the line end that is placed at its start. -/
def Token.Above (t : Token) (line : Nat) : Prop :=
  t.endLine < line ∨ isNewline t.kind = true ∧ t.pos = ⟨line, 1⟩ ∧ t.endLine = line

theorem Token.Above.mono {t : Token} {l l' : Nat} (h : t.Above l) (le : l ≤ l') : t.Above l' := by
  rcases le.eq_or_lt with rfl | lt
  · exact h
  · exact .inl ((h.elim le_of_lt fun newline => newline.2.2.le).trans_lt lt)

theorem Scan.Comes.above {s : Scan} {text : List Char} (h : (Scan.start text).Comes s)
    (start : s.atLineStart = true) : ∀ t ∈ s.tokens, t.Above s.reader.pos.line := by
  induction h with
  | refl => exact fun _ h => absurd h List.not_mem_nil
  | @tail s s' comes round ih =>
    obtain ⟨used, passed⟩ := round_passes round
    unfold Scan.round at round
    split at round
    · next begins =>
      cases begin_iff.1 round with
      | blank =>
        have le := Pos.line_le (Pos.le_past s.reader.pos used)
        rw [← passed.pos] at le
        exact fun t ht => (ih begins t ht).mono le
      | enters _ _ indent => exact absurd start (by simp [(indent_keeps indent).1])
    · next inside =>
      obtain ⟨r, skipped, reads⟩ := inLine_iff.1 round
      cases reads with
      | comment => exact absurd start inside
      | token => exact absurd start inside
      | lineEnd first =>
        obtain ⟨blanks, skips⟩ := skipBlanks_passes _ skipped
        have sound := ((Sound.start text).comes .nil comes).1.move skips
        have pos : (r.skip 1).pos = ⟨r.pos.line + 1, 1⟩ := (Reader.Passes.one first).pos
        rw [lineEnd_eq]
        show ∀ t ∈ List.map (⟨·, (r.skip 1).pos, (r.skip 1).pos.line⟩) _ ++ s.tokens,
          t.Above (r.skip 1).pos.line
        rw [pos]
        refine List.forall_mem_append.2 ⟨fun t ht => .inr ?_, fun t ht => .inl ?_⟩
        · obtain ⟨k, hk, rfl⟩ := List.mem_map.1 ht
          exact ⟨eq_newline hk ▸ rfl, rfl, rfl⟩
        · exact Nat.lt_succ_of_le (sound.placed.before t ht).endLine

/-- A line of blanks that is put in where a logical line begins moves what stands below down, and
changes nothing else. -/
theorem blank_line_invisible (l : BlankLine) {u b : List Char} {ts : List Token}
    (read : tokens (String.ofList (u ++ b)) = .ok ts) (whole : Whole u)
    (noString : ¬InString ts (Pos.behind u).line)
    (noBracket : ¬InBrackets ts (Pos.behind u).line) (noBackslash : ¬Continued u b) :
    ∃ before after, ts = before ++ after ∧
      tokens (String.ofList (u ++ l.chars ++ b)) = .ok (before ++ after.map Token.down) ∧
      (∀ t ∈ before, t.Above (Pos.behind u).line) ∧
      ∀ t ∈ after, (Pos.behind u).line ≤ t.pos.line := by
  rw [tokens_eq_result] at read
  obtain ⟨s, comes, rest, start⟩ : Begun u b := by
    cases u with
    | nil => exact ⟨_, .refl, rfl, rfl⟩
    | cons c u =>
      have long : b.length < (c :: u ++ b).length := by simp
      rcases Scan.line_starts whole .refl long read with begun | string | bracket | backslash
      · exact begun
      · exact absurd string noString
      · exact absurd bracket noBracket
      · exact absurd backslash noBackslash
  have pos : s.reader.pos = Pos.behind u := by
    obtain ⟨before, split, pos⟩ := ((Scan.Sound.start (u ++ b)).comes .nil comes).1.reader
    rw [rest] at split
    rwa [← List.append_cancel_right split] at pos
  have comes' : (Scan.start (u ++ (l.chars ++ b))).Comes (s.on (l.chars ++ b)) :=
    comes.on start (v := u) (congrArg (u ++ ·) rest.symm) whole _
  have round := l.round (s := s.on (l.chars ++ b)) start rfl
  have down : s.reader.down = ⟨b, ⟨s.reader.pos.line + 1, 1⟩⟩ := by
    rw [Reader.down, rest, Pos.down, pos, whole.column]
  obtain ⟨after, eq, moved, low⟩ := (Scan.Below.self s).result (comes.result ▸ read)
  refine ⟨s.tokens.reverse, after, eq, ?_, fun t ht => ?_, pos ▸ low⟩
  · rw [List.append_assoc, tokens_eq_result, comes'.result, Scan.result_eq, round]
    rw [down] at moved
    exact moved
  · exact pos ▸ comes.above start t (List.mem_reverse.1 ht)

/-- A comment that looks like more, in front of the end of a block. -/
theorem blank_line_invisible_comment :
    let l : BlankLine := ⟨['\t'], some ['"', '(', '\\'], true, by simp, by simp⟩
    let u := ['i', 'f', ' ', 'a', ':', '\n', ' ', 'b', '\n']
    let ts : List Token :=
      [⟨.keyword .if, ⟨1, 1⟩, 1⟩, ⟨.ident "a", ⟨1, 4⟩, 1⟩, ⟨.punct .colon, ⟨1, 5⟩, 1⟩,
        ⟨.newline, ⟨2, 1⟩, 2⟩, ⟨.indent, ⟨2, 2⟩, 2⟩, ⟨.ident "b", ⟨2, 2⟩, 2⟩,
        ⟨.newline, ⟨3, 1⟩, 3⟩, ⟨.dedent, ⟨3, 1⟩, 3⟩, ⟨.ident "c", ⟨3, 1⟩, 3⟩,
        ⟨.newline, ⟨3, 2⟩, 3⟩, ⟨.eof, ⟨3, 2⟩, 3⟩]
    tokens (String.ofList (u ++ ['c'])) = .ok ts ∧ Whole u ∧
      ¬InString ts (Pos.behind u).line ∧ ¬InBrackets ts (Pos.behind u).line ∧
      ¬Continued u ['c'] ∧
      ∃ before after, ts = before ++ after ∧
        tokens (String.ofList (u ++ l.chars ++ ['c'])) = .ok (before ++ after.map Token.down) ∧
        (∀ t ∈ before, t.Above (Pos.behind u).line) ∧
        ∀ t ∈ after, (Pos.behind u).line ≤ t.pos.line := by
  intro l u ts
  have read : tokens (String.ofList (u ++ ['c'])) = .ok ts := by cbv
  have whole : Whole u := by rintro _ ⟨⟩; rfl
  have noString : ¬InString ts (Pos.behind u).line := by unfold InString; decide
  have noBracket : ¬InBrackets ts (Pos.behind u).line := by unfold InBrackets; decide
  have noBackslash : ¬Continued u ['c'] := fun h => absurd (h.ends whole) (by decide)
  exact ⟨read, whole, noString, noBracket, noBackslash,
    blank_line_invisible l read whole noString noBracket noBackslash⟩

end Stepwise.Script
