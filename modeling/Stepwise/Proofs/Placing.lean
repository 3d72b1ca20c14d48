import Stepwise.Proofs.Pieces
import Stepwise.Proofs.Watch

/-!
# Where statements are placed

What is read of a statement lies on its lines: its clauses, the function or class that it defines,
and every lambda that stands in it (`Stmt.Placed`). This holds of all statements that a text stands
for (`parseProgram_placed`), and so every part of the program that has a line of its own is on a
line of the statement that it belongs to.

So the events of a run are on lines of the program: each tells of a part whose line is one of the
statement that the part belongs to (`lambda_sited`). The exceptions are the call of the module
itself, which is on line 0, what an observer has read from other texts, and the fields of f-strings,
which are texts of their own too: their lines are counted from the start of the field.

## The model

The readers of statements put them together of pieces as those of expressions do. The word that a
statement with suites starts with is a piece too: a function or a class is given its place.
-/

namespace Stepwise.Script

open Pieced

variable {β : Type} {n : Nat} {known : List Piece} {c : Cursor}

namespace Parse

/-! ### Simple statements -/

/-- An action of which all pieces are known. -/
theorem Reads.action {a : Action} (places : ∀ q ∈ a.places, .place q ∈ known)
    (exprs : ∀ e ∈ a.exprs, .expr e ∈ known)
    (suites : ∀ body ∈ a.suites, ∀ u ∈ body, .stmt u ∈ known) : Reads known (pure a) := by
  refine .gathered (List.forall_mem_append.2 ⟨List.forall_mem_append.2 ⟨?_, ?_⟩, ?_⟩)
  · exact List.forall_mem_map.2 places
  · exact List.forall_mem_map.2 exprs
  · refine fun k hk => ?_
    obtain ⟨body, hb, hk⟩ := List.mem_flatMap.1 hk
    rw [pieces_stmts] at hk
    obtain ⟨u, hu, rfl⟩ := List.mem_map.1 hk
    exact suites body hb u hu

/-- An action that has nothing but expressions. -/
theorem Reads.plain {a : Action} (places : a.places = []) (suites : a.suites = [])
    (exprs : ∀ e ∈ a.exprs, .expr e ∈ known) : Reads known (pure a) :=
  .action (by simp [places]) exprs (by simp [suites])

/-- An action that has no parts. -/
theorem Reads.bare {a : Action} (places : a.places = []) (suites : a.suites = [])
    (exprs : a.exprs = []) : Reads known (pure a) :=
  .plain places suites (by simp [exprs])

section

variable {budget : Nat}

theorem expr_reads : Reads known (expr budget) := exprAt_reads budget _ _

theorem operand_reads : Reads known (operand budget) := exprAt_reads budget _ _

theorem exprList_reads : Reads known (exprList budget) := expressionList_reads (exprAt_reads budget)

theorem fromImport_reads : Reads known (fromImport budget) := by
  unfold fromImport
  dsimp only
  refine .skip fun module => .skip fun _ => .skip fun star => .ite (.bare rfl rfl rfl) ?_
  refine .skip fun bracket => .skip fun first => .skip fun more => .ite (.skip fun _ => ?_) ?_
  · exact .bare rfl rfl rfl
  · exact .bare rfl rfl rfl

theorem moreSides_reads : ∀ (fuel : Nat) (known : List Piece), Reads known (moreSides budget fuel)
  | 0, _ => by
    unfold moreSides
    infer_instance
  | fuel + 1, known => by
    unfold moreSides
    refine .skip fun eq => .ite (exprList_reads.bind fun e => ?_) .nil
    exact (moreSides_reads fuel _).bind fun more => .cons

theorem expressionStatement_reads : Reads known (expressionStatement budget) := by
  unfold expressionStatement
  dsimp only
  refine .skip fun start => exprList_reads.bind fun first => .skip fun colon => .ite ?_ ?_
  · have annotated {known : List Piece} (hf : .expr first ∈ known) : Reads known (do
        advance
        let _ ← expr budget
        if ← accept .eq then return Action.assign [first] (← exprList budget)
        else return Action.pass) := by
      refine .skip fun _ => expr_reads.bind fun _ => .skip fun eq => .ite ?_ (.bare rfl rfl rfl)
      refine exprList_reads.bind fun value => .plain rfl rfl ?_
      grind [Action.exprs]
    exact .ite (annotated (.head _)) (.skip fun _ => annotated (.head _))
  · refine .skip fun kind => ?_
    split
    · next op _ =>
      have augmented : Reads (pieces first ++ known) (do
          return Action.augAssign first op (← exprList budget)) := by
        refine exprList_reads.bind fun value => .plain rfl rfl ?_
        grind [Action.exprs]
      exact .skip fun _ => .ite augmented (.skip fun _ => augmented)
    · refine (moreSides_reads _ _).bind fun more => ?_
      split
      · refine .plain rfl rfl ?_
        grind [Action.exprs]
      · refine .plain rfl rfl ?_
        grind [Action.exprs]
      · next value targets _ eq =>
        have assign : Reads (pieces more ++ (pieces first ++ known))
            (pure (Action.assign targets.reverse value)) := by
          refine .plain rfl rfl fun e he => ?_
          have : e ∈ (first :: more).reverse := by
            rw [eq]
            grind [Action.exprs]
          grind
        exact .ite assign (.skip fun _ => assign)

theorem simpleStatement_reads : Reads known (simpleStatement budget) := by
  unfold simpleStatement
  dsimp only
  refine .skip fun kind => ?_
  split
  case h_1 | h_2 | h_3 => exact .skip fun _ => .bare rfl rfl rfl
  case h_4 =>
    refine .skip fun _ => .skip fun ended => .ite (.bare rfl rfl rfl) ?_
    refine exprList_reads.bind fun value => .plain rfl rfl ?_
    grind [Action.exprs]
  case h_5 =>
    refine .skip fun _ => operand_reads.bind fun first => ?_
    refine (Reads.moreItems (fun _ => operand_reads) _ _).bind fun more => .plain rfl rfl ?_
    grind [Action.exprs]
  case h_6 | h_7 => exact .skip fun _ => .skip fun _ => .bare rfl rfl rfl
  case h_8 =>
    refine .skip fun _ => expr_reads.bind fun test => .skip fun comma => .ite ?_ ?_
    · refine expr_reads.some.bind fun message => .plain rfl rfl ?_
      cases message <;> grind [Action.exprs]
    · refine .plain rfl rfl ?_
      grind [Action.exprs]
  case h_9 =>
    refine .skip fun _ => .skip fun ended => .ite (.bare rfl rfl rfl) ?_
    refine expr_reads.bind fun value => .skip fun word => .ite (expr_reads.bind fun cause => ?_) ?_
    · refine .plain rfl rfl ?_
      grind [Action.exprs]
    · refine .plain rfl rfl ?_
      grind [Action.exprs]
  case h_10 => exact .skip fun _ => .skip fun _ => .skip fun _ => .bare rfl rfl rfl
  case h_11 => exact .skip fun _ => fromImport_reads
  case h_12 => exact expressionStatement_reads

end

/-! ### Statements on their lines -/

/-- What is read of a statement lies on its lines. -/
theorem spanned_behind {action : Parse Action} {start : Pos} {inner : List Piece}
    (outer : c.Behind n known) (here : c.Behind start.line inner) (ha : Reads inner action)
    (line : Yields action c fun _ c' => start.line ≤ c'.lastLine) :
    Yields (spanned start action) c fun s c' => c.Onward c' ∧ c'.Behind n (pieces s ++ known) := by
  unfold spanned
  refine ((ha.reads _ c here).and line).bind fun a c' ⟨⟨on, behind⟩, le⟩ => ?_
  refine Yields.get_bind (.pure ⟨on, ?_⟩)
  have lies : ∀ k ∈ pieces a, k.Lies start.line c'.lastLine := fun k hk =>
    behind.known k (List.mem_append_left _ hk)
  have placed : (Stmt.mk a start c'.lastLine).Placed := by
    refine .mk le (fun q hq => lies (.place q) ?_) (fun e he => lies (.expr e) ?_)
      fun body hb u hu => lies (.stmt u) ?_
    · exact List.mem_append_left _ (List.mem_append_left _ (List.mem_map_of_mem hq))
    · exact List.mem_append_left _ (List.mem_append_right _ (List.mem_map_of_mem he))
    · refine List.mem_append_right _ (List.mem_flatMap.2 ⟨body, hb, ?_⟩)
      rw [pieces_stmts]
      exact List.mem_map_of_mem hu
  have outer := outer.onward on
  exact outer.imp (List.forall_mem_cons.2 ⟨placed, outer.known⟩)

/-- A statement that starts with a token that has been read. -/
theorem spanned_behind_token {action : Parse Action} (behind : c.Behind n known)
    (solid : c.token.kind.isSolid = true) (ha : Reads [.place c.token.pos] action) :
    Yields (spanned c.token.pos action) c.next fun s c' =>
      c.next.Onward c' ∧ c'.Behind n (pieces s ++ known) := by
  have here := (behind.restart solid).place solid
  refine spanned_behind (behind.onward (.next c)) here ha ?_
  exact (ha.reads _ _ here).imp fun a c' ⟨_, behind'⟩ => (behind'.known (.place _) (by simp)).2

section

variable {budget : Nat}

/-- A simple statement starts with the token that it is read from. -/
theorem simple_reads : Reads known (do spanned (← pos) (simpleStatement budget)) :=
  ⟨fun n c behind => by
  refine Yields.pos_bind ?_
  have eats : Eats (simpleStatement budget) c := simpleStatement_eats c
  by_cases solid : c.token.kind.isSolid = true
  · obtain ⟨top, fits⟩ := behind.fits
    refine spanned_behind behind (behind.restart solid) simpleStatement_reads ?_
    exact eats.imp fun a c' ⟨_, on⟩ => (fits.token_le solid).trans (fits.next.1.onward on).2
  · unfold spanned
    exact Yields.bind (R := fun _ _ => False)
      (eats.imp fun _ _ ⟨solid', _⟩ => absurd solid' solid) nofun⟩

theorem simpleList_reads : ∀ (fuel : Nat) (known : List Piece),
    Reads known (simpleList budget fuel)
  | 0, _ => by
    unfold simpleList
    infer_instance
  | fuel + 1, known => by
    unfold simpleList
    rw [← bind_assoc]
    refine simple_reads.bind fun s => .skip fun semicolon => .ite (.skip fun ended => .ite ?_ ?_) ?_
    · exact .gathered (by grind)
    · exact (simpleList_reads fuel _).bind fun more => .cons
    · exact .gathered (by grind)

theorem simpleLine_reads : Reads known (simpleLine budget) := by
  unfold simpleLine
  dsimp only
  refine (simpleList_reads _ _).bind fun body => .skip fun c => .ite ?_ (.skip fun _ => ?_)
  · exact .gathered (by grind)
  · exact .gathered (by grind)

end

/-! ### Blocks -/

section

variable {budget : Nat} {stmt : Parse (List Stmt)} (ht : ∀ known, Reads known stmt)

include ht

theorem blockBody_reads : ∀ (fuel : Nat) (known : List Piece),
    Reads known (blockBody budget stmt fuel)
  | 0, _ => by
    unfold blockBody
    infer_instance
  | fuel + 1, known => by
    unfold blockBody
    refine .skip fun dedent => .skip fun c => .ite .nil ?_
    refine (ht _).bind fun ss => .skip fun _ => (blockBody_reads fuel _).bind fun more => ?_
    exact .gathered (by grind)

theorem block_reads : Reads known (block budget stmt) := by
  unfold block
  refine .skip fun newline => .ite (.skip fun _ => .skip fun _ => ?_) simpleLine_reads
  exact (blockBody_reads ht _ _).bind fun body => .skip fun _ => .gathered (by grind)

theorem optionalElse_reads : Reads known (optionalElse budget stmt) := by
  unfold optionalElse
  exact .skip fun word => .ite (.skip fun _ => block_reads ht) .nil

/-! ### Statements with suites -/

/-- An `elif` is a statement of its own, which starts with that word. -/
theorem ifStatement_reads : ∀ (fuel : Nat) (known : List Piece),
    Reads known (ifStatement budget stmt fuel)
  | 0, _ => by
    unfold ifStatement
    infer_instance
  | fuel + 1, known => by
    unfold ifStatement
    refine expr_reads.bind fun test => .skip fun _ => (block_reads ht).bind fun body => ?_
    have whole {known : List Piece} {orelse : List Stmt} (h : .expr test ∈ known)
        (hb : ∀ u ∈ body, .stmt u ∈ known) (ho : ∀ u ∈ orelse, .stmt u ∈ known) :
        Reads known (pure (Action.if_ test body orelse)) := by
      refine .action (List.forall_mem_nil _) ?_ ?_
      · exact List.forall_mem_singleton.2 h
      · exact List.forall_mem_cons.2 ⟨hb, List.forall_mem_singleton.2 ho⟩
    have other : Reads (pieces body ++ (pieces test ++ known)) (do
        return Action.if_ test body (← optionalElse budget stmt)) :=
      (optionalElse_reads ht).bind fun orelse => whole (by grind) (by grind) (by grind)
    refine ⟨fun n c behind => Yields.ahead_bind (Yields.ite (fun elif => ?_) fun _ => ?_)⟩
    · refine Yields.pos_bind (Yields.advance_bind ?_)
      refine (spanned_behind_token behind (isSolid_of_isKeyword elif)
        (ifStatement_reads fuel _)).bind ?_
      rintro s c₁ ⟨on, behind₁⟩
      have chained : Reads (pieces s ++ (pieces body ++ (pieces test ++ known)))
          (pure (Action.if_ test body [s])) := whole (by grind) (by grind) (by grind)
      refine (chained.reads n c₁ behind₁).imp ?_
      rintro a c' ⟨on', behind'⟩
      refine ⟨((Cursor.Onward.next c).trans on).trans on', behind'.imp fun k hk => ?_⟩
      exact behind'.known k (by grind)
    · exact other.reads n c behind

theorem whileStatement_reads : Reads known (whileStatement budget stmt) := by
  unfold whileStatement
  refine expr_reads.bind fun test => .skip fun _ => (block_reads ht).bind fun body => ?_
  refine (optionalElse_reads ht).bind fun orelse => .action (List.forall_mem_nil _) ?_ ?_
  · grind [Action.exprs]
  · grind [Action.suites]

theorem forStatement_reads : Reads known (forStatement budget stmt) := by
  unfold forStatement
  refine (targetList_reads (exprAt_reads budget)).bind fun target => .skip fun _ => ?_
  refine exprList_reads.bind fun items => .skip fun _ => (block_reads ht).bind fun body => ?_
  refine (optionalElse_reads ht).bind fun orelse => .action (List.forall_mem_nil _) ?_ ?_
  · grind [Action.exprs]
  · grind [Action.suites]

/-- A function is given the place of the word that it is defined with. -/
theorem functionStatement_reads {start : Pos} (h : .place start ∈ known) :
    Reads known (functionStatement budget stmt start) := by
  unfold functionStatement
  refine .skip fun name => .skip fun _ => ?_
  refine (parameters_reads (exprAt_reads budget) _ known (by simp)).bind fun ps => .skip fun _ => ?_
  have whole {known : List Piece} (h : .place start ∈ known) (hps : ∀ k ∈ pieces ps, k ∈ known) :
      Reads known (do
        expect .colon "after function signature"
        let body ← block budget stmt
        return Action.functionDef (.mk name ps.params ps.vararg ps.kwarg body start)) := by
    refine .skip fun _ => (block_reads ht).bind fun body => .action ?_ ?_ ?_
    · exact List.forall_mem_singleton.2 (List.mem_append_right _ h)
    · exact fun e he => List.mem_append_right _ (hps _ (List.mem_map_of_mem he))
    · refine List.forall_mem_singleton.2 fun u hu => List.mem_append_left _ ?_
      rw [pieces_stmts]
      exact List.mem_map_of_mem hu
  dsimp only
  refine .skip fun arrow => .ite (expr_reads.bind fun _ => ?_) ?_
  · exact whole (by grind) (by grind)
  · exact whole (by grind) (by grind)

omit ht in
theorem bases_reads : ∀ (fuel : Nat) (known : List Piece), Reads known (bases budget fuel)
  | 0, _ => by
    unfold bases
    infer_instance
  | fuel + 1, known => by
    unfold bases
    refine .skip fun closed => .ite .nil ?_
    refine expr_reads.bind fun e => .skip fun comma => .ite ?_ (.gathered (by grind))
    exact (bases_reads fuel _).bind fun more => .cons

/-- A class is given the place of the word that it is defined with. -/
theorem classStatement_reads {start : Pos} (h : .place start ∈ known) :
    Reads known (classStatement budget stmt start) := by
  unfold classStatement
  refine .skip fun name => ?_
  have whole {known : List Piece} {bs : List Expr} (h : .place start ∈ known)
      (hbs : ∀ e ∈ bs, .expr e ∈ known) : Reads known (do
        expect .colon "after class name"
        let body ← block budget stmt
        return Action.classDef (.mk name bs body start)) := by
    refine .skip fun _ => (block_reads ht).bind fun body => .action ?_ ?_ ?_
    · exact List.forall_mem_singleton.2 (List.mem_append_right _ h)
    · exact fun e he => List.mem_append_right _ (hbs e he)
    · refine List.forall_mem_singleton.2 fun u hu => List.mem_append_left _ ?_
      rw [pieces_stmts]
      exact List.mem_map_of_mem hu
  dsimp only
  refine .skip fun bracket => .ite ?_ ?_
  · exact (bases_reads _ _).bind fun bs => .skip fun _ => whole (by grind) (by grind)
  · exact whole h (List.forall_mem_nil _)

omit ht in
/-- A token of the text that has been read leaves its place. -/
theorem Reads.behind_token {p : Parse β} [Pieced β] (behind : c.Behind n known)
    (solid : c.token.kind.isSolid = true) (hp : Reads (.place c.token.pos :: known) p) :
    Yields p c.next fun b c' => c.Onward c' ∧ c'.Behind n (pieces b ++ known) := by
  refine (hp.reads n _ (behind.place solid)).imp fun b c' ⟨on, behind'⟩ => ?_
  exact ⟨(Cursor.Onward.next c).trans on, behind'.imp fun k hk => behind'.known k (by grind)⟩

theorem handlers_reads : ∀ (fuel : Nat) (known : List Piece),
    Reads known (handlers budget stmt fuel)
  | 0, _ => by
    unfold handlers
    infer_instance
  | fuel + 1, known => by
    unfold handlers
    have clause {known : List Piece} {start : Pos} {filter : Option Expr}
        {binding : Option String} (h : .place start ∈ known)
        (hf : ∀ k ∈ pieces filter, k ∈ known) : Reads known (do
          expect .colon "after except clause"
          let body ← block budget stmt
          return Handler.mk filter binding body start :: (← handlers budget stmt fuel)) := by
      refine .skip fun _ => (block_reads ht).bind fun body => ?_
      refine (handlers_reads fuel _).bind fun hs => .gathered ?_
      grind [Handler.pos, Handler.filter, Handler.body]
    refine ⟨fun n c behind => Yields.pos_bind (Yields.acceptIf_bind (fun word => ?_) fun _ => ?_)⟩
    · refine Reads.behind_token behind (isSolid_of_isKeyword word) (.ite ?_ .nil)
      dsimp only
      refine .skip fun colon => .ite (clause (.head _) (by simp)) ?_
      refine expr_reads.bind fun filter => .skip fun named => .ite (.skip fun binding => ?_) ?_
      · exact clause (by grind) (by grind)
      · exact clause (by grind) (by grind)
    · exact Reads.nil.reads n c behind

theorem tryStatement_reads : Reads known (tryStatement budget stmt) := by
  unfold tryStatement
  refine .skip fun _ => (block_reads ht).bind fun body => (handlers_reads ht _ _).bind fun hs => ?_
  extract_lets final
  have final_reads {known : List Piece} {orelse : List Stmt} (hb : ∀ u ∈ body, .stmt u ∈ known)
      (hk : ∀ k ∈ pieces hs, k ∈ known) (ho : ∀ u ∈ orelse, .stmt u ∈ known) :
      Reads known (final orelse) := by
    have whole {known : List Piece} {finalbody : List Stmt} (hb : ∀ u ∈ body, .stmt u ∈ known)
        (hk : ∀ k ∈ pieces hs, k ∈ known) (ho : ∀ u ∈ orelse, .stmt u ∈ known)
        (hf : ∀ u ∈ finalbody, .stmt u ∈ known) :
        Reads known (pure (Action.try_ body hs orelse finalbody)) := by
      have handler : ∀ h ∈ hs, ∀ k ∈ pieces h, k ∈ known := fun h hh k hk' =>
        hk k (List.mem_flatMap.2 ⟨h, hh, hk'⟩)
      refine .action ?_ ?_ ?_
      · exact List.forall_mem_map.2 fun h hh => handler h hh _ (by grind)
      · intro e he
        obtain ⟨h, hh, filter⟩ := List.mem_filterMap.1 he
        exact handler h hh _ (by grind)
      · simp only [Action.suites, List.forall_mem_cons, List.forall_mem_map]
        exact ⟨hb, ho, hf, fun h hh u hu => handler h hh _ (by grind)⟩
    refine .skip fun word => ?_
    extract_lets close
    have close_reads {known : List Piece} {finalbody : List Stmt}
        (made : Reads known (pure (Action.try_ body hs orelse finalbody))) :
        Reads known (close finalbody) :=
      .ite (.skip fun _ => made) made
    refine .ite (.skip fun _ => (block_reads ht).bind fun finalbody => close_reads ?_) ?_
    · exact whole (by grind) (by grind) (by grind) (by grind)
    · exact close_reads (whole hb hk ho (List.forall_mem_nil _))
  refine .ite ?_ ?_
  · exact final_reads (by grind) (by grind) (List.forall_mem_nil _)
  · exact (optionalElse_reads ht).bind fun orelse => final_reads (by grind) (by grind) (by grind)

theorem statement_reads : Reads known (statement budget stmt) := ⟨fun n c behind => by
  unfold statement
  dsimp only
  have compound {action : Parse Action} (solid : c.token.kind.isSolid = true)
      (ha : Reads [.place c.token.pos] action) : Yields (do
        advance
        return [← spanned c.token.pos action]) c fun ss c' =>
          c.Onward c' ∧ c'.Behind n (pieces ss ++ known) := by
    refine Yields.advance_bind ((spanned_behind_token behind solid ha).bind ?_)
    exact fun s c' ⟨on, behind'⟩ => .pure ⟨(Cursor.Onward.next c).trans on, by simpa using behind'⟩
  refine Yields.pos_bind (Yields.peek_bind ?_)
  split
  · next h => exact compound (by rw [h]; rfl) (ifStatement_reads ht _ _)
  · next h => exact compound (by rw [h]; rfl) (whileStatement_reads ht)
  · next h => exact compound (by rw [h]; rfl) (forStatement_reads ht)
  · next h => exact compound (by rw [h]; rfl) (functionStatement_reads ht (.head _))
  · next h => exact compound (by rw [h]; rfl) (classStatement_reads ht (.head _))
  · next h => exact compound (by rw [h]; rfl) (tryStatement_reads ht)
  · exact simpleLine_reads.reads n c behind⟩

end

/-! ### Programs -/

theorem stmtAt_reads : ∀ (budget : Nat) (known : List Piece), Reads known (stmtAt budget)
  | 0, _ => inferInstanceAs (Reads _ (Parse.fail _))
  | budget + 1, _ => statement_reads (stmtAt_reads budget)

theorem programBody_reads {budget : Nat} : ∀ (fuel : Nat) (known : List Piece),
    Reads known (programBody budget fuel)
  | 0, _ => inferInstanceAs (Reads _ (Parse.fail _))
  | fuel + 1, known => by
    unfold programBody
    dsimp only
    have lines : Reads known (do
        let ss ← stmtAt budget
        skipNewlines budget
        return ss ++ (← programBody budget fuel)) := by
      refine (stmtAt_reads _ _).bind fun ss => .skip fun _ => (programBody_reads fuel _).bind ?_
      exact fun more => .gathered (by grind)
    exact .skip fun c => .ite .nil (.skip fun indent => .ite (.skip fun _ => lines) lines)

theorem program_reads {budget : Nat} : Reads known (program budget) := by
  unfold program
  exact .skip fun _ => programBody_reads _ _

end Parse

/-- The statements of a program lie on their lines, with all that stands in them. -/
theorem parseProgram_placed {source : String} {p : Program} (h : parseProgram source = .ok p) :
    ∀ s ∈ p, s.Placed := by
  obtain ⟨c, c', fits, -, read⟩ := parseProgram_run h
  have start : c.Behind 0 [] := ⟨⟨_, fits⟩, fun l _ => l.zero_le, nofun⟩
  obtain ⟨-, behind⟩ := Parse.program_reads.reads 0 c start _ _ read
  intro s hs
  exact behind.known (.stmt s) (by grind)

/-! ### Statements that carry what stands in them -/

/-- Whatever stands in a statement lies on its lines. -/
theorem Stmt.Placed.shows {s : Stmt} (h : s.Placed) {e : Expr} (he : s.Shows e) :
    e.Lies s.line s.endLine := by
  induction he with
  | own he =>
    obtain ⟨-, -, exprs, -⟩ := h
    exact exprs _ he
  | operand _ hx ih => exact ih.operands _ hx

/-- All the statements of a program lie on their lines if those of the module do. -/
theorem Enclosed.placed {p : Program} (placed : ∀ s ∈ p, s.Placed) {s : Stmt}
    (h : Enclosed p s) : s.Placed := by
  induction h with
  | main hs => exact placed _ hs
  | suite _ hb hu ih =>
    obtain ⟨-, -, -, suites⟩ := ih
    exact suites _ hb _ hu
  | lambda _ he hu ih => exact ((ih.shows he).body _ hu).1

/-- A part that has a line of its own is on a line of the statement that it belongs to. -/
theorem Stmt.Placed.line {s : Stmt} (h : s.Placed) {n : Phrase} (hn : s.Carries n) {l : Nat}
    (hl : n.line? = some l) : s.line ≤ l ∧ l ≤ s.endLine := by
  obtain ⟨le, places, -, -⟩ := id h
  cases hn with
  | self =>
    cases hl
    exact ⟨le_rfl, le⟩
  | @clause k hk =>
    cases hl
    refine places _ ?_
    cases eq : s.action with
    | try_ body handlers orelse finalbody =>
      rw [eq] at hk
      exact List.mem_map_of_mem hk
    | _ =>
      rw [eq] at hk
      exact absurd hk List.not_mem_nil
  | function eq =>
    cases hl
    exact places _ (by simp [eq, Action.places])
  | cls eq =>
    cases hl
    exact places _ (by simp [eq, Action.places])
  | lambda he =>
    cases hl
    exact (h.shows he).line
  | expr => cases hl

end Stepwise.Script

/-! ### Lines of events -/

namespace Stepwise

open Script

variable {σ : Type}

/-- Whether a part of a program, or of an expression that an observer asks for, is on a line of the
statement that it belongs to, if it has a line. Nothing is said of what is read from other texts: the
expressions of the observer and the fields of f-strings. -/
def Sited (observe : Observer σ) (p : Program) (n : Phrase) : Prop :=
  (∃ moment m e, (observe moment m).Asks e ∧ n ∈ e.parts) ∨ InField p n ∨
    ∃ s, Enclosed p s ∧ s.Carries n ∧ ∀ l, n.line? = some l → s.line ≤ l ∧ l ≤ s.endLine

/-- The parts of a program that is read from a text are on lines of their statements. -/
theorem blockParts_sited (observe : Observer σ) {source : String} {p : Program}
    (read : parseProgram source = .ok p) : Every (Sited observe p) (blockParts p) := by
  intro n hn
  rcases blockParts_located hn with field | ⟨s, hs, carried⟩
  · exact .inr (.inl field)
  · have placed := hs.placed (parseProgram_placed read)
    exact .inr (.inr ⟨s, hs, carried, fun l hl => placed.line carried hl⟩)

/-- Whatever the observer asks, an event that was reported stays reported. -/
theorem keeps_reported (observe : Observer σ) (p : Program) :
    Keeps observe (p = []) (Sited observe p) fun _ history =>
      ∀ e ∈ history, Reported (p = []) (Sited observe p) e where
  keeps {moment m f fs h} _ reported history before := by
    have asked : (observe moment m).Within (fun e => Every (Sited observe p) e.parts)
        fun _ => True :=
      Inquiry.within_of_asks fun e he n hn => .inl ⟨moment, m, e, he, hn⟩
    refine asked.mono (fun _ he => he) fun _ _ => ?_
    rw [history]
    exact List.forall_mem_cons.2 ⟨reported, before⟩

/-- A lambda is on a line of the innermost statement that it stands in, and so is what it runs. The
events of a run are well nested, and each but for the call of the module is on a line of a part of
the program, on a line of the statement that the part belongs to. -/
theorem lambda_sited (observe : Observer σ) {source : String} {p : Program}
    (read : parseProgram source = .ok p) (fuel : Nat) {m : Machine σ}
    (fresh : m.Fresh (Sited observe p)) :
    (∀ s, Enclosed p s → ∀ fn, s.Shows (.lambda fn) →
      s.line ≤ fn.pos.line ∧ fn.pos.line ≤ s.endLine ∧
        ∀ u ∈ fn.body, u.line = fn.pos.line ∧ u.endLine ≤ s.endLine) ∧
    Leaves (fun m' => WellNested (Sited observe p) m'.history.reverse ∧
        ∀ e ∈ m'.history, Reported (p = []) (Sited observe p) e)
      (runProgram (watched observe fuel) p m) := by
  constructor
  · intro s hs fn shown
    have lies := (hs.placed (parseProgram_placed read)).shows shown
    refine ⟨lies.line.1, lies.line.2, fun u hu => ?_⟩
    obtain ⟨-, pos, ends⟩ := lies.body u hu
    exact ⟨congrArg Pos.line pos, ends⟩
  · exact runProgram_watching (keeps_reported observe p) (blockParts_sited observe read) fuel fresh
      nofun

/-- A lambda in an argument, below the line that its statement starts on. -/
theorem lambda_sited_argument :
    let source := "f(\n  lambda a:\\\n a)"
    let fn : FunctionDef := .mk "<lambda>" [.mk "a" none] none none
      [.mk (.return_ (some (.name "a"))) ⟨2, 3⟩ 3] ⟨2, 3⟩
    let s : Stmt := .mk (.expr (.call (.name "f") [.positional (.lambda fn)])) ⟨1, 1⟩ 3
    parseProgram source = .ok [s] ∧ s.line ≤ fn.pos.line ∧ fn.pos.line ≤ s.endLine := by
  intro source fn s
  have read : parseProgram source = .ok [s] := by cbv
  have shown : s.Shows (.lambda fn) :=
    .operand (.own (e := .call (.name "f") [.positional (.lambda fn)]) (.head _)) (.tail _ (.head _))
  have sited := (lambda_sited (fun _ m => .note m.log) read ample (Machine.start_fresh ())).1
    s (.main (.head _)) fn shown
  exact ⟨read, sited.1, sited.2.1⟩

end Stepwise
