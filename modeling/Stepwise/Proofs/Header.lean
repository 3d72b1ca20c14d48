import Stepwise.Proofs.Report
import Stepwise.Proofs.Span
import Stepwise.Proofs.Turns

/-!
# Headers of loops

A loop reports its header once for each evaluation of it: a `while` for each evaluation of its
condition, a `for` for each item that it fetches and once more when there is none left
(`header_reports`). The first report could be taken for a repetition of the line reported last, and
statements of the body on the line of the header could report it as well. Neither happens, since the
statements of a program go down its text.

## The model

What is said is said of every execution of a loop in a frame that runs a suite of the program.
`Comes` follows the control through the frame: into the suites of statements, however often, and on
to the next statement. Wherever the control comes, the line that was reported last is not below what
is about to run (`Machine.Ready`).
-/

namespace Stepwise.Script

/-! ### Where own lines are -/

theorem mem_blockLines {l : Nat} : ∀ {ss : List Stmt}, l ∈ blockLines ss ↔ ∃ u ∈ ss, l ∈ u.ownLines
  | [] => by simp [blockLines]
  | s :: ss => by simp [blockLines, mem_blockLines]

theorem mem_handlerLines {l : Nat} : ∀ {hs : List Handler},
    l ∈ handlerLines hs ↔ ∃ h ∈ hs, l = h.pos.line ∨ l ∈ blockLines h.body
  | [] => by simp [handlerLines]
  | .mk filter binding body pos :: hs => by
    simp [handlerLines, mem_handlerLines, Handler.pos, Handler.body, or_assoc]

/-- A line inside a statement that its frame reports is one of a clause or in a suite. -/
theorem Action.mem_of_ownLines {a : Action} {l : Nat} (h : l ∈ a.ownLines) :
    l ∈ a.clauseLines ∨ ∃ body ∈ a.suites, l ∈ blockLines body := by
  cases a with
  | if_ | while_ | for_ =>
    simp only [Action.ownLines, List.mem_append] at h
    simpa [Action.suites, Action.clauseLines] using h
  | try_ body handlers orelse finalbody =>
    simp only [Action.ownLines, List.mem_append, mem_handlerLines] at h
    simp only [Action.suites, Action.clauseLines, List.mem_cons, List.mem_map, exists_eq_or_imp]
    obtain ((h | ⟨k, hk, rfl | h⟩) | h) | h := h
    · exact .inr (.inl h)
    · exact .inl ⟨k, hk, rfl⟩
    · exact .inr (.inr (.inr (.inr ⟨k.body, ⟨k, hk, rfl⟩, h⟩)))
    · exact .inr (.inr (.inl h))
    · exact .inr (.inr (.inr (.inl h)))
  | _ => simp [Action.ownLines] at h

/-- The lines that a statement reports are within its span. -/
theorem Stmt.Nests.ownLines {s : Stmt} (h : s.Nests) :
    ∀ l ∈ s.ownLines, s.line ≤ l ∧ l ≤ s.endLine := by
  induction h with
  | @mk s spans _ _ _ ih =>
    intro l hl
    cases s with | mk a pos stop =>
    rw [Stmt.ownLines] at hl
    rcases List.mem_cons.1 hl with rfl | hl
    · exact ⟨le_rfl, spans.line_le⟩
    rcases a.mem_of_ownLines hl with clause | ⟨body, hb, hl⟩
    · exact spans.clauses l clause
    · obtain ⟨u, hu, hl⟩ := mem_blockLines.1 hl
      have inner := ih body hb u hu l hl
      have outer := spans.suites body hb u hu
      exact ⟨outer.1.trans inner.1, inner.2.trans outer.2⟩

/-- Whether the statements of a suite, and all that stand in them, go down the text. -/
structure Laid (ss : List Stmt) : Prop where
  ordered : ss.Pairwise Stmt.Precedes
  nests : ∀ s ∈ ss, s.Nests

namespace Laid

variable {s : Stmt} {ss : List Stmt} {n : Nat}

theorem tail (h : Laid (s :: ss)) : Laid ss :=
  ⟨(List.pairwise_cons.1 h.ordered).2, (List.forall_mem_cons.1 h.nests).2⟩

/-- The statements behind one stand behind each line that it reports. -/
theorem behind (h : Laid (s :: ss)) (hn : n ∈ s.ownLines) : Behind n ss := by
  intro u hu
  have le := ((h.nests s List.mem_cons_self).ownLines n hn).2
  have before := (List.pairwise_cons.1 h.ordered).1 u hu
  exact ⟨le.trans before.1, fun compound => le.trans_lt (before.2 (.inr compound))⟩

/-- If the first statement is below a line, then all are. -/
theorem below (h : Laid (s :: ss)) (lt : n < s.line) : ∀ l ∈ blockLines (s :: ss), n < l := by
  intro l hl
  obtain ⟨u, hu, hl⟩ := mem_blockLines.1 hl
  have le := ((h.nests u hu).ownLines l hl).1
  rcases List.mem_cons.1 hu with rfl | hu
  · exact lt.trans_le le
  · have spans := ((h.nests s List.mem_cons_self).ownLines s.line ?_).2
    · exact lt.trans_le ((spans.trans ((List.pairwise_cons.1 h.ordered).1 u hu).1).trans le)
    · cases s
      exact List.mem_cons_self

/-- Lines that are below the ends of all statements are below what these report. -/
theorem before (h : Laid ss) (lt : ∀ s ∈ ss, s.endLine < n) : ∀ l ∈ blockLines ss, l < n := by
  intro l hl
  obtain ⟨s, hs, hl⟩ := mem_blockLines.1 hl
  exact ((h.nests s hs).ownLines l hl).2.trans_lt (lt s hs)

end Laid

theorem Stmt.Nests.laid {s : Stmt} (h : s.Nests) {body : List Stmt} (hb : body ∈ s.action.suites) :
    Laid body := by
  obtain ⟨-, -, ordered, nests⟩ := h
  exact ⟨ordered body hb, nests body hb⟩

theorem Stmt.Nests.descends {s : Stmt} (h : s.Nests) : s.action.Descends s.line := by
  obtain ⟨-, descends, -, -⟩ := h
  exact descends

section

variable {body orelse finalbody : List Stmt} {handlers : List Handler} {pos : Pos} {stop l : Nat}

theorem Handler.body_mem_suites {h : Handler} (hh : h ∈ handlers) :
    h.body ∈ (Action.try_ body handlers orelse finalbody).suites := by
  simp only [Action.suites, List.mem_cons, List.mem_map]
  exact .inr (.inr (.inr ⟨h, hh, rfl⟩))

/-- What is reported in the body of a `try` is above its part `else`. -/
theorem Stmt.Nests.above_else
    (h : (Stmt.mk (.try_ body handlers orelse finalbody) pos stop).Nests)
    (hl : l ∈ blockLines body) : ∀ u ∈ orelse, l < u.line := fun u hu =>
  (h.laid List.mem_cons_self).before
    (fun s hs => h.descends.inTurn.1 s hs u (List.mem_append_left _ hu)) l hl

/-- What is reported in the other parts of a `try` is above its part `finally`. -/
theorem Stmt.Nests.above_finally
    (h : (Stmt.mk (.try_ body handlers orelse finalbody) pos stop).Nests)
    (hl : l ∈ blockLines body ∨ l ∈ handlerLines handlers ∨ l ∈ blockLines orelse) :
    ∀ u ∈ finalbody, l < u.line := by
  intro u hu
  obtain ⟨ofBody, ofElse, ofHandlers⟩ := h.descends.inTurn
  rcases hl with hl | hl | hl
  · have laid : Laid body := h.laid List.mem_cons_self
    exact laid.before (fun s hs => ofBody s hs u (List.mem_append_right _ hu)) l hl
  · obtain ⟨k, hk, rfl | hl⟩ := mem_handlerLines.1 hl
    · exact ((ofHandlers k hk).2 u hu).1
    · have laid : Laid k.body := h.laid (Handler.body_mem_suites hk)
      exact laid.before (fun s hs => ((ofHandlers k hk).2 u hu).2 s hs) l hl
  · have laid : Laid orelse := h.laid (List.mem_cons_of_mem _ List.mem_cons_self)
    exact laid.before (fun s hs => ofElse s hs u hu) l hl

end

/-- The suites of a program that is read from a text go down the text. -/
theorem Suite.laid {source : String} {p : Program} (read : parseProgram source = .ok p)
    {ss : List Stmt} (h : Suite p ss) : Laid ss := by
  obtain ⟨c, c', -, laid, -⟩ := parseProgram_lays read
  obtain ⟨ordered, nests⟩ := h.nests laid.holds.ordered laid.holds.nests
  exact ⟨ordered, nests⟩

/-- Whether an action is that of a loop. -/
def Action.isLoop : Action → Bool
  | .while_ _ _ _ | .for_ _ _ _ _ => true
  | _ => false

theorem Action.isCompound_of_isLoop {a : Action} (h : a.isLoop = true) : a.isCompound = true := by
  cases a with
  | while_ | for_ => rfl
  | _ => cases h

end Stepwise.Script

namespace Stepwise

open Script Coupling

variable {σ α β : Type}

/-! ### Coming to statements -/

/-- An error is offered to handlers, and one of them takes it: its body begins. -/
inductive Catches (r : Runner σ) (e : RuntimeError) :
    List Handler → Machine σ → Handler → Machine σ → Prop
  | here {h hs m m₁ m₂ m₃} (reached : reachHandler r h m = .ok () m₁)
    (taken : matchesFilter r e h.filter m₁ = .ok true m₂) (bound : bindError h e m₂ = .ok () m₃) :
    Catches r e (h :: hs) m h { m₃ with handled := e :: m₃.handled }
  | later {h hs m m₁ m₂ h' m'} (reached : reachHandler r h m = .ok () m₁)
    (declined : matchesFilter r e h.filter m₁ = .ok false m₂)
    (rest : Catches r e hs m₂ h' m') : Catches r e (h :: hs) m h' m'

/-- The suites of a statement that begin in its run, and in which machine, once it has come to its
line. -/
inductive Starts (r : Runner σ) (pos : Pos) : Action → Machine σ → List Stmt → Machine σ → Prop
  | ifBody {e body orelse m m'} (true_ : test r e m = .ok true m') :
    Starts r pos (.if_ e body orelse) m body m'
  | ifElse {e body orelse m m'} (false_ : test r e m = .ok false m') :
    Starts r pos (.if_ e body orelse) m orelse m'
  | whileBody {e body orelse m k m₁ m'}
    (turns : Turns (fun _ => whileTurn r e body orelse pos) k () m () m₁)
    (true_ : test r e m₁ = .ok true m') : Starts r pos (.while_ e body orelse) m body m'
  | whileElse {e body orelse m k m₁ m'}
    (turns : Turns (fun _ => whileTurn r e body orelse pos) k () m () m₁)
    (false_ : test r e m₁ = .ok false m') : Starts r pos (.while_ e body orelse) m orelse m'
  | forBody {target items body orelse m supply m₁ k s m₂ v next m'}
    (supplied : forSupply r items m = .ok supply m₁)
    (turns : Turns (forTurn r target body orelse pos) k supply m₁ s m₂)
    (fetched : nextItem? m₂.heap s = some (v, next)) (assigned : r.assign target v m₂ = .ok () m') :
    Starts r pos (.for_ target items body orelse) m body m'
  | forElse {target items body orelse m supply m₁ k s m'}
    (supplied : forSupply r items m = .ok supply m₁)
    (turns : Turns (forTurn r target body orelse pos) k supply m₁ s m')
    (exhausted : nextItem? m'.heap s = none) :
    Starts r pos (.for_ target items body orelse) m orelse m'
  | tryBody {body handlers orelse finalbody m} :
    Starts r pos (.try_ body handlers orelse finalbody) m body m
  | handler {body handlers orelse finalbody m e m₁ h m'}
    (failed : r.block body m = .error (.error e) m₁) (takes : Catches r e handlers m₁ h m') :
    Starts r pos (.try_ body handlers orelse finalbody) m h.body m'
  | tryElse {body handlers orelse finalbody m m'} (done : r.block body m = .ok .normal m') :
    Starts r pos (.try_ body handlers orelse finalbody) m orelse m'
  | finally_ {body handlers orelse finalbody m out m'}
    (guarded : Gives (execGuarded r body handlers orelse) m out m') :
    Starts r pos (.try_ body handlers orelse finalbody) m finalbody m'

/-- The statements that the control comes to in a frame, and in which machine, while a suite is run
with tasks at most `n` levels deep; the tasks of such a statement are at most `k` levels deep. -/
inductive Comes (observe : Observer σ) :
    (n : Nat) → List Stmt → Machine σ → (k : Nat) → Stmt → Machine σ → Prop
  /-- The first statement. -/
  | first {n s ss m} : Comes observe (n + 1) (s :: ss) m n s m
  /-- A statement behind one that has ended normally. -/
  | later {n s ss m m₁ k t m'} (done : (watched observe n).run (.exec s) m = .ok .normal m₁)
    (rest : Comes observe n ss m₁ k t m') : Comes observe n (s :: ss) m k t m'
  /-- A statement in a suite of the first one. -/
  | inside {n s ss m m₁ body m₂ k t m'} (arrived : arrive (watched observe n) s m = .ok () m₁)
    (starts : Starts (watched observe n) s.pos s.action m₁ body m₂)
    (inner : Comes observe n body m₂ k t m') : Comes observe (n + 1) (s :: ss) m k t m'

/-! ### What the parts of a statement report -/

/-- Whether a line is the one that the innermost frame has reported last. -/
structure Machine.At (m : Machine σ) (line : Nat) : Prop where
  isOpen : m.stack ≠ []
  reported : m.reported? = some line

section

variable {observe : Observer σ} {n : Nat} {m m' : Machine σ} {line : Nat} {ls : List Nat}

theorem Scene.Advances.isOpen (h : m.Advances ls m') (isOpen : m.stack ≠ []) : m'.stack ≠ [] := by
  intro none
  have := h.length
  simp [Machine.scene, none] at this
  exact isOpen (List.length_eq_zero_iff.1 this.symm)

theorem Machine.At.silent (h : m.At line) (silent : m.Advances [] m') : m'.At line :=
  ⟨silent.isOpen h.isOpen, silent.reported_of_nil.trans h.reported⟩

theorem Gives.marks {pos : Pos} {force : Bool} {condition : Option Expr}
    {out : Except RuntimeError Unit} (isOpen : m.stack ≠ [])
    (gives : Gives (do goTo pos; markLine (watched observe n) line force condition) m out m') :
    out = .ok () ∧ m.Advances (if force = false ∧ m.reported? = some line then [] else [line]) m' ∧
      m'.At line := by
  have gives : Gives (markLine (watched observe n) line force condition) { m with pos } out m' :=
    gives
  obtain ⟨⟨⟩, ok, advances⟩ :=
    gives.of_settles (markLine_advances observe n (m := { m with pos }) isOpen)
  have advances : m.Advances _ m' := advances
  refine ⟨ok, advances, advances.isOpen isOpen, ?_⟩
  have reported := advances.reported
  split at reported
  · next same => exact reported.trans same.2
  · exact reported

theorem test_silent {e : Expr} {out : Except RuntimeError Bool}
    (gives : Gives (test (watched observe n) e) m out m') : m.Advances [] m' := by
  have hr := runner_covered observe n
  exact silent_of_gives gives fun _ => (hr.eval (every_of (fun _ => trivial) _)).bind
    fun _ _ _ _ hv => truthy_sim hr hv

theorem assign_silent {target : Expr} {v : Value} {out : Except RuntimeError Unit}
    (gives : Gives ((watched observe n).assign target v) m out m') : m.Advances [] m' :=
  silent_of_gives gives fun _ => (runner_covered observe n).assign trivial
    (every_of (fun _ => trivial) _) (fun _ _ => trivial) (Diagonal.refl v)

theorem forSupply_silent {items : Expr} {out : Except RuntimeError Supply}
    (gives : Gives (forSupply (watched observe n) items) m out m') : m.Advances [] m' := by
  have hr := runner_covered observe n
  exact silent_of_gives gives fun _ => (hr.eval (every_of (fun _ => trivial) _)).bind
    fun _ _ _ _ hv => supplyOf_sim hr hv

/-- A statement without suites reports nothing but its own line. -/
theorem action_silent {a : Action} {pos : Pos} {out : Except RuntimeError Flow}
    (simple : a.isCompound = false)
    (gives : Gives (execAction (watched observe n) a pos) m out m') : m.Advances [] m' := by
  have hr := runner_covered observe n
  have known {ps : List Phrase} : Every (fun _ => True) ps := every_of (fun _ => trivial) ps
  refine silent_of_gives (A := FlowRel) gives fun c => ?_
  have rest := (execSimple_sim (c := c) (w := World.diagonal fun _ => True) (s := a) hr pos trivial
    known).bind (B := FlowRel) fun _ _ _ _ _ => .pure .normal
  cases a with
  | if_ | while_ | for_ | try_ | functionDef | classDef => cases simple
  | break_ => exact .pure .break_
  | continue_ => exact .pure .continue_
  | return_ value => exact execReturn_sim hr known
  | raise e => exact execRaise_sim hr known
  | _ => exact rest

theorem block_reports {ss : List Stmt} {out : Except RuntimeError Flow}
    (gives : Gives ((watched observe n).block ss) m out m') :
    ∃ ls, (∀ l ∈ ls, l ∈ blockLines ss) ∧ m.Advances ls m' :=
  reports_of_gives gives fun _ lines =>
    block_sim (runner_covered observe n) trivial (every_of (fun _ => trivial) _) lines

theorem exec_reports {s : Stmt} {out : Except RuntimeError Flow}
    (gives : Gives ((watched observe n).run (.exec s)) m out m') :
    ∃ ls, (∀ l ∈ ls, l ∈ s.ownLines) ∧ m.Advances ls m' :=
  reports_of_gives gives fun _ lines =>
    (runner_covered observe n).exec trivial (every_of (fun _ => trivial) _) lines

theorem guarded_reports {body orelse : List Stmt} {handlers : List Handler}
    {out : Except RuntimeError Flow}
    (gives : Gives (execGuarded (watched observe n) body handlers orelse) m out m') :
    ∃ ls, (∀ l ∈ ls, l ∈ blockLines body ∨ l ∈ handlerLines handlers ∨ l ∈ blockLines orelse) ∧
      m.Advances ls m' :=
  reports_of_gives gives fun _ lines => execGuarded_sim (runner_covered observe n) trivial
    (every_of (fun _ => trivial) _) (every_of (fun _ => trivial) _) (every_of (fun _ => trivial) _)
    (fun l hl => lines l (.inl hl)) (fun l hl => lines l (.inr (.inl hl)))
    fun l hl => lines l (.inr (.inr hl))

/-- A statement first comes to its line, and reports it unless it was reported last. -/
theorem execStmt_gives {s : Stmt} {out : Except RuntimeError Flow} (isOpen : m.stack ≠ [])
    (gives : Gives (execStmt (watched observe n) s) m out m') :
    ∃ m₁, arrive (watched observe n) s m = .ok () m₁ ∧
      m.Advances (if m.reported? = some s.line then [] else [s.line]) m₁ ∧ m₁.At s.line ∧
      Gives (execAction (watched observe n) s.action s.pos) m₁ out m' := by
  rw [execStmt_eq] at gives
  obtain ⟨⟨⟩, m₁, arrived, acted⟩ | ⟨e, arrived, -⟩ := Gives.bind_iff.1 gives
  · obtain ⟨-, advances, at_⟩ := Gives.marks isOpen arrived
    simp only [true_and] at advances
    exact ⟨m₁, Gives.ok_iff.1 arrived, advances, at_, acted⟩
  · cases (Gives.marks isOpen arrived).1

/-! ### Turns report the header once -/

/-- A suite behind the line that was reported last does not report it again. -/
theorem block_spares : ∀ {body : List Stmt} {m : Machine σ} {out : Except RuntimeError Flow},
    Laid body → Behind line body → m.At line → Gives ((watched observe n).block body) m out m' →
    ∃ ls, line ∉ ls ∧ m.Advances ls m'
  | [], m, out, _, _, _, gives => by
    obtain ⟨-, rfl⟩ := Gives.pure_iff.1 gives
    exact ⟨[], by simp, .refl _⟩
  | s :: ss, m, out, laid, behind, at_, gives => by
    obtain ⟨here, rest⟩ := List.forall_mem_cons.1 behind
    by_cases on : s.line = line
    · -- the statement shares the line, so it has no suites and its line is taken for reported
      have simple : s.action.isCompound = false := by
        by_contra compound
        exact absurd on (here.2 (by simpa using compound)).ne'
      have silent {out : Except RuntimeError Flow} {m₁ : Machine σ}
          (ran : Gives ((watched observe n).run (.exec s)) m out m₁) : m.Advances [] m₁ := by
        cases n with
        | zero => cases ran
        | succ n =>
          obtain ⟨m₀, -, arrived, -, acted⟩ := execStmt_gives at_.isOpen ran
          rw [if_pos (on ▸ at_.reported)] at arrived
          exact arrived.trans (action_silent simple acted)
      rw [Runner.block] at gives
      obtain ⟨flow, m₁, ran, gives⟩ | ⟨e, failed, -⟩ := Gives.bind_iff.1 gives
      · cases flow with
        | normal =>
          obtain ⟨ls, spared, advances⟩ :=
            block_spares laid.tail rest (at_.silent (silent ran)) gives
          exact ⟨ls, spared, by simpa using (silent ran).trans advances⟩
        | break_ | continue_ | return_ =>
          obtain ⟨-, rfl⟩ := Gives.pure_iff.1 gives
          exact ⟨[], by simp, silent ran⟩
      · exact ⟨[], by simp, silent failed⟩
    · -- all of the suite is below the line
      have below := laid.below (lt_of_le_of_ne here.1 (Ne.symm on))
      obtain ⟨ls, within, advances⟩ := block_reports gives
      exact ⟨ls, fun hl => (below _ (within _ hl)).ne rfl, advances⟩

/-- What a turn of a loop reports whose header is on a given line. -/
inductive TurnReports (line : Nat) (m : Machine σ) :
    Except RuntimeError (Flow ⊕ α) → Machine σ → Prop
  /-- The header is reported where the next turn begins. -/
  | goesOn {b ls m'} (once : ls.count line = 1) (at_ : m'.At line) (advances : m.Advances ls m') :
    TurnReports line m (.ok (.inr b)) m'
  | ends {out ls m'} (ended : ∀ b, out ≠ .ok (.inr b)) (spared : line ∉ ls)
    (advances : m.Advances ls m') : TurnReports line m out m'

theorem TurnReports.after {m₁ : Machine σ} {out : Except RuntimeError (Flow ⊕ α)}
    (silent : m.Advances [] m₁) (h : TurnReports line m₁ out m') : TurnReports line m out m' := by
  cases h with
  | goesOn once at_ advances => exact .goesOn once at_ (by simpa using silent.trans advances)
  | ends ended spared advances => exact .ends ended spared (by simpa using silent.trans advances)

section

variable {body orelse : List Stmt} {pos : Pos}

theorem pass_reports {next : α} {out : Except RuntimeError (Flow ⊕ α)}
    (suite : Laid body ∧ Behind pos.line body) (at_ : m.At pos.line)
    (gives : Gives (pass (watched observe n) body pos next) m out m') :
    TurnReports pos.line m out m' := by
  obtain ⟨laid, behind⟩ := suite
  obtain ⟨flow, m₁, ran, gives⟩ | ⟨e, failed, rfl⟩ := Gives.bind_iff.1 gives
  · obtain ⟨ls, spared, advances⟩ := block_spares laid behind at_ ran
    have again (gives : Gives (do revisit (watched observe n) pos; return .inr next) m₁ out m') :
        TurnReports pos.line m out m' := by
      have isOpen := advances.isOpen at_.isOpen
      obtain ⟨⟨⟩, m₂, came, gives⟩ | ⟨e, failed, -⟩ := Gives.bind_iff.1 gives
      · obtain ⟨rfl, rfl⟩ := Gives.pure_iff.1 gives
        obtain ⟨-, revisited, at_⟩ := Gives.marks isOpen came
        refine .goesOn ?_ at_ (advances.trans revisited)
        simp [List.count_eq_zero_of_not_mem spared]
      · cases (Gives.marks isOpen failed).1
    cases flow with
    | normal | continue_ => exact again gives
    | break_ | return_ =>
      obtain ⟨rfl, rfl⟩ := Gives.pure_iff.1 gives
      exact .ends (by simp) spared advances
  · obtain ⟨ls, spared, advances⟩ := block_spares laid behind at_ failed
    exact .ends (by simp) spared advances

/-- A turn that does not enter the body ends with the part `else`. -/
theorem orelse_reports {out : Except RuntimeError (Flow ⊕ α)}
    (suite : Laid orelse ∧ Behind line orelse) (at_ : m.At line)
    (gives : Gives (do return .inl (← (watched observe n).block orelse)) m out m') :
    TurnReports line m out m' := by
  obtain ⟨flow, m₁, ran, gives⟩ | ⟨e, ran, rfl⟩ := Gives.bind_iff.1 gives
  all_goals obtain ⟨ls, spared, advances⟩ := block_spares suite.1 suite.2 at_ ran
  · obtain ⟨rfl, rfl⟩ := Gives.pure_iff.1 gives
    exact .ends (by simp) spared advances
  · exact .ends (by simp) spared advances

theorem whileTurn_reports {e : Expr} {out : Except RuntimeError (Flow ⊕ Unit)}
    (suite : ∀ ss ∈ [body, orelse], Laid ss ∧ Behind pos.line ss) (at_ : m.At pos.line)
    (gives : Gives (whileTurn (watched observe n) e body orelse pos) m out m') :
    TurnReports pos.line m out m' := by
  obtain ⟨b, m₁, tested, gives⟩ | ⟨e, failed, rfl⟩ := Gives.bind_iff.1 gives
  · have silent := test_silent tested
    refine .after silent ?_
    cases b with
    | true => exact pass_reports (suite _ List.mem_cons_self) (at_.silent silent) gives
    | false =>
      exact orelse_reports (suite _ (List.mem_cons_of_mem _ List.mem_cons_self))
        (at_.silent silent) gives
  · exact .ends (by simp) (by simp) (test_silent failed)

theorem forTurn_reports {target : Expr} {s : Supply} {out : Except RuntimeError (Flow ⊕ Supply)}
    (suite : ∀ ss ∈ [body, orelse], Laid ss ∧ Behind pos.line ss) (at_ : m.At pos.line)
    (gives : Gives (forTurn (watched observe n) target body orelse pos s) m out m') :
    TurnReports pos.line m out m' := by
  cases fetched : nextItem? m.heap s with
  | none =>
    rw [Gives, attempt, forTurn_none _ fetched] at gives
    exact orelse_reports (suite _ (List.mem_cons_of_mem _ List.mem_cons_self)) at_ gives
  | some next =>
    rw [Gives, attempt, forTurn_some _ fetched] at gives
    obtain ⟨⟨⟩, m₁, assigned, gives⟩ | ⟨e, failed, rfl⟩ := Gives.bind_iff.1 gives
    · have silent := assign_silent assigned
      exact .after silent (pass_reports (suite _ List.mem_cons_self) (at_.silent silent) gives)
    · exact .ends (by simp) (by simp) (assign_silent failed)

end

/-- A loop whose turns report the header where the next one begins reports it once for each turn,
the first one apart. -/
theorem loop_reports {turn : α → M σ (Flow ⊕ α)}
    (each : ∀ a m out m', m.At line → Gives (turn a) m out m' → TurnReports line m out m') :
    ∀ {fuel : Nat} {a : α} {m : Machine σ} {out : Except RuntimeError Flow}, m.At line →
      Gives (loop turn fuel a) m out m' →
      ∃ ls, ls.count line + 1 = turnsBegun turn fuel a m ∧ m.Advances ls m'
  | 0, _, _, _, _, gives => by cases gives
  | fuel + 1, a, m, out, at_, gives => by
    rw [loop] at gives
    obtain ⟨step, m₁, turned, gives⟩ | ⟨e, failed, -⟩ := Gives.bind_iff.1 gives
    · have reports := each _ _ _ _ at_ turned
      have turned := Gives.ok_iff.1 turned
      cases step with
      | inl flow =>
        obtain ⟨-, rfl⟩ := Gives.pure_iff.1 gives
        cases reports with
        | ends _ spared advances =>
          exact ⟨_, by simp [turnsBegun, turned, List.count_eq_zero_of_not_mem spared], advances⟩
      | inr b =>
        cases reports with
        | ends ended => exact absurd rfl (ended b)
        | goesOn once at_ advances =>
          obtain ⟨ls, count, further⟩ := loop_reports each at_ gives
          refine ⟨_, ?_, advances.trans further⟩
          simp only [turnsBegun, turned, List.count_append, once]
          omega
    · have reports := each _ _ _ _ at_ failed
      have failed := Gives.error_iff.1 failed
      cases reports with
      | ends _ spared advances =>
        exact ⟨_, by simp [turnsBegun, failed, List.count_eq_zero_of_not_mem spared], advances⟩

/-- A loop that has just come to its line reports it once for each evaluation of the header, the
first one apart. -/
theorem action_counts {a : Action} {pos : Pos} {out : Except RuntimeError Flow}
    (isLoop : a.isLoop = true) (suite : ∀ body ∈ a.suites, Laid body ∧ Behind pos.line body)
    (at_ : m.At pos.line) (gives : Gives (execAction (watched observe n) a pos) m out m') :
    ∃ ls, ls.count pos.line + 1 = loopEvaluations (watched observe n) pos m a ∧
      m.Advances ls m' := by
  cases a with
  | while_ e body orelse =>
    change Gives (whileLoop (watched observe n) e body orelse pos n) m out m' at gives
    rw [whileLoop_eq] at gives
    exact loop_reports (fun _ _ _ _ => whileTurn_reports suite) at_ gives
  | for_ target items body orelse =>
    change Gives (execFor (watched observe n) target items body orelse pos) m out m' at gives
    rw [execFor_eq] at gives
    rw [loopEvaluations]
    obtain ⟨supply, m₁, supplied, gives⟩ | ⟨e, failed, -⟩ := Gives.bind_iff.1 gives
    · have silent := forSupply_silent supplied
      obtain ⟨ls, count, advances⟩ :=
        loop_reports (fun _ _ _ _ => forTurn_reports suite) (at_.silent silent) gives
      rw [Gives.ok_iff.1 supplied]
      dsimp only
      rw [length_fetches]
      exact ⟨ls, count, by simpa using silent.trans advances⟩
    · rw [Gives.error_iff.1 failed]
      exact ⟨[], rfl, forSupply_silent failed⟩
  | _ => cases isLoop

/-- A loop whose header was not the line reported last reports it once for each evaluation. -/
theorem execStmt_counts {s : Stmt} {out : Except RuntimeError Flow}
    (isLoop : s.action.isLoop = true) (nests : s.Nests) (isOpen : m.stack ≠ [])
    (fresh : m.reported? ≠ some s.line)
    (gives : Gives (execStmt (watched observe n) s) m out m') :
    ∃ ls, ls.count s.line = headerEvaluations (watched observe n) s m ∧ m.Advances ls m' := by
  obtain ⟨m₁, arrived, advances, at_, acted⟩ := execStmt_gives isOpen gives
  rw [if_neg fresh] at advances
  obtain ⟨ls, count, further⟩ := action_counts isLoop
    (fun body hb => ⟨nests.laid hb, nests.descends.suites body hb⟩) at_ acted
  refine ⟨ls ++ [s.line], ?_, advances.trans further⟩
  rw [headerEvaluations_eq _ arrived, ← count, List.count_append, List.count_singleton_self]
  rfl

/-! ### Bodies that go on -/

/-- A loop that comes back to its header goes on. -/
theorem revisit_gives {pos : Pos} {next : α} {out : Except RuntimeError (Flow ⊕ α)}
    (gives : Gives (do revisit (watched observe n) pos; return .inr next) m out m') :
    out = .ok (.inr next) := by
  have came {out : Except RuntimeError Unit} {m' : Machine σ}
      (gives : Gives (revisit (watched observe n) pos) m out m') : out = .ok () := by
    by_cases closed : m.stack = []
    · have same : revisit (watched observe n) pos m = .ok () { m with pos } :=
        markLine_closed (m := { m with pos }) closed
      rw [Gives, attempt, same] at gives
      cases gives
      rfl
    · exact (Gives.marks closed gives).1
  obtain ⟨⟨⟩, m₁, -, gives⟩ | ⟨e, failed, -⟩ := Gives.bind_iff.1 gives
  · exact (Gives.pure_iff.1 gives).1
  · cases came failed

section

variable {target : Expr} {body orelse : List Stmt} {pos : Pos} {s s₁ : Supply} {v : Value}

/-- A turn with an item comes to where the next one begins, if the body goes on. -/
theorem GoesOn.turn_eq {out : Except RuntimeError (Flow ⊕ Supply)}
    (h : GoesOn (watched observe n) target body orelse pos s m)
    (fetched : nextItem? m.heap s = some (v, s₁))
    (gives : Gives (forTurn (watched observe n) target body orelse pos s) m out m') :
    out = .ok (.inr s₁) := by
  rw [Gives, attempt, forTurn_some _ fetched] at gives
  obtain ⟨⟨⟩, m₁, assigned, gives⟩ | ⟨e, failed, -⟩ := Gives.bind_iff.1 gives
  · obtain ⟨flow, m₂, ran, gives⟩ | ⟨e, failed, -⟩ := Gives.bind_iff.1 gives
    · have flows := h.flows .none fetched (Gives.bind_iff.2 (.inl ⟨_, _, assigned, ran⟩))
      simp only [Except.ok.injEq] at flows
      obtain rfl | rfl := flows <;> exact revisit_gives gives
    · cases h.flows .none fetched (Gives.bind_iff.2 (.inl ⟨_, _, assigned, failed⟩)) <;>
        contradiction
  · cases h.flows .none fetched (Gives.bind_iff.2 (.inr ⟨e, failed, rfl⟩)) <;> contradiction

/-- A loop whose body goes on fetches items until there is nothing left. -/
theorem GoesOn.exhausts : ∀ {fuel : Nat} {s : Supply} {m : Machine σ}
    {out : Except RuntimeError Flow}, GoesOn (watched observe n) target body orelse pos s m →
    Gives (loop (forTurn (watched observe n) target body orelse pos) fuel s) m out m' →
    none ∈ fetches (forTurn (watched observe n) target body orelse pos) fuel s m
  | 0, _, _, _, _, gives => by cases gives
  | fuel + 1, s, m, out, h, gives => by
    cases fetched : nextItem? m.heap s with
    | none =>
      rw [fetches, fetched]
      exact List.mem_cons_self
    | some found =>
      obtain ⟨v, next⟩ := found
      rw [loop] at gives
      obtain ⟨step, m₁, turned, gives⟩ | ⟨e, failed, -⟩ := Gives.bind_iff.1 gives
      · obtain rfl := Except.ok.inj (h.turn_eq fetched turned)
        have turned := Gives.ok_iff.1 turned
        rw [fetches, turned]
        exact List.mem_cons_of_mem _ ((h.next turned).exhausts gives)
      · cases h.turn_eq fetched failed

end

/-! ### What has been reported where the control comes -/

/-- Whether a suite may run: the line that was reported last is not below it. -/
structure Machine.Ready (m : Machine σ) (ss : List Stmt) : Prop where
  isOpen : m.stack ≠ []
  behind : ∀ l, m.reported? = some l → Behind l ss

theorem Machine.At.ready {ss : List Stmt} (h : m.At line) (behind : Behind line ss) : m.Ready ss :=
  ⟨h.isOpen, fun _ hl => Option.some.inj (h.reported.symm.trans hl) ▸ behind⟩

/-- Where a frame has been opened that has reported nothing, any suite may run. -/
theorem Machine.Opened.ready {f : Frame} {ss : List Stmt} (h : m.Opened f m')
    (start : f.reported = none) : m'.Ready ss := by
  have frames := h.frames
  constructor
  · intro none
    simp [Machine.scene, none] at frames
  · intro l hl
    rw [Machine.reported?, Scene.reported?, frames] at hl
    cases start.symm.trans hl

/-- A line that has been reported at the end of a stretch was reported in it or before. -/
theorem Scene.Advances.mem_or {l : Nat} (h : m.Advances ls m') (hl : m'.reported? = some l) :
    l ∈ ls ∨ m.reported? = some l := by
  have reported : some l = ls.head?.or m.reported? := hl.symm.trans h.reported
  cases ls with
  | nil => exact .inr reported.symm
  | cons k ls => exact .inl (Option.some.inj reported ▸ List.mem_cons_self)

/-- A suite may run that stands behind the line where a stretch starts, and below the lines that are
reported in it. -/
theorem Machine.At.ready_after {ss : List Stmt} (h : m.At line) (advances : m.Advances ls m')
    (behind : Behind line ss) (below : ∀ l ∈ ls, ∀ u ∈ ss, l < u.line) : m'.Ready ss := by
  refine ⟨advances.isOpen h.isOpen, fun l hl => ?_⟩
  · rcases advances.mem_or hl with mem | before
    · exact .of_lt (below l mem)
    · exact Option.some.inj (h.reported.symm.trans before) ▸ behind

/-- After a number of turns the header of a loop is the line that was reported last. -/
theorem Turns.at {turn : α → M σ (Flow ⊕ α)}
    (each : ∀ a m out m', m.At line → Gives (turn a) m out m' → TurnReports line m out m')
    {k : Nat} {a b : α} {m m' : Machine σ} (h : Turns turn k a m b m') (at_ : m.At line) :
    m'.At line := by
  induction h with
  | none => exact at_
  | next first _ ih =>
    have reports := each _ _ _ _ at_ (Gives.ok_iff.2 first)
    cases reports with
    | goesOn _ at_ => exact ih at_
    | ends ended => exact absurd rfl (ended _)

/-- The body of a handler may run where it begins. -/
theorem Catches.ready {e : RuntimeError} {hs : List Handler} {h : Handler} {m m' : Machine σ}
    (takes : Catches (watched observe n) e hs m h m') (isOpen : m.stack ≠ []) :
    h ∈ hs ∧ m'.At h.pos.line := by
  have hr := runner_covered observe n
  have filtered {h : Handler} {m m' : Machine σ} {b : Bool}
      (asked : matchesFilter (watched observe n) e h.filter m = .ok b m') : m.Advances [] m' :=
    silent_of_gives (Gives.ok_iff.2 asked) fun _ =>
      matchesFilter_sim hr (Diagonal.refl e) (every_of (fun _ => trivial) _)
  induction takes with
  | @here h hs m m₁ m₂ m₃ reached taken bound =>
    obtain ⟨-, -, at_⟩ := Gives.marks isOpen (Gives.ok_iff.2 reached)
    have named : m₂.Advances [] m₃ := by
      have bound := Gives.ok_iff.2 bound
      unfold bindError at bound
      split at bound
      · exact silent_of_gives bound fun _ => (exceptionObject_sim (Diagonal.refl e)).bind
          fun _ _ _ _ hv => assignName_sim trivial trivial hv
      · exact (Gives.pure_iff.1 bound).2 ▸ .refl _
    exact ⟨List.mem_cons_self, (at_.silent (filtered taken)).silent named⟩
  | later reached declined _ ih =>
    obtain ⟨-, -, at_⟩ := Gives.marks isOpen (Gives.ok_iff.2 reached)
    obtain ⟨mem, at_⟩ := ih (at_.silent (filtered declined)).isOpen
    exact ⟨List.mem_cons_of_mem _ mem, at_⟩

/-- A suite of a statement that has come to its line may run where it begins. -/
theorem Starts.ready {s : Stmt} {body : List Stmt} (nests : s.Nests) (at_ : m.At s.line)
    (starts : Starts (watched observe n) s.pos s.action m body m') :
    body ∈ s.action.suites ∧ m'.Ready body := by
  obtain ⟨action, pos, stop⟩ := s
  have suite : ∀ ss ∈ action.suites, Laid ss ∧ Behind pos.line ss := fun ss hss =>
    ⟨nests.laid hss, nests.descends.suites ss hss⟩
  -- where the own line of the statement was reported last, the suite may run
  have here (hb : body ∈ action.suites) (at_ : m'.At pos.line) :
      body ∈ action.suites ∧ m'.Ready body := ⟨hb, at_.ready (suite body hb).2⟩
  have first {ss : List Stmt} {sss : List (List Stmt)} : ss ∈ ss :: sss := List.mem_cons_self
  have second {ss ss' : List Stmt} {sss : List (List Stmt)} : ss ∈ ss' :: ss :: sss :=
    List.mem_cons_of_mem _ List.mem_cons_self
  have third {ss ss₁ ss₂ : List Stmt} {sss : List (List Stmt)} : ss ∈ ss₁ :: ss₂ :: ss :: sss :=
    List.mem_cons_of_mem _ second
  cases starts with
  | ifBody tested => exact here first (at_.silent (test_silent (Gives.ok_iff.2 tested)))
  | ifElse tested => exact here second (at_.silent (test_silent (Gives.ok_iff.2 tested)))
  | whileBody turns tested =>
    have at₁ := turns.at (fun _ _ _ _ => whileTurn_reports suite) at_
    exact here first (at₁.silent (test_silent (Gives.ok_iff.2 tested)))
  | whileElse turns tested =>
    have at₁ := turns.at (fun _ _ _ _ => whileTurn_reports suite) at_
    exact here second (at₁.silent (test_silent (Gives.ok_iff.2 tested)))
  | forBody supplied turns _ assigned =>
    have at₁ := at_.silent (forSupply_silent (Gives.ok_iff.2 supplied))
    have at₂ := turns.at (fun _ _ _ _ => forTurn_reports suite) at₁
    exact here first (at₂.silent (assign_silent (Gives.ok_iff.2 assigned)))
  | forElse supplied turns _ =>
    have at₁ := at_.silent (forSupply_silent (Gives.ok_iff.2 supplied))
    exact here second (turns.at (fun _ _ _ _ => forTurn_reports suite) at₁)
  | tryBody => exact here first at_
  | handler failed takes =>
    obtain ⟨ls, -, advances⟩ := block_reports (Gives.error_iff.2 failed)
    obtain ⟨mem, at₁⟩ := takes.ready (advances.isOpen at_.isOpen)
    exact ⟨Handler.body_mem_suites mem, at₁.ready (nests.descends.inTurn.2.2 _ mem).1⟩
  | tryElse done =>
    obtain ⟨ls, within, advances⟩ := block_reports (Gives.ok_iff.2 done)
    refine ⟨second, at_.ready_after advances (suite _ second).2 fun l hl => ?_⟩
    exact nests.above_else (within l hl)
  | finally_ guarded =>
    obtain ⟨ls, within, advances⟩ := guarded_reports guarded
    refine ⟨third, at_.ready_after advances (suite _ third).2 fun l hl => ?_⟩
    exact nests.above_finally (within l hl)

/-- Wherever the control comes, the line that was reported last is not below the statement. -/
theorem Comes.ready {ss : List Stmt} {k : Nat} {t : Stmt} (comes : Comes observe n ss m k t m')
    (laid : Laid ss) (ready : m.Ready ss) : t.Nests ∧ m'.Ready [t] := by
  induction comes with
  | @first n s ss m =>
    refine ⟨laid.nests s List.mem_cons_self, ready.isOpen, fun l hl => ?_⟩
    exact List.forall_mem_singleton.2 (ready.behind l hl s List.mem_cons_self)
  | @later n s ss m m₁ k t m' done _ ih =>
    obtain ⟨ls, within, advances⟩ := exec_reports (Gives.ok_iff.2 done)
    refine ih laid.tail ⟨advances.isOpen ready.isOpen, fun l hl => ?_⟩
    rcases advances.mem_or hl with mem | before
    · exact laid.behind (within l mem)
    · exact fun u hu => ready.behind l before u (List.mem_cons_of_mem _ hu)
  | @inside n s ss m m₁ body m₂ k t m' arrived starts _ ih =>
    have nests := laid.nests s List.mem_cons_self
    obtain ⟨-, -, at_⟩ := Gives.marks ready.isOpen (Gives.ok_iff.2 arrived)
    obtain ⟨hb, ready⟩ := starts.ready nests at_
    exact ih (nests.laid hb) ready

/-! ### Headers -/

/-- Whether a `for` comes to its first fetch in the run of the statement from the machine `m`. -/
inductive Begins (r : Runner σ) (s : Stmt) (m : Machine σ) :
    (target : Expr) → (body orelse : List Stmt) → Supply → Machine σ → Prop
  | mk {target items body orelse m₁ supply m₂} (action : s.action = .for_ target items body orelse)
    (arrived : arrive r s m = .ok () m₁) (supplied : forSupply r items m₁ = .ok supply m₂) :
    Begins r s m target body orelse supply m₂

namespace Begins

variable {s : Stmt} {target : Expr} {body orelse : List Stmt} {supply : Supply} {m₁ : Machine σ}

theorem evaluations_eq {r : Runner σ} (begins : Begins r s m target body orelse supply m₁) :
    headerEvaluations r s m =
      (fetches (forTurn r target body orelse s.pos) r.bound supply m₁).length := by
  obtain ⟨action, arrived, supplied⟩ := begins
  rw [headerEvaluations_eq r arrived, action, loopEvaluations, supplied]

/-- From its first fetch on, a `for` goes round. -/
theorem gives {out : Except RuntimeError Flow}
    (begins : Begins (watched observe n) s m target body orelse supply m₁)
    (ends : Gives (execStmt (watched observe n) s) m out m') :
    Gives (loop (forTurn (watched observe n) target body orelse s.pos) n supply) m₁ out m' := by
  obtain ⟨action, arrived, supplied⟩ := begins
  rw [execStmt_eq, Gives, attempt, M.bind_ok arrived, action] at ends
  change Gives (execFor (watched observe n) target _ body orelse s.pos) _ out m' at ends
  rwa [execFor_eq, Gives, attempt, M.bind_ok supplied] at ends

end Begins

/-- A loop of a program reports its header once for each evaluation of it, wherever the control
comes to it in a frame. A `for` evaluates it for each item that it fetches, and once more if it finds
that there is none left. That is so if its body never breaks, returns or raises; then the items that
it fetches are all that it goes over. -/
theorem header_reports {source : String} {p : Program} (read : parseProgram source = .ok p)
    {body : List Stmt} (suite : Suite p body) {observe : Observer σ} {fuel : Nat} {f : Frame}
    {m₀ m₁ : Machine σ} (start : f.reported = none)
    (opened : openFrame (watched observe fuel) f m₀ = .ok () m₁) {n : Nat} {s : Stmt}
    {m : Machine σ} (comes : Comes observe fuel body m₁ n s m) (isLoop : s.action.isLoop = true)
    {out : Except RuntimeError Flow} {m' : Machine σ}
    (ends : Gives (execStmt (watched observe n) s) m out m') :
    let r := watched observe n
    (∃ es, m'.history = es ++ m.history ∧
      (frameLines 0 es).count s.line = headerEvaluations r s m) ∧
    ∀ target body orelse supply m₂, Begins r s m target body orelse supply m₂ →
      ∃ vs : List Value,
        let fetched := fetches (forTurn r target body orelse s.pos) n supply m₂
        (fetched = vs.map some ∧ headerEvaluations r s m = vs.length ∨
          fetched = vs.map some ++ [none] ∧ headerEvaluations r s m = vs.length + 1) ∧
        (GoesOn r target body orelse s.pos supply m₂ →
          headerEvaluations r s m = vs.length + 1 ∧
          ∀ ws, Supplies r target body orelse s.pos supply m₂ ws → vs = ws) := by
  refine ⟨?_, fun target body orelse supply m₂ begins => ?_⟩
  · have view : Machine.Opened m₀ f m₁ := by
      have opens : Settles (fun _ => m₀.Opened f) (openFrame (watched observe fuel) f m₀) :=
        openFrame_opened f m₀
      rw [opened] at opens
      cases opens with | ok opens => exact opens
    obtain ⟨nests, ready⟩ := comes.ready (suite.laid read) (view.ready start)
    have compound := Action.isCompound_of_isLoop isLoop
    have fresh : m.reported? ≠ some s.line := fun same =>
      lt_irrefl s.line ((ready.behind s.line same s List.mem_cons_self).2 compound)
    obtain ⟨ls, count, advances⟩ := execStmt_counts isLoop nests ready.isOpen fresh ends
    obtain ⟨es, grown, reports⟩ := advances.history
    exact ⟨es, grown, reports.frameLines_eq ▸ count⟩
  · have evaluations := begins.evaluations_eq
    change _ = (fetches _ n supply m₂).length at evaluations
    obtain ⟨vs, all | last⟩ :=
      fetches_eq (watched observe n) target body orelse s.pos n supply m₂
    · refine ⟨vs, .inl ⟨all, by simp [evaluations, all]⟩, fun goesOn => ?_⟩
      have none := goesOn.exhausts (begins.gives ends)
      simp [all] at none
    · have count : headerEvaluations (watched observe n) s m = vs.length + 1 := by
        simp [evaluations, last]
      exact ⟨vs, .inr ⟨last, count⟩, fun _ => ⟨count, fun ws supplies => supplies.eq last⟩⟩

end

/-- `xs = [1]`, on line 1. -/
def listing : Stmt := .mk (.assign [.name "xs"] (.list [.int 1])) ⟨1, 1⟩ 1

/-- `x < 2 and xs.append(2)`, on line 2. -/
def growth : List Stmt :=
  [.mk (.expr (.boolOp .and (.compare (.name "x") [(.lt, .int 2)])
    (.call (.attribute (.name "xs") "append") [.positional (.int 2)]))) ⟨2, 14⟩ 2]

/-- `for x in xs: x < 2 and xs.append(2)`, on line 2. -/
def growing : Stmt := .mk (.for_ (.name "x") (.name "xs") growth []) ⟨2, 1⟩ 2

/-- Takes note of every event. -/
def noting : Observer Unit := fun _ _ => .note ()

/-- The machine in which `growing` is reached. -/
def growingReached : Machine Unit :=
  let m := Machine.start ()
  let f := Frame.start moduleName .module m.globals 0
  machineOf ((do openFrame (watched noting 20) f; (watched noting 20).run (.exec listing)) m)

/-- Where the list is that grows. -/
def growingList : Address := 2130710549

/-- A turn of `growing`. -/
def growingTurn : Supply → M Unit (Flow ⊕ Supply) :=
  forTurn (watched noting 19) (.name "x") growth [] ⟨2, 1⟩

/-- The machine in which `growing` fetches after some turns. -/
def growingAfter : Nat → Machine Unit
  | 0 =>
    let r := watched noting 19
    machineOf ((do arrive r growing; forSupply r (.name "xs")) growingReached)
  | k + 1 => machineOf (growingTurn (.list growingList k) (growingAfter k))

/-- A list of one item grows while a loop goes over it, and the body is on the line of the header:
the header is reported three times. -/
theorem header_reports_growing :
    let source := "xs = [1]\nfor x in xs: x < 2 and xs.append(2)"
    let r := watched noting 19
    let start := Machine.start ()
    parseProgram source = .ok [listing, growing] ∧ ∃ m₁ m' es supply m₂,
      openFrame (watched noting 20) (.start moduleName .module start.globals 0) start = .ok () m₁ ∧
      Comes noting 20 [listing, growing] m₁ 19 growing growingReached ∧
      Gives (execStmt r growing) growingReached (.ok .normal) m' ∧
      Begins r growing growingReached (.name "x") growth [] supply m₂ ∧
      GoesOn r (.name "x") growth [] ⟨2, 1⟩ supply m₂ ∧
      Supplies r (.name "x") growth [] ⟨2, 1⟩ supply m₂ [.int 1, .int 2] ∧
      m'.history = es ++ growingReached.history ∧ (frameLines 0 es).count 2 = 3 := by
  intro source r start
  have read : parseProgram source = .ok [listing, growing] := by cbv
  obtain ⟨m₁, opened, ran⟩ : ∃ m₁,
      openFrame (watched noting 20) (.start moduleName .module start.globals 0) start = .ok () m₁ ∧
        (watched noting 20).run (.exec listing) m₁ = .ok .normal growingReached := ⟨_, rfl, rfl⟩
  have comes : Comes noting 20 [listing, growing] m₁ 19 growing growingReached := .later ran .first
  obtain ⟨m', ends⟩ : ∃ m', Gives (execStmt r growing) growingReached (.ok .normal) m' := ⟨_, rfl⟩
  have begins : Begins r growing growingReached (.name "x") growth [] (.list growingList 0)
      (growingAfter 0) := .mk rfl rfl rfl
  have one : growingTurn (.list growingList 0) (growingAfter 0) =
    .ok (.inr (.list growingList 1)) (growingAfter 1) := rfl
  have two : growingTurn (.list growingList 1) (growingAfter 1) =
    .ok (.inr (.list growingList 2)) (growingAfter 2) := rfl
  have exhausted : nextItem? (growingAfter 2).heap (.list growingList 2) = none := rfl
  have goesOn : GoesOn r (.name "x") growth [] ⟨2, 1⟩ (.list growingList 0) (growingAfter 0) :=
    .of_fetched (v := .int 1) rfl rfl (.inl rfl) one <|
      .of_fetched (v := .int 2) rfl rfl (.inl rfl) two (.of_exhausted exhausted)
  have supplies : Supplies r (.name "x") growth [] ⟨2, 1⟩ (.list growingList 0) (growingAfter 0)
      [.int 1, .int 2] :=
    .of_fetched (.list ..) rfl one <| .of_fetched (.list ..) rfl two <|
      .of_exhausted exhausted (.list ..) rfl
  obtain ⟨⟨es, grown, count⟩, further⟩ := header_reports read .whole rfl opened comes rfl ends
  obtain ⟨vs, -, all⟩ := further _ _ _ _ _ begins
  obtain ⟨evaluations, items⟩ := all goesOn
  obtain rfl := items _ supplies
  exact ⟨read, m₁, m', es, _, _, opened, comes, ends, begins, goesOn, supplies, grown,
    count.trans evaluations⟩

end Stepwise
