import Stepwise.Eval.Write
import Stepwise.Script.Parse.Field

/-!
# Escaping

Any text can be written in any template: if each character that means something there is written
twice, the template stands for the text itself (`escaped_protected`). This holds for f-strings, for
templates with fields, and for `%` templates.

## The model

Each scanner looks one character ahead. In an escaped text it only ever sees both characters of a
pair or one plain character (`doubled_cons`), so what comes behind the text makes no difference, and
the lemmas are about escaped text in front of any other text.
-/

namespace Stepwise

open Script

variable {σ : Type}

/-! ### Escaped texts -/

namespace Text

/-- A text with each of its special characters written twice. -/
def doubled (special : Char → Bool) (cs : List Char) : List Char :=
  cs.flatMap fun c => if special c then [c, c] else [c]

/-- A text that is safe in a template with the given special characters. -/
def escape (special : Char → Bool) (s : String) : String :=
  String.ofList (doubled special s.toList)

/-- The special characters of f-strings and templates with fields. -/
def isBrace (c : Char) : Bool := c = '\x7b' || c = '\x7d'

/-- The special character of `%` templates. -/
def isPercent (c : Char) : Bool := c = '%'

variable {special : Char → Bool} {c : Char} {cs : List Char}

theorem doubled_cons : doubled special (c :: cs) =
    if special c then c :: c :: doubled special cs else c :: doubled special cs := by
  unfold doubled
  rw [List.flatMap_cons]
  split <;> rfl

theorem length_le_doubled (special : Char → Bool) (cs : List Char) :
    cs.length ≤ (doubled special cs).length := by
  induction cs with
  | nil => exact Nat.le_refl 0
  | cons c cs ih =>
    rw [doubled_cons]
    split <;> simp only [List.length_cons] <;> omega

/-- An escaped text takes at least one step for each character of the text. -/
theorem length_escape (special : Char → Bool) (s : String) :
    ∃ n, (escape special s).length = n + s.toList.length := by
  have := length_le_doubled special s.toList
  refine ⟨(doubled special s.toList).length - s.toList.length, ?_⟩
  rw [escape, String.length_ofList]
  omega

theorem toList_escape (special : Char → Bool) (s : String) :
    (escape special s).toList = doubled special s.toList := String.toList_ofList

end Text

open Text

/-! ### Scanning -/

/-- In an f-string, escaped text is added to the text just read. -/
theorem splitFields_doubled (readExpr : List Char → Except ParseProblem Expr) (fuel : Nat)
    (text cs rest : List Char) :
    splitFields readExpr (fuel + cs.length) text (doubled isBrace cs ++ rest) =
      splitFields readExpr fuel (cs.reverse ++ text) rest := by
  induction cs generalizing text with
  | nil => rfl
  | cons c cs ih =>
    rw [List.length_cons, ← Nat.add_assoc, List.reverse_cons, List.append_assoc, doubled_cons]
    refine Eq.trans ?_ (ih (c :: text))
    by_cases opening : c = '\x7b'
    · subst opening
      rfl
    by_cases closing : c = '\x7d'
    · subst closing
      rfl
    have plain : isBrace c = false := by simp [isBrace, opening, closing]
    simp only [plain, Bool.false_eq_true, if_false, List.cons_append]
    show (if c = '\x7b' then _ else if c = '\x7d' then _ else _) = _
    rw [if_neg opening, if_neg closing]

/-- In a template with fields, escaped text is read as its characters. -/
theorem templatePiecesFrom_doubled (fuel : Nat) (cs rest : List Char) :
    templatePiecesFrom (fuel + cs.length) (doubled isBrace cs ++ rest) =
      cs.map .char ++ templatePiecesFrom fuel rest := by
  induction cs with
  | nil => rfl
  | cons c cs ih =>
    rw [List.length_cons, ← Nat.add_assoc, List.map_cons, List.cons_append, ← ih, doubled_cons]
    by_cases opening : c = '\x7b'
    · subst opening
      rfl
    by_cases closing : c = '\x7d'
    · subst closing
      rfl
    have plain : isBrace c = false := by simp [isBrace, opening, closing]
    simp only [plain, Bool.false_eq_true, if_false, List.cons_append]
    rw [templatePiecesFrom, if_neg closing, if_neg opening]
    · exact fun _ h => absurd h opening
    · exact fun _ h => absurd h closing

/-- A percent sign behind another one stands for itself. -/
theorem directive_percent (cs : List Char) : directive ('%' :: cs) = (.char '%', cs) := rfl

/-- In a `%` template, escaped text is read as its characters. -/
theorem percentPiecesFrom_doubled (fuel : Nat) (cs rest : List Char) :
    percentPiecesFrom (fuel + cs.length) (doubled isPercent cs ++ rest) =
      cs.map .char ++ percentPiecesFrom fuel rest := by
  induction cs with
  | nil => rfl
  | cons c cs ih =>
    rw [List.length_cons, ← Nat.add_assoc, List.map_cons, List.cons_append, ← ih, doubled_cons]
    by_cases percent : c = '%'
    · subst percent
      simp only [isPercent, decide_true, if_true, List.cons_append]
      rw [percentPiecesFrom, if_pos rfl, directive_percent]
    · have plain : isPercent c = false := by simp [isPercent, percent]
      simp only [plain, Bool.false_eq_true, if_false, List.cons_append]
      rw [percentPiecesFrom, if_neg percent]

theorem templatePieces_escape (s : String) :
    templatePieces (escape isBrace s) = s.toList.map .char := by
  obtain ⟨fuel, length⟩ := length_escape isBrace s
  have scanned := templatePiecesFrom_doubled fuel s.toList []
  rw [List.append_nil] at scanned
  rw [templatePieces, length, toList_escape, scanned]
  cases fuel <;> exact List.append_nil _

theorem percentPieces_escape (s : String) :
    percentPieces (escape isPercent s) = s.toList.map .char := by
  obtain ⟨fuel, length⟩ := length_escape isPercent s
  have scanned := percentPiecesFrom_doubled fuel s.toList []
  rw [List.append_nil] at scanned
  rw [percentPieces, length, toList_escape, scanned]
  cases fuel <;> exact List.append_nil _

/-! ### Filling in -/

/-- Characters are filled in as they are, and use up no arguments. -/
theorem fillTemplate_chars (r : Runner σ) (args : List Value) (keywords : Keywords) (n : Numbering)
    (cs : List Char) (m : Machine σ) :
    fillTemplate r args keywords n (cs.map .char) m = .ok (cs.map Char.toString) m := by
  induction cs with
  | nil => rfl
  | cons c cs ih => exact M.bind_ok ih

theorem fillPercent_chars (r : Runner σ) (cs : List Char) (m : Machine σ) :
    fillPercent r (cs.map .char) [] m = .ok (cs.map Char.toString) m := by
  induction cs with
  | nil => rfl
  | cons c cs ih => exact M.bind_ok ih

theorem join_chars (s : String) : String.join (s.toList.map Char.toString) = s := by
  have single (c : Char) : c.toString.toList = [c] := by simp [Char.toString]
  rw [← String.toList_inj, String.toList_join, List.flatMap_map]
  simp only [single, List.flatMap_singleton']

/-- Any text can be written in all three kinds of templates: with its special characters doubled,
an f-string is the text and nothing else, and so is what filling in makes of the other two, whatever
the arguments of a template with fields are. -/
theorem escaped_protected (s : String) (readExpr : List Char → Except ParseProblem Expr)
    (r : Runner σ) (args : List Value) (keywords : Keywords) (mark : Nat) (m : Machine σ) :
    splitFields readExpr ((escape isBrace s).length + 1) [] (escape isBrace s).toList =
        .ok (if s = "" then [] else [.text s]) ∧
      formatTemplate r (escape isBrace s) args keywords m = .ok s m ∧
      percentFormat r (escape isPercent s) (.tuple mark []) m = .ok s m := by
  refine ⟨?_, ?_, ?_⟩
  · obtain ⟨fuel, length⟩ := length_escape isBrace s
    have scanned := splitFields_doubled readExpr (fuel + 1) [] s.toList []
    rw [List.append_nil, List.append_nil] at scanned
    rw [length, Nat.add_right_comm, toList_escape, scanned, splitFields, withText]
    simp only [List.isEmpty_reverse, List.reverse_reverse, String.ofList_toList,
      List.isEmpty_iff, String.toList_eq_nil_iff]
  · unfold formatTemplate
    rw [templatePieces_escape, M.bind_ok (fillTemplate_chars r args keywords _ _ m), join_chars]
    rfl
  · unfold percentFormat
    rw [percentPieces_escape, M.bind_ok (fillPercent_chars r _ m), join_chars]
    rfl

end Stepwise
