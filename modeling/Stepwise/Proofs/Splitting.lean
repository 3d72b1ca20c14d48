import Mathlib.Data.List.TakeWhile
import Stepwise.Eval.Method
import Stepwise.Proofs.Selection

/-!
# Splitting loses nothing

What a split takes apart can be put together again. The parts between separators, joined by the
separator, are the text (`intercalate_splitOn`), and so are the three parts of a partition; the words
of a text have all of its characters but the blanks (`Worded.solid`). The statement about the methods
of strings is `split_loses_nothing`.

## The model

All splitting at a separator is built on its first occurrence (`Text.cut?`), so what is known of
that one is all that is needed (`cut?_eq_some`, `cut?_eq_none_iff`). What the words of a text are is
said apart from how they are found (`Worded`).
-/

namespace Stepwise.Text

variable {sep cs before behind : List Char} {limit : Option Nat} {parts : List (List Char)}

/-! ### The first separator -/

/-- What is cut off lies in front of every occurrence of the separator. -/
theorem cut?_eq_some (h : cut? sep cs = some (before, behind)) :
    cs = before ++ sep ++ behind ∧ ∀ x y, cs = x ++ sep ++ y → before.length ≤ x.length := by
  induction cs generalizing before with
  | nil =>
    rw [cut?] at h
    split at h
    · next empty =>
      cases h
      exact ⟨by simpa using empty, fun x y _ => Nat.zero_le _⟩
    · cases h
  | cons c cs ih =>
    rw [cut?] at h
    split at h
    · next first =>
      cases h
      obtain ⟨tail, eq⟩ := List.isPrefixOf_iff_prefix.1 first
      exact ⟨by rw [← eq]; simp, fun x y _ => Nat.zero_le _⟩
    · next notFirst =>
      obtain ⟨⟨before', behind'⟩, found, eq⟩ := Option.map_eq_some_iff.1 h
      cases eq
      obtain ⟨rfl, first⟩ := ih found
      refine ⟨rfl, fun x y eq => ?_⟩
      cases x with
      | nil => exact absurd (List.isPrefixOf_iff_prefix.2 ⟨y, eq.symm⟩) notFirst
      | cons d x => exact Nat.succ_le_succ (first x y (List.cons.inj eq).2)

/-- There is nothing to cut at if and only if the separator does not occur. -/
theorem cut?_eq_none_iff : cut? sep cs = none ↔ ¬sep <:+: cs := by
  induction cs with
  | nil => cases sep <;> simp [cut?]
  | cons c cs ih =>
    rw [cut?, List.infix_cons_iff]
    split
    · next first => simp [List.isPrefixOf_iff_prefix.1 first]
    · next notFirst =>
      rw [Option.map_eq_none_iff, ih, or_iff_right]
      exact fun first => notFirst (List.isPrefixOf_iff_prefix.2 first)

/-- In front of the first separator there is none. -/
theorem not_infix_of_cut? (h : cut? sep cs = some (before, behind)) (filled : sep ≠ []) :
    ¬sep <:+: before := by
  rintro ⟨x, y, rfl⟩
  obtain ⟨rfl, first⟩ := cut?_eq_some h
  have le := first x (y ++ sep ++ behind) (by simp)
  have := List.length_pos_iff.2 filled
  simp only [List.length_append] at le
  omega

/-! ### Separators -/

/-- Parts of a text that are cut at a separator, at most as often as a limit says. -/
structure Parted (sep : List Char) (limit : Option Nat) (cs : List Char)
    (parts : List (List Char)) : Prop where
  /-- The parts, joined by the separator, are the text. -/
  joined : sep.intercalate parts = cs
  few : ∀ n ∈ limit, parts.length ≤ n + 1
  clean : ∀ part ∈ parts.dropLast, ¬sep <:+: part
  /-- A separator is left only if the limit has been reached. -/
  thorough : (∀ n ∈ limit, parts.length ≤ n) → ∀ part ∈ parts, ¬sep <:+: part

theorem Parted.whole (cs : List Char) (h : limit = some 0 ∨ ¬sep <:+: cs) :
    Parted sep limit cs [cs] where
  joined := by simp [List.intercalate]
  few n _ := Nat.succ_le_succ (Nat.zero_le n)
  clean := by simp
  thorough fewer := by
    obtain rfl | absent := h
    · exact absurd (fewer 0 rfl) (Nat.not_succ_le_zero 0)
    · simpa using absent

/-- One more part is cut off in front. -/
theorem Parted.cut (absent : ¬sep <:+: before) (fresh : limit ≠ some 0) (filled : parts ≠ [])
    (h : Parted sep (limit.map (· - 1)) behind parts) :
    Parted sep limit (before ++ sep ++ behind) (before :: parts) := by
  obtain ⟨part, parts, rfl⟩ := List.exists_cons_of_ne_nil filled
  have one_less : ∀ n ∈ limit, n - 1 ∈ limit.map (· - 1) ∧ 0 < n := by
    rintro n rfl
    exact ⟨rfl, Nat.pos_of_ne_zero fun h => fresh (by rw [h])⟩
  refine ⟨?_, fun n hn => ?_, ?_, fun fewer => ?_⟩
  · rw [← h.joined]
    simp [List.intercalate]
  · have := h.few _ (one_less n hn).1
    have := (one_less n hn).2
    rw [List.length_cons]
    omega
  · rw [List.dropLast_cons_of_ne_nil (List.cons_ne_nil _ _)]
    exact List.forall_mem_cons.2 ⟨absent, h.clean⟩
  · refine List.forall_mem_cons.2 ⟨absent, h.thorough fun n hn => ?_⟩
    obtain ⟨k, hk, rfl⟩ := Option.mem_map.1 hn
    exact Nat.le_sub_one_of_lt (fewer k hk)

theorem splitFirst_ne_nil (sep : List Char) (fuel : Nat) (cs : List Char) :
    splitFirst sep fuel cs ≠ [] := by
  cases fuel with
  | zero => exact List.cons_ne_nil _ _
  | succ fuel =>
    rw [splitFirst]
    split <;> exact List.cons_ne_nil _ _

/-- A limit that is never reached is none. -/
theorem Parted.unlimited {fuel : Nat} (h : Parted sep (some fuel) cs parts)
    (clean : ∀ part ∈ parts, ¬sep <:+: part) : Parted sep none cs parts :=
  ⟨h.joined, by simp, h.clean, fun _ => clean⟩

theorem splitFirst_parted (filled : sep ≠ []) (fuel : Nat) (cs : List Char) :
    Parted sep (some fuel) cs (splitFirst sep fuel cs) := by
  induction fuel generalizing cs with
  | zero => exact .whole cs (.inl rfl)
  | succ fuel ih =>
    rw [splitFirst]
    split
    · next absent => exact .whole cs (.inr (cut?_eq_none_iff.1 absent))
    · next before behind found =>
      rw [(cut?_eq_some found).1]
      exact .cut (not_infix_of_cut? found filled) (by simp) (splitFirst_ne_nil sep fuel behind)
        (ih behind)

/-- Every cut takes at least one character, so no more of them are possible than there are. -/
theorem splitFirst_thorough (filled : sep ≠ []) {fuel : Nat} (enough : cs.length ≤ fuel) :
    ∀ part ∈ splitFirst sep fuel cs, ¬sep <:+: part := by
  induction fuel generalizing cs with
  | zero =>
    obtain rfl := List.length_eq_zero_iff.1 (Nat.le_zero.1 enough)
    simpa [splitFirst] using filled
  | succ fuel ih =>
    rw [splitFirst]
    split
    · next absent => simpa using cut?_eq_none_iff.1 absent
    · next before behind found =>
      have shorter : behind.length ≤ fuel := by
        have := List.length_pos_iff.2 filled
        have := congrArg List.length (cut?_eq_some found).1
        simp only [List.length_append] at this
        omega
      exact List.forall_mem_cons.2 ⟨not_infix_of_cut? found filled, ih shorter⟩

/-- A split at a separator loses nothing, and leaves no separator that it could cut at. -/
theorem splitOn_parted (filled : sep ≠ []) (limit : Option Nat) (cs : List Char) :
    Parted sep limit cs (splitOn sep limit cs) := by
  cases limit with
  | none => exact (splitFirst_parted filled _ cs).unlimited (splitFirst_thorough filled le_rfl)
  | some n =>
    rw [splitOn]
    have parted := splitFirst_parted filled (min n cs.length) cs
    refine ⟨parted.joined, ?_, parted.clean, fun fewer => ?_⟩
    · rintro _ ⟨⟩
      exact (parted.few _ rfl).trans (by omega)
    · obtain le | le := le_total n cs.length
      · rw [min_eq_left le] at parted fewer ⊢
        exact parted.thorough fewer
      · rw [min_eq_right le]
        exact splitFirst_thorough filled le_rfl

/-! ### Words -/

/-- Whether all characters of a text are blanks. -/
def AllBlank (cs : List Char) : Prop := ∀ c ∈ cs, isSpace c = true

/-- Whether some parts are the words of a text, of which at most as many as a limit says are cut
off in front of the rest. -/
inductive Worded : Option Nat → List Char → List (List Char) → Prop where
  | blank {limit gap} : AllBlank gap → Worded limit gap []
  /-- The limit has been reached: what remains is a part as it is, blanks at its end included. -/
  | rest {gap c cs} : AllBlank gap → isSpace c = false → Worded (some 0) (gap ++ c :: cs) [c :: cs]
  /-- A word goes on up to the next blank. -/
  | word {limit gap c cs rest ws} : limit ≠ some 0 → AllBlank gap →
      (∀ d ∈ c :: cs, isSpace d = false) → (∀ d ∈ rest.head?, isSpace d = true) →
      Worded (limit.map (· - 1)) rest ws → Worded limit (gap ++ c :: cs ++ rest) ((c :: cs) :: ws)

theorem wordsFrom_worded : ∀ {fuel : Nat} (limit : Option Nat) {cs : List Char}, cs.length < fuel →
    Worded limit cs (wordsFrom fuel limit cs)
  | 0, _, _, enough => absurd enough (Nat.not_lt_zero _)
  | fuel + 1, limit, cs, enough => by
    have parts := List.takeWhile_append_dropWhile (p := isSpace) (l := cs)
    have gap : AllBlank (cs.takeWhile isSpace) := fun d hd => List.mem_takeWhile_imp hd
    generalize cs.takeWhile isSpace = blanks at parts gap
    rw [wordsFrom]
    split
    · next finished =>
      rw [finished, List.append_nil] at parts
      exact parts ▸ .blank gap
    · next rest more =>
      obtain ⟨c, tail, eq⟩ := List.exists_cons_of_ne_nil more
      have solid : isSpace c = false := by
        simpa [eq] using List.head_dropWhile_not isSpace more
      rw [eq] at parts ⊢
      subst parts
      split
      · next reached => exact reached ▸ .rest gap solid
      · next fresh =>
        have split : blanks ++ c :: tail =
            blanks ++ c :: tail.takeWhile (!isSpace ·) ++ tail.dropWhile (!isSpace ·) := by
          rw [List.append_assoc, List.cons_append, List.takeWhile_append_dropWhile]
        rw [List.takeWhile_cons, List.dropWhile_cons, if_pos (by simp [solid]),
          if_pos (by simp [solid]), split]
        refine .word fresh gap ?_ ?_ (wordsFrom_worded _ ?_)
        · refine List.forall_mem_cons.2 ⟨solid, fun d hd => ?_⟩
          simpa using List.mem_takeWhile_imp hd
        · intro d hd
          have head := List.head?_dropWhile_not (!isSpace ·) tail
          rw [Option.mem_def.1 hd] at head
          simpa using head
        · have := (List.dropWhile_sublist (l := tail) (!isSpace ·)).length_le
          simp only [List.length_append, List.length_cons] at enough
          omega

theorem words_worded (limit : Option Nat) (cs : List Char) : Worded limit cs (words limit cs) :=
  wordsFrom_worded limit (Nat.lt_succ_self _)

namespace Worded

/-- A word begins with a character that is no blank. -/
theorem begins (h : Worded limit cs parts) :
    ∀ part ∈ parts, ∃ c tail, part = c :: tail ∧ isSpace c = false := by
  induction h with
  | blank => simp
  | rest _ solid => simpa using solid
  | word _ _ solid _ _ ih =>
    exact List.forall_mem_cons.2 ⟨⟨_, _, rfl, solid _ List.mem_cons_self⟩, ih⟩

theorem few (h : Worded limit cs parts) : ∀ n ∈ limit, parts.length ≤ n + 1 := by
  induction h with
  | blank => exact fun n _ => Nat.zero_le _
  | rest => exact fun n _ => Nat.succ_le_succ (Nat.zero_le n)
  | word fresh _ _ _ _ ih =>
    rintro n rfl
    have le := ih (n - 1) rfl
    have : n ≠ 0 := fun h => fresh (by rw [h])
    rw [List.length_cons]
    omega

/-- Only the part that is left at the limit may have blanks. -/
theorem clean (h : Worded limit cs parts) {i : Nat} {part : List Char} (hi : parts[i]? = some part)
    (within : limit ≠ some i) : ∀ c ∈ part, isSpace c = false := by
  induction h generalizing i with
  | blank => cases hi
  | rest =>
    obtain ⟨rfl, -⟩ : i = 0 ∧ _ := by simpa [List.getElem?_singleton] using hi
    exact absurd rfl within
  | @word limit _ _ _ _ _ fresh _ solid _ _ ih =>
    cases i with
    | zero =>
      cases hi
      exact solid
    | succ i =>
      refine ih hi ?_
      cases limit with
      | none => simp
      | some n =>
        have : n ≠ 0 := fun h => fresh (by rw [h])
        have : n ≠ i + 1 := fun h => within (by rw [h])
        simp only [Option.map_some, ne_eq, Option.some.injEq]
        omega

/-- Only blanks are left out. -/
theorem solid (h : Worded limit cs parts) :
    parts.flatten.filter (!isSpace ·) = cs.filter (!isSpace ·) := by
  have dropped : ∀ {gap : List Char}, AllBlank gap → gap.filter (!isSpace ·) = [] :=
    fun gap => List.filter_eq_nil_iff.2 fun c hc => by simp [gap c hc]
  induction h with
  | blank gap => rw [dropped gap]; rfl
  | rest gap => rw [List.filter_append, dropped gap, List.flatten_singleton, List.nil_append]
  | word _ gap _ _ _ ih =>
    rw [List.flatten_cons, List.append_assoc, List.filter_append, List.filter_append,
      List.filter_append, dropped gap, ih, List.nil_append]

end Worded

end Stepwise.Text

namespace Stepwise

open Text

variable {σ : Type} {m : Machine σ}

/-! ### Methods -/

/-- The arguments of a split: the separator, and the greatest number of cuts if there is one. -/
def splitArguments (sep : Value) (limit : Option Int) : List Value := sep :: (limit.map .int).toList

theorem callNative_split (r : Runner σ) (m : Machine σ) (s sep : String) (limit : Option Int)
    (filled : sep ≠ "") : callNative r (.str s) "split" (splitArguments (.str sep) limit) [] m =
      makeList ((splitOn sep.toList (limit.bind natural?) s.toList).map textValue) m := by
  have cut : (strSplit s.toList (splitArguments (.str sep) limit) [] : M σ Value) =
      makeList ((splitOn sep.toList (limit.bind natural?) s.toList).map textValue) := by
    have given : argument (splitArguments (.str sep) limit) 0 = .str sep := rfl
    have count (n : Int) : indexValue (.int n) = (pure n : M σ Int) := rfl
    unfold strSplit
    rw [given]
    cases limit with
    | none =>
      simp only [splitArguments, splitOptions, Option.map, Option.toList, List.getElem?_cons_succ,
        List.getElem?_nil, pure_bind]
      rfl
    | some n =>
      simp only [splitArguments, splitOptions, Option.map, Option.toList, List.getElem?_cons_succ,
        List.getElem?_cons_zero, count, pure_bind]
      rfl
  exact congrFun cut m

theorem callNative_words (r : Runner σ) (m : Machine σ) (s : String) (limit : Option Int) :
    callNative r (.str s) "split" (splitArguments .none limit) [] m =
      makeList ((words (limit.bind natural?) s.toList).map textValue) m := by
  cases limit <;> rfl

theorem joinParts_texts (n : Nat) (parts : List (List Char)) :
    joinParts n (parts.map textValue) m = .ok parts m := by
  induction parts generalizing n with
  | nil => rfl
  | cons part parts ih =>
    show (joinParts (n + 1) (parts.map textValue) >>= fun rest => pure (_ :: rest)) m = _
    rw [M.bind_ok (ih _), String.toList_ofList]
    rfl

/-- A list of strings is joined by a string. -/
theorem callNative_join (tell : Nat → Moment → M σ Unit) (reveal : M σ Unit) (fuel : Nat)
    {sep : String} {v : Value} {parts : List (List Char)}
    (hv : m.heap.Sequence .list v (parts.map textValue)) :
    callNative (runner tell reveal (fuel + 1)) (.str sep) "join" [v] [] m =
      .ok (textValue (sep.toList.intercalate parts)) m := by
  cases hv with
  | @list a _ found =>
    have items : (runner tell reveal (fuel + 1)).iterate (.ref a) m =
        .ok (parts.map textValue) m := by
      show itemsOf _ (.ref a) m = _
      simp only [itemsOf]
      rw [getHeap_bind, found]
      rfl
    show ((runner tell reveal (fuel + 1)).iterate (.ref a) >>= fun vs => joinParts 0 vs >>=
      fun parts => pure (textValue (sep.toList.intercalate parts))) m = _
    rw [M.bind_ok items, M.bind_ok (joinParts_texts 0 parts)]
    rfl

/-- The parts in front of and behind the first separator, which stands between them if it occurs. -/
theorem partition_givesItems (r : Runner σ) (m : Machine σ) (s sep : String) (filled : sep ≠ "") :
    ∃ before middle behind : String,
      GivesItems (callNative r (.str s) "partition" [.str sep] []) m .tuple
        [.str before, .str middle, .str behind] ∧
      before ++ middle ++ behind = s ∧ ¬sep.toList <:+: before.toList ∧
      (middle = sep ∨ middle = "" ∧ behind = "") := by
  have notEmpty : sep.toList ≠ [] := mt String.toList_eq_nil_iff.1 filled
  have given : strArgument "partition" (.str sep) = (pure sep : M σ String) := rfl
  have opened : callNative r (.str s) "partition" [.str sep] [] =
      strPartition s.toList (.str sep) := rfl
  rw [strPartition, given, pure_bind, if_neg (by simpa using notEmpty)] at opened
  rcases found : cut? sep.toList s.toList with _ | ⟨before, behind⟩ <;> rw [found] at opened
  · refine ⟨s, "", "", ?_, by simp, cut?_eq_none_iff.1 found, .inr ⟨rfl, rfl⟩⟩
    refine (makeTuple_givesItems m _).of_eq (congrFun (opened.trans ?_) m)
    dsimp only
    rw [textValue, String.ofList_toList]
  · refine ⟨String.ofList before, sep, String.ofList behind, ?_, ?_, ?_, .inl rfl⟩
    · refine (makeTuple_givesItems m _).of_eq (congrFun (opened.trans ?_) m)
      dsimp only
      rw [textValue, textValue, textValue, String.ofList_toList]
    · rw [← String.toList_inj, (cut?_eq_some found).1]
      simp
    · rw [String.toList_ofList]
      exact not_infix_of_cut? found notEmpty

/-- Splitting loses nothing. The parts of a text between separators, joined by the separator, are
the text; there is at most one more of them than the limit says, and only the last one, if there are
that many, may still have a separator. The three parts of a partition, one behind the other, are the
text. And of the words of a text, which begin with a character that is no blank, only what is left
at the limit may have blanks, and all characters are in them that are no blanks. -/
theorem split_loses_nothing (tell : Nat → Moment → M σ Unit) (reveal : M σ Unit) (fuel : Nat)
    (m : Machine σ) (s : String) :
    let r := runner tell reveal (fuel + 1)
    (∀ (sep : String) (limit : Option Int), sep ≠ "" → ∃ parts,
      Parted sep.toList (limit.bind natural?) s.toList parts ∧
      GivesItems (callNative r (.str s) "split" (splitArguments (.str sep) limit) []) m .list
        (parts.map textValue) ∧
      ∃ m', (do
        let v ← callNative r (.str s) "split" (splitArguments (.str sep) limit) []
        callNative r (.str sep) "join" [v] []) m = .ok (.str s) m') ∧
    (∀ sep : String, sep ≠ "" → ∃ before middle behind : String,
      GivesItems (callNative r (.str s) "partition" [.str sep] []) m .tuple
        [.str before, .str middle, .str behind] ∧
      before ++ middle ++ behind = s ∧ ¬sep.toList <:+: before.toList ∧
      (middle = sep ∨ middle = "" ∧ behind = "")) ∧
    ∀ limit : Option Int, ∃ parts,
      GivesItems (callNative r (.str s) "split" (splitArguments .none limit) []) m .list
        (parts.map textValue) ∧
      Worded (limit.bind natural?) s.toList parts ∧
      (∀ part ∈ parts, ∃ c tail, part = c :: tail ∧ isSpace c = false) ∧
      (∀ n ∈ limit.bind natural?, parts.length ≤ n + 1) ∧
      (∀ i part, parts[i]? = some part → limit.bind natural? ≠ some i →
        ∀ c ∈ part, isSpace c = false) ∧
      parts.flatten.filter (!isSpace ·) = s.toList.filter (!isSpace ·) := by
  refine ⟨fun sep limit filled => ?_, fun sep => partition_givesItems _ m s sep, fun limit => ?_⟩
  · have parted := splitOn_parted (mt String.toList_eq_nil_iff.1 filled) (limit.bind natural?) s.toList
    have split := (makeList_givesItems m _).of_eq
      (callNative_split (runner tell reveal (fuel + 1)) m s sep limit filled)
    refine ⟨_, parted, split, ?_⟩
    obtain ⟨v, m', run, -, list⟩ := split
    refine ⟨m', ?_⟩
    rw [M.bind_ok run, callNative_join tell reveal fuel list, parted.joined, textValue,
      String.ofList_toList]
  · have worded := words_worded (limit.bind natural?) s.toList
    exact ⟨_, (makeList_givesItems m _).of_eq (callNative_words _ m s limit), worded,
      worded.begins, worded.few, fun _ _ => worded.clean, worded.solid⟩

/-- A split that stops at its limit in front of another separator. -/
theorem split_loses_nothing_once :
    let m := Machine.start ()
    ", " ≠ "" ∧ ∃ parts, Parted ", ".toList (some 1) "a, b, , c".toList parts ∧
      GivesItems (callNative (quiet 1) (.str "a, b, , c") "split" [.str ", ", .int 1] []) m .list
        (parts.map textValue) := by
  intro m
  obtain ⟨parts, parted, gives, -⟩ :=
    (split_loses_nothing (fun _ _ => pure ()) (pure ()) 0 m "a, b, , c").1 ", " (some 1) (by decide)
  exact ⟨by decide, parts, parted, gives⟩

end Stepwise
