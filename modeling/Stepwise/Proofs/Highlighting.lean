import Stepwise.Viewer.Highlight

/-!
# Highlighting keeps the text

The spans of a line are the line, cut from left to right: whatever its characters are, every string
and its comment can be cut out of it, and the texts of the spans behind each other are the line
(`highlight_keeps_text`).

## The model

From every character on, with a word in front of it that has not ended, there are spans, and what
they say is the word and the line from there on (`KeepsText`). Each way to go on keeps this. Only behind
a string is it not the next character where one goes on, and however far behind the end the search
for its quote may have come, one goes on at the end of the line at the latest.
-/

namespace Stepwise

namespace Text

/-- The number of bytes of characters. -/
def bytes : List Char → Nat
  | [] => 0
  | c :: cs => c.utf8Size + bytes cs

variable {s : String} {cs : List Char}

/-! ### Numbers of bytes -/

theorem utf8ByteSize_ofList (cs : List Char) : (String.ofList cs).utf8ByteSize = bytes cs := by
  induction cs with
  | nil => rfl
  | cons c cs ih =>
    rw [String.ofList_cons, String.utf8ByteSize_append, ih, String.utf8ByteSize_singleton, bytes]

theorem utf8ByteSize_eq_bytes (s : String) : s.utf8ByteSize = bytes s.toList := by
  rw [← utf8ByteSize_ofList, String.ofList_toList]

/-! ### Where characters begin -/

theorem length_placedCharsFrom (start : Nat) (cs : List Char) :
    (placedCharsFrom start cs).length = cs.length := by
  induction cs generalizing start with
  | nil => rfl
  | cons c cs ih => rw [placedCharsFrom, List.length_cons, ih, List.length_cons]

theorem getElem?_placedCharsFrom (start : Nat) (cs : List Char) (i : Nat) :
    (placedCharsFrom start cs)[i]? = cs[i]?.map (⟨start + bytes (cs.take i), ·⟩) := by
  induction cs generalizing start i with
  | nil => rfl
  | cons c cs ih =>
    cases i with
    | zero => rfl
    | succ i =>
      simp only [placedCharsFrom, List.getElem?_cons_succ, ih, List.take_succ_cons, bytes,
        Nat.add_assoc]

@[simp]
theorem size_placedChars (s : String) : (placedChars s).size = s.toList.length :=
  length_placedCharsFrom 0 s.toList

theorem getElem?_placedChars (s : String) (i : Nat) :
    (placedChars s)[i]? = s.toList[i]?.map (⟨bytes (s.toList.take i), ·⟩) := by
  rw [placedChars, List.getElem?_toArray, getElem?_placedCharsFrom]
  simp only [Nat.zero_add]

theorem startOf_placedChars (s : String) (i : Nat) :
    startOf s (placedChars s) i = bytes (s.toList.take i) := by
  rw [startOf, getElem?_placedChars]
  cases at_i : s.toList[i]? with
  | some c => rfl
  | none =>
    rw [List.take_of_length_le (List.getElem?_eq_none_iff.1 at_i), ← utf8ByteSize_eq_bytes]
    rfl

theorem start_getElem (s : String) {chars : Array PlacedChar} {i : Nat} (inside : i < chars.size) :
    chars[i].start = startOf s chars i := by
  rw [startOf, Array.getElem?_eq_getElem inside]

theorem startOf_size (s : String) (chars : Array PlacedChar) :
    startOf s chars chars.size = s.utf8ByteSize := by
  rw [startOf, Array.getElem?_eq_none (Nat.le_refl _)]

/-- From a character on there are the character and those from the next one on. -/
theorem drop_eq_char_cons {i : Nat} (inside : i < (placedChars s).size) :
    s.toList.drop i = (placedChars s)[i].char :: s.toList.drop (i + 1) := by
  have at_i := getElem?_placedChars s i
  rw [Array.getElem?_eq_getElem inside, eq_comm, Option.map_eq_some_iff] at at_i
  obtain ⟨c, at_i, eq⟩ := at_i
  obtain ⟨_, rfl⟩ := List.getElem?_eq_some_iff.1 at_i
  rw [← eq, List.drop_eq_getElem_cons]

/-! ### Parts of a text -/

theorem pos?_eq_some_iff {n : Nat} {p : s.Pos} : s.pos? ⟨n⟩ = some p ↔ p.offset.byteIdx = n := by
  rw [String.pos?, Option.map_eq_some_iff]
  constructor
  · rintro ⟨q, begins, rfl⟩
    rw [String.Slice.pos?] at begins
    split at begins <;> cases begins
    rfl
  · rintro rfl
    have begins := String.Pos.Raw.isValidForSlice_eq_true_iff.2 p.toSlice.isValidForSlice
    exact ⟨p.toSlice, dif_pos begins, rfl⟩

/-- The bytes of what stands in front of a position count it. -/
theorem splits_iff {p : s.Pos} {before behind : String} :
    p.Splits before behind ↔ s = before ++ behind ∧ p.offset.byteIdx = bytes before.toList := by
  rw [← utf8ByteSize_eq_bytes, ← String.byteIdx_rawEndPos, ← String.Pos.Raw.ext_iff]
  exact ⟨fun h => ⟨h.eq_append, h.offset_eq_rawEndPos⟩, fun h => ⟨h.1, h.2⟩⟩

theorem exists_splits {before behind : String} (parts : s = before ++ behind) :
    ∃ p : s.Pos, p.Splits before behind :=
  ⟨⟨before.rawEndPos, String.Pos.Raw.isValid_iff_exists_append.2 ⟨_, _, parts, rfl⟩⟩, parts, rfl⟩

theorem between?_eq_some_iff_slice {start stop : Nat} :
    between? s start stop = some cs ↔ ∃ p q : s.Pos, p.offset.byteIdx = start ∧
      q.offset.byteIdx = stop ∧ ∃ le : p ≤ q, (s.slice p q le).copy = String.ofList cs := by
  have chars {t : String} : t.toList = cs ↔ t = String.ofList cs :=
    ⟨fun h => h ▸ String.ofList_toList.symm, fun h => h ▸ String.toList_ofList⟩
  simp only [between?, Option.bind_eq_bind, Option.bind_eq_some_iff, pos?_eq_some_iff,
    String.slice?, Option.dite_none_right_eq_some, Option.pure_def, Option.some_inj, chars]
  grind

/-- A part of a text is cut out exactly where it stands between two other parts. -/
theorem between?_eq_some_iff {start stop : Nat} :
    between? s start stop = some cs ↔ ∃ before behind, s.toList = before ++ cs ++ behind ∧
      start = bytes before ∧ stop = bytes (before ++ cs) := by
  simp only [between?_eq_some_iff_slice, String.copy_slice_eq_iff_splits]
  constructor
  · rintro ⟨p, q, rfl, rfl, before, behind, first, last⟩
    refine ⟨before.toList, behind.toList, ?_, (splits_iff.1 first).2, ?_⟩
    · rw [last.eq_append, String.toList_append, String.toList_append, String.toList_ofList]
    · rw [(splits_iff.1 last).2, String.toList_append, String.toList_ofList]
  · rintro ⟨before, behind, parts, rfl, rfl⟩
    have last : s = String.ofList before ++ String.ofList cs ++ String.ofList behind := by
      rw [← String.ofList_append, ← String.ofList_append, ← parts, String.ofList_toList]
    have first : s = String.ofList before ++ (String.ofList cs ++ String.ofList behind) := by
      rw [last, String.append_assoc]
    obtain ⟨p, first⟩ := exists_splits first
    obtain ⟨q, last⟩ := exists_splits last
    refine ⟨p, q, ?_, ?_, _, _, first, last⟩
    · rw [(splits_iff.1 first).2, String.toList_ofList]
    · rw [(splits_iff.1 last).2, String.toList_append, String.toList_ofList, String.toList_ofList]

/-- Where characters begin the text can be cut, for any two of them. -/
theorem between?_startOf (s : String) {i j : Nat} (le : i ≤ j) :
    between? s (startOf s (placedChars s) i) (startOf s (placedChars s) j) =
      some ((s.toList.take j).drop i) := by
  have parts := List.take_append_drop i (s.toList.take j)
  rw [List.take_take, Nat.min_eq_left le] at parts
  refine between?_eq_some_iff.2 ⟨s.toList.take i, s.toList.drop j, ?_, ?_, ?_⟩
  · rw [parts, List.take_append_drop]
  · exact startOf_placedChars s i
  · rw [parts, startOf_placedChars]

end Text

namespace Viewer

open Text

/-- The text of spans behind each other. -/
def spansText (spans : List Span) : List Char := spans.flatMap (·.text)

/-- There are spans from the character `i` on, and their text is `word` and the line from there
on. -/
def KeepsText (line : String) (i : Nat) (word : List Char) : Prop :=
  ∃ spans, highlightFrom line (placedChars line) i word = some spans ∧
    spansText spans = word ++ line.toList.drop i

/-! ### Spans -/

@[simp] theorem spansText_nil : spansText [] = [] := rfl

@[simp] theorem spansText_cons (s : Span) (ss : List Span) :
    spansText (s :: ss) = s.text ++ spansText ss := List.flatMap_cons

@[simp] theorem spansText_append (ss ts : List Span) :
    spansText (ss ++ ts) = spansText ss ++ spansText ts := List.flatMap_append

/-- Whether a word is called makes no difference to its text. -/
@[simp] theorem spansText_wordSpans (word : List Char) (called : Bool) :
    spansText (wordSpans word called) = word := by
  cases word <;> simp [wordSpans]

/-! ### Cuts -/

section

variable {line : String} {i : Nat}

/-- The comment is the line from its sign on. -/
theorem between?_comment (inside : i < (placedChars line).size) :
    between? line (placedChars line)[i].start line.utf8ByteSize = some (line.toList.drop i) := by
  rw [start_getElem line inside, ← startOf_size line (placedChars line),
    between?_startOf line (Nat.le_of_lt inside), size_placedChars, List.take_length]

/-- A string is the line from its quote to where one goes on. -/
theorem between?_string (inside : i < (placedChars line).size) {stop : Nat} (le : i ≤ stop) :
    between? line (placedChars line)[i].start (startOf line (placedChars line) stop) =
      some ((line.toList.take stop).drop i) := by
  rw [start_getElem line inside, between?_startOf line le]

/-- Behind a string the line goes on. -/
theorem drop_take_append_drop {cs : List Char} {stop : Nat} (le : i ≤ stop) :
    (cs.take stop).drop i ++ cs.drop stop = cs.drop i := by
  have behind : cs.drop stop = (cs.drop i).drop (stop - i) := by
    rw [List.drop_drop, Nat.add_sub_cancel' le]
  rw [List.drop_take, behind, List.take_append_drop]

end

/-! ### The line from a character on -/

/-- From every character on, whatever the word in front of it, the text is kept. -/
theorem keepsText (line : String) (i : Nat) (word : List Char) : KeepsText line i word := by
  unfold KeepsText
  fun_induction highlightFrom line (placedChars line) i word with
  | case1 i word inside c start comment =>
    rw [between?_comment inside]
    exact ⟨_, rfl, by simp⟩
  | case2 i word inside c start _ quote stop ih =>
    obtain ⟨spans, cut, text⟩ := ih
    -- The search begins behind the opening quote, and the line does not end in front of it.
    have onward : i ≤ stop := by
      have := le_closingIndex (placedChars line) c (i + 1)
      omega
    rw [between?_string inside onward, cut]
    exact ⟨_, rfl, by simp [text, drop_take_append_drop onward]⟩
  | case3 i word inside c _ _ goesOn ih =>
    obtain ⟨spans, cut, text⟩ := ih
    exact ⟨spans, cut, by simp [text, drop_eq_char_cons inside, c]⟩
  | case4 i word inside c _ _ sign ih =>
    obtain ⟨spans, cut, text⟩ := ih
    rw [cut]
    exact ⟨_, rfl, by simp [text, drop_eq_char_cons inside, c]⟩
  | case5 i word atEnd =>
    rw [size_placedChars, Nat.not_lt] at atEnd
    exact ⟨_, rfl, by simp [List.drop_of_length_le atEnd]⟩

/-- Whatever the line, it is cut between characters only, and the texts of its spans, one behind the
other, are the line. -/
theorem highlight_keeps_text (line : String) :
    highlight? line = some (highlight line) ∧ (highlight line).flatMap (·.text) = line.toList := by
  obtain ⟨spans, cut, text⟩ := keepsText line 0 []
  have found : highlight? line = some spans := cut
  rw [highlight, found, Option.getD_some]
  exact ⟨rfl, text⟩

/-- A string that nothing closes ends with the line, even if a backslash would take along one more
character. -/
example : (highlight "ß = 'é\\").map (String.ofList ·.text) = ["ß", " ", "=", " ", "'é\\"] := by
  decide +kernel

end Viewer

end Stepwise
