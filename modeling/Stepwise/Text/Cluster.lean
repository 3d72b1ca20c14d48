import Stepwise.Text.Class
import Stepwise.Text.Table.Cluster

/-!
# Clusters

A reader sees a letter with its accents, a flag or a family of emoji as one character. This module
cuts a text into such clusters: the extended grapheme clusters of Unicode.

## The model

Whether a character joins the cluster before it depends on that cluster, so the text is walked from
the left with a `Tail`: what there is to know about the cluster so far. Every character either joins
or starts a cluster of its own; nothing is lost (`clusters_flatten`) and no cluster is empty
(`ne_nil_of_mem_clusters`).
-/

namespace Stepwise.Text

/-! ### Classes -/

/-- How a character behaves towards its neighbours. -/
inductive BreakClass where
  /-- It joins nothing by itself. -/
  | other
  /-- The carriage return. -/
  | carriageReturn
  /-- The line feed. -/
  | lineFeed
  /-- A control: it always stands alone. -/
  | control
  /-- It joins the character before it. -/
  | extending
  /-- The zero width joiner: like `extending`, and it joins pictures. -/
  | joiner
  /-- A letter of a flag: two of them are a flag. -/
  | flagLetter
  /-- It joins the character behind it. -/
  | prepend
  /-- It joins the character before it and has a width. -/
  | spacing
  /-- The first consonant of a Korean syllable. -/
  | leading
  /-- The vowel of a Korean syllable. -/
  | vowel
  /-- The last consonant of a Korean syllable. -/
  | trailing
  /-- A Korean syllable that ends in its vowel. -/
  | openSyllable
  /-- A Korean syllable that ends in a consonant. -/
  | closedSyllable
  /-- A picture. -/
  | picture
  deriving DecidableEq

/-- The skin tones of emoji. -/
def isSkinTone (c : Char) : Bool := inRanges [(0x1F3FB, 0x1F3FF)] c.toNat

/-- The letters that flags are spelled with. -/
def isFlagLetter (c : Char) : Bool := inRanges [(0x1F1E6, 0x1F1FF)] c.toNat

/-- The vowels of Korean syllables, and the vowel signs that combine as they do. -/
def isSyllableVowel (c : Char) : Bool :=
  inRanges [(0x1160, 0x11A7), (0xD7B0, 0xD7C6), (0x16D63, 0x16D63), (0x16D67, 0x16D6A)] c.toNat

/-- The class of a character from 0x80 up. -/
def wideBreakClass (c : Char) : BreakClass :=
  let n := c.toNat
  if n = 0x200D then .joiner
  else if isExtending c || isSkinTone c then .extending
  else if inRanges Table.control n then .control
  else if isFlagLetter c then .flagLetter
  else if inRanges Table.prepend n then .prepend
  else if inRanges Table.spacingMark n then .spacing
  else if inRanges [(0x1100, 0x115F), (0xA960, 0xA97C)] n then .leading
  else if isSyllableVowel c then .vowel
  else if inRanges [(0x11A8, 0x11FF), (0xD7CB, 0xD7FB)] n then .trailing
  else if inRanges [(0xAC00, 0xD7A3)] n then
    if (n - 0xAC00) % 28 = 0 then .openSyllable else .closedSyllable
  else if inRanges Table.pictographic n then .picture
  else .other

/-- The class of a character. -/
def breakClass (c : Char) : BreakClass :=
  if c.toNat < 0x80 then
    if c = '\r' then .carriageReturn
    else if c = '\n' then .lineFeed
    else if c.toNat < 0x20 ∨ c.toNat = 0x7F then .control
    else .other
  else wideBreakClass c

/-- Consonants that a linker joins with the next one. -/
def isConjunct (c : Char) : Bool := c.toNat ≥ 0x80 && inRanges Table.conjunct c.toNat

/-- Marks that join the consonants around them. -/
def isConjunctLinker (c : Char) : Bool := c.toNat ≥ 0x80 && inRanges Table.conjunctLinker c.toNat

/-! ### Cutting -/

/-- How far a bond between two like characters has come. -/
inductive Bond where
  /-- There is none. -/
  | none
  /-- Its first character has been read, and marks behind it. -/
  | begun
  /-- So has what joins it with the second character. -/
  | ready
  deriving DecidableEq

/-- What there is to know about a cluster when the next character comes. -/
structure Tail where
  /-- The class of its last character. -/
  last : BreakClass
  /-- The bond between two pictures. -/
  pictures : Bond
  /-- The bond between two consonants. -/
  consonants : Bond
  /-- Whether a flag has only its first letter. -/
  halfFlag : Bool

namespace Tail

/-- The tail of a cluster with one more character. -/
def after (t : Tail) (c : Char) : Tail :=
  let k := breakClass c
  { last := k
    pictures := match k with
      | .picture => .begun
      | .extending => if t.pictures = .begun then .begun else .none
      | .joiner => if t.pictures = .begun then .ready else .none
      | _ => .none
    consonants :=
      if isConjunct c then .begun
      else if isConjunctLinker c then if t.consonants = .none then .none else .ready
      else if (k = .extending ∨ k = .joiner) ∧ c.toNat ≠ 0x200C then t.consonants
      else .none
    halfFlag := k = .flagLetter && !t.halfFlag }

/-- The tail of no cluster. -/
def empty : Tail := ⟨.other, .none, .none, false⟩

/-- Whether a character joins the cluster before it. -/
def joins (t : Tail) (c : Char) : Bool :=
  match t.last, breakClass c with
  | .carriageReturn, .lineFeed => true
  | .carriageReturn, _ | .lineFeed, _ | .control, _ => false
  | _, .carriageReturn | _, .lineFeed | _, .control => false
  | _, .extending | _, .joiner | _, .spacing => true
  | .prepend, _ => true
  | .leading, .leading | .leading, .vowel | .leading, .openSyllable | .leading, .closedSyllable
  | .vowel, .vowel | .vowel, .trailing | .openSyllable, .vowel | .openSyllable, .trailing
  | .trailing, .trailing | .closedSyllable, .trailing => true
  | .flagLetter, .flagLetter => t.halfFlag
  | _, .picture => t.pictures = .ready
  | _, _ => t.consonants = .ready && isConjunct c

end Tail

/-- The rest of the cluster that has been read as far as `t` says, and the clusters behind it. -/
def clustersFrom (t : Tail) : List Char → List Char × List (List Char)
  | [] => ([], [])
  | c :: cs =>
    if t.joins c then
      let (rest, more) := clustersFrom (t.after c) cs
      (c :: rest, more)
    else
      let (rest, more) := clustersFrom (Tail.empty.after c) cs
      ([], (c :: rest) :: more)

/-- The clusters of a text. -/
def clusters : List Char → List (List Char)
  | [] => []
  | c :: cs =>
    let (rest, more) := clustersFrom (Tail.empty.after c) cs
    (c :: rest) :: more

/-! ### Nothing is lost -/

theorem clustersFrom_flatten (t : Tail) (cs : List Char) :
    (clustersFrom t cs).1 ++ (clustersFrom t cs).2.flatten = cs := by
  induction cs generalizing t with
  | nil => rfl
  | cons c cs ih =>
    rw [clustersFrom]
    split
    · simpa using ih (t.after c)
    · simpa using ih (Tail.empty.after c)

/-- The clusters of a text, one behind the other, are the text. -/
theorem clusters_flatten (cs : List Char) : (clusters cs).flatten = cs := by
  cases cs with
  | nil => rfl
  | cons c cs => simpa [clusters] using clustersFrom_flatten (Tail.empty.after c) cs

theorem ne_nil_of_mem_clustersFrom (t : Tail) (cs : List Char) :
    ∀ g ∈ (clustersFrom t cs).2, g ≠ [] := by
  induction cs generalizing t with
  | nil => simp [clustersFrom]
  | cons c cs ih =>
    rw [clustersFrom]
    split
    · exact ih (t.after c)
    · intro g hg
      rcases List.mem_cons.mp hg with rfl | hg
      · simp
      · exact ih (Tail.empty.after c) g hg

/-- No cluster is empty. -/
theorem ne_nil_of_mem_clusters (cs : List Char) : ∀ g ∈ clusters cs, g ≠ [] := by
  cases cs with
  | nil => simp [clusters]
  | cons c cs =>
    intro g hg
    rcases List.mem_cons.mp hg with rfl | hg
    · simp
    · exact ne_nil_of_mem_clustersFrom _ cs g hg

end Stepwise.Text
