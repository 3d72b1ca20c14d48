import Stepwise.Picture.Plain
import Stepwise.Proofs.Endless
import Stepwise.Proofs.Legible
import Stepwise.Proofs.Literal
import Stepwise.Proofs.Tables

/-!
# Dictionaries in a picture

Which members a dictionary is shown with (`dict_shown`). Each entry becomes one member, in the
order of the entries, with its value as that value is shown; but a member takes the place of an
earlier one of the same name, so an entry is lost exactly if a later one has the same name. Keys
that are no texts are told apart by how they are spelt, so with keys of the kinds whose text tells
the key, a loss needs a key that is a text and spells another one: as with `1` and `"1"`.

## The model

The text of a value in front of anything else tells the value, as far as dictionaries tell values
apart, and where the text ends (`Value.spelling_inj`). This leaves out doubles, and things that are
shown by a name, which others may have as well.
-/

namespace Stepwise

open Text Json

variable {h : Heap} {v w : Value} {s : String} {rest rest' : List Char} {as : List Address}
  {fuel : Nat}

/-- What a function makes of each item of a list, if it makes something of all of them. -/
theorem mapM_eq_some {α β : Type} {f : α → Option β} {xs : List α} {ys : List β} :
    xs.mapM f = some ys ↔ List.Forall₂ (fun x y => f x = some y) xs ys := by
  induction xs generalizing ys with
  | nil => simp [eq_comm]
  | cons x xs ih =>
    simp only [List.mapM_cons, List.forall₂_cons_left_iff, ← ih, Option.bind_eq_bind,
      Option.bind_eq_some_iff]
    constructor
    · rintro ⟨y, hy, ys', hys, eq⟩
      cases eq
      exact ⟨y, ys', hy, hys, rfl⟩
    · rintro ⟨y, ys', hy, hys, rfl⟩
      exact ⟨y, hy, ys', hys, rfl⟩

/-- What follows for any two items of a list from what they stand for. -/
theorem pairwise_of_forall₂ {α β : Type} {R : α → β → Prop} {S : α → α → Prop} {T : β → β → Prop}
    {xs : List α} {ys : List β} (related : List.Forall₂ R xs ys) (apart : xs.Pairwise S)
    (carry : ∀ x ∈ xs, ∀ x' ∈ xs, ∀ y y', S x x' → R x y → R x' y' → T y y') :
    ys.Pairwise T := by
  obtain ⟨length, related⟩ := List.forall₂_iff_get.1 related
  rw [List.pairwise_iff_getElem] at apart ⊢
  intro i j hi' hj' lt
  have hi : i < xs.length := length ▸ hi'
  have hj : j < xs.length := length ▸ hj'
  exact carry _ (List.getElem_mem hi) _ (List.getElem_mem hj) _ _ (apart i j hi hj lt)
    (related i hi hi') (related j hj hj')

/-! ### Values that their text tells -/

namespace Value

mutual

/-- Values that are written out in their text: no doubles, no built-ins and nothing on the heap,
also not inside. -/
def isSpelt : Value → Bool
  | .none | .bool _ | .int _ | .str _ | .range _ _ _ => true
  | .tuple _ items => areSpelt items
  | .float _ | .builtin _ | .ref _ => false

/-- Whether all of some values are written out in their texts. -/
def areSpelt : List Value → Bool
  | [] => true
  | v :: vs => isSpelt v && areSpelt vs

end

mutual

/-- The text of a value that is written out in it. -/
def spelling : Value → List Char
  | .tuple _ [] => ['(', ')']
  | .tuple _ (v :: vs) =>
    '(' :: (spelling v ++ (if vs.isEmpty then [','] else []) ++ furtherSpelling vs)
  | v => (Heap.leafText v).toList

/-- The texts of the further items of a tuple, and its end. -/
def furtherSpelling : List Value → List Char
  | [] => [')']
  | v :: vs => ',' :: ' ' :: (spelling v ++ furtherSpelling vs)

end

/-- The text of some items of a tuple but the first one. -/
theorem further_eq {ts : List String} {vs : List Value}
    (spelt : List.Forall₂ (fun v t => t.toList = spelling v) vs ts) :
    ts.flatMap (fun t => ',' :: ' ' :: t.toList) ++ [')'] = furtherSpelling vs := by
  induction spelt with
  | nil => rfl
  | cons first _ ih => simp [furtherSpelling, ← ih, first]

theorem toList_intercalate (t : String) (ts : List String) :
    (String.intercalate ", " (t :: ts)).toList =
      t.toList ++ ts.flatMap fun t => ',' :: ' ' :: t.toList := by
  induction ts generalizing t with
  | nil => simp
  | cons u ts ih =>
    rw [String.intercalate_cons_cons, String.toList_append, String.toList_append, ih]
    simp

theorem toList_tupleText (mark : Nat) {ts : List String} {vs : List Value}
    (spelt : List.Forall₂ (fun v t => t.toList = spelling v) vs ts) :
    (Heap.tupleText ts).toList = spelling (.tuple mark vs) := by
  cases spelt with
  | nil => rfl
  | @cons v t vs ts first others =>
    cases others with
    | nil => simp [Heap.tupleText, spelling, furtherSpelling, first]
    | @cons w u vs ts second others =>
      have further := further_eq (.cons second others)
      have text : Heap.tupleText (t :: u :: ts) =
        "(" ++ String.intercalate ", " (t :: u :: ts) ++ ")" := rfl
      rw [text, String.toList_append, String.toList_append, toList_intercalate, first, spelling,
        List.isEmpty_cons, if_neg Bool.false_ne_true, ← further]
      simp

mutual

/-- The text of a value is how it is spelt. -/
theorem toList_repr : ∀ {v : Value} {fuel : Nat} {s : String}, v.isSpelt = true →
    h.reprIn as fuel v = some s → s.toList = spelling v
  | v, 0, s, _, hs => by
    cases v <;> cases hs
  | .tuple mark items, fuel + 1, s, spelt, hs => by
    rw [Heap.reprIn] at hs
    obtain ⟨parts, texts, hs⟩ := Option.bind_eq_some_iff.1 hs
    cases hs
    exact toList_tupleText mark (toList_reprs spelt texts)
  | .none, fuel + 1, s, _, hs | .bool _, fuel + 1, s, _, hs | .int _, fuel + 1, s, _, hs
  | .str _, fuel + 1, s, _, hs | .range _ _ _, fuel + 1, s, _, hs => by
    cases hs
    rfl

theorem toList_reprs : ∀ {vs : List Value} {fuel : Nat} {ts : List String},
    areSpelt vs = true → vs.mapM (h.reprIn as fuel) = some ts →
    List.Forall₂ (fun v t => t.toList = spelling v) vs ts
  | [], _, ts, _, hts => by
    cases hts
    exact .nil
  | v :: vs, fuel, ts, spelt, hts => by
    obtain ⟨first, others⟩ := Bool.and_eq_true_iff.1 spelt
    rw [List.mapM_cons] at hts
    obtain ⟨t, ht, hts⟩ := Option.bind_eq_some_iff.1 hts
    obtain ⟨ts', hts', hts⟩ := Option.bind_eq_some_iff.1 hts
    cases hts
    exact .cons (toList_repr first ht) (toList_reprs others hts')

end

/-- The forms of the values that are written out. -/
def form : Value → Nat
  | .none => 0
  | .bool _ => 1
  | .int _ => 2
  | .str _ => 3
  | .range _ _ _ => 4
  | .tuple _ _ => 5
  | .float _ | .builtin _ | .ref _ => 6

/-- The form of a value whose text has `c` in front, or the name of the member that it names. -/
def formAt (c : Char) : Nat :=
  if c = 'N' ∨ c = 'n' then 0
  else if c = 'T' ∨ c = 'F' ∨ c = 't' ∨ c = 'f' then 1
  else if c = '\'' ∨ c = '"' then 3
  else if c = 'r' then 4
  else if c = '(' then 5
  else 2

theorem intText_head (n : Int) : ∃ c cs, (intText n).toList = c :: cs ∧ formAt c = 2 ∧ c ≠ ')' := by
  have digit : ∀ c : Char, c.isDigit = true → formAt c = 2 ∧ c ≠ ')' := by
    intro c hc
    have ne : ∀ d : Char, d.isDigit = false → c ≠ d := by
      rintro d hd rfl
      rw [hc] at hd
      cases hd
    refine ⟨?_, ne _ rfl⟩
    simp [formAt, ne 'N' rfl, ne 'n' rfl, ne 'T' rfl, ne 'F' rfl, ne 't' rfl, ne 'f' rfl,
      ne '\'' rfl, ne '"' rfl, ne 'r' rfl, ne '(' rfl]
  unfold intText
  split
  · exact ⟨'-', _, String.toList_append .., by decide, by decide⟩
  · have all := isDigit_of_mem_natText n.natAbs
    rcases natText_head n.natAbs with eq | ⟨c, cs, eq, -⟩
    · exact ⟨'0', [], eq, by decide, by decide⟩
    · exact ⟨c, cs, eq, digit c (all c (by simp [eq]))⟩

/-- How a range goes on behind its bounds. -/
def stepSpelling (step : Int) : List Char :=
  if step = 1 then [] else ',' :: ' ' :: (intText step).toList

theorem spelling_range (start stop step : Int) : (range start stop step).spelling =
    "range(".toList ++ ((intText start).toList ++ ',' :: ' ' :: ((intText stop).toList ++
      (stepSpelling step ++ [')']))) := by
  simp only [spelling, Heap.leafText, String.toList_append, stepSpelling, List.append_assoc]
  split <;> simp

/-- The first character of a text tells the form of the value. -/
theorem spelling_head {v : Value} (spelt : v.isSpelt = true) :
    ∃ c cs, v.spelling = c :: cs ∧ formAt c = v.form ∧ c ≠ ')' := by
  cases v with
  | none => exact ⟨'N', "one".toList, rfl, rfl, by decide⟩
  | bool b =>
    cases b with
    | true => exact ⟨'T', "rue".toList, rfl, rfl, by decide⟩
    | false => exact ⟨'F', "alse".toList, rfl, rfl, by decide⟩
  | int n => exact intText_head n
  | str s =>
    refine ⟨_, _, Script.toList_literal s, ?_⟩
    rcases Script.literalQuote_isQuote s.toList with eq | eq <;> rw [eq] <;>
      exact ⟨rfl, by decide⟩
  | range start stop step =>
    exact ⟨'r', _, spelling_range start stop step, rfl, by decide⟩
  | tuple _ items => cases items <;> exact ⟨'(', _, rfl, rfl, by decide⟩
  | float | builtin | ref => cases spelt

theorem intText_inj {n n' : Int} (stops : Stops rest) (stops' : Stops rest')
    (same : (intText n).toList ++ rest = (intText n').toList ++ rest') : n = n' ∧ rest = rest' := by
  have read := numeral?_append stops (numeral?_intText n)
  rw [same, numeral?_append stops' (numeral?_intText n')] at read
  simp only [List.nil_append, Option.some.injEq, Prod.mk.injEq, Numeral.mk.injEq,
    decide_eq_decide] at read
  obtain ⟨⟨sign, digits, -⟩, rests⟩ := read
  have abs := congrArg (natOfDigits 10) digits
  rw [natOfDigits_natText, natOfDigits_natText] at abs
  exact ⟨by omega, rests.symm⟩

theorem literal_inj {s t : String}
    (same : (literal s).toList ++ rest = (literal t).toList ++ rest') : s = t ∧ rest = rest' := by
  have read (s : String) (rest : List Char) :=
    Script.stringBody_literal (Script.literalQuote_isQuote s.toList) rest s.toList
  rw [Script.toList_literal, Script.toList_literal] at same
  simp only [List.cons_append, List.append_assoc, List.nil_append, List.cons.injEq] at same
  obtain ⟨quote, body⟩ := same
  have first := read s rest
  rw [show s.toList.flatMap (literalChar (literalQuote s.toList)) = Script.literalBody s from rfl,
    body, quote] at first
  obtain ⟨chars, rests⟩ := Prod.mk.inj (Except.ok.inj (first.symm.trans (read t rest')))
  exact ⟨String.toList_injective chars, rests⟩

theorem stops_close (cs : List Char) : Stops (')' :: cs) := by simp [Stops]

theorem stops_step (step : Int) : Stops (stepSpelling step ++ ([')'] ++ rest)) := by
  unfold stepSpelling
  split <;> simp [Stops]

theorem step_inj {step step' : Int}
    (same : stepSpelling step ++ ([')'] ++ rest) = stepSpelling step' ++ ([')'] ++ rest')) :
    step = step' ∧ rest = rest' := by
  unfold stepSpelling at same
  split at same <;> split at same <;> simp only [List.nil_append, List.cons_append,
    List.cons.injEq, true_and] at same
  case isTrue.isTrue one one' => exact ⟨one.trans one'.symm, same⟩
  case isTrue.isFalse => exact absurd same.1 (by decide)
  case isFalse.isTrue => exact absurd same.1 (by decide)
  case isFalse.isFalse =>
    obtain ⟨steps, rests⟩ := intText_inj (stops_close _) (stops_close _) same
    exact ⟨steps, (List.cons.inj rests).2⟩

theorem range_inj {a b c a' b' c' : Int}
    (same : (range a b c).spelling ++ rest = (range a' b' c').spelling ++ rest') :
    (a = a' ∧ b = b' ∧ c = c') ∧ rest = rest' := by
  simp only [spelling_range, List.append_assoc, List.cons_append] at same
  have bounds := List.append_cancel_left same
  obtain ⟨starts, same⟩ := intText_inj (Raw.stops_comma _) (Raw.stops_comma _) bounds
  simp only [List.cons.injEq, true_and] at same
  obtain ⟨stops, same⟩ := intText_inj (stops_step _) (stops_step _) same
  obtain ⟨steps, rests⟩ := step_inj same
  exact ⟨⟨starts, stops, steps⟩, rests⟩

theorem stops_further (vs : List Value) : Stops (furtherSpelling vs ++ rest) := by
  cases vs <;> simp [furtherSpelling, Stops]

/-- The first item of a tuple ends where its text does. -/
theorem stops_first (vs : List Value) :
    Stops ((if vs.isEmpty then [','] else []) ++ (furtherSpelling vs ++ rest)) := by
  cases vs <;> simp [furtherSpelling, Stops]

/-- Behind the first item of a tuple one sees whether there is another one. -/
theorem further_of_first {vs ws : List Value}
    (same : (if vs.isEmpty then [','] else []) ++ (furtherSpelling vs ++ rest) =
      (if ws.isEmpty then [','] else []) ++ (furtherSpelling ws ++ rest')) :
    furtherSpelling vs ++ rest = furtherSpelling ws ++ rest' := by
  cases vs <;> cases ws <;> simp_all [furtherSpelling]

mutual

/-- Two values whose texts agree, whatever follows on them, are one key, and the same follows. -/
theorem spelling_inj {v w : Value} {rest rest' : List Char} (hv : v.isSpelt = true)
    (hw : w.isSpelt = true) (stops : Stops rest) (stops' : Stops rest')
    (same : v.spelling ++ rest = w.spelling ++ rest') : h.key? v = h.key? w ∧ rest = rest' := by
  have form : v.form = w.form := by
    obtain ⟨c, cs, eq, form, -⟩ := spelling_head hv
    obtain ⟨c', cs', eq', form', -⟩ := spelling_head hw
    rw [eq, eq'] at same
    exact form.symm.trans ((congrArg formAt (List.cons.inj same).1).trans form')
  cases v with
  | none =>
    cases w with
    | none => exact ⟨rfl, List.append_cancel_left same⟩
    | _ => cases form
  | bool b =>
    cases w with
    | bool b' =>
      cases b <;> cases b' <;>
        first
        | exact ⟨rfl, List.append_cancel_left same⟩
        | exact absurd (List.cons.inj same).1 (by decide)
    | _ => cases form
  | int n =>
    cases w with
    | int n' =>
      obtain ⟨rfl, rests⟩ := intText_inj stops stops' same
      exact ⟨rfl, rests⟩
    | _ => cases form
  | str s =>
    cases w with
    | str t =>
      obtain ⟨rfl, rests⟩ := literal_inj same
      exact ⟨rfl, rests⟩
    | _ => cases form
  | range =>
    cases w with
    | range =>
      obtain ⟨⟨rfl, rfl, rfl⟩, rests⟩ := range_inj same
      exact ⟨rfl, rests⟩
    | _ => cases form
  | tuple mark vs =>
    cases w with
    | tuple mark' ws =>
      obtain ⟨keys, rests⟩ := tuple_inj hv hw same
      exact ⟨congrArg (Option.map Key.tuple) keys, rests⟩
    | _ => cases form
  | float | builtin | ref => cases hv

theorem tuple_inj {vs ws : List Value} {mark mark' : Nat} {rest rest' : List Char}
    (hv : areSpelt vs = true) (hw : areSpelt ws = true)
    (same : (tuple mark vs).spelling ++ rest = (tuple mark' ws).spelling ++ rest') :
    h.keys? vs = h.keys? ws ∧ rest = rest' := by
  cases vs with
  | nil =>
    cases ws with
    | nil => exact ⟨rfl, List.append_cancel_left same⟩
    | cons w ws =>
      obtain ⟨c, cs, eq, -, open_⟩ := spelling_head (Bool.and_eq_true_iff.1 hw).1
      simp [spelling, eq] at same
      exact absurd same.1.symm open_
  | cons v vs =>
    obtain ⟨c, cs, eq, -, open_⟩ := spelling_head (Bool.and_eq_true_iff.1 hv).1
    cases ws with
    | nil =>
      simp [spelling, eq] at same
      exact absurd same.1 open_
    | cons w ws =>
      simp only [spelling, List.cons_append, List.cons.injEq, true_and, List.append_assoc] at same
      obtain ⟨first, others⟩ := Bool.and_eq_true_iff.1 hv
      obtain ⟨first', others'⟩ := Bool.and_eq_true_iff.1 hw
      obtain ⟨key, same⟩ := spelling_inj first first' (stops_first vs) (stops_first ws) same
      obtain ⟨keys, rests⟩ := furtherSpelling_inj others others' (further_of_first same)
      exact ⟨by rw [Heap.keys?, Heap.keys?, key, keys], rests⟩

theorem furtherSpelling_inj {vs ws : List Value} {rest rest' : List Char}
    (hv : areSpelt vs = true) (hw : areSpelt ws = true)
    (same : furtherSpelling vs ++ rest = furtherSpelling ws ++ rest') :
    h.keys? vs = h.keys? ws ∧ rest = rest' := by
  cases vs with
  | nil =>
    cases ws with
    | nil => exact ⟨rfl, List.append_cancel_left same⟩
    | cons w ws => exact absurd (List.cons.inj same).1 (by decide)
  | cons v vs =>
    cases ws with
    | nil => exact absurd (List.cons.inj same).1 (by decide)
    | cons w ws =>
      simp only [furtherSpelling, List.cons_append, List.cons.injEq, true_and,
        List.append_assoc] at same
      obtain ⟨first, others⟩ := Bool.and_eq_true_iff.1 hv
      obtain ⟨first', others'⟩ := Bool.and_eq_true_iff.1 hw
      obtain ⟨key, same⟩ := spelling_inj first first' (stops_further vs) (stops_further ws) same
      obtain ⟨keys, rests⟩ := furtherSpelling_inj others others' same
      exact ⟨by rw [Heap.keys?, Heap.keys?, key, keys], rests⟩

end

end Value

/-! ### Names of members -/

theorem Value.asStr?_eq_some : v.asStr? = some s ↔ v = .str s := by
  cases v <;> simp [asStr?]

/-- What a key that is no text is called: `none` and truth values as in JSON, and else as they are
spelt. -/
theorem Heap.memberName?_spelt (spelt : v.isSpelt = true) (other : v.asStr? = none)
    (name : h.memberName? fuel v = some s) :
    s.toList = v.spelling ∨ (v = .none ∧ s = "null") ∨
      ∃ b, v = .bool b ∧ s = if b then "true" else "false" := by
  cases v with
  | none =>
    cases name
    exact .inr (.inl ⟨rfl, rfl⟩)
  | bool b =>
    cases name
    exact .inr (.inr ⟨b, rfl, rfl⟩)
  | int n =>
    cases name
    exact .inl rfl
  | str t => cases other
  | range | tuple => exact .inl (Value.toList_repr spelt name)
  | float | builtin | ref => cases spelt

/-- The first character of a name tells the form of the key, unless that is a text. -/
theorem Heap.memberName?_head (spelt : v.isSpelt = true) (other : v.asStr? = none)
    (name : h.memberName? fuel v = some s) :
    ∃ c cs, s.toList = c :: cs ∧ Value.formAt c = v.form := by
  obtain same | ⟨rfl, rfl⟩ | ⟨b, rfl, rfl⟩ := memberName?_spelt spelt other name
  · obtain ⟨c, cs, eq, form, -⟩ := Value.spelling_head spelt
    exact ⟨c, cs, same.trans eq, form⟩
  · exact ⟨'n', _, rfl, rfl⟩
  · cases b
    · exact ⟨'f', _, rfl, rfl⟩
    · exact ⟨'t', _, rfl, rfl⟩

theorem boolName_inj : ∀ {b b' : Bool},
    (if b then "true" else "false") = (if b' then "true" else "false") → b = b' := by
  decide

theorem Heap.memberName?_inj_other (hv : v.isSpelt = true) (hw : w.isSpelt = true)
    (other : v.asStr? = none) (other' : w.asStr? = none) (name : h.memberName? fuel v = some s)
    (name' : h.memberName? fuel w = some s) : h.key? v = h.key? w := by
  have form : v.form = w.form := by
    obtain ⟨c, cs, eq, form⟩ := memberName?_head hv other name
    obtain ⟨c', cs', eq', form'⟩ := memberName?_head hw other' name'
    rw [eq] at eq'
    exact form.symm.trans ((congrArg Value.formAt (List.cons.inj eq').1).trans form')
  obtain same | ⟨rfl, rfl⟩ | ⟨b, rfl, rfl⟩ := memberName?_spelt hv other name
  · obtain same' | ⟨rfl, rfl⟩ | ⟨b, rfl, rfl⟩ := memberName?_spelt hw other' name'
    · have stops : Stops [] := by simp [Stops]
      refine (Value.spelling_inj hv hw stops stops ?_).1
      rw [← same, ← same']
    · cases v with
      | none => rfl
      | _ => cases form
    · cases v with
      | bool b' => rw [boolName_inj (Option.some.inj name)]
      | _ => cases form
  · cases w with
    | none => rfl
    | _ => cases form
  · cases w with
    | bool b' => rw [boolName_inj (Option.some.inj name')]
    | _ => cases form

/-- Keys with one name are one key if both of them are texts, or neither is. -/
theorem Heap.memberName?_inj (hv : v.isSpelt = true) (hw : w.isSpelt = true)
    (kind : v.asStr?.isSome = w.asStr?.isSome) (name : h.memberName? fuel v = some s)
    (name' : h.memberName? fuel w = some s) : h.key? v = h.key? w := by
  cases text : v.asStr? with
  | none =>
    rw [text, eq_comm, Option.isSome_none, Option.isSome_eq_false_iff, Option.isNone_iff_eq_none]
      at kind
    exact memberName?_inj_other hv hw text kind name name'
  | some t =>
    rw [text, eq_comm] at kind
    obtain ⟨t', text'⟩ := Option.isSome_iff_exists.1 kind
    cases v <;> cases text
    cases w <;> cases text'
    cases name
    cases name'
    rfl

/-! ### Members -/

/-- The members that the entries of a dictionary at `a` become, inside the objects `around`. -/
def Heap.Becomes (h : Heap) (around : List Address) (fuel : Nat) (a : Address)
    (es : List (Value × Value)) (ms : List (String × Json)) : Prop :=
  List.Forall₂ (fun e m => h.memberName? fuel e.1 = some m.1 ∧
    h.plainIn (a :: around) fuel e.2 = some m.2) es ms

variable {around : List Address} {a : Address} {t : Table}

theorem Heap.plainIn_dict (dict : h.get? a = some (.dict t)) (outer : a ∉ around) {j : Json} :
    h.plainIn around (fuel + 1) (.ref a) = some j ↔
      ∃ ms, h.Becomes around fuel a t.pairs ms ∧ j = .obj (Ordered.ofList ms).entries := by
  have new : around.contains a = false := by simpa using outer
  simp only [plainIn, dict, new, Bool.false_eq_true, if_false]
  constructor
  · intro shown
    obtain ⟨ms, members, shown⟩ := Option.bind_eq_some_iff.1 shown
    cases shown
    refine ⟨ms, (mapM_eq_some.1 members).imp fun e m one => ?_, rfl⟩
    obtain ⟨name, hn, one⟩ := Option.bind_eq_some_iff.1 one
    obtain ⟨value, hv, one⟩ := Option.bind_eq_some_iff.1 one
    cases one
    exact ⟨hn, hv⟩
  · rintro ⟨ms, becomes, rfl⟩
    refine Option.bind_eq_some_iff.2 ⟨ms, mapM_eq_some.2 (becomes.imp fun e m one => ?_), rfl⟩
    exact Option.bind_eq_some_iff.2 ⟨m.1, one.1, Option.bind_eq_some_iff.2 ⟨m.2, one.2, rfl⟩⟩

/-- Entries with keys that are written out become members with different names, unless one of the
keys is a text and spells another one. -/
theorem Heap.Becomes.nodup {ms : List (String × Json)} (filed : h.Filed)
    (dict : h.get? a = some (.dict t)) (becomes : h.Becomes around fuel a t.pairs ms)
    (spelt : ∀ e ∈ t.pairs, e.1.isSpelt = true)
    (unspelt : ∀ e ∈ t.pairs, ∀ e' ∈ t.pairs, ∀ s, e.1 = .str s → e'.1.asStr? = none →
      h.memberName? fuel e'.1 ≠ some s) : (ms.map (·.1)).Nodup := by
  have apart : t.pairs.Pairwise fun e e' => h.key? e.1 ≠ h.key? e'.1 := by
    have table : h.table? a = some t := Heap.table?_eq_some.2 (.inl dict)
    have keyed := filed.keyed table
    refine List.pairwise_map.2 (List.Pairwise.imp_of_mem ?_ (List.pairwise_map.1 t.distinct))
    intro e e' he he' ne same
    rw [keyed e he, keyed e' he'] at same
    exact ne (Option.some.inj same)
  rw [List.Nodup, List.pairwise_map]
  refine pairwise_of_forall₂ becomes apart ?_
  rintro e he e' he' m m' key ⟨hm, -⟩ ⟨hm', -⟩ same
  rw [← same] at hm'
  refine key (memberName?_inj (spelt e he) (spelt e' he') ?_ hm hm')
  cases text : e.1.asStr? with
  | none =>
    cases text' : e'.1.asStr? with
    | none => rfl
    | some s =>
      have eq := Value.asStr?_eq_some.1 text'
      rw [eq] at hm'
      cases hm'
      exact absurd hm (unspelt e' he' e he _ eq text)
  | some s =>
    cases text' : e'.1.asStr? with
    | none =>
      have eq := Value.asStr?_eq_some.1 text
      rw [eq] at hm
      cases hm
      exact absurd hm' (unspelt e he e' he' _ eq text')
    | some s' => rfl

/-- A value that is not endless is shown, within a bound that the heap sets. -/
theorem plain?_isSome {σ : Type} {m : Machine σ} (finite : ¬m.Endless ⟨.json, v⟩)
    (le : m.heap.room v ≤ fuel) : (m.heap.plain? fuel v).isSome = true := by
  rw [Machine.endless_iff] at finite
  have fits := m.fits (Nat.add_le_add_right (Nat.le_max_left m.heap.nesting v.nesting) 3)
  have shallow : Job.depth ⟨.json, v⟩ ≤ max m.heap.nesting v.nesting + 3 := by
    show v.nesting + 1 ≤ _
    omega
  rw [Heap.room, ← Machine.length_sites] at le
  exact (Machine.isSome_plainIn (by simp)).2 (fits.ends_of_room finite shallow le)

/-- Which members a dictionary is shown with: those that its entries become, in their order, but
one for each name, with the value of the last entry of this name. So no entry is lost exactly if
the names differ; and names of keys that are written out in their texts differ, unless one of the
keys is a text and spells another one, which is none. A dictionary that is not endless is shown. -/
theorem dict_shown {σ : Type} {m : Machine σ} (dict : m.heap.get? a = some (.dict t))
    (outer : a ∉ around) :
    (∀ fuel j, m.heap.plainIn around (fuel + 1) (.ref a) = some j ↔
        ∃ ms, m.heap.Becomes around fuel a t.pairs ms ∧ j = .obj (Ordered.ofList ms).entries) ∧
      (∀ fuel ms, m.heap.Becomes around fuel a t.pairs ms →
        (Ordered.ofList ms).keys = (ms.map (·.1)).eraseDups ∧
          (∀ name, (Ordered.ofList ms).get? name = Ordered.find? name ms.reverse) ∧
          ((Ordered.ofList ms).entries = ms ↔ (ms.map (·.1)).Nodup) ∧
          (m.heap.Filed → (∀ e ∈ t.pairs, e.1.isSpelt = true) →
            (∀ e ∈ t.pairs, ∀ e' ∈ t.pairs, ∀ s, e.1 = .str s → e'.1.asStr? = none →
              m.heap.memberName? fuel e'.1 ≠ some s) →
            (Ordered.ofList ms).entries = ms)) ∧
      (¬m.Endless ⟨.json, .ref a⟩ → ∀ fuel, m.heap.room (.ref a) ≤ fuel →
        (m.heap.plain? fuel (.ref a)).isSome = true) := by
  refine ⟨fun fuel j => Heap.plainIn_dict dict outer, fun fuel ms becomes => ?_,
    fun finite fuel => plain?_isSome finite⟩
  have kept : (Ordered.ofList ms).entries = ms ↔ (ms.map (·.1)).Nodup :=
    ⟨fun same => same ▸ (Ordered.ofList ms).distinct, Ordered.entries_ofList⟩
  exact ⟨Ordered.keys_ofList ms, Ordered.get?_ofList ms, kept,
    fun filed spelt unspelt => kept.2 (becomes.nodup filed dict spelt unspelt)⟩

/-- `{1: "a", None: "b"}` is shown with two members. -/
theorem dict_shown_two :
    let t : Table :=
      ⟨[(.int 1, .int 1, .str "a"), (.none, .none, .str "b")], by decide⟩
    let m : Machine Unit := { Machine.start () with heap := ⟨#[some (.dict t)], 0⟩ }
    m.heap.get? Heap.base = some (.dict t) ∧ m.heap.plainIn [] 2 (.ref Heap.base) =
      some (.obj [("1", .str "a"), ("null", .str "b")]) := by
  intro t m
  have dict : m.heap.get? Heap.base = some (.dict t) := rfl
  have becomes : m.heap.Becomes [] 1 Heap.base t.pairs
      [("1", .str "a"), ("null", .str "b")] :=
    .cons ⟨rfl, rfl⟩ (.cons ⟨rfl, rfl⟩ .nil)
  have shown := dict_shown dict (List.not_mem_nil (a := Heap.base))
  have kept := (shown.2.1 1 _ becomes).2.2.1.2 (by decide)
  refine ⟨dict, (shown.1 1 _).2 ⟨_, becomes, ?_⟩⟩
  rw [kept]

/-- In `{1: "a", "1": "b"}` the first entry is lost: its name is spelt by the second key. -/
example :
    let t : Table :=
      ⟨[(.int 1, .int 1, .str "a"), (.str "1", .str "1", .str "b")], by decide⟩
    let h : Heap := ⟨#[some (.dict t)], 0⟩
    h.plainIn [] 2 (.ref Heap.base) = some (.obj [("1", .str "b")]) := rfl

end Stepwise
