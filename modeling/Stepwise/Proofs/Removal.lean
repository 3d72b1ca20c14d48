import Stepwise.Proofs.Handling
import Stepwise.Proofs.Heap

/-!
# Removing an item from a list

What `items.remove(v)` takes out. The search goes through a copy of the list, and comparing may run
functions of the script, which may change the list itself; the position that the search comes to is
used on the list as it is afterwards. So the item that compared equal goes if the list is still the
same, and otherwise whatever stands at that position, or the run breaks off
(`remove_deletes_found`).

## The model

The search is described by the comparisons that it makes, each from the machine that the one before
has left (`Differ`). The runner is arbitrary, so a comparison may do whatever it likes.
-/

namespace Stepwise

open Script

variable {σ : Type}

/-! ### Searching -/

section

variable (r : Runner σ) (v : Value)

/-- Each of some items is compared with `v`, one after the other, and none is equal. -/
inductive Differ : List Value → Machine σ → Machine σ → Prop
  | nil {m} : Differ [] m m
  | cons {x xs m m₁ m'} (differs : Gives (r.equals x v) m (.ok false) m₁)
      (rest : Differ xs m₁ m') : Differ (x :: xs) m m'

/-- How a search for an item that equals `v` ends, if the first item has the position `n`. -/
inductive Searches (n : Nat) (items : List Value) (m : Machine σ) :
    Except RuntimeError (Option Nat) → Machine σ → Prop
  | missing {m'} (passed : Differ r v items m m') : Searches n items m (.ok none) m'
  | found {before x after m₁ m'} (split : items = before ++ x :: after)
      (passed : Differ r v before m m₁) (same : Gives (r.equals x v) m₁ (.ok true) m') :
      Searches n items m (.ok (some (n + before.length))) m'
  /-- An item could not be compared. -/
  | fails {before x after m₁ e m'} (split : items = before ++ x :: after)
      (passed : Differ r v before m m₁) (failed : Gives (r.equals x v) m₁ (.error e) m') :
      Searches n items m (.error e) m'

/-- How `items.remove(v)` ends. If an item has been found, what the list has at its position by then
goes. If none has been found, or an item could not be compared, then nothing goes. -/
inductive Removes (a : Address) (items : List Value) (m : Machine σ) :
    Except RuntimeError Value → Machine σ → Prop
  | deletes {before x after m₁ m₂ now} (split : items = before ++ x :: after)
      (passed : Differ r v before m m₁) (same : Gives (r.equals x v) m₁ (.ok true) m₂)
      (list : m₂.heap.list? a = some now) (inside : before.length < now.size) :
      Removes a items m (.ok .none)
        { m₂ with heap := m₂.heap.modifyList a (·.eraseIdxIfInBounds before.length) }
  | missing {m'} (passed : Differ r v items m m') :
      Removes a items m (.error ⟨.value .removeMissing, m'.pos⟩) m'
  | fails {before x after m₁ e m'} (split : items = before ++ x :: after)
      (passed : Differ r v before m m₁) (failed : Gives (r.equals x v) m₁ (.error e) m') :
      Removes a items m (.error e) m'

end

variable {r : Runner σ} {a : Address} {v : Value} {m m₁ m₂ m' : Machine σ}
  {items now : Array Value}
  {n : Nat} {search : Except RuntimeError (Option Nat)} {out : Except RuntimeError Value}
  {xs before after : List Value} {x : Value} {ks : Keywords}

/-- A search goes on behind the items that are not equal. -/
theorem Differ.positionOf_append {before : List Value} (passed : Differ r v before m m₁)
    (rest : List Value) (n : Nat) :
    Gives (positionOf r v n (before ++ rest)) m search m' ↔
      Gives (positionOf r v (n + before.length) rest) m₁ search m' := by
  induction passed generalizing n with
  | nil => rfl
  | @cons x xs m m₁ m₂ differs _ ih =>
    rw [List.cons_append, positionOf, Gives, Gives, attempt, M.bind_ok (Gives.ok_iff.1 differs),
      List.length_cons, Nat.add_comm xs.length, ← Nat.add_assoc]
    exact ih (n + 1)

/-- A search behind an item that is not equal. -/
theorem Searches.cons (differs : Gives (r.equals x v) m (.ok false) m₁)
    (rest : Searches r v (n + 1) xs m₁ search m') :
    Searches r v n (x :: xs) m search m' := by
  cases rest with
  | missing passed => exact .missing (.cons differs passed)
  | @found before _ _ _ _ split passed same =>
    have position : n + 1 + before.length = n + (x :: before).length := by
      rw [List.length_cons, Nat.add_comm before.length, Nat.add_assoc]
    rw [position]
    exact .found (congrArg (x :: ·) split) (.cons differs passed) same
  | fails split passed failed =>
    exact .fails (congrArg (x :: ·) split) (.cons differs passed) failed

theorem searches_of_gives : ∀ {xs : List Value} {m : Machine σ} {n : Nat},
    Gives (positionOf r v n xs) m search m' → Searches r v n xs m search m'
  | [], m, n, ends => by
    obtain ⟨rfl, rfl⟩ := Gives.pure_iff.1 ends
    exact .missing .nil
  | x :: xs, m, n, ends => by
    rw [positionOf, Gives.bind_iff] at ends
    obtain ⟨same, m₁, compared, next⟩ | ⟨e, failed, rfl⟩ := ends
    · cases same with
      | true =>
        obtain ⟨rfl, rfl⟩ := Gives.pure_iff.1 next
        exact .found (List.nil_append _).symm .nil compared
      | false => exact .cons compared (searches_of_gives next)
    · exact .fails (List.nil_append _).symm .nil failed

/-- How a search ends, in terms of the comparisons that it makes. -/
theorem positionOf_gives_iff :
    Gives (positionOf r v n xs) m search m' ↔ Searches r v n xs m search m' := by
  refine ⟨searches_of_gives, fun ends => ?_⟩
  cases ends with
  | missing passed =>
    rw [← List.append_nil xs, passed.positionOf_append]
    exact Gives.pure_iff.2 ⟨rfl, rfl⟩
  | found split passed same =>
    rw [split, passed.positionOf_append, positionOf, Gives.bind_iff]
    exact .inl ⟨true, _, same, Gives.pure_iff.2 ⟨rfl, rfl⟩⟩
  | fails split passed failed =>
    rw [split, passed.positionOf_append, positionOf, Gives.bind_iff]
    exact .inr ⟨_, failed, rfl⟩

/-! ### Removing -/

theorem Heap.list?_modifyList {h : Heap} (list : h.list? a = some now)
    (f : Array Value → Array Value) : (h.modifyList a f).list? a = some (f now) := by
  rw [list?_eq_some] at list ⊢
  rw [modifyList, get?_modify, if_pos rfl, list]
  rfl

/-- What is done with the position that the search has come to. -/
theorem deleteAt_gives_iff :
    Gives (do
        if n < (← listItems a).size then
          changeList a (·.eraseIdxIfInBounds n)
          return Value.none
        else breakOff) m out m' ↔
      ∃ now, m.heap.list? a = some now ∧ n < now.size ∧ out = .ok .none ∧
        m' = { m with heap := m.heap.modifyList a (·.eraseIdxIfInBounds n) } := by
  have items : listItems a m = .ok ((m.heap.list? a).getD #[]) m := rfl
  rw [Gives, attempt, M.bind_ok items]
  by_cases inside : n < ((m.heap.list? a).getD #[]).size
  · obtain ⟨now, list⟩ : ∃ now, m.heap.list? a = some now := by
      cases list : m.heap.list? a with
      | some now => exact ⟨now, rfl⟩
      | none => rw [list] at inside; exact absurd inside (Nat.not_lt_zero n)
    rw [if_pos inside]
    rw [list] at inside
    show EStateM.Result.ok (Except.ok Value.none) _ = _ ↔ _
    rw [EStateM.Result.ok.injEq]
    constructor
    · rintro ⟨rfl, rfl⟩
      exact ⟨now, list, inside, rfl, rfl⟩
    · rintro ⟨_, _, _, rfl, rfl⟩
      exact ⟨rfl, rfl⟩
  · rw [if_neg inside]
    show EStateM.Result.error Failure.outOfFuel m = _ ↔ _
    refine iff_of_false (by simp) ?_
    rintro ⟨now, list, inside', -⟩
    exact inside (by rwa [list])

theorem remove_eq (list : m.heap.list? a = some now) :
    Gives (listMethod r a "remove" [v] ks) m out m' ↔
      Gives (positionOf r v 0 now.toList >>= fun
        | some n => do
          if n < (← listItems a).size then
            changeList a (·.eraseIdxIfInBounds n)
            return Value.none
          else breakOff
        | none => fail (.value .removeMissing)) m out m' := by
  have items : listItems a m = .ok now m := by
    show EStateM.Result.ok ((m.heap.list? a).getD #[]) m = _
    rw [list]
    rfl
  have opened : Gives (listMethod r a "remove" [v] ks) m out m' ↔
      Gives (listRemove r a v) m out m' := Iff.rfl
  rw [opened, listRemove, Gives, attempt, M.bind_ok items]
  rfl

/-- How `items.remove(v)` ends once an item has been found. -/
theorem remove_found_iff (list : m.heap.list? a = some items)
    (split : items.toList = before ++ x :: after)
    (passed : Differ r v before m m₁) (same : Gives (r.equals x v) m₁ (.ok true) m₂) :
    Gives (listMethod r a "remove" [v] ks) m out m' ↔
      ∃ now, m₂.heap.list? a = some now ∧ before.length < now.size ∧ out = .ok .none ∧
        m' =
          { m₂ with heap := m₂.heap.modifyList a (·.eraseIdxIfInBounds before.length) } := by
  have search := positionOf_gives_iff.2 (.found (n := 0) split passed same)
  rw [Nat.zero_add] at search
  rw [remove_eq list, Gives, attempt, M.bind_ok (Gives.ok_iff.1 search)]
  exact deleteAt_gives_iff

/-- How `items.remove(v)` ends, in terms of the comparisons that it makes. -/
theorem remove_gives_iff (list : m.heap.list? a = some items) :
    Gives (listMethod r a "remove" [v] ks) m out m' ↔ Removes r v a items.toList m out m' := by
  constructor
  · intro ends
    obtain ⟨found, m₁, search, next⟩ | ⟨e, search, rfl⟩ :=
      Gives.bind_iff.1 ((remove_eq list).1 ends)
    · cases positionOf_gives_iff.1 search with
      | missing passed =>
        obtain ⟨rfl, rfl⟩ := Gives.fail_iff.1 next
        exact .missing passed
      | found split passed same =>
        obtain ⟨now, here, inside, rfl, rfl⟩ := (remove_found_iff list split passed same).1 ends
        exact .deletes split passed same here inside
    · cases positionOf_gives_iff.1 search with
      | fails split passed failed => exact .fails split passed failed
  · intro ends
    cases ends with
    | deletes split passed same here inside =>
      exact (remove_found_iff list split passed same).2 ⟨_, here, inside, rfl, rfl⟩
    | missing passed =>
      refine (remove_eq list).2 (Gives.bind_iff.2 (.inl ⟨none, m', ?_, ?_⟩))
      · exact positionOf_gives_iff.2 (.missing passed)
      · exact Gives.fail_iff.2 ⟨rfl, rfl⟩
    | fails split passed failed =>
      refine (remove_eq list).2 (Gives.bind_iff.2 (.inr ⟨_, ?_, rfl⟩))
      exact positionOf_gives_iff.2 (.fails split passed failed)

/-- What `items.remove(v)` deletes: it compares the items one by one with `v`, up to the first that
is equal, and deletes nothing if there is none or an item cannot be compared. Wherever the item that
was equal still stands at its position after the comparisons, it is what goes, and nothing else
changes. The run breaks off exactly if the list has become too short to have that position. -/
theorem remove_deletes_found (list : m.heap.list? a = some items) :
    (∀ out m', Gives (listMethod r a "remove" [v] ks) m out m' ↔
        Removes r v a items.toList m out m') ∧
      ∀ before x after m₁ m₂ now, items.toList = before ++ x :: after →
        Differ r v before m m₁ → Gives (r.equals x v) m₁ (.ok true) m₂ →
        m₂.heap.list? a = some now →
        ((∃ out m', Gives (listMethod r a "remove" [v] ks) m out m') ↔
            before.length < now.size) ∧
          ∀ front back, now.toList = front ++ x :: back → front.length = before.length →
            ∃ h left,
              Gives (listMethod r a "remove" [v] ks) m (.ok .none) { m₂ with heap := h } ∧
              h.list? a = some left ∧ left.toList = front ++ back ∧
              (∀ b ≠ a, h.get? b = m₂.heap.get? b) ∧ h.marks = m₂.heap.marks := by
  refine ⟨fun out m' => remove_gives_iff list, ?_⟩
  intro before x after m₁ m₂ now split passed same here
  constructor
  · constructor
    · rintro ⟨out, m', ends⟩
      obtain ⟨now', here', inside, -⟩ := (remove_found_iff list split passed same).1 ends
      rw [here] at here'
      cases here'
      exact inside
    · intro inside
      exact ⟨_, _, (remove_found_iff list split passed same).2 ⟨now, here, inside, rfl, rfl⟩⟩
  · intro front back stands position
    have inside : before.length < now.size := by
      rw [← Array.length_toList, stands, ← position, List.length_append, List.length_cons]
      omega
    refine ⟨_, _, (remove_found_iff list split passed same).2 ⟨now, here, inside, rfl, rfl⟩,
      Heap.list?_modifyList here _, ?_, fun b other => ?_, Heap.marks_modify ..⟩
    · rw [Array.eraseIdxIfInBounds, dif_pos inside, Array.toList_eraseIdx, stands, ← position,
        List.eraseIdx_append_of_length_le (Nat.le_refl _), Nat.sub_self, List.eraseIdx_cons_zero]
    · rw [Heap.modifyList, Heap.get?_modify, if_neg other.symm]

/-- `[1, 2, 3].remove(2)` -/
theorem remove_deletes_found_two :
    let m : Machine Unit :=
      { Machine.start () with heap := ⟨#[some (.list #[.int 1, .int 2, .int 3])], 0⟩ }
    ∃ h left, Gives (listMethod (quiet 1) Heap.base "remove" [.int 2] []) m (.ok .none)
        { m with heap := h } ∧
      h.list? Heap.base = some left ∧ left.toList = [.int 1, .int 3] := by
  intro m
  have list : m.heap.list? Heap.base = some #[.int 1, .int 2, .int 3] := rfl
  have passed : Differ (quiet 1) (.int 2) [.int 1] m m := .cons rfl .nil
  obtain ⟨-, deletes⟩ := (remove_deletes_found list).2 [.int 1] (.int 2) [.int 3] m m _ rfl
    passed rfl list
  obtain ⟨h, left, ends, here, rest, -⟩ := deletes [.int 1] [.int 3] rfl rfl
  exact ⟨h, left, ends, here, rest⟩

end Stepwise
