import Mathlib.Data.List.Forall2
import Mathlib.Order.Basic
import Stepwise.Machine.Task
import Stepwise.Proofs.Syntax

/-!
# Worlds

When two runs do the same, their values need not be equal: an object that one run makes at one
address the other may make at another. A `World` says which addresses and which tuple marks belong
together, each to at most one on the other side, and what is known of the parts of the programs that
run. A world grows while objects are made (`w ≤ w'`), and what is related stays related (`up`).

## The model

A relation between the data of two runs is a relation in a world (`Rel`). Values, keys, errors and
results are related if they differ in nothing but related addresses and marks. With equal addresses
and marks as the world (`World.diagonal`), relating a run to itself says something about that run
alone.

A world also tells places apart by what may lead to them: a value refers to an object (`object`),
and a function or a scope to a scope that outlives the frame it was made in (`kept`). Frames may
have scopes that are neither. And it says what tables file values under (`filed`): a value that has
been given a key keeps it.
-/

namespace Stepwise

open Script

/-- Which addresses and tuple marks of two runs belong together. -/
structure World where
  /-- The addresses that belong together. -/
  place : Address → Address → Prop
  /-- Those that values may refer to. -/
  object : Address → Prop
  /-- Those of scopes that functions and other scopes may refer to. -/
  kept : Address → Prop
  /-- The marks of tuples that belong together. -/
  mark : Nat → Nat → Prop
  /-- The keys that values of the first run may be filed under. -/
  filed : Key → Value → Prop
  /-- What is known of the parts of the programs. -/
  phrase : Phrase → Prop
  /-- Whether it counts where in the script the runs are. -/
  located : Prop := True
  place_right : ∀ {a b b'}, place a b → place a b' → b = b'
  place_left : ∀ {a a' b}, place a b → place a' b → a = a'
  mark_right : ∀ {a b b'}, mark a b → mark a b' → b = b'
  mark_left : ∀ {a a' b}, mark a b → mark a' b → a = a'

namespace World

/-- Addresses of objects that belong together. -/
def addr (w : World) (a b : Address) : Prop := w.place a b ∧ w.object a

/-- More belongs together in the second world. -/
structure Le (w w' : World) : Prop where
  place : ∀ {a b}, w.place a b → w'.place a b
  object : ∀ {a}, w.object a → w'.object a
  kept : ∀ {a}, w.kept a → w'.kept a
  mark : ∀ {a b}, w.mark a b → w'.mark a b
  filed : ∀ {k v}, w.filed k v → w'.filed k v
  phrase : w'.phrase = w.phrase
  located : w'.located = w.located

instance : Preorder World where
  le := Le
  le_refl _ := ⟨id, id, id, id, id, rfl, rfl⟩
  le_trans _ _ _ h₁ h₂ := ⟨h₂.place ∘ h₁.place, h₂.object ∘ h₁.object, h₂.kept ∘ h₁.kept,
    h₂.mark ∘ h₁.mark, h₂.filed ∘ h₁.filed, h₂.phrase.trans h₁.phrase,
    h₂.located.trans h₁.located⟩

variable {w w' : World}

theorem Le.of_le (h : w ≤ w') : Le w w' := h

theorem Le.addr (h : Le w w') {a b : Address} (ha : w.addr a b) : w'.addr a b :=
  ⟨h.place ha.1, h.object ha.2⟩

/-- The world in which one more value may be filed under a key. -/
def file (w : World) (k : Key) (v : Value) : World :=
  { w with filed := fun k' v' => w.filed k' v' ∨ k' = k ∧ v' = v }

theorem le_file {k : Key} {v : Value} : w ≤ w.file k v := ⟨id, id, id, id, .inl, rfl, rfl⟩

theorem file_filed {k : Key} {v : Value} : (w.file k v).filed k v := .inr ⟨rfl, rfl⟩

/-- The world in which everything belongs together with itself. -/
def diagonal (phrase : Phrase → Prop) (located : Prop := True) : World where
  place := Eq
  object _ := True
  kept _ := True
  mark := Eq
  filed _ _ := True
  phrase
  located
  place_right h h' := h.symm.trans h'
  place_left h h' := h.trans h'.symm
  mark_right h h' := h.symm.trans h'
  mark_left h h' := h.trans h'.symm

/-- Whether addresses belong together only with themselves. -/
def Exact (w : World) : Prop := ∀ {a b}, w.addr a b → a = b

/-- Whether all places are alike: there may be values that refer to any of them, and functions. -/
def Flat (w : World) : Prop := ∀ a, w.object a ∧ w.kept a

theorem diagonal_flat {p : Phrase → Prop} {l : Prop} : (diagonal p l).Flat :=
  fun _ => ⟨trivial, trivial⟩

theorem Flat.addr (h : w.Flat) {a b : Address} (ha : w.place a b) : w.addr a b := ⟨ha, (h a).1⟩

theorem Flat.mono (h : w.Flat) (hw : w ≤ w') : w'.Flat := fun a =>
  ⟨(Le.of_le hw).object (h a).1, (Le.of_le hw).kept (h a).2⟩

/-- Whether no addresses and marks belong together but equal ones. -/
structure Rigid (w : World) : Prop where
  place : ∀ {a b}, w.place a b → a = b
  mark : ∀ {a b}, w.mark a b → a = b

/-- Whether nothing belongs together but what is equal. -/
structure Sharp (w : World) : Prop where
  place : ∀ {a b}, w.place a b → a = b
  mark : ∀ {a b}, w.mark a b → a = b
  located : w.located

theorem Sharp.rigid (h : w.Sharp) : w.Rigid := ⟨h.place, h.mark⟩

theorem Sharp.exact (h : w.Sharp) : w.Exact := fun ha => h.place ha.1

theorem diagonal_rigid {p : Phrase → Prop} {l : Prop} : (diagonal p l).Rigid := ⟨id, id⟩

theorem diagonal_sharp {p : Phrase → Prop} : (diagonal p).Sharp := ⟨id, id, trivial⟩

theorem addr_right {a b b' : Address} (h : w.addr a b) (h' : w.addr a b') : b = b' :=
  w.place_right h.1 h'.1

theorem addr_left {a a' b : Address} (h : w.addr a b) (h' : w.addr a' b) : a = a' :=
  w.place_left h.1 h'.1

/-- Equal addresses on one side are equal on the other. -/
theorem place_eq_iff {a a' b b' : Address} (h : w.place a a') (h' : w.place b b') :
    a = b ↔ a' = b' := by
  constructor
  · rintro rfl
    exact w.place_right h h'
  · rintro rfl
    exact w.place_left h h'

theorem addr_eq_iff {a a' b b' : Address} (h : w.addr a a') (h' : w.addr b b') :
    a = b ↔ a' = b' :=
  place_eq_iff h.1 h'.1

theorem mark_eq_iff {a a' b b' : Nat} (h : w.mark a a') (h' : w.mark b b') : a = b ↔ a' = b' := by
  constructor
  · rintro rfl
    exact w.mark_right h h'
  · rintro rfl
    exact w.mark_left h h'

end World

/-! ### Relations in a world -/

/-- A relation between the data of two runs in a world. -/
abbrev Rel (α β : Type) := World → α → β → Prop

/-- Relations that hold on when the world grows. -/
class Grows {α β : Type} (A : Rel α β) : Prop where
  up : ∀ {w w' a b}, w ≤ w' → A w a b → A w' a b

section

variable {α β γ δ : Type} {A : Rel α β} {B : Rel γ δ} {w w' : World}

/-- What is related stays related in a larger world. -/
theorem up [Grows A] {a : α} {b : β} (hw : w ≤ w') (h : A w a b) : A w' a b := Grows.up hw h

/-- Equal data. -/
def Same : Rel α α := fun _ => Eq

instance : Grows (Same : Rel α α) := ⟨fun _ h => h⟩

/-- Addresses of objects that belong together. -/
def AddrRel : Rel Address Address := World.addr

instance : Grows AddrRel := ⟨fun hw h => World.Le.addr hw h⟩

/-- Addresses that belong together. -/
def PlaceRel : Rel Address Address := World.place

/-- Addresses of kept scopes that belong together. -/
structure KeptRel (w : World) (a b : Address) : Prop where
  place : w.place a b
  kept : w.kept a

instance : Grows KeptRel := ⟨fun hw h => ⟨World.Le.place hw h.place, World.Le.kept hw h.kept⟩⟩

/-- Lists that are related item by item. -/
def ListRel (A : Rel α β) : Rel (List α) (List β) := fun w => List.Forall₂ (A w)

/-- Options that are both empty or have related values. -/
inductive OptionRel (A : Rel α β) (w : World) : Option α → Option β → Prop
  | none : OptionRel A w none none
  | some {a b} (h : A w a b) : OptionRel A w (some a) (some b)

/-- Pairs of related components. -/
structure PairRel (A : Rel α β) (B : Rel γ δ) (w : World) (p : α × γ) (q : β × δ) : Prop where
  fst : A w p.1 q.1
  snd : B w p.2 q.2

instance [Grows A] : Grows (ListRel A) := ⟨fun hw h => h.imp fun _ _ => up hw⟩

instance [Grows A] : Grows (OptionRel A) where
  up hw h := by
    cases h with
    | none => exact .none
    | some h => exact .some (up hw h)

instance [Grows A] [Grows B] : Grows (PairRel A B) where
  up hw h := ⟨up hw h.fst, up hw h.snd⟩

end

end Stepwise
