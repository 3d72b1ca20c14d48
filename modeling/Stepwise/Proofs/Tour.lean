import Mathlib.Data.List.Count
import Mathlib.Logic.Relation

/-!
# Guarded walks

A walk over things that refer to each other turns back at what it is already inside of, so cycles
do not keep it from ending. Where it starts afresh, though, it forgets what is around it: it has no
end exactly if a fresh start leads back to itself (`ends_of_room`, `Endless.not_ends`).

## The model

A walk is known by what a thing goes on to (`Tour`), and `Tour.Ends` says that it comes to an end
everywhere at most so many steps deep. Only at a finite number of things, the sites, may it start
afresh or look at others with itself around them; the steps between them are bounded by the depth
of a thing (`Tour.Fits`). From one fresh start to the next the sites that are left to enter get
fewer, and with each fresh start so do those that can still be reached.
-/

namespace Stepwise

open Relation

/-- A walk over things. -/
structure Tour (N : Type) where
  /-- Whether a thing is remembered while the walk is inside it. -/
  marked : N → Bool
  /-- What a thing goes on to, inside itself and what is around it. -/
  inside : N → N → Prop
  /-- What a thing goes on to, starting afresh. -/
  afresh : N → N → Prop
  /-- What counts as being around a thing at a fresh start. -/
  base : N → List N

namespace Tour

variable {N : Type} (W : Tour N)

/-- What is around the things inside a thing. -/
def enter (n : N) (around : List N) : List N := if W.marked n then n :: around else around

/-- The walk from a thing comes to an end everywhere at most `fuel` steps deep. -/
def Ends : (fuel : Nat) → (around : List N) → N → Prop
  | 0, _, _ => False
  | fuel + 1, around, n =>
    n ∈ around ∨ (∀ k, W.inside n k → Ends fuel (W.enter n around) k) ∧
      ∀ k, W.afresh n k → Ends fuel (W.base k) k

/-- A thing goes on to another one. -/
def Leads (n k : N) : Prop := W.inside n k ∨ W.afresh n k

/-- A thing leads to another one. -/
def Reaches : N → N → Prop := ReflTransGen W.Leads

/-- From a thing a fresh start is reached that leads back to itself. -/
def Endless (n : N) : Prop := ∃ x k, W.Reaches n x ∧ W.afresh x k ∧ W.Reaches k x

/-- The walk goes on from sites only, but for steps that lose depth. -/
structure Fits (sites : List N) (depth : N → Nat) (most : Nat) : Prop where
  /-- Marked things from which the walk goes on are sites. -/
  marked {n k : N} : W.marked n = true → W.inside n k → n ∈ sites
  /-- Things from which the walk starts afresh are sites. -/
  afresh {n k : N} : W.afresh n k → n ∈ sites
  /-- Going on from a thing that is not marked loses depth. -/
  shallower {n k : N} : W.marked n = false → W.inside n k → depth k < depth n
  /-- What is inside a marked thing is not too deep. -/
  inside_le {n k : N} : W.marked n = true → W.inside n k → depth k ≤ most
  /-- A fresh start is not too deep. -/
  afresh_le {n k : N} : W.afresh n k → depth k ≤ most

variable {W} {fuel fuel' : Nat} {around : List N} {n k : N}

theorem Ends.pos (ends : W.Ends fuel around n) : 0 < fuel :=
  Nat.pos_of_ne_zero fun zero => by rwa [zero] at ends

theorem Ends.mono (ends : W.Ends fuel around n) (le : fuel ≤ fuel') : W.Ends fuel' around n := by
  induction fuel generalizing fuel' around n with
  | zero => exact ends.elim
  | succ fuel ih =>
    obtain ⟨fuel', rfl⟩ : ∃ k, fuel' = k + 1 := ⟨fuel' - 1, by omega⟩
    obtain around | ⟨inside, afresh⟩ := ends
    · exact .inl around
    · exact .inr ⟨fun k hk => ih (inside k hk) (by omega),
        fun k hk => ih (afresh k hk) (by omega)⟩

theorem Endless.of_leads (step : W.Leads n k) : W.Endless k → W.Endless n :=
  fun ⟨x, y, reach, afresh, back⟩ => ⟨x, y, .head step reach, afresh, back⟩

/-! ### Walks that end -/

section

variable (W) (sites : List N)

open scoped Classical in
/-- How many sites a thing leads to. -/
noncomputable def ahead (n : N) : Nat := sites.countP (W.Reaches n ·)

open scoped Classical in
/-- How many sites are not around. -/
noncomputable def unseen (around : List N) : Nat := sites.countP (· ∉ around)

/-- A bound on the depth of walks with so many sites, where nothing is deeper than `most`. -/
def room (sites most : Nat) : Nat := (sites + 1) * ((sites + 1) * (most + 1))

/-- A bound on the depth of a walk: a summand for the fresh starts that are left, one for the sites
that are left to enter before the next one, and one for the steps before the next site. -/
noncomputable def height (depth : N → Nat) (most : Nat) (around : List N) (n : N) : Nat :=
  W.ahead sites n * ((sites.length + 1) * (most + 1)) + unseen sites around * (most + 1) + depth n

end

/-- Fewer items satisfy `p` than `q`, if one that does not satisfies `q`. -/
theorem countP_lt {p q : N → Bool} {sites : List N} (sub : ∀ x ∈ sites, p x = true → q x = true)
    (mem : n ∈ sites) (hp : p n = false) (hq : q n = true) : sites.countP p < sites.countP q := by
  have both : sites.countP p = (sites.filter q).countP p := by
    rw [List.countP_filter]
    refine List.countP_congr fun x hx => ?_
    rw [Bool.and_eq_true]
    exact ⟨fun h => ⟨h, sub x hx h⟩, And.left⟩
  rw [both, List.countP_eq_length_filter (p := q), List.countP_lt_length_iff]
  exact ⟨n, List.mem_filter.2 ⟨mem, hq⟩, by simp [hp]⟩

variable {sites : List N} {depth : N → Nat} {most : Nat}

theorem unseen_le : unseen sites around ≤ sites.length := List.countP_le_length

/-- What a thing goes on to leads to no site but those that it leads to itself. -/
theorem ahead_le (step : W.Leads n k) : W.ahead sites k ≤ W.ahead sites n := by
  classical
  exact List.countP_mono_left fun x _ hx =>
    decide_eq_true (.head step (of_decide_eq_true hx))

/-- A fresh start that does not lead back leaves its site behind. -/
theorem ahead_lt (mem : n ∈ sites) (step : W.Leads n k) (gone : ¬W.Reaches k n) :
    W.ahead sites k < W.ahead sites n := by
  classical
  exact countP_lt (fun x _ hx => decide_eq_true (.head step (of_decide_eq_true hx))) mem
    (decide_eq_false gone) (decide_eq_true .refl)

/-- Entering a site leaves one less to enter. -/
theorem unseen_lt (mem : n ∈ sites) (new : n ∉ around) :
    unseen sites (n :: around) < unseen sites around := by
  classical
  refine countP_lt (fun x _ hx => ?_) mem (by simp) (by simpa using new)
  have : x ∉ n :: around := of_decide_eq_true hx
  simpa using fun h => this (List.mem_cons_of_mem n h)

section

variable (fits : W.Fits sites depth most)
include fits

theorem Fits.height_inside (new : n ∉ around) (step : W.inside n k) :
    W.height sites depth most (W.enter n around) k < W.height sites depth most around n := by
  have ahead := Nat.mul_le_mul_right ((sites.length + 1) * (most + 1))
    (ahead_le (.inl step) : W.ahead sites k ≤ W.ahead sites n)
  unfold height enter
  cases mark : W.marked n with
  | false =>
    have := fits.shallower mark step
    simp only [Bool.false_eq_true, if_false]
    omega
  | true =>
    have fewer := Nat.mul_le_mul_right (most + 1) (unseen_lt (fits.marked mark step) new)
    have := fits.inside_le mark step
    rw [Nat.succ_mul] at fewer
    simp only [if_true]
    omega

theorem Fits.height_afresh (gone : ¬W.Reaches k n) (step : W.afresh n k) {around' : List N} :
    W.height sites depth most around' k < W.height sites depth most around n := by
  have fewer := Nat.mul_le_mul_right ((sites.length + 1) * (most + 1))
    (ahead_lt (fits.afresh step) (.inr step) gone)
  have left := Nat.mul_le_mul_right (most + 1) (unseen_le : unseen sites around' ≤ sites.length)
  have := fits.afresh_le step
  have once : (sites.length + 1) * (most + 1) = sites.length * (most + 1) + (most + 1) :=
    Nat.succ_mul ..
  rw [Nat.succ_mul] at fewer
  unfold height
  omega

/-- A walk in which no fresh start leads back to itself is no deeper than its height. -/
theorem Fits.ends (finite : ¬W.Endless n) (le : W.height sites depth most around n < fuel) :
    W.Ends fuel around n := by
  induction fuel generalizing around n with
  | zero => exact absurd le (Nat.not_lt_zero _)
  | succ fuel ih =>
    by_cases new : n ∈ around
    · exact .inl new
    · refine .inr ⟨fun k step => ?_, fun k step => ?_⟩
      · have := fits.height_inside new step
        exact ih (mt (.of_leads (.inl step)) finite) (by omega)
      · have gone : ¬W.Reaches k n := fun back => finite ⟨n, k, .refl, step, back⟩
        have : W.height sites depth most (W.base k) k < W.height sites depth most around n :=
          fits.height_afresh gone step
        exact ih (mt (.of_leads (.inr step)) finite) (by omega)

theorem Fits.ends_of_room (finite : ¬W.Endless n) (shallow : depth n ≤ most)
    (le : room sites.length most ≤ fuel) : W.Ends fuel around n := by
  refine fits.ends finite (Nat.lt_of_lt_of_le ?_ le)
  have ahead : W.ahead sites n * ((sites.length + 1) * (most + 1)) ≤
      sites.length * ((sites.length + 1) * (most + 1)) :=
    Nat.mul_le_mul_right _ List.countP_le_length
  have := Nat.mul_le_mul_right (most + 1) (unseen_le : unseen sites around ≤ sites.length)
  unfold height room
  rw [Nat.succ_mul sites.length ((sites.length + 1) * (most + 1)), Nat.succ_mul sites.length]
  rw [Nat.succ_mul sites.length] at ahead
  omega

end

/-! ### Walks without end -/

/-- A way from one thing to another one need not come back to where it starts. -/
theorem leaves {r : N → N → Prop} {x : N} (reach : ReflTransGen r n x) (ne : x ≠ n) :
    ∃ k, r n k ∧ k ≠ n ∧ ReflTransGen (fun a b => r a b ∧ b ≠ n) k x := by
  induction reach with
  | refl => exact absurd rfl ne
  | @tail y x _ step ih =>
    by_cases here : y = n
    · subst here
      exact ⟨x, step, ne, .refl⟩
    · obtain ⟨k, first, hk, rest⟩ := ih here
      exact ⟨k, first, hk, rest.tail ⟨step, ne⟩⟩

theorem not_mem_enter (new : k ∉ around) (ne : k ≠ n) : k ∉ W.enter n around := by
  unfold enter
  split <;> simp [new, ne]

/-- A walk that ends comes to what it leads to past the things around it, and has not turned back
there. -/
theorem Ends.reach {x : N} (base : ∀ n, W.base n = []) (ends : W.Ends fuel around n)
    (new : n ∉ around) (reach : ReflTransGen (fun a b => W.Leads a b ∧ b ∉ around) n x) :
    ∃ fuel' ≤ fuel, ∃ around', W.Ends fuel' around' x ∧ x ∉ around' := by
  induction fuel generalizing around n with
  | zero => exact ends.elim
  | succ fuel ih =>
    by_cases here : x = n
    · subst here
      exact ⟨fuel + 1, Nat.le_refl _, around, ends, new⟩
    -- The rest of the way does not come back to `n`, so it does not matter that `n` is around now.
    obtain ⟨k, ⟨step, hk⟩, ne, rest⟩ := leaves reach here
    obtain ⟨inside, afresh⟩ := ends.resolve_left new
    obtain step | step := step
    · have rest' : ReflTransGen (fun a b => W.Leads a b ∧ b ∉ W.enter n around) k x := by
        refine ReflTransGen.mono (fun a b ⟨⟨step, hb⟩, hne⟩ => ⟨step, ?_⟩) k x rest
        exact not_mem_enter hb hne
      have hk' : k ∉ W.enter n around := not_mem_enter hk ne
      obtain ⟨fuel', le, found⟩ := ih (inside k step) hk' rest'
      exact ⟨fuel', by omega, found⟩
    · have ends' := afresh k step
      rw [base] at ends'
      obtain ⟨fuel', le, found⟩ := ih ends' List.not_mem_nil
        (ReflTransGen.mono (fun a b h => ⟨h.1.1, List.not_mem_nil⟩) k x rest)
      exact ⟨fuel', by omega, found⟩

theorem Ends.of_reaches {x : N} (base : ∀ n, W.base n = []) (ends : W.Ends fuel [] n)
    (reach : W.Reaches n x) : ∃ fuel' ≤ fuel, ∃ around', W.Ends fuel' around' x ∧ x ∉ around' :=
  ends.reach base List.not_mem_nil
    (ReflTransGen.mono (fun _ _ step => ⟨step, List.not_mem_nil⟩) n x reach)

/-- A fresh start that leads back to itself has no end. -/
theorem not_ends_of_back {x : N} (base : ∀ n, W.base n = []) (step : W.afresh x k)
    (back : W.Reaches k x) (new : x ∉ around) : ¬W.Ends fuel around x := by
  induction fuel using Nat.strongRecOn generalizing around with
  | ind fuel ih =>
  intro ends
  cases fuel with
  | zero => exact ends
  | succ fuel =>
    -- Once around, the walk is at `x` again with less fuel, and again `x` is not around it.
    have next := (ends.resolve_left new).2 k step
    rw [base] at next
    obtain ⟨fuel', le, around', ends', new'⟩ := next.of_reaches base back
    exact ih fuel' (by omega) new' ends'

theorem Endless.not_ends (base : ∀ n, W.base n = []) (endless : W.Endless n) :
    ¬W.Ends fuel [] n := by
  intro ends
  obtain ⟨x, k, reach, step, back⟩ := endless
  obtain ⟨fuel', -, around', ends', new⟩ := ends.of_reaches base reach
  exact not_ends_of_back base step back new ends'

end Tour

end Stepwise
