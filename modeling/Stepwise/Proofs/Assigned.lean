import Mathlib.Data.Nat.Find
import Stepwise.Proofs.Sound

/-!
# Names read back

An assignment to a name that does not fail changes one binding of one scope, and the name then reads
what has been assigned (`assigned_names_read`). The exception is a name that the frame has bound
itself and then declared to belong to a function around: the assignment goes to that function, and
the frame goes on reading its own (`Machine.hidden?`).

## The model

Where an assignment goes is decided by the declarations of the frame, and then by a walk that starts
behind its scope; a name is read on a walk that starts at its scope and knows of declared globals
only. Both walks have the same number of steps to go, so the second one has one step less behind the
scope of the frame. That makes no difference where scopes come to an end (`Heap.Sound.ends`), nor do
scopes that come to an end lead back to themselves.
-/

namespace Stepwise

variable {σ : Type}

/-! ### Walks through scopes -/

namespace Heap

variable {h : Heap} {a b : Address} {s : Scope} {o : Option Address} {name x : String} {v : Value}
  {n k : Nat}

/-- What a scope itself binds a name to. -/
def bound? (h : Heap) (a : Address) (name : String) : Option Value :=
  (h.scope? a).bind (·.vars.get? name)

theorem scope?_modifyScope (h : Heap) (b : Address) (f : Namespace → Namespace) (a : Address) :
    (h.modifyScope b f).scope? a =
      if b = a then (h.scope? a).map fun s => { s with vars := f s.vars } else h.scope? a := by
  rw [scope?, modifyScope, get?_modify]
  by_cases e : b = a
  · rw [if_pos e, if_pos e, scope?]
    rcases h.get? a with _ | _ | _ | _ | _ | _ | _ | _ | _ | _ | _ | _ <;> rfl
  · rw [if_neg e, if_neg e]
    rfl

/-- A binding that is set is found where it has been set, and all others are as they were. -/
theorem bound?_set (hb : h.HasScope b) (name : String) (v : Value) (a : Address) (x : String) :
    (h.modifyScope b (·.set name v)).bound? a x =
      if a = b ∧ x = name then some v else h.bound? a x := by
  rw [bound?, scope?_modifyScope]
  by_cases e : b = a
  · subst e
    obtain ⟨s, hs⟩ := hb
    rw [if_pos rfl, bound?, hs, Option.map_some, Option.bind_some, Option.bind_some,
      Ordered.get?_set]
    simp only [true_and, eq_comm]
  · rw [if_neg e, if_neg fun both => e both.1.symm, bound?]

theorem lookup?_cons (hs : h.scope? a = some s) :
    h.lookup? name (n + 1) (some a) = (h.bound? a name).or (h.lookup? name n s.parent) := by
  rw [lookup?, bound?, hs]
  rfl

theorem lookup?_nowhere (hs : h.scope? a = none) : h.lookup? name (n + 1) (some a) = none := by
  rw [lookup?, hs]

/-- Other names are found as before. -/
theorem lookup?_set_of_ne (hx : x ≠ name) : ∀ (n : Nat) (o : Option Address),
    (h.modifyScope b (·.set name v)).lookup? x n o = h.lookup? x n o
  | 0, _ => rfl
  | _ + 1, none => rfl
  | n + 1, some a => by
    cases hs : h.scope? a with
    | none =>
      rw [lookup?_nowhere hs, lookup?_nowhere]
      rw [scope?_modifyScope, hs]
      split <;> rfl
    | some s =>
      rw [lookup?, lookup?, scope?_modifyScope, hs]
      by_cases e : b = a
      · rw [if_pos e, Option.map_some]
        dsimp only
        rw [Ordered.get?_set, if_neg hx.symm, lookup?_set_of_ne hx n]
      · rw [if_neg e]
        dsimp only
        rw [lookup?_set_of_ne hx n]

/-- The scope that binds a name is the first one, or it is found behind that. -/
theorem binder?_cases (found : h.binder? name (n + 1) (some a) = some b) :
    ∃ s, h.scope? a = some s ∧ (b = a ∨
      s.vars.get? name = none ∧ h.binder? name n s.parent = some b) := by
  rw [binder?] at found
  cases hs : h.scope? a with
  | none =>
    rw [hs] at found
    cases found
  | some s =>
    rw [hs] at found
    dsimp only at found
    refine ⟨s, rfl, ?_⟩
    split at found
    · exact .inl (Option.some.inj found).symm
    · next unbound => exact .inr ⟨by simpa [Ordered.contains] using unbound, found⟩

theorem hasScope_of_binder? : ∀ {n : Nat} {o : Option Address}, h.binder? name n o = some b →
    h.HasScope b
  | 0, _, found => nomatch found
  | _ + 1, none, found => nomatch found
  | n + 1, some a, found => by
    obtain ⟨s, hs, rfl | ⟨-, found⟩⟩ := binder?_cases found
    · exact ⟨s, hs⟩
    · exact hasScope_of_binder? found

/-- What is set in the first scope that binds a name is what the name reads. -/
theorem lookup?_set_binder : ∀ {n : Nat} {o : Option Address}, h.binder? name n o = some b →
    (h.modifyScope b (·.set name v)).lookup? name n o = some v
  | 0, _, found => nomatch found
  | _ + 1, none, found => nomatch found
  | n + 1, some a, found => by
    have set := bound?_set (hasScope_of_binder? found) name v a name
    obtain ⟨s, hs, e⟩ := binder?_cases found
    by_cases same : b = a
    · rw [lookup?_cons (s := { s with vars := s.vars.set name v })
        (by rw [scope?_modifyScope, if_pos same, hs]; rfl), set, if_pos ⟨same.symm, rfl⟩]
      rfl
    · obtain ⟨unbound, found⟩ := e.resolve_left same
      rw [lookup?_cons (s := s) (by rw [scope?_modifyScope, if_neg same, hs]), set,
        if_neg fun both => same both.1.symm, bound?, hs, Option.bind_some, unbound,
        Option.none_or, lookup?_set_binder found]

/-- Where scopes come to an end, further steps find nothing more. -/
theorem binder?_of_reachesEnd : ∀ {n k : Nat} {o : Option Address}, h.reachesEnd n o = true →
    n ≤ k → h.binder? name k o = h.binder? name n o
  | n, k, none, _, _ => by cases n <;> cases k <;> rfl
  | 0, _, some _, ends, _ => by cases ends
  | n + 1, k, some a, ends, le => by
    obtain ⟨k, rfl⟩ := Nat.exists_eq_add_of_le' (Nat.one_le_of_lt le)
    rw [reachesEnd] at ends
    rw [binder?, binder?]
    cases hs : h.scope? a with
    | none => rfl
    | some s =>
      rw [hs] at ends
      dsimp only at ends ⊢
      rw [binder?_of_reachesEnd ends (Nat.le_of_succ_le_succ le)]

/-- A scope that is found comes to an end itself, in no more steps. -/
theorem reachesEnd_of_binder? : ∀ {n : Nat} {o : Option Address}, h.reachesEnd n o = true →
    h.binder? name n o = some b → ∃ m ≤ n, h.reachesEnd m (some b) = true
  | 0, _, _, found => nomatch found
  | _ + 1, none, _, found => nomatch found
  | n + 1, some a, ends, found => by
    obtain ⟨s, hs, rfl | ⟨-, found⟩⟩ := binder?_cases found
    · exact ⟨n + 1, Nat.le_refl _, ends⟩
    · rw [reachesEnd, hs] at ends
      obtain ⟨m, le, ends⟩ := reachesEnd_of_binder? ends found
      exact ⟨m, Nat.le_succ_of_le le, ends⟩

theorem exists_reachesEnd (hs : h.scope? a = some s) (ends : h.reachesEnd n (some a) = true) :
    ∃ k, n = k + 1 ∧ h.reachesEnd k s.parent = true := by
  cases n with
  | zero => cases ends
  | succ n =>
    rw [reachesEnd, hs] at ends
    exact ⟨n, rfl, ends⟩

/-- What is found behind a scope that comes to an end is another scope. -/
theorem binder?_ne (hs : h.scope? a = some s) (ends : h.reachesEnd n (some a) = true)
    (found : h.binder? name n s.parent = some b) : b ≠ a := by
  rintro rfl
  have comes_to_end : ∃ n, h.reachesEnd n (some b) = true := ⟨n, ends⟩
  obtain ⟨k, least, parent⟩ := exists_reachesEnd hs (Nat.find_spec comes_to_end)
  have le : k ≤ n := Nat.le_of_succ_le (least.ge.trans (Nat.find_min' comes_to_end ends))
  rw [binder?_of_reachesEnd parent le] at found
  obtain ⟨m, le, again⟩ := reachesEnd_of_binder? parent found
  -- the least number of steps in which the scope comes to an end would not be the least
  have more : k + 1 ≤ m := least.ge.trans (Nat.find_min' comes_to_end again)
  exact Nat.not_succ_le_self k (more.trans le)

end Heap

/-! ### Assignments -/

namespace Machine

variable {m m' : Machine σ} {name : String} {v : Value} {a : Address}

/-- What a frame has bound a name to itself that it has declared to belong to a function around: it
reads its own value, while assignments go to the function around. -/
def hidden? (m : Machine σ) (name : String) : Option Value :=
  if m.isNonlocal name && !m.isGlobal name then m.heap.bound? m.currentScope name else none

/-- What an assignment of a value to a name has done. -/
structure Assigned (m : Machine σ) (name : String) (v : Value) (m' : Machine σ) : Prop where
  /-- The name reads what has been assigned, unless the frame reads its own. -/
  read : m'.lookup? name = (m.hidden? name).or (some v)
  /-- Other names read what they have read before. -/
  others : ∀ x ≠ name, m'.lookup? x = m.lookup? x
  /-- One scope binds the name to the value; that is the only binding that is new. -/
  bound : ∃ a, m.targetScope? name = some a ∧ ∀ b x,
    m'.heap.bound? b x = if b = a ∧ x = name then some v else m.heap.bound? b x
  /-- What is no scope is as it was. -/
  objects : ∀ b o, m.heap.get? b = some o → o.isScope = false → m'.heap.get? b = some o
  /-- Nothing but the heap has changed. -/
  rest : { m' with heap := m.heap } = m

/-- Whether the running frame reads what it assigns. -/
def ReadsBack (m : Machine σ) : Prop :=
  ∀ {name v m'}, assignName name v m = .ok () m' → m.Assigned name v m'

/-- The machine as it is for one of the frames that it has open, numbered from the running one. -/
def inFrame (m : Machine σ) (n : Nat) : Machine σ := { m with stack := m.stack.drop n }

theorem assignName_ok (done : assignName name v m = .ok () m') :
    ∃ a, m.targetScope? name = some a ∧
      m' = { m with heap := m.heap.modifyScope a (·.set name v) } := by
  have target := targetScope_run name m
  cases e : m.targetScope? name with
  | none =>
    rw [e] at target
    rw [assignName, M.bind_error target] at done
    cases done
  | some a =>
    rw [e] at target
    rw [assignName, M.bind_ok target] at done
    cases done
    exact ⟨a, rfl, rfl⟩

namespace Sound

variable (H : m.Sound)
include H

theorem currentScope : m.heap.HasScope m.currentScope := by
  unfold Machine.currentScope
  split
  · next stack => exact H.locals _ (stack ▸ List.mem_cons_self)
  · exact H.globals

theorem inFrame (n : Nat) : (m.inFrame n).Sound :=
  { H with
    locals := fun f hf => H.locals f (List.mem_of_mem_drop hf)
    frames := fun f hf => H.frames f (List.mem_of_mem_drop hf) }

/-- Where an assignment goes there is a scope. -/
theorem targetScope? (target : m.targetScope? name = some a) : m.heap.HasScope a := by
  unfold Machine.targetScope? at target
  split at target
  · exact Option.some.inj target ▸ H.globals
  · split at target
    · exact Heap.hasScope_of_binder? target
    · exact Option.some.inj target ▸ H.currentScope

/-- What the name reads after an assignment to it. -/
theorem lookup?_assigned (target : m.targetScope? name = some a) :
    { m with heap := m.heap.modifyScope a (·.set name v) }.lookup? name =
      (m.hidden? name).or (some v) := by
  have bound := Heap.bound?_set (H.targetScope? target) name v
  obtain ⟨s, hs⟩ := H.currentScope
  obtain ⟨k, size, parent⟩ := Heap.exists_reachesEnd hs (H.heap.ends ⟨s, hs⟩)
  have kept : (m.heap.modifyScope a (·.set name v)).size = k + 1 := by
    rw [Heap.modifyScope, Heap.size_modify, size]
  show (if m.isGlobal name then none
      else (m.heap.modifyScope a (·.set name v)).lookup? name _ (some m.currentScope)).or
    (((m.heap.modifyScope a (·.set name v)).bound? m.globals name).or _) = _
  rw [kept]
  unfold Machine.targetScope? at target
  unfold Machine.hidden?
  by_cases isGlobal : m.isGlobal name = true
  · rw [if_pos isGlobal] at target
    obtain rfl := Option.some.inj target
    rw [if_pos isGlobal, bound, if_pos ⟨rfl, rfl⟩]
    simp [isGlobal]
  rw [if_neg isGlobal] at target ⊢
  by_cases isNonlocal : m.isNonlocal name = true
  · rw [if_pos isNonlocal, hs, Option.bind_some] at target
    have other : a ≠ m.currentScope := Heap.binder?_ne hs (H.heap.ends ⟨s, hs⟩) target
    have found : m.heap.binder? name k s.parent = some a := by
      rw [← target]
      exact (Heap.binder?_of_reachesEnd parent (size ▸ Nat.le_succ k)).symm
    rw [Heap.lookup?_cons (s := s) (by rw [Heap.scope?_modifyScope, if_neg other, hs]),
      Heap.lookup?_set_binder found, bound, if_neg fun both => other both.1.symm]
    simp [isGlobal, isNonlocal]
  · rw [if_neg isNonlocal] at target
    obtain rfl := Option.some.inj target
    rw [Heap.lookup?_cons (s := { s with vars := s.vars.set name v })
      (by rw [Heap.scope?_modifyScope, if_pos rfl, hs]; rfl), bound, if_pos ⟨rfl, rfl⟩]
    simp [isNonlocal]

/-- The running frame of a sound machine reads what it assigns. -/
theorem readsBack : m.ReadsBack := by
  intro name v m' done
  obtain ⟨a, target, rfl⟩ := assignName_ok done
  have bound := Heap.bound?_set (H.targetScope? target) name v
  exact {
    read := H.lookup?_assigned target
    others := fun x hx => by
      show (if m.isGlobal x then none
          else (m.heap.modifyScope a (·.set name v)).lookup? x _ (some m.currentScope)).or
        (((m.heap.modifyScope a (·.set name v)).bound? m.globals x).or _) = _
      rw [bound, if_neg fun both : m.globals = a ∧ x = name => hx both.2, Heap.lookup?_set_of_ne hx, Heap.modifyScope,
        Heap.size_modify]
      rfl
    bound := ⟨a, target, bound⟩
    objects := fun b o ho data => by
      have other : a ≠ b := by
        rintro rfl
        exact (H.targetScope? target).not_live ⟨o, ho, data⟩
      show (m.heap.modifyScope a _).get? b = _
      rw [Heap.modifyScope, Heap.get?_modify, if_neg other, ho]
    rest := rfl }

end Sound

end Machine

/-- Names read back what has been assigned to them: wherever a run comes, whoever watches it, and for
each frame that is open there, an assignment that does not fail binds the name in one scope, and the
frame then reads that, unless it has bound the name itself and declared it to belong to a function
around. -/
theorem assigned_names_read (observe : Observer σ) (log : σ) (s : Listing) :
    (Machine.start log).Always observe (fun m => ∀ n, (m.inFrame n).ReadsBack) ∧
      (Machine.forTrace s).Always (Recorder.observe s) (fun m => ∀ n, (m.inFrame n).ReadsBack) :=
  ⟨(start_always_sound observe log).mono fun _ H n => (H.inFrame n).readsBack,
    (forTrace_always_sound s).mono fun _ H n => (H.inFrame n).readsBack⟩

/-- A function has bound `x` itself before it declares it to belong to the function around it, and
binds it again: it still reads the first value, and the function around has the second one. -/
example :
    let h := (Heap.empty.alloc (.scope ⟨.ofList [("x", .int 0)], none⟩)).2
    let h := (h.alloc (.scope ⟨.ofList [("x", .int 1)], some Heap.base⟩)).2
    let f : Frame := { Frame.start "g" .function (Heap.base + 1) 1 with nonlocals := ["x"] }
    let m : Machine Unit := { Machine.start () with heap := h, globals := Heap.base, stack := [f] }
    (match assignName "x" (.int 2) m with
      | .ok _ m => (m.lookup? "x", m.heap.bound? Heap.base "x")
      | .error _ _ => (none, none)) = (some (.int 1), some (.int 2)) := by
  rfl

end Stepwise
