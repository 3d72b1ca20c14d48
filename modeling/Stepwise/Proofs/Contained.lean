import Stepwise.Proofs.Relation.Unary

/-!
# What comprehensions leave behind

The names that a comprehension binds get back what they stood for in the scope of the running frame,
also after an error, and every other binding in reach stays as it is, unless functions of the script
run (`comprehension_contained`). But a name that the frame has declared to be the module's, or that
of a function around, is bound there while the clauses run, and nothing is given back in that place.

## The model

That no function of the script runs means that evaluation comes to a result even if it must stop as
soon as one is entered (`sealed`). Up to there a run is in one frame, and the coupling of the two
runs (`contained`) says of every scope that there was at the beginning what has become of it. While
the clauses of a comprehension run, the names that they bind are loose in the scope of the frame;
the names that were bound around them are not, until the comprehension is over: so each
comprehension compares with the machine at its own beginning (`Shelter`).
-/

namespace Stepwise

open Script Coupling

variable {σ α β : Type}

/-! ### Giving names back what they stood for -/

/-- Giving back one name leaves the others loose. -/
theorem restore_keptBut {x : String} {names : List String} {vars now : Namespace}
    (kept : vars.KeptBut (· ∈ x :: names) now) :
    vars.KeptBut (· ∈ names) (restore now (x, vars.get? x)) := by
  obtain ⟨new, keys, loose⟩ := kept.keys
  have distinct : (vars.keys ++ new).Nodup := keys ▸ now.distinct
  have found {k : String} (other : x ≠ k) (hk : k ∉ names) : now.get? k = vars.get? k :=
    kept.found k fun mem => (List.mem_cons.1 mem).elim (other ·.symm) hk
  unfold restore
  dsimp only
  cases e : vars.get? x with
  | some v =>
    have old : x ∈ vars.keys := by
      rw [← Ordered.contains_iff_mem_keys, Ordered.contains, e]
      rfl
    constructor
    · refine ⟨new, ?_, fun k hk => (List.mem_cons.1 (loose k hk)).resolve_left ?_⟩
      · rw [Ordered.keys_set, keys, if_pos (List.mem_append_left _ old)]
      · rintro rfl
        exact (List.nodup_append.1 distinct).2.2 _ old _ hk rfl
    · intro k hk
      rw [Ordered.get?_set]
      split
      · next same => rw [← same, e]
      · next other => exact found other hk
  | none =>
    have unknown : x ∉ vars.keys := Ordered.get?_eq_none.1 e
    constructor
    · refine ⟨new.erase x, ?_, fun k hk => ?_⟩
      · rw [Ordered.keys_erase, keys, List.erase_append_right _ unknown]
      · have mem := ((List.nodup_append.1 distinct).2.1.mem_erase_iff).1 hk
        exact (List.mem_cons.1 (loose k mem.2)).resolve_left mem.1
    · intro k hk
      rw [Ordered.get?_erase]
      split
      · next same => rw [← same, e]
      · next other => exact found other hk

/-- Once all loose names are given back, the bindings are those of before. -/
theorem foldl_restore : ∀ {names : List String} {vars now : Namespace},
    vars.KeptBut (· ∈ names) now →
    (names.map fun x => (x, vars.get? x)).foldl restore now = vars
  | [], _, _, kept => kept.eq fun _ => List.not_mem_nil
  | x :: names, vars, now, kept => by
    rw [List.map_cons, List.foldl_cons]
    exact foldl_restore (restore_keptBut kept)

/-! ### Scopes that are kept -/

namespace Heap

variable {h h' h'' : Heap} {loose : Address → String → Prop} {a b : Address}

/-- Whether all scopes are kept but for some names in each of them. -/
def KeptBut (loose : Address → String → Prop) (h h' : Heap) : Prop :=
  ∀ a s, h.scope? a = some s →
    ∃ s', h'.scope? a = some s' ∧ s'.parent = s.parent ∧ s.vars.KeptBut (loose a) s'.vars

namespace KeptBut

theorem refl (h : Heap) : h.KeptBut loose h := fun _ s hs => ⟨s, hs, rfl, .refl _⟩

theorem trans (first : h.KeptBut loose h') (second : h'.KeptBut loose h'') :
    h.KeptBut loose h'' := by
  intro a s hs
  obtain ⟨s', hs', parent, kept⟩ := first a s hs
  obtain ⟨s'', hs'', parent', kept'⟩ := second a s' hs'
  exact ⟨s'', hs'', parent'.trans parent, kept.trans kept'⟩

theorem mono {loose' : Address → String → Prop} (kept : h.KeptBut loose h')
    (more : ∀ a x, loose a x → loose' a x) : h.KeptBut loose' h' := by
  intro a s hs
  obtain ⟨s', hs', parent, inside⟩ := kept a s hs
  exact ⟨s', hs', parent, inside.mono (more a)⟩

/-- A scope without loose names is the same. -/
theorem scope?_eq {s : Scope} (kept : h.KeptBut loose h') (tight : ∀ x, ¬loose a x)
    (hs : h.scope? a = some s) : h'.scope? a = some s := by
  obtain ⟨⟨vars, parent⟩, hs', rfl, inside⟩ := kept a s hs
  obtain rfl : vars = s.vars := inside.eq tight
  exact hs'

/-- Later objects are in the way of no scope. -/
theorem alloc (kept : h.KeptBut loose h') (o : Object) : h.KeptBut loose (h'.alloc o).2 := by
  refine kept.trans fun a s hs => ⟨s, ?_, rfl, .refl _⟩
  rw [scope?_eq_some] at hs ⊢
  rw [get?_alloc, if_neg (ne_next hs), hs]

theorem modify (kept : h.KeptBut loose h') {f : Object → Object}
    (hf : ∀ s, f (.scope s) = .scope s) : h.KeptBut loose (h'.modify b f) := by
  refine kept.trans fun a s hs => ⟨s, ?_, rfl, .refl _⟩
  rw [scope?_eq_some] at hs ⊢
  rw [get?_modify, hs]
  split
  · rw [Option.map_some, hf]
  · rfl

/-- A scope may come and go in between. -/
theorem free (kept : h.KeptBut loose h') (s : Scope) :
    h.KeptBut loose ((h'.alloc (.scope s)).2.free h'.next) := by
  refine kept.trans fun a s' hs => ⟨s', ?_, rfl, .refl _⟩
  rw [scope?_eq_some] at hs ⊢
  rw [get?_free, if_neg (ne_next hs).symm, get?_alloc, if_neg (ne_next hs), hs]

theorem modifyScope (kept : h.KeptBut loose h') {f : Namespace → Namespace}
    (hf : ∀ s, h.scope? b = some s → ∀ now : Namespace, s.vars.KeptBut (loose b) now →
      s.vars.KeptBut (loose b) (f now)) : h.KeptBut loose (h'.modifyScope b f) := by
  intro a s hs
  obtain ⟨s', hs', parent, inside⟩ := kept a s hs
  rw [scope?_eq_some] at hs'
  by_cases same : b = a
  · subst same
    refine ⟨{ s' with vars := f s'.vars }, ?_, parent, hf s hs _ inside⟩
    rw [scope?_eq_some, Heap.modifyScope, get?_modify, if_pos rfl, hs']
    rfl
  · refine ⟨s', ?_, parent, inside⟩
    rw [scope?_eq_some, Heap.modifyScope, get?_modify, if_neg same, hs']

end KeptBut

end Heap

/-! ### One frame -/

/-- Whether the running frame has declared that a name is bound somewhere else. -/
def Machine.declares (m : Machine σ) (x : String) : Prop :=
  m.isGlobal x = true ∨ m.isNonlocal x = true

/-- Where a part of a run is. -/
structure Shelter (σ : Type) where
  /-- The machine at the beginning of the part. -/
  start : Machine σ
  /-- The names that are loose in the scope of the frame. -/
  active : String → Prop

/-- The names that are loose in a scope, if nothing but `bound` is ever bound by comprehensions. -/
def Shelter.loose (bound : String → Prop) (c : Shelter σ) (a : Address) (x : String) : Prop :=
  if a = c.start.currentScope then c.active x else bound x ∧ c.start.declares x

/-- What has become of a machine in its frame. -/
structure Shelter.Keeps (bound : String → Prop) (c : Shelter σ) (m : Machine σ) : Prop where
  globals : m.globals = c.start.globals
  current : m.currentScope = c.start.currentScope
  isGlobal : m.isGlobal = c.start.isGlobal
  isNonlocal : m.isNonlocal = c.start.isNonlocal
  within : ∀ x, c.active x → bound x
  scopes : c.start.heap.KeptBut (c.loose bound) m.heap

namespace Shelter.Keeps

variable {bound : String → Prop} {c : Shelter σ} {m : Machine σ}

theorem start {active : String → Prop} (within : ∀ x, active x → bound x) :
    Keeps bound ⟨m, active⟩ m :=
  ⟨rfl, rfl, rfl, rfl, within, .refl _⟩

theorem withHeap (kept : Keeps bound c m) {h : Heap}
    (scopes : c.start.heap.KeptBut (c.loose bound) h) : Keeps bound c { m with heap := h } :=
  { kept with scopes }

/-- A name that is loose in the scope of the frame is loose wherever it is bound. -/
theorem loose_target (kept : Keeps bound c m) {x : String} (active : c.active x) {a : Address}
    (target : m.targetScope? x = some a) : c.loose bound a x := by
  unfold Shelter.loose
  split
  · exact active
  next elsewhere =>
  refine ⟨kept.within x active, ?_⟩
  unfold Machine.targetScope? at target
  rw [kept.isGlobal, kept.isNonlocal] at target
  split at target
  · next h => exact .inl h
  · split at target
    · next h => exact .inr h
    · cases target
      exact absurd kept.current elsewhere

theorem assign (kept : Keeps bound c m) {x : String} (active : c.active x) (v : Value)
    {a : Address} (target : m.targetScope? x = some a) :
    Keeps bound c { m with heap := m.heap.modifyScope a (·.set x v) } :=
  kept.withHeap <| kept.scopes.modifyScope fun _ _ _ inside =>
    inside.trans (.set (kept.loose_target active target) v)

theorem capture (kept : Keeps bound c m) :
    Keeps bound c { m with stack := m.stack.modifyHead ({ · with captured := true }) } := by
  obtain ⟨heap, stack, _⟩ := m
  cases stack <;> exact { kept with }

end Shelter.Keeps

/-- The bindings of the running frame. -/
def Machine.currentVars (m : Machine σ) : Namespace :=
  ((m.heap.scope? m.currentScope).map (·.vars)).getD .empty

/-- The heap once the names of a comprehension are given back what they stood for. -/
def Machine.giveBack (m : Machine σ) (names : List String) (h : Heap) : Heap :=
  h.modifyScope m.currentScope
    ((names.map fun x => (x, m.currentVars.get? x)).foldl restore ·)

namespace Shelter.Keeps

/-- At the end of a comprehension the scope of the frame is as at its beginning. -/
theorem givenBack (kept : Keeps bound c m) {names : List String} {m' : Machine σ}
    (inside : Keeps bound ⟨m, (· ∈ names)⟩ m') :
    Keeps bound c { m' with heap := m.giveBack names m'.heap } := by
  have tight : m.heap.KeptBut (c.loose bound) (m.giveBack names m'.heap) := by
    intro a s hs
    obtain ⟨s', hs', parent, loose⟩ := inside.scopes a s hs
    rw [Heap.scope?_eq_some] at hs'
    by_cases here : m.currentScope = a
    · subst here
      have vars : m.currentVars = s.vars := by
        rw [Machine.currentVars, hs]
        rfl
      refine ⟨{ s' with vars := s.vars }, ?_, parent, .refl _⟩
      have back : (names.map fun x => (x, m.currentVars.get? x)).foldl restore s'.vars =
          s.vars := by
        rw [vars]
        refine foldl_restore (loose.mono fun x hx => ?_)
        rwa [Shelter.loose, if_pos rfl] at hx
      rw [Heap.scope?_eq_some, Machine.giveBack, Heap.modifyScope, Heap.get?_modify, if_pos rfl,
        hs']
      exact congrArg (fun vars => some (Object.scope ⟨vars, s'.parent⟩)) back
    · refine ⟨s', ?_, parent, loose.mono fun x hx => ?_⟩
      · rw [Heap.scope?_eq_some, Machine.giveBack, Heap.modifyScope, Heap.get?_modify,
          if_neg here, hs']
      · rw [Shelter.loose, if_neg (Ne.symm here)] at hx
        rw [Shelter.loose, ← kept.current, if_neg (Ne.symm here)]
        refine ⟨hx.1, ?_⟩
        rw [Machine.declares, ← kept.isGlobal, ← kept.isNonlocal]
        exact hx.2
  exact {
    globals := inside.globals.trans kept.globals
    current := inside.current.trans kept.current
    isGlobal := inside.isGlobal.trans kept.isGlobal
    isNonlocal := inside.isNonlocal.trans kept.isNonlocal
    within := kept.within
    scopes := kept.scopes.trans tight }

end Shelter.Keeps

/-! ### The coupling -/

/-- A runner that stops at the first event. -/
def sealed (fuel : Nat) : Runner σ := runner (fun _ _ => throw .outOfFuel) (pure ()) fuel

/-- The machines of a run coupled with itself, as long as it is in one frame. -/
structure Contained (bound : String → Prop) (c : Shelter σ) (w : World) (m m' : Machine σ) :
    Prop where
  world : w = World.diagonal fun _ => True
  eq : m = m'
  kept : c.Keeps bound m

/-- A run coupled with itself. It may be that the left one stops where a function is entered. -/
def contained (σ : Type) (bound : String → Prop) : Coupling σ σ where
  Ctx := Shelter σ
  Holds := Contained bound
  phrase
    | .expr e => ∀ x ∈ e.boundNames, bound x
    | _ => True
  line _ _ := True
  changes := True
  executes := False
  harmless _ := False
  Tame _ := True
  binds c x := c.active x
  confined := True
  lopsided := False
  Left := True
  Right := False
  Stops _ _ := True
  stops _ := trivial
  slack _ := trivial

namespace Contained

variable {bound : String → Prop} {c : Shelter σ} {w : World} {m m' : Machine σ} {A : Rel α β}

theorem near (h : Contained bound c w m m') : Near w m m' ∧ w.Flat := by
  obtain ⟨rfl, rfl, -⟩ := h
  exact ⟨.refl_diagonal (knows_all _), World.diagonal_flat⟩

/-- Computations that do the same one thing to a machine. -/
theorem sim_of {x : M σ α} {y : M σ β}
    (h : ∀ m, w = World.diagonal (fun _ => True) → c.Keeps bound m →
      ∃ a b m', x m = .ok a m' ∧ y m = .ok b m' ∧ A w a b ∧ c.Keeps bound m') :
    (contained σ bound).Sim c w A x y := by
  rintro m _ ⟨hw, rfl, kept⟩
  obtain ⟨a, b, m', hx, hy, ha, kept'⟩ := h m hw kept
  rw [hx, hy]
  exact .ok le_rfl ha ⟨hw, rfl, kept'⟩

theorem assign_sim {x : String} {v v' : Value} (active : c.active x) (hv : ValueRel w v v') :
    (contained σ bound).Sim c w Same (assignName x v) (assignName x v') := by
  rintro m _ ⟨rfl, rfl, kept⟩
  obtain rfl := Discrete.eq World.diagonal_sharp hv
  have run := targetScope_run x m
  show Agree _ _ _ _ ((targetScope x >>= _) m) ((targetScope x >>= _) m)
  cases target : m.targetScope? x with
  | none =>
    rw [target] at run
    rw [M.bind_error run]
    exact .error le_rfl ⟨.plain rfl, fun _ => rfl⟩ ⟨rfl, rfl, kept⟩
  | some a =>
    rw [target] at run
    rw [M.bind_ok run]
    exact .ok le_rfl rfl ⟨rfl, rfl, kept.assign active v target⟩

theorem bound_sim {e : Expr} {x : M σ α} {y : M σ β} (he : ∀ x ∈ e.boundNames, bound x)
    (h : ∀ c' w', w ≤ w' → (∀ n ∈ e.boundNames, c'.active n) →
      (contained σ bound).Sim c' w' A x y) :
    (contained σ bound).Sim c w A (whileBound e.boundNames x) (whileBound e.boundNames y) := by
  rintro m _ ⟨hw, rfl, kept⟩
  have inside := h ⟨m, (· ∈ e.boundNames)⟩ w le_rfl (fun _ h => h) m m
    ⟨hw, rfl, .start he⟩
  show Agree (contained σ bound) c w A (EStateM.bind (attempt x) _ m)
    (EStateM.bind (attempt y) _ m)
  unfold EStateM.bind attempt
  revert inside
  generalize x m = rx, y m = ry
  intro inside
  cases inside with
  | left h => exact .left h
  | right h => exact h.elim
  | stop _ => exact .stop trivial
  | lost hl => exact hl.elim
  | ok hw h hm =>
    obtain ⟨world, rfl, inside⟩ := hm
    exact .ok hw h ⟨world, rfl, kept.givenBack inside⟩
  | error hw h hm =>
    obtain ⟨world, rfl, inside⟩ := hm
    exact .error hw h ⟨world, rfl, kept.givenBack inside⟩

theorem capture_sim : (contained σ bound).Sim c w Same
    (changeFrame ({ · with captured := true })) (changeFrame ({ · with captured := true })) :=
  sim_of fun _ _ kept => ⟨_, _, _, rfl, rfl, rfl, kept.capture⟩

instance lawful : (contained σ bound).Lawful where
  near h := h.near.1
  phrase := False.elim
  knows _ h _ := h.world ▸ trivial
  changes := False.elim
  calm := .inl trivial
  harmless _ := False.elim
  executes _ _ := .inr trivial
  roams h _ := h
  binds _ _ := .inl trivial
  tame _ _ := trivial
  special _ _ _ := trivial
  inert _ _ := .inl trivial
  upright _ h := h
  inspecting h := .inl (congrArg Machine.inspecting h.eq)
  filed {c w m m' v v' k} h _ _ := ⟨w, le_rfl, h.world ▸ trivial, h⟩
  alloc h _ := sim_of fun m hw kept => by
    subst hw
    obtain rfl := Discrete.eq World.diagonal_sharp h
    exact ⟨_, _, _, rfl, rfl, Diagonal.refl _, kept.withHeap (kept.scopes.alloc _)⟩
  allocClass _ := False.elim
  tuple h := sim_of fun m hw kept => by
    subst hw
    obtain rfl := Discrete.eq (A := ValuesRel) World.diagonal_sharp h
    exact ⟨_, _, _, rfl, rfl, Diagonal.refl _, kept.withHeap kept.scopes⟩
  edit {c w a a' f f'} _ ha he scope _ := sim_of fun m hw kept => by
    subst hw
    obtain rfl : a = a' := ha
    have same : m.heap.modify a f = m.heap.modify a f' := m.heap.modify_congr fun o ho =>
      Discrete.eq World.diagonal_sharp (he.rel (.refl_diagonal (knows_all _ a o ho)))
    refine ⟨(), (), _, rfl, ?_, rfl, kept.withHeap (kept.scopes.modify (scope trivial))⟩
    exact congrArg (fun h => EStateM.Result.ok () { m with heap := h }) same.symm
  assign _ active hv := assign_sim active hv
  bound _ he h := bound_sim he h
  emit text _ := sim_of fun _ _ kept => ⟨_, _, _, rfl, rfl, rfl, { kept with }⟩
  goTo := False.elim
  amend := False.elim
  capture _ := capturedScope_sim near capture_sim
  enlist _ := False.elim
  writing {c w a a' m m'} _ _ A x y hm _ ha h := by
    refine Sim.whileWriting ?_ fun c' => h c' w le_rfl fun _ _ => trivial
    obtain ⟨rfl, rfl, kept⟩ := hm
    obtain rfl : a = a' := ha.1
    refine ⟨c, ⟨rfl, rfl, { kept with }⟩, ?_⟩
    rintro w' m _ - ⟨hw, rfl, kept⟩
    exact ⟨hw, rfl, { kept with }⟩
  handling := False.elim

/-- A function is entered no further than to the event that tells of it. -/
theorem confine_sim {tell : Nat → Moment → M σ Unit} {d : FunctionDef} {vars vars' : Namespace}
    {scope scope' owner owner' : Option Address} {receiver receiver' : Option Value} (fuel : Nat)
    (hv : NamespaceRel w vars vars') (hs : OptionRel KeptRel w scope scope') :
    (contained σ bound).Sim c w ValueRel (enterFunction (sealed fuel) d vars scope owner receiver)
      (enterFunction (runner tell (pure ()) fuel) d vars' scope' owner' receiver') := by
  rintro m _ ⟨rfl, rfl, kept⟩
  obtain rfl := Discrete.eq World.diagonal_sharp hv
  obtain rfl := Discrete.eq World.diagonal_sharp hs
  by_cases deep : m.stack.length ≥ recursionLimit
  · have ends (r : Runner σ) (owner : Option Address) (receiver : Option Value) :
        enterFunction r d vars scope owner receiver m = .error (.error ⟨.recursion, m.pos⟩)
          { m with heap := (m.heap.alloc (.scope ⟨vars, scope⟩)).2.free m.heap.next } := by
      show (if m.stack.length ≥ recursionLimit then _ else _ : M σ Value) _ = _
      rw [if_pos deep]
      rfl
    rw [ends, ends]
    exact .error le_rfl ⟨.plain rfl, fun _ => rfl⟩ ⟨rfl, rfl, kept.withHeap (kept.scopes.free _)⟩
  · have stops : enterFunction (sealed fuel) d vars scope owner receiver m =
        .error .outOfFuel { m with
          heap := (m.heap.alloc (.scope ⟨vars, scope⟩)).2
          stack := { Frame.start d.name .function m.heap.next d.pos.line with owner, receiver } ::
            m.stack } := by
      show (if m.stack.length ≥ recursionLimit then _ else _ : M σ Value) _ = _
      rw [if_neg deep]
      rfl
    rw [stops]
    exact .left trivial

theorem tell_rel (tell : Nat → Moment → M σ Unit) : TellRel (contained σ bound)
    (fun _ _ => throw .outOfFuel) (pure ()) tell (pure ()) where
  exact := fun _ _ hm => .ok le_rfl (hm.world ▸ World.diagonal_exact) hm
  reveals := False.elim
  mark _ := False.elim
  enter _ := False.elim
  confine fuel _ hv hs := confine_sim fuel hv hs
  classBody _ := False.elim

end Contained

/-! ### Expressions -/

/-- The names that comprehensions in an expression bind, those in functions made there included. -/
def Script.Expr.comprehended (e : Expr) : List String :=
  e.parts.flatMap fun
    | .expr part => part.boundNames
    | _ => []

/-- The names that an expression may leave bound otherwise in a scope: those that a comprehension
binds while the frame has declared them to be bound outside of its own scope. -/
def Machine.loose (m : Machine σ) (e : Expr) (a : Address) (x : String) : Prop :=
  a ≠ m.currentScope ∧ m.declares x ∧ x ∈ e.comprehended

/-- Where no name is loose in the scope of the frame, those that are loose are bound outside. -/
theorem Shelter.loose_outside {m : Machine σ} {e : Expr} {a : Address} {x : String}
    (h : Shelter.loose (· ∈ e.comprehended) ⟨m, fun _ => False⟩ a x) : m.loose e a x := by
  unfold Shelter.loose at h
  split at h
  · exact h.elim
  · next elsewhere => exact ⟨elsewhere, h.2, h.1⟩

/-- Comprehension variables do not leak, as long as no function of the script is called: after an
expression, whether it has failed or not, all scopes keep their bindings with their values, and in
their order, and have got no others. The exception are names that a comprehension in it binds and
that the frame has declared to be global or nonlocal, outside of the scope of the frame. -/
theorem comprehension_contained (tell : Nat → Moment → M σ Unit) (fuel : Nat) (m : Machine σ)
    (e : Expr) (calls : ∀ m', (sealed fuel).eval e m ≠ .error .outOfFuel m') :
    (runner tell (pure ()) fuel).eval e m = (sealed fuel).eval e m ∧
      Leaves (fun m' => m.heap.KeptBut (m.loose e) m'.heap ∧
          ∀ a s, (∀ x, ¬m.loose e a x) → m.heap.scope? a = some s → m'.heap.scope? a = some s)
        ((runner tell (pure ()) fuel).eval e m) := by
  have parts : Every (contained σ (· ∈ e.comprehended)).phrase e.parts := by
    intro n hn
    cases n with
    | expr part => exact fun x hx => List.mem_flatMap.2 ⟨_, hn, hx⟩
    | _ => trivial
  have tells : TellRel (contained σ (· ∈ e.comprehended)) (fun _ _ => throw .outOfFuel) (pure ())
      tell (pure ()) := Contained.tell_rel tell
  have start : Shelter.Keeps (· ∈ e.comprehended) ⟨m, fun _ => False⟩ m := .start nofun
  have inside := (runner_rel tells fuel).eval parts m m (⟨rfl, rfl, start⟩ : Contained _ _ _ m m)
  have leaves {h : Heap}
      (kept : m.heap.KeptBut (Shelter.loose (· ∈ e.comprehended) ⟨m, fun _ => False⟩) h) :
      m.heap.KeptBut (m.loose e) h ∧
        ∀ a s, (∀ x, ¬m.loose e a x) → m.heap.scope? a = some s → h.scope? a = some s := by
    have kept := kept.mono fun a x hx => Shelter.loose_outside hx
    exact ⟨kept, fun a s tight hs => kept.scope?_eq tight hs⟩
  revert inside
  show Agree _ _ _ _ ((sealed fuel).eval e m) ((runner tell (pure ()) fuel).eval e m) → _
  generalize left : (sealed fuel).eval e m = x, (runner tell (pure ()) fuel).eval e m = y
  intro inside
  cases inside with
  | left _ => exact absurd left (calls _)
  | right h => exact h.elim
  | stop _ => exact absurd left (calls _)
  | lost hl => exact hl.elim
  | ok _ hv hm =>
    obtain ⟨rfl, rfl, kept⟩ := hm
    obtain rfl := Discrete.eq World.diagonal_sharp hv
    exact ⟨rfl, .ok (leaves kept.scopes)⟩
  | error _ he hm =>
    obtain ⟨rfl, rfl, kept⟩ := hm
    obtain rfl := Discrete.eq World.diagonal_sharp he
    exact ⟨rfl, .error (leaves kept.scopes)⟩

/-- A function that has declared `y` to be global, where both `x` and `y` are bound. -/
def globalDeclared : Machine Unit :=
  { Machine.start () with
    heap := ⟨#[some (.scope ⟨.ofList [("x", .int 1)], none⟩),
      some (.scope ⟨.ofList [("y", .int 2)], none⟩)], 0⟩
    globals := Heap.base + 1
    stack := [{ Frame.start "f" .function Heap.base 1 with globals := ["y"] }] }

/-- `[(x, y) for x in [3] for y in [4]]` -/
def pairsOf : Expr :=
  .listComp (.tuple [.name "x", .name "y"])
    [⟨.name "x", .list [.int 3], []⟩, ⟨.name "y", .list [.int 4], []⟩]

theorem comprehension_contained_two :
    (∀ m', (sealed 5).eval pairsOf globalDeclared ≠ .error .outOfFuel m') ∧
      Leaves (fun m' => m'.heap.scope? Heap.base = some ⟨.ofList [("x", .int 1)], none⟩)
        ((quiet 5).eval pairsOf globalDeclared) := by
  have calls : ∀ m', (sealed 5).eval pairsOf globalDeclared ≠ .error .outOfFuel m' := nofun
  refine ⟨calls, (comprehension_contained _ 5 _ _ calls).2.mono fun m' h => ?_⟩
  exact h.2 Heap.base _ (fun x loose => loose.1 rfl) rfl

/-- What `y` stands for in the module is not given back. -/
example : ∃ v m', (quiet 5).eval pairsOf globalDeclared = .ok v m' ∧
    m'.global? "y" = some (.int 4) := ⟨_, _, rfl, rfl⟩

end Stepwise
