import Mathlib.Data.List.Nodup
import Stepwise.Eval.Call
import Stepwise.Proofs.Equality
import Stepwise.Proofs.Heap
import Stepwise.Proofs.Ordered

/-!
# Arguments and parameters

A call binds the names of a function, each once: a parameter to its positional argument, or else to
its keyword argument, or else to its default; the name behind `*` to the positional arguments that
are left over, and the name behind `**` to the keyword arguments that are. It does so exactly if no
argument is a misfit, and a call with a misfit leaves the machine as it is
(`call_binds_arguments`).

## The model

Positional arguments fill the first slots, and then the keywords are put in their places one by
one. What the slots hold after some keywords is said by these alone (`placed`), so each keyword is
refused, or it leads from one such state to the next (`keyword_ends`). Once every parameter has a
value, the starred names are new names behind those of the parameters (`Extends`).
-/

namespace Stepwise

open Script

variable {σ : Type}

/-! ### What fits -/

section

variable (d : FunctionDef) (defaults : List (Option Value)) (args : List Value)
  (keywords : Keywords)

/-- The names that a call of a function binds. -/
def boundNames : List String := d.params.map (·.name) ++ d.vararg.toList ++ d.kwarg.toList

/-- The keyword arguments that name no parameter. -/
def surplusKeywords : Keywords := keywords.filter fun k => k.1 ∉ d.params.map (·.name)

/-- What is given for the parameter at a position: a positional argument, or else the keyword
argument of its name. -/
def givenFor (i : Nat) (name : String) : Option Value :=
  args[i]?.or (Ordered.find? name keywords)

/-- The ways in which arguments do not fit the parameters of a function. -/
inductive Misfit : Prop
  /-- There are more positional arguments than parameters. -/
  | surplus (more : d.params.length < args.length) (none : d.vararg = none)
  /-- A keyword names a parameter that has got a value before. -/
  | taken {before name v after i p} (split : keywords = before ++ (name, v) :: after)
      (param : d.params[i]? = some p) (named : p.name = name)
      (had : i < args.length ∨ name ∈ before.map (·.1))
  /-- A keyword names no parameter. -/
  | unknown {name v} (given : (name, v) ∈ keywords) (foreign : name ∉ d.params.map (·.name))
      (none : d.kwarg = none)
  /-- A parameter has neither argument nor default. -/
  | missing {i p} (param : d.params[i]? = some p) (short : args.length ≤ i)
      (unnamed : p.name ∉ keywords.map (·.1)) (bare : defaults[i]?.join = none)

/-- What the bindings of a function owe to the arguments it is called with. -/
structure Binds (h : Heap) (vars : Namespace) : Prop where
  /-- Nothing else is bound. -/
  names : vars.keys = boundNames d
  params : ∀ {i p}, d.params[i]? = some p → ∃ v, vars.get? p.name = some v ∧
    (givenFor args keywords i p.name).or defaults[i]?.join = some v
  vararg : ∀ {name}, d.vararg = some name →
    ∃ mark, vars.get? name = some (.tuple mark (args.drop d.params.length))
  /-- The dictionary has an entry for each name, with the value that came last. -/
  kwarg : ∀ {name}, d.kwarg = some name → ∃ a t, vars.get? name = some (.ref a) ∧
    h.get? a = some (.dict t) ∧
    t.keys = ((surplusKeywords d keywords).map fun k => Key.str k.1).eraseDups ∧
    ∀ k, t.get? (.str k) =
      (Ordered.find? k (surplusKeywords d keywords).reverse).map fun v => (.str k, v)

end

/-! ### Slots -/

section

variable {d : FunctionDef} {defaults : List (Option Value)} {args : List Value}
  {before keywords : Keywords} {name : String} {v : Value} {i : Nat} {p : Param}

theorem givenFor_eq_none : givenFor args keywords i name = none ↔
    args.length ≤ i ∧ name ∉ keywords.map (·.1) := by
  rw [givenFor, Option.or_eq_none_iff, List.getElem?_eq_none_iff, Ordered.find?_eq_none_iff]

/-- Where positional arguments and some keyword arguments have put the arguments of a call. -/
def placed (d : FunctionDef) (args : List Value) (before : Keywords) :
    List (Option Value) × Keywords :=
  (d.params.mapIdx fun i p => givenFor args before i p.name, surplusKeywords d before)

theorem slots_eq (d : FunctionDef) (args : List Value) :
    (Bound.slots d.params.length args, []) = placed d args [] := by
  refine Prod.ext (List.ext_getElem? fun i => ?_) rfl
  simp only [placed, List.getElem?_mapIdx, givenFor, Ordered.find?, Option.or_none]
  unfold Bound.slots
  by_cases inside : i < d.params.length
  · rw [List.getElem?_eq_getElem inside, Option.map_some, List.getElem?_append]
    by_cases given : i < args.length
    · rw [if_pos (by simp; omega), List.getElem?_map, List.getElem?_take_of_lt inside,
        List.getElem?_eq_getElem given, Option.map_some]
    · rw [if_neg (by simp; omega), List.getElem?_replicate, if_pos (by simp; omega),
        List.getElem?_eq_none (not_lt.1 given)]
  · rw [List.getElem?_eq_none (not_lt.1 inside), List.getElem?_eq_none]
    · rfl
    · simp
      omega

/-- A keyword is refused when some keywords have come before it. -/
def Refused (d : FunctionDef) (args : List Value) (before : Keywords) (name : String) : Prop :=
  (∃ i p, d.params[i]? = some p ∧ p.name = name ∧
    (i < args.length ∨ name ∈ before.map (·.1))) ∨
  name ∉ d.params.map (·.name) ∧ d.kwarg = none

theorem param_unique {j : Nat} {q : Param} (distinct : (d.params.map (·.name)).Nodup)
    (param : d.params[i]? = some p) (param' : d.params[j]? = some q) (same : p.name = q.name) :
    i = j := by
  obtain ⟨inside, -⟩ := List.getElem?_eq_some_iff.1 param
  apply (List.getElem?_inj (by rwa [List.length_map]) distinct).1
  rw [List.getElem?_map, List.getElem?_map, param, param', Option.map_some, Option.map_some, same]

theorem givenFor_concat (i : Nat) (k : String) : givenFor args (before ++ [(name, v)]) i k =
    (givenFor args before i k).or (if name = k then some v else none) := by
  rw [givenFor, Ordered.find?_concat, givenFor, Option.or_assoc]

theorem surplusKeywords_own (own : name ∈ d.params.map (·.name)) :
    surplusKeywords d (before ++ [(name, v)]) = surplusKeywords d before := by
  unfold surplusKeywords
  rw [List.filter_append, List.filter_cons_of_neg (by simpa using own), List.filter_nil,
    List.append_nil]

theorem surplusKeywords_foreign (foreign : name ∉ d.params.map (·.name)) :
    surplusKeywords d (before ++ [(name, v)]) = surplusKeywords d before ++ [(name, v)] := by
  unfold surplusKeywords
  rw [List.filter_append, List.filter_cons_of_pos (by simpa using foreign), List.filter_nil]

/-- The position of the parameter of a name. -/
theorem findIdx?_params (distinct : (d.params.map (·.name)).Nodup) (param : d.params[i]? = some p) :
    d.params.findIdx? (·.name = p.name) = some i := by
  obtain ⟨inside, here⟩ := List.getElem?_eq_some_iff.1 param
  rw [List.findIdx?_eq_some_iff_getElem]
  refine ⟨inside, by simp [here], ?_⟩
  intro j before same
  have other : d.params[j]? = some d.params[j] := List.getElem?_eq_getElem (before.trans inside)
  exact before.ne (param_unique distinct other param (of_decide_eq_true same))

theorem findIdx?_foreign (foreign : name ∉ d.params.map (·.name)) :
    d.params.findIdx? (·.name = name) = none := by
  rw [List.findIdx?_eq_none_iff]
  intro p mem
  apply decide_eq_false
  rintro rfl
  exact foreign (List.mem_map_of_mem mem)

/-- What a keyword does to the slot of its parameter. -/
theorem keyword_of_param (distinct : (d.params.map (·.name)).Nodup)
    (param : d.params[i]? = some p) :
    Bound.keyword d (placed d args before) (p.name, v) =
      if (givenFor args before i p.name).isSome then .error (.multipleValues d.name p.name)
      else .ok (placed d args (before ++ [(p.name, v)])) := by
  have slot : (placed d args before).1[i]? = some (givenFor args before i p.name) := by
    rw [placed, List.getElem?_mapIdx, param, Option.map_some]
  unfold Bound.keyword
  rw [findIdx?_params distinct param]
  dsimp only
  rw [slot]
  cases free : givenFor args before i p.name with
  | some u => rfl
  | none =>
    rw [if_neg (by simp)]
    have own : p.name ∈ d.params.map (·.name) := List.mem_map_of_mem (List.mem_of_getElem? param)
    -- No other slot has changed, since no other parameter has the name of the keyword.
    refine congrArg _ (Prod.ext (List.ext_getElem? fun j => ?_) ?_)
    · rw [placed, placed, List.getElem?_mapIdx, List.getElem?_set, List.getElem?_mapIdx]
      by_cases here : i = j
      · subst here
        rw [if_pos rfl, if_pos (by simpa using (List.getElem?_eq_some_iff.1 param).1), param,
          Option.map_some, givenFor_concat, free, if_pos rfl]
        rfl
      · rw [if_neg here]
        refine Option.map_congr fun q hq => ?_
        have other : p.name ≠ q.name := fun same => here (param_unique distinct param hq same)
        rw [givenFor_concat, if_neg other, Option.or_none]
    · exact (surplusKeywords_own own).symm

theorem keyword_of_foreign (foreign : name ∉ d.params.map (·.name)) :
    Bound.keyword d (placed d args before) (name, v) =
      if d.kwarg.isSome then .ok (placed d args (before ++ [(name, v)]))
      else .error (.unexpectedKeyword d.name name) := by
  unfold Bound.keyword
  rw [findIdx?_foreign foreign]
  dsimp only
  have same : placed d args (before ++ [(name, v)]) =
      ((placed d args before).1, (placed d args before).2 ++ [(name, v)]) := by
    refine Prod.ext (List.ext_getElem? fun j => ?_) ?_
    · simp only [placed, List.getElem?_mapIdx]
      refine Option.map_congr fun q hq => ?_
      have other : name ≠ q.name := by
        rintro rfl
        exact foreign (List.mem_map_of_mem (List.mem_of_getElem? hq))
      rw [givenFor_concat, if_neg other, Option.or_none]
    · exact surplusKeywords_foreign foreign
  rw [same]

/-- One keyword is put in its place, or refused. -/
theorem keyword_ends (distinct : (d.params.map (·.name)).Nodup) (before : Keywords)
    (arg : String × Value) :
    Refused d args before arg.1 ∧
        (∃ fault, Bound.keyword d (placed d args before) arg = .error fault) ∨
      ¬Refused d args before arg.1 ∧
        Bound.keyword d (placed d args before) arg = .ok (placed d args (before ++ [arg])) := by
  obtain ⟨name, v⟩ := arg
  by_cases own : name ∈ d.params.map (·.name)
  · obtain ⟨p, mem, rfl⟩ := List.mem_map.1 own
    obtain ⟨i, param⟩ := List.mem_iff_getElem?.1 mem
    have refused : Refused d args before p.name ↔ givenFor args before i p.name ≠ none := by
      rw [Ne, givenFor_eq_none, not_and_or, not_le, not_not]
      constructor
      · rintro (⟨j, q, param', same, had⟩ | ⟨foreign, -⟩)
        · rwa [param_unique distinct param param' same.symm]
        · exact absurd own foreign
      · exact fun had => .inl ⟨i, p, param, rfl, had⟩
    rw [refused, keyword_of_param distinct param]
    cases givenFor args before i p.name with
    | some u => exact .inl ⟨nofun, _, rfl⟩
    | none => exact .inr ⟨not_not.2 rfl, rfl⟩
  · have refused : Refused d args before name ↔ d.kwarg = none := by
      constructor
      · rintro (⟨i, p, param, rfl, -⟩ | ⟨-, none⟩)
        · exact absurd (List.mem_map_of_mem (List.mem_of_getElem? param)) own
        · exact none
      · exact fun none => .inr ⟨own, none⟩
    rw [refused, keyword_of_foreign own]
    cases d.kwarg with
    | none => exact .inl ⟨rfl, _, rfl⟩
    | some k => exact .inr ⟨nofun, rfl⟩

/-- The keywords are put in their places one by one, up to one that is refused. -/
theorem keywords_end (distinct : (d.params.map (·.name)).Nodup) : ∀ keywords before : Keywords,
    (∃ pre arg post, keywords = pre ++ arg :: post ∧ Refused d args (before ++ pre) arg.1) ∧
        (∃ fault, keywords.foldlM (Bound.keyword d) (placed d args before) = .error fault) ∨
      (¬∃ pre arg post, keywords = pre ++ arg :: post ∧ Refused d args (before ++ pre) arg.1) ∧
        keywords.foldlM (Bound.keyword d) (placed d args before) =
          .ok (placed d args (before ++ keywords))
  | [], before => by
    refine .inr ⟨?_, by rw [List.append_nil]; rfl⟩
    rintro ⟨pre, arg, post, split, -⟩
    simp at split
  | arg :: rest, before => by
    rw [List.foldlM_cons]
    obtain ⟨refused, fault, failed⟩ | ⟨fits, put⟩ := keyword_ends distinct before arg
    · refine .inl ⟨⟨[], arg, rest, rfl, by rwa [List.append_nil]⟩, fault, ?_⟩
      rw [failed]
      rfl
    · rw [put]
      -- What comes before a later keyword is what had come before, this one, and those between.
      have later (pre : Keywords) (b : String × Value) :
          Refused d args (before ++ [arg] ++ pre) b.1 ↔
            Refused d args (before ++ arg :: pre) b.1 := by
        rw [List.append_assoc, List.singleton_append]
      obtain ⟨⟨pre, b, post, rfl, refused⟩, failed⟩ | ⟨fit, put⟩ :=
        keywords_end distinct rest (before ++ [arg])
      · exact .inl ⟨⟨arg :: pre, b, post, rfl, (later pre b).1 refused⟩, failed⟩
      · refine .inr ⟨?_, ?_⟩
        · rintro ⟨pre, b, post, split, refused⟩
          cases pre with
          | nil =>
            cases split
            rw [List.append_nil] at refused
            exact fits refused
          | cons _ pre =>
            cases split
            exact fit ⟨pre, b, post, rfl, (later pre b).2 refused⟩
        · rw [List.append_assoc, List.singleton_append] at put
          exact put

/-! ### Defaults -/

/-- What is in a slot, or else the default. -/
def valueAt (slots defaults : List (Option Value)) (i : Nat) : Option Value :=
  slots[i]?.join.or defaults[i]?.join

theorem valueAt_tail (slots defaults : List (Option Value)) (i : Nat) :
    valueAt slots.tail defaults.tail i = valueAt slots defaults (i + 1) := by
  rw [valueAt, List.getElem?_tail, List.getElem?_tail, valueAt]

theorem valueAt_head (slots defaults : List (Option Value)) :
    slots.head?.join.or defaults.head?.join = valueAt slots defaults 0 := by
  rw [valueAt, List.head?_eq_getElem?, List.head?_eq_getElem?]

/-- The parameters that get a value and those that do not. -/
theorem filled_or_unfilled : ∀ (ps : List Param) (slots defaults : List (Option Value)),
    (∃ i p, ps[i]? = some p ∧ valueAt slots defaults i = none) ∧
        Bound.unfilled ps slots defaults ≠ [] ∨
      ∃ vs, (∀ i, i < ps.length → valueAt slots defaults i = vs[i]?) ∧ vs.length = ps.length ∧
        Bound.unfilled ps slots defaults = [] ∧
        Bound.filled ps slots defaults = (ps.map (·.name)).zip vs
  | [], _, _ => .inr ⟨[], nofun, rfl, rfl, rfl⟩
  | p :: ps, slots, defaults => by
    unfold Bound.unfilled Bound.filled
    simp only [valueAt_head]
    cases first : valueAt slots defaults 0 with
    | none =>
      exact .inl ⟨⟨0, p, rfl, first⟩, by simp⟩
    | some v =>
      obtain ⟨⟨i, q, param, bare⟩, left⟩ | ⟨vs, values, length, none, all⟩ :=
        filled_or_unfilled ps slots.tail defaults.tail
      · rw [valueAt_tail] at bare
        exact .inl ⟨⟨i + 1, q, param, bare⟩, left⟩
      · refine .inr ⟨v :: vs, ?_, by simp [length], none, ?_⟩
        · intro i inside
          cases i with
          | zero => exact first
          | succ i =>
            rw [← valueAt_tail]
            exact values i (Nat.lt_of_succ_lt_succ inside)
        · rw [all]
          rfl

/-! ### Calls -/

theorem valueAt_placed (param : d.params[i]? = some p) :
    valueAt (placed d args keywords).1 defaults i =
      (givenFor args keywords i p.name).or defaults[i]?.join := by
  rw [valueAt, placed, List.getElem?_mapIdx, param]
  rfl

section

variable {state : List (Option Value) × Keywords}
  (room : ¬(args.length > d.params.length ∧ d.vararg.isNone))
  (put : keywords.foldlM (Bound.keyword d) (Bound.slots d.params.length args, []) = .ok state)
include room put

theorem ofCall_of_unfilled (left : Bound.unfilled d.params state.1 defaults ≠ []) :
    ∃ fault, Bound.ofCall d defaults args keywords = .error fault := by
  unfold Bound.ofCall
  rw [if_neg room, put]
  simp only [bind, Except.bind]
  cases names : Bound.unfilled d.params state.1 defaults with
  | nil => exact absurd names left
  | cons => exact ⟨_, rfl⟩

theorem ofCall_of_filled (none : Bound.unfilled d.params state.1 defaults = []) :
    Bound.ofCall d defaults args keywords =
      .ok ⟨Bound.filled d.params state.1 defaults, args.drop d.params.length, state.2⟩ := by
  unfold Bound.ofCall
  rw [if_neg room, put]
  simp only [bind, Except.bind, none]

end

/-- Arguments are put in their places exactly if none of them is a misfit. -/
theorem ofCall_ends (defaults : List (Option Value)) (args : List Value) (keywords : Keywords)
    (distinct : (d.params.map (·.name)).Nodup) :
    Misfit d defaults args keywords ∧
        (∃ fault, Bound.ofCall d defaults args keywords = .error fault) ∨
      ¬Misfit d defaults args keywords ∧ ∃ vs,
        (∀ {i p}, d.params[i]? = some p →
          (givenFor args keywords i p.name).or defaults[i]?.join = vs[i]?) ∧
        vs.length = d.params.length ∧
        Bound.ofCall d defaults args keywords = .ok ⟨(d.params.map (·.name)).zip vs,
          args.drop d.params.length, surplusKeywords d keywords⟩ := by
  by_cases surplus : args.length > d.params.length ∧ d.vararg.isNone
  · refine .inl ⟨.surplus surplus.1 (Option.isNone_iff_eq_none.1 surplus.2), ?_⟩
    unfold Bound.ofCall
    rw [if_pos surplus]
    exact ⟨_, rfl⟩
  · obtain ⟨⟨pre, arg, post, split, refused⟩, fault, failed⟩ | ⟨fit, put⟩ :=
      keywords_end distinct keywords []
    · refine .inl ⟨?_, fault, ?_⟩
      · obtain ⟨i, p, param, named, had⟩ | ⟨foreign, none⟩ := refused
        · exact .taken split param named had
        · have given : (arg.1, arg.2) ∈ keywords := by simp [split]
          exact .unknown given foreign none
      · unfold Bound.ofCall
        rw [if_neg surplus, slots_eq, failed]
        rfl
    · rw [← slots_eq, List.nil_append] at put
      obtain ⟨⟨i, p, param, bare⟩, left⟩ | ⟨vs, values, length, none, all⟩ :=
        filled_or_unfilled d.params (placed d args keywords).1 defaults
      · rw [valueAt_placed param, Option.or_eq_none_iff, givenFor_eq_none] at bare
        exact .inl ⟨.missing param bare.1.1 bare.1.2 bare.2, ofCall_of_unfilled surplus put left⟩
      · refine .inr ⟨?_, vs, ?_, length, ?_⟩
        · rintro (⟨more, none⟩ | ⟨split, param, named, had⟩ | ⟨given, foreign, none⟩ |
            ⟨param, short, unnamed, bare⟩)
          · exact surplus ⟨more, Option.isNone_iff_eq_none.2 none⟩
          · exact fit ⟨_, _, _, split, .inl ⟨_, _, param, named, had⟩⟩
          · obtain ⟨pre, post, split⟩ := List.append_of_mem given
            exact fit ⟨pre, _, post, split, .inr ⟨foreign, none⟩⟩
          · have value := values _ (List.getElem?_eq_some_iff.1 param).1
            rw [valueAt_placed param, givenFor_eq_none.2 ⟨short, unnamed⟩, bare, Option.or_none,
              eq_comm, List.getElem?_eq_none_iff, length] at value
            exact absurd (List.getElem?_eq_some_iff.1 param).1 (not_lt.2 value)
        · intro i p param
          rw [← valueAt_placed param]
          exact values i (List.getElem?_eq_some_iff.1 param).1
        · rw [ofCall_of_filled surplus put none, all]
          rfl

end

/-! ### The dictionary of surplus keywords -/

/-- The entry of a keyword. -/
def keywordEntry (k : String × Value) : Key × Value × Value := (.str k.1, .str k.1, k.2)

theorem find?_keywordEntry (k : String) : ∀ ks : Keywords,
    Ordered.find? (.str k) (ks.map keywordEntry) =
      (Ordered.find? k ks).map fun v => (Value.str k, v)
  | [] => rfl
  | e :: es => by
    rw [List.map_cons, Ordered.find?, Ordered.find?, keywordEntry]
    by_cases same : e.1 = k
    · rw [if_pos (congrArg Key.str same), if_pos same, same]
      rfl
    · rw [if_neg fun equal => same (Key.str.inj equal), if_neg same, find?_keywordEntry k es]

theorem get?_keywordTable (ks : Keywords) (k : String) :
    (Ordered.ofList (ks.map keywordEntry)).get? (.str k) =
      (Ordered.find? k ks.reverse).map fun v => (Value.str k, v) := by
  rw [Ordered.get?_ofList, ← List.map_reverse, find?_keywordEntry]

/-- A keyword that is there already gets its new value in its old place. -/
theorem insert_keyword (ks : Keywords) (k : String × Value) :
    Table.insert (.ofList (ks.map keywordEntry)) (.str k.1) (.str k.1) k.2 =
      .ofList ((ks ++ [k]).map keywordEntry) := by
  rw [List.map_append, List.map_singleton, Ordered.ofList_append]
  unfold Table.insert
  rw [get?_keywordTable]
  cases Ordered.find? k.1 ks.reverse <;> rfl

theorem tableOf_keywords (m : Machine σ) (ks : Keywords) :
    tableOf (ks.map fun (k, v) => (.str k, v)) m = .ok (.ofList (ks.map keywordEntry)) m := by
  let step (t : Table) (e : Value × Value) : M σ Table := do
    return t.insert (← keyOf e.1) e.1 e.2
  have steps : ∀ ks before : Keywords,
      (ks.map fun (k, v) => (Value.str k, v)).foldlM step (.ofList (before.map keywordEntry)) m =
        .ok (.ofList ((before ++ ks).map keywordEntry)) m := by
    intro ks
    induction ks with
    | nil =>
      intro before
      rw [List.append_nil]
      rfl
    | cons k ks ih =>
      intro before
      have put : step (.ofList (before.map keywordEntry)) (.str k.1, k.2) m =
          .ok (.ofList ((before ++ [k]).map keywordEntry)) m := by
        rw [← insert_keyword]
        exact M.bind_ok (keyOf_some rfl)
      rw [List.map_cons, List.foldlM_cons, M.bind_ok put, ih (before ++ [k]), List.append_assoc,
        List.singleton_append]
  exact steps ks []

/-! ### The scope -/

section

variable {d : FunctionDef} {defaults : List (Option Value)} {args vs : List Value}
  {keywords : Keywords} {m : Machine σ} {h h' : Heap} {vars : Namespace}

theorem Binds.mono (binds : Binds d defaults args keywords h vars)
    (more : ∀ {x o}, h.get? x = some o → h'.get? x = some o) :
    Binds d defaults args keywords h' vars where
  names := binds.names
  params := binds.params
  vararg := binds.vararg
  kwarg named := by
    obtain ⟨a, t, bound, found, entries⟩ := binds.kwarg named
    exact ⟨a, t, bound, more found, entries⟩

/-- Whether at most one more name is bound, to a value for which `holds` is true. -/
structure Extends (name? : Option String) (holds : Value → Prop) (vars vars' : Namespace) :
    Prop where
  keys : vars'.keys = vars.keys ++ name?.toList
  old : ∀ {k}, k ∈ vars.keys → vars'.get? k = vars.get? k
  new : ∀ {name}, name? = some name → ∃ v, vars'.get? name = some v ∧ holds v

theorem Extends.refl (holds : Value → Prop) (vars : Namespace) : Extends none holds vars vars :=
  ⟨(List.append_nil _).symm, fun _ => rfl, nofun⟩

theorem Extends.set {name : String} {holds : Value → Prop} {v : Value} (fresh : name ∉ vars.keys)
    (own : holds v) : Extends (some name) holds vars (vars.set name v) where
  keys := by
    rw [Ordered.keys_set, if_neg fresh]
    rfl
  old {k} mem := by
    rw [Ordered.get?_set, if_neg]
    rintro rfl
    exact fresh mem
  new {_} named := by
    cases named
    exact ⟨v, by rw [Ordered.get?_set, if_pos rfl], own⟩

/-- Binds the positional arguments that are left over. -/
def bindRest (d : FunctionDef) (rest : List Value) (vars : Namespace) : M σ Namespace :=
  match d.vararg with
  | some name => do return vars.set name (← makeTuple rest)
  | none => return vars

/-- Binds the keyword arguments that are left over. -/
def bindKeywords (d : FunctionDef) (keywords : Keywords) (vars : Namespace) : M σ Namespace :=
  match d.kwarg with
  | some name => do return vars.set name (← makeDict (keywords.map fun (k, v) => (.str k, v)))
  | none => return vars

theorem parameterScope_eq (d : FunctionDef) (b : Bound) : (parameterScope d b : M σ Namespace) =
    bindRest d b.rest (.ofList b.params) >>= bindKeywords d b.keywords := by
  unfold parameterScope bindRest bindKeywords
  cases d.vararg <;> cases d.kwarg <;> rfl

theorem bindRest_extends (d : FunctionDef) (rest : List Value) (vars : Namespace) (m : Machine σ)
    (fresh : ∀ {name}, d.vararg = some name → name ∉ vars.keys) :
    ∃ vars' h, bindRest d rest vars m = .ok vars' { m with heap := h } ∧
      Extends d.vararg (fun v => ∃ mark, v = .tuple mark rest) vars vars' ∧
      ∀ x, h.get? x = m.heap.get? x := by
  unfold bindRest
  cases named : d.vararg with
  | none => exact ⟨vars, m.heap, rfl, .refl _ _, fun _ => rfl⟩
  | some name => exact ⟨_, _, rfl, .set (fresh named) ⟨_, rfl⟩, fun _ => rfl⟩

theorem bindKeywords_extends (d : FunctionDef) (ks : Keywords) (vars : Namespace) (m : Machine σ)
    (fresh : ∀ {name}, d.kwarg = some name → name ∉ vars.keys) :
    ∃ vars' h, bindKeywords d ks vars m = .ok vars' { m with heap := h } ∧
      Extends d.kwarg (fun v => ∃ a, v = .ref a ∧
        h.get? a = some (.dict (.ofList (ks.map keywordEntry)))) vars vars' ∧
      ∀ {x o}, m.heap.get? x = some o → h.get? x = some o := by
  unfold bindKeywords
  cases named : d.kwarg with
  | none => exact ⟨vars, m.heap, rfl, .refl _ _, fun found => found⟩
  | some name =>
    let t : Table := .ofList (ks.map keywordEntry)
    refine ⟨vars.set name (.ref m.heap.next), (m.heap.alloc (.dict t)).2, ?_, ?_, ?_⟩
    · have made : makeDict (ks.map fun (k, v) => (.str k, v)) m =
          .ok (.ref m.heap.next) { m with heap := (m.heap.alloc (.dict t)).2 } :=
        M.bind_ok (tableOf_keywords m ks)
      exact M.bind_ok made
    · refine .set (fresh named) ⟨_, rfl, ?_⟩
      rw [Heap.get?_alloc, if_pos rfl]
    · intro x o found
      rw [Heap.get?_alloc, if_neg (Heap.ne_next found), found]

/-- The scope that a function starts with binds its names to what they owe to be bound to. -/
theorem parameterScope_binds (distinct : (boundNames d).Nodup)
    (values : ∀ {i p}, d.params[i]? = some p →
      (givenFor args keywords i p.name).or defaults[i]?.join = vs[i]?)
    (length : vs.length = d.params.length) (m : Machine σ) : ∃ vars h,
    parameterScope d ⟨(d.params.map (·.name)).zip vs, args.drop d.params.length,
        surplusKeywords d keywords⟩ m = .ok vars { m with heap := h } ∧
      Binds d defaults args keywords h vars ∧
      ∀ {x o}, m.heap.get? x = some o → h.get? x = some o := by
  let es := (d.params.map (·.name)).zip vs
  have names : es.map (·.1) = d.params.map (·.name) :=
    List.map_fst_zip (by rw [List.length_map, length])
  obtain ⟨front, kwargs, apart⟩ := List.nodup_append.1 distinct
  obtain ⟨params, -, own⟩ := List.nodup_append.1 front
  have entries : (Ordered.ofList es).entries = es := Ordered.entries_ofList (by rwa [names])
  have keys : (Ordered.ofList es).keys = d.params.map (·.name) := by
    rw [Ordered.keys, entries, names]
  -- Neither starred name is bound when its turn comes: the names are all different.
  obtain ⟨vars₁, h₁, rest, more, same⟩ := bindRest_extends d (args.drop d.params.length)
    (.ofList es) m fun {name} named mem =>
      own name (keys ▸ mem) name (by simp [named]) rfl
  obtain ⟨vars₂, h₂, surplus, most, kept⟩ := bindKeywords_extends d (surplusKeywords d keywords)
    vars₁ { m with heap := h₁ } fun {name} named mem =>
      apart name (by rwa [more.keys, keys] at mem) name (by simp [named]) rfl
  refine ⟨vars₂, h₂, ?_, ?_, fun {x o} found => kept ((same x).trans found)⟩
  · rw [parameterScope_eq, M.bind_ok rest]
    exact surplus
  · refine ⟨?_, fun {i p} param => ?_, fun {name} named => ?_, fun {name} named => ?_⟩
    · rw [most.keys, more.keys, keys]
      rfl
    · have inside : i < vs.length := length ▸ (List.getElem?_eq_some_iff.1 param).1
      have bound : (Ordered.ofList es).get? p.name = some vs[i] := by
        rw [Ordered.get?_eq_some, entries, List.mem_iff_getElem?]
        refine ⟨i, ?_⟩
        rw [List.getElem?_zip_eq_some, List.getElem?_map, param]
        exact ⟨rfl, List.getElem?_eq_getElem inside⟩
      have mem : p.name ∈ (Ordered.ofList es).keys := by
        rw [keys]
        exact List.mem_map_of_mem (List.mem_of_getElem? param)
      refine ⟨vs[i], ?_, (values param).trans (List.getElem?_eq_getElem inside)⟩
      rw [most.old (more.keys ▸ List.mem_append_left _ mem), more.old mem, bound]
    · obtain ⟨v, bound, mark, rfl⟩ := more.new named
      refine ⟨mark, ?_⟩
      rw [most.old (more.keys ▸ List.mem_append_right _ (by simp [named])), bound]
    · obtain ⟨v, bound, a, rfl, found⟩ := most.new named
      refine ⟨a, _, bound, found, ?_, get?_keywordTable _⟩
      rw [Ordered.keys_ofList, List.map_map]
      rfl

end

/-! ### The call -/

section

variable {r : Runner σ} {function : Address} {args : List Value} {keywords : Keywords}
  {m : Machine σ} {f : Closure}

theorem callFunction_inspecting (looking : m.inspecting = true) :
    callFunction r function args keywords m =
      .error (.error ⟨.unsupported .callWhileInspecting, m.pos⟩) m := by
  refine (M.bind_ok (m := m) rfl).trans ?_
  rw [if_pos looking]
  rfl

theorem callFunction_of_fault {fault : TypeFault} (running : m.inspecting = false)
    (found : m.heap.closure? function = some f)
    (refused : Bound.ofCall f.definition f.defaults args keywords = .error fault) :
    callFunction r function args keywords m = .error (.error ⟨.type fault, m.pos⟩) m := by
  refine (M.bind_ok (m := m) rfl).trans ?_
  rw [if_neg (by simp [running]), found]
  dsimp only
  rw [refused]
  rfl

/-- A call whose arguments have found their places runs the body in a frame with a fresh scope. -/
theorem callFunction_of_bound {b : Bound} {vars : Namespace} {h : Heap}
    (running : m.inspecting = false) (found : m.heap.closure? function = some f)
    (put : Bound.ofCall f.definition f.defaults args keywords = .ok b)
    (bound : parameterScope f.definition b m = .ok vars { m with heap := h }) :
    ∃ frame, callFunction r function args keywords m = runFrame r frame f.definition.body
        { m with heap := (h.alloc (.scope ⟨vars, f.scope⟩)).2 } ∧
      frame.name = f.definition.name ∧ frame.kind = .function ∧ frame.locals = h.next := by
  let start := Frame.start f.definition.name .function h.next f.definition.pos.line
  refine ⟨if f.owner.isSome then { start with owner := f.owner, receiver := args.head? } else start,
    ?_, ?_, ?_, ?_⟩
  · refine (M.bind_ok (m := m) rfl).trans ?_
    rw [if_neg (by simp [running]), found]
    dsimp only
    rw [put]
    dsimp only
    rw [M.bind_ok bound]
    rfl
  all_goals split <;> rfl

/-- A call binds the names of the function, each to what it owes to be bound to, exactly if no
argument is a misfit. A call that does not fit leaves everything as it is: no frame is opened, and
the observer is told nothing. -/
theorem call_binds_arguments (r : Runner σ) (function : Address) (args : List Value)
    (keywords : Keywords) (m : Machine σ) {f : Closure} (found : m.heap.closure? function = some f)
    (distinct : (boundNames f.definition).Nodup) :
    ((∃ fault, Bound.ofCall f.definition f.defaults args keywords = .error fault) ↔
      Misfit f.definition f.defaults args keywords) ∧
    (Misfit f.definition f.defaults args keywords → ∃ fault,
      callFunction r function args keywords m = .error (.error ⟨fault, m.pos⟩) m ∧
      (m.inspecting = false → ∃ t, fault = .type t)) ∧
    (¬Misfit f.definition f.defaults args keywords → m.inspecting = false → ∃ vars h frame,
      callFunction r function args keywords m =
        runFrame r frame f.definition.body { m with heap := h } ∧
      frame.name = f.definition.name ∧ frame.kind = .function ∧
      m.heap.get? frame.locals = none ∧ h.get? frame.locals = some (.scope ⟨vars, f.scope⟩) ∧
      Binds f.definition f.defaults args keywords h vars ∧
      ∀ {x o}, m.heap.get? x = some o → h.get? x = some o) := by
  have params : (f.definition.params.map (·.name)).Nodup :=
    distinct.of_append_left.of_append_left
  obtain ⟨misfit, fault, refused⟩ | ⟨fits, vs, values, length, put⟩ :=
    ofCall_ends f.defaults args keywords params
  · refine ⟨⟨fun _ => misfit, fun _ => ⟨fault, refused⟩⟩, fun _ => ?_,
      fun fits => absurd misfit fits⟩
    cases running : m.inspecting with
    | true => exact ⟨_, callFunction_inspecting running, nofun⟩
    | false => exact ⟨_, callFunction_of_fault running found refused, fun _ => ⟨fault, rfl⟩⟩
  · refine ⟨⟨?_, fun misfit => absurd misfit fits⟩, fun misfit => absurd misfit fits,
      fun _ running => ?_⟩
    · rintro ⟨fault, refused⟩
      rw [put] at refused
      cases refused
    · obtain ⟨vars, h, bound, binds, kept⟩ := parameterScope_binds distinct values length m
      obtain ⟨frame, called, name, kind, locals⟩ :=
        callFunction_of_bound (r := r) running found put bound
      have more {x : Address} {o : Object} (there : h.get? x = some o) :
          (h.alloc (.scope ⟨vars, f.scope⟩)).2.get? x = some o := by
        rw [Heap.get?_alloc, if_neg (Heap.ne_next there), there]
      refine ⟨vars, _, frame, called, name, kind, ?_, ?_, binds.mono more,
        fun there => more (kept there)⟩
      · cases old : m.heap.get? frame.locals with
        | none => rfl
        | some o => exact absurd locals (Heap.ne_next (kept old))
      · rw [locals, Heap.get?_alloc, if_pos rfl]

/-- Calls of `def f(a, b=10, *rest, **opts)`: what `f(1, 2, 3, x=5, x=6)` binds, with a keyword
that comes twice, and that `f()` fails. -/
theorem call_binds_arguments_each :
    let params := [.mk "a" none, .mk "b" (some (.int 10))]
    let f : Closure := ⟨.mk "f" params (some "rest") (some "opts") [] ⟨1, 1⟩,
      [none, some (.int 10)], none, none⟩
    let m : Machine Unit := { Machine.start () with heap := (Heap.empty.alloc (.func f)).2 }
    let call args keywords := callFunction (quiet 1) Heap.base args keywords m
    (∃ vars h frame, call [.int 1, .int 2, .int 3] [("x", .int 5), ("x", .int 6)] =
        runFrame (quiet 1) frame [] { m with heap := h } ∧
      h.get? frame.locals = some (.scope ⟨vars, none⟩) ∧
      vars.keys = ["a", "b", "rest", "opts"] ∧
      vars.get? "a" = some (.int 1) ∧ vars.get? "b" = some (.int 2) ∧
      (∃ mark, vars.get? "rest" = some (.tuple mark [.int 3])) ∧
      ∃ a t, vars.get? "opts" = some (.ref a) ∧ h.get? a = some (.dict t) ∧
        t.keys = [.str "x"] ∧ t.get? (.str "x") = some (.str "x", .int 6)) ∧
    ∃ fault, call [] [] = .error (.error ⟨fault, m.pos⟩) m := by
  intro params f m call
  have found : m.heap.closure? Heap.base = some f := rfl
  have distinct : (boundNames f.definition).Nodup := by decide
  refine ⟨?_, ?_⟩
  · obtain ⟨fails, -, binds⟩ := call_binds_arguments (quiet 1) Heap.base
      [.int 1, .int 2, .int 3] [("x", .int 5), ("x", .int 6)] m found distinct
    have fits : ¬Misfit f.definition f.defaults [.int 1, .int 2, .int 3]
        [("x", .int 5), ("x", .int 6)] := by
      rw [← fails]
      rintro ⟨fault, refused⟩
      cases refused
    obtain ⟨vars, h, frame, called, -, -, -, scope, binds, -⟩ := binds fits rfl
    refine ⟨vars, h, frame, called, scope, binds.names, ?_, ?_, binds.vararg rfl, ?_⟩
    · obtain ⟨v, a, given⟩ := binds.params (i := 0) rfl
      cases given
      exact a
    · obtain ⟨v, b, given⟩ := binds.params (i := 1) rfl
      cases given
      exact b
    · obtain ⟨a, t, opts, dict, keys, last⟩ := binds.kwarg rfl
      exact ⟨a, t, opts, dict, keys, last "x"⟩
  · have misfit : Misfit f.definition f.defaults [] [] :=
      .missing (i := 0) rfl (Nat.le_refl 0) List.not_mem_nil rfl
    obtain ⟨fault, failed, -⟩ :=
      (call_binds_arguments (quiet 1) Heap.base [] [] m found distinct).2.1 misfit
    exact ⟨fault, failed⟩

end

end Stepwise
