import Stepwise.Proofs.Legible

/-!
# Traces that have been read

Reading a JSON value as a trace leaves nothing to be settled: a trace that has been read is written
and read again without a change (`trace_normal`), whether its entries came as objects or as arrays,
with parts missing or with parts that no one asked for. Of its text this holds as far as every
double in it is legible (`Legible`), that is, what its own text is read as. Not every double is: a
number in a text is scaled by a power of ten, and the result is not always the nearest double.

## The model

`Json.Unique` says of a value that no object in it has a name twice; of a text, in which a name may
come twice, the last value counts, and what is left may have the form of a chain that the text has
not.
-/

namespace Stepwise

namespace Json

/-! ### Names that come once -/

mutual

/-- Whether no object in a value has a name twice. -/
def Unique : Json → Prop
  | arr items => ItemsUnique items
  | obj members => (members.map (·.1)).Nodup ∧ MembersUnique members
  | null | bool _ | int _ | float _ | str _ => True

/-- Whether no object in some items has a name twice. -/
def ItemsUnique : List Json → Prop
  | [] => True
  | v :: vs => v.Unique ∧ ItemsUnique vs

/-- Whether no object in the values of some members has a name twice. -/
def MembersUnique : List (String × Json) → Prop
  | [] => True
  | (_, v) :: ms => v.Unique ∧ MembersUnique ms

end

theorem itemsUnique_iff : ∀ {items : List Json}, ItemsUnique items ↔ ∀ v ∈ items, v.Unique
  | [] => by simp [ItemsUnique]
  | v :: vs => by rw [ItemsUnique, itemsUnique_iff, List.forall_mem_cons]

theorem membersUnique_iff : ∀ {ms : List (String × Json)},
    MembersUnique ms ↔ ∀ m ∈ ms, m.2.Unique
  | [] => by simp [MembersUnique]
  | (name, v) :: ms => by rw [MembersUnique, membersUnique_iff, List.forall_mem_cons]

mutual

/-- A value in which no name comes twice is settled. -/
theorem Unique.settled : ∀ {j : Json}, j.Unique → j.settled = j
  | .null, _ | .bool _, _ | .int _, _ | .float _, _ | .str _, _ => rfl
  | .arr items, h => by
    rw [Unique] at h
    exact settled_arr h.settledItems
  | .obj members, h => by
    rw [Unique] at h
    let ms : Ordered String Json := ⟨members, h.1⟩
    exact (settled_obj h.2.settledMembers : (obj ms.entries).settled = obj ms.entries)

theorem ItemsUnique.settledItems : ∀ {items : List Json}, ItemsUnique items →
    ∀ v ∈ items, v.settled = v
  | [], _ => by simp
  | v :: vs, h => by
    rw [ItemsUnique] at h
    exact List.forall_mem_cons.2 ⟨h.1.settled, h.2.settledItems⟩

theorem MembersUnique.settledMembers : ∀ {ms : List (String × Json)}, MembersUnique ms →
    ∀ m ∈ ms, m.2.settled = m.2
  | [], _ => by simp
  | (name, v) :: ms, h => by
    rw [MembersUnique] at h
    exact List.forall_mem_cons.2 ⟨h.1.settled, h.2.settledMembers⟩

end

/-! ### Parts -/

/-- The values that stand directly in a value. -/
def parts : Json → List Json
  | arr items => items
  | obj members => members.map (·.2)
  | _ => []

theorem Unique.part {j v : Json} (h : j.Unique) (hv : v ∈ j.parts) : v.Unique := by
  cases j with
  | arr items => exact itemsUnique_iff.1 (by rwa [Unique] at h) v hv
  | obj members =>
    rw [Unique] at h
    obtain ⟨m, hm, rfl⟩ := List.mem_map.1 hv
    exact membersUnique_iff.1 h.2 m hm
  | _ => cases hv

theorem Within.part {P : Float → Prop} {depth : Nat} {j v : Json} (h : Within P depth j)
    (hv : v ∈ j.parts) : ∃ inner, depth = inner + 1 ∧ Within P inner v := by
  cases depth with
  | zero =>
    cases j with
    | arr | obj => simp [Within] at h
    | _ => cases hv
  | succ depth =>
    refine ⟨depth, rfl, ?_⟩
    cases j with
    | arr items => exact itemsWithin_iff.1 (by rwa [Within] at h) v hv
    | obj members =>
      obtain ⟨m, hm, rfl⟩ := List.mem_map.1 hv
      exact membersWithin_iff.1 (by rwa [Within] at h) m hm
    | _ => cases hv

/-- What is found under a name stands in the value. -/
theorem fields?_part {names : List String} {least : Nat} {j v : Json} {vs : List (Option Json)}
    (h : fields? names least j = some vs) (hv : some v ∈ vs) : v ∈ j.parts := by
  cases j with
  | obj members =>
    obtain ⟨name, -, found⟩ := exists_of_mem_mapM h _ hv
    split at found
    · cases found
    next m single =>
      cases found
      have : m ∈ members := List.mem_of_mem_filter (by rw [single]; simp)
      exact List.mem_map_of_mem this
    · cases found
  | arr items =>
    unfold fields? at h
    dsimp only at h
    split at h
    · cases h
      simpa [parts, List.mem_replicate] using hv
    · cases h
  | _ => cases h

theorem nat?_lt {v : Json} {n : Nat} (h : nat? v = some n) : n < wordSize := by
  unfold nat? at h
  split at h
  · split at h
    · cases h
      unfold wordSize
      omega
    · cases h
  · cases h

theorem missing?_lt {v : Option Json} {n : Option Nat} (h : missing? nat? v = some n) :
    ∀ i ∈ n, i < wordSize := by
  rintro i rfl
  cases v with
  | none => cases h
  | some v =>
    have read : (nat? v).map some = some (some i) := by
      cases v with
      | null => cases h
      | _ => exact h
    obtain ⟨_, read, ⟨⟩⟩ := Option.map_eq_some_iff.1 read
    exact nat?_lt read

theorem required?_eq_some {α : Type} {read : Json → Option α} {v : Option Json} {a : α}
    (h : required? read v = some a) : ∃ w, v = some w ∧ read w = some a :=
  Option.bind_eq_some_iff.1 h

/-- What is known of the values of named values, from the values they are read from. -/
theorem bindings?_forall {α : Type} {read : Json → Option α} {P : α → Prop} {j : Json}
    {m : Ordered String α} (h : bindings? read j = some m)
    (hP : ∀ v ∈ j.parts, ∀ a, read v = some a → P a) : ∀ e ∈ m.entries, P e.2 := by
  cases j with
  | obj members =>
    obtain ⟨values, read, h⟩ := Option.bind_eq_some_iff.1 h
    cases h
    refine Ordered.forall_mem_ofList (P := P) fun e he => ?_
    obtain ⟨m, hm, found⟩ := exists_of_mem_mapM read e he
    obtain ⟨a, ha, found⟩ := Option.bind_eq_some_iff.1 found
    cases found
    exact hP m.2 (List.mem_map_of_mem hm) a ha
  | _ => cases h

end Json

/-- A map is the same if its values are. -/
theorem Ordered.mapValues_eq_self {κ ν : Type} {m : Ordered κ ν} {f : ν → ν}
    (h : ∀ e ∈ m.entries, f e.2 = e.2) : m.mapValues f = m := by
  refine Ordered.ext ?_
  show m.entries.map (fun e => (e.1, f e.2)) = m.entries
  conv_rhs => rw [← List.map_id m.entries]
  exact List.map_congr_left fun e he => Prod.ext rfl (h e he)

open Json

/-! ### What has been read -/

theorem Node.ofJson?_eq_some {j : Json} {n : Node} (h : ofJson? j = some n) :
    ∃ id value next prev, fields? ["id", "value", "next", "prev"] 4 j =
        some [id, some value, next, prev] ∧
      required? nat? id = some n.id ∧ value.settled = n.value ∧
      missing? nat? next = some n.next ∧ missing? nat? prev = some n.prev := by
  obtain ⟨parts, hparts, h⟩ := Option.bind_eq_some_iff.1 h
  split at h
  next id value next prev =>
    obtain ⟨id', hid, h⟩ := Option.bind_eq_some_iff.1 h
    obtain ⟨value', hvalue, h⟩ := Option.bind_eq_some_iff.1 h
    obtain ⟨next', hnext, h⟩ := Option.bind_eq_some_iff.1 h
    obtain ⟨prev', hprev, h⟩ := Option.bind_eq_some_iff.1 h
    cases h
    cases hvalue
    exact ⟨id, value', next, prev, hparts, hid, rfl, hnext, hprev⟩
  · cases h

theorem Chain.ofJson?_eq_some {j : Json} {c : Chain} (h : ofJson? j = some c) :
    ∃ kind head nodes error, fields? ["type", "head", "nodes", "error"] 3 j =
        some [kind, head, some (.arr nodes), error] ∧
      required? (choice? kindNamed? isNull) kind = some c.doubly ∧
      missing? nat? head = some c.head ∧ nodes.mapM Node.ofJson? = some c.nodes ∧
      missing? str? error = some c.error := by
  obtain ⟨parts, hparts, h⟩ := Option.bind_eq_some_iff.1 h
  split at h
  next kind head nodes error =>
    obtain ⟨kind', hkind, h⟩ := Option.bind_eq_some_iff.1 h
    obtain ⟨head', hhead, h⟩ := Option.bind_eq_some_iff.1 h
    obtain ⟨nodes', hnodes, h⟩ := Option.bind_eq_some_iff.1 h
    obtain ⟨error', herror, h⟩ := Option.bind_eq_some_iff.1 h
    cases h
    obtain ⟨list, rfl, hlist⟩ := required?_eq_some hnodes
    cases list with
    | arr items => exact ⟨kind, head, items, error, hparts, hkind, hhead, hlist, herror⟩
    | _ => cases hlist
  · cases h

theorem Snapshot.ofJson?_eq_some {j : Json} {s : Snapshot} (h : ofJson? j = some s) :
    ∃ line function locals tags scope depth branch, fields? ["line", "function", "locals",
        "var_types", "scope", "depth", "branch_taken"] 7 j =
          some [line, function, some locals, some tags, scope, depth, branch] ∧
      required? nat? line = some s.line ∧
      bindings? (fun v => some (Shown.ofJson v)) locals = some s.locals ∧
      bindings? (fun v => v.str?.map Tag.named) tags = some s.tags ∧
      required? nat? depth = some s.depth := by
  obtain ⟨parts, hparts, h⟩ := Option.bind_eq_some_iff.1 h
  split at h
  next line function locals tags scope depth branch =>
    obtain ⟨line', hline, h⟩ := Option.bind_eq_some_iff.1 h
    obtain ⟨function', hfunction, h⟩ := Option.bind_eq_some_iff.1 h
    obtain ⟨locals', hlocals, h⟩ := Option.bind_eq_some_iff.1 h
    obtain ⟨tags', htags, h⟩ := Option.bind_eq_some_iff.1 h
    obtain ⟨scope', hscope, h⟩ := Option.bind_eq_some_iff.1 h
    obtain ⟨depth', hdepth, h⟩ := Option.bind_eq_some_iff.1 h
    obtain ⟨branch', hbranch, h⟩ := Option.bind_eq_some_iff.1 h
    cases h
    obtain ⟨locals, rfl, hlocals⟩ := required?_eq_some hlocals
    obtain ⟨tags, rfl, htags⟩ := required?_eq_some htags
    exact ⟨line, function, locals, tags, scope, depth, branch, hparts, hline, hlocals, htags,
      hdepth⟩
  · cases h

/-! ### What has been read is read back -/

theorem Node.readable_of_read {j : Json} {n : Node} (unique : j.Unique) (h : ofJson? j = some n) :
    n.Readable := by
  obtain ⟨id, value, next, prev, hparts, hid, hvalue, hnext, hprev⟩ := Node.ofJson?_eq_some h
  obtain ⟨_, -, hid⟩ := required?_eq_some hid
  have settled : value.settled = value := (unique.part (fields?_part hparts (by simp))).settled
  refine ⟨nat?_lt hid, ?_, missing?_lt hnext, missing?_lt hprev⟩
  rw [← hvalue, settled, settled]

theorem Chain.readable_of_read {j : Json} {c : Chain} (unique : j.Unique)
    (h : ofJson? j = some c) : c.Readable := by
  obtain ⟨kind, head, nodes, error, hparts, -, hhead, hnodes, -⟩ := Chain.ofJson?_eq_some h
  have inside : (Json.arr nodes).Unique := unique.part (fields?_part hparts (by simp))
  refine ⟨missing?_lt hhead, fun n hn => ?_⟩
  obtain ⟨item, hitem, read⟩ := exists_of_mem_mapM hnodes n hn
  exact Node.readable_of_read (inside.part hitem) read

theorem Shown.readable_of_read {j : Json} (unique : j.Unique) : (ofJson j).Readable := by
  unfold ofJson
  split
  next c read => exact Chain.readable_of_read unique read
  · show j.settled.settled = j.settled
    rw [unique.settled, unique.settled]

/-- What is shown is read again as the same. -/
theorem Shown.reread_of_read {j : Json} (unique : j.Unique) : (ofJson j).reread = ofJson j := by
  rw [Shown.reread_eq_iff (Shown.readable_of_read unique)]
  intro k h
  unfold ofJson at h
  split at h
  · cases h
  next none =>
    cases h
    rw [unique.settled, none]

theorem Snapshot.read {j : Json} {s : Snapshot} (unique : j.Unique) (h : ofJson? j = some s) :
    s.Readable ∧ s.reread = s := by
  obtain ⟨line, function, locals, tags, scope, depth, branch, hparts, hline, hlocals, htags,
    hdepth⟩ := Snapshot.ofJson?_eq_some h
  obtain ⟨_, -, hline⟩ := required?_eq_some hline
  obtain ⟨_, -, hdepth⟩ := required?_eq_some hdepth
  have inside : locals.Unique := unique.part (fields?_part hparts (by simp))
  have shown : ∀ b ∈ s.locals.entries, b.2.Readable ∧ b.2.reread = b.2 :=
    bindings?_forall hlocals (P := fun v => v.Readable ∧ v.reread = v) fun v hv a ha => by
      cases ha
      exact ⟨Shown.readable_of_read (inside.part hv), Shown.reread_of_read (inside.part hv)⟩
  have named : ∀ b ∈ s.tags.entries, Tag.named b.2.name = b.2 :=
    bindings?_forall htags (P := fun t => Tag.named t.name = t) fun v _ t ht => by
      obtain ⟨name, -, rfl⟩ := Option.map_eq_some_iff.1 ht
      rw [Tag.name_named]
  refine ⟨⟨nat?_lt hline, nat?_lt hdepth, fun b hb => (shown b hb).1⟩, ?_⟩
  unfold Snapshot.reread
  rw [Ordered.mapValues_eq_self fun b hb => (shown b hb).2, Ordered.mapValues_eq_self named]

/-- The parts of an entry stand in a value of their own, without its kind. -/
theorem Entry.ofJson?_eq_some {j : Json} {e : Entry} (h : ofJson? j = some e) :
    ∃ event rest, ofParts? event rest = some e ∧ (j.Unique → rest.Unique) ∧
      ∀ {P depth}, Within P depth j → ∃ inner, depth = inner + 1 ∧ Within P depth rest := by
  unfold ofJson? at h
  split at h
  next members =>
    split at h
    next event _ =>
      refine ⟨event, _, h, fun unique => ?_, fun {P depth} within => ?_⟩
      · rw [Json.Unique, membersUnique_iff] at unique ⊢
        exact ⟨(List.filter_sublist.map _).nodup unique.1, fun m hm =>
          unique.2 m (List.mem_of_mem_filter hm)⟩
      · cases depth with
        | zero => simp [Within] at within
        | succ depth =>
          rw [Within, membersWithin_iff] at within
          refine ⟨depth, rfl, ?_⟩
          rw [Within, membersWithin_iff]
          exact fun m hm => within m (List.mem_of_mem_filter hm)
    · cases h
  next event items =>
    refine ⟨event, _, h, fun unique => ?_, fun {P depth} within => ?_⟩
    · rw [Json.Unique, itemsUnique_iff] at unique ⊢
      exact fun v hv => unique v (List.mem_cons_of_mem _ hv)
    · cases depth with
      | zero => simp [Within] at within
      | succ depth =>
        rw [Within, itemsWithin_iff] at within
        refine ⟨depth, rfl, ?_⟩
        rw [Within, itemsWithin_iff]
        exact fun v hv => within v (List.mem_cons_of_mem _ hv)
  · cases h

/-- What an entry is read from. -/
theorem Entry.ofParts?_eq_some {event : String} {j : Json} {e : Entry}
    (h : ofParts? event j = some e) : (∃ kind s, e = .step kind s ∧ Snapshot.ofJson? j = some s) ∨
      (∃ output, e = .print output) ∨ ∃ error, e = .exception error := by
  unfold ofParts? at h
  split at h
  case h_6 => cases h
  case h_4 =>
    obtain ⟨output, -, rfl⟩ := Option.map_eq_some_iff.1 h
    exact .inr (.inl ⟨output, rfl⟩)
  case h_5 =>
    obtain ⟨error, -, rfl⟩ := Option.map_eq_some_iff.1 h
    exact .inr (.inr ⟨error, rfl⟩)
  all_goals
    obtain ⟨s, read, rfl⟩ := Option.map_eq_some_iff.1 h
    exact .inl ⟨_, s, rfl, read⟩

theorem Entry.read {j : Json} {e : Entry} (unique : j.Unique) (h : ofJson? j = some e) :
    e.Readable ∧ e.reread = e := by
  obtain ⟨event, rest, read, inside, -⟩ := Entry.ofJson?_eq_some h
  rcases Entry.ofParts?_eq_some read with ⟨kind, s, rfl, hs⟩ | ⟨output, rfl⟩ | ⟨error, rfl⟩
  · obtain ⟨readable, same⟩ := Snapshot.read (inside unique) hs
    exact ⟨readable, congrArg (Entry.step kind) same⟩
  · exact ⟨trivial, rfl⟩
  · exact ⟨trivial, rfl⟩

/-- A trace that has been read is read again from its JSON. -/
theorem Trace.ofJson?_json_of_read {j : Json} {t : Trace} (unique : j.Unique)
    (h : ofJson? j = some t) : ofJson? t.json = some t := by
  have entries : ∀ e ∈ t, e.Readable ∧ e.reread = e := fun e he => by
    cases j with
    | arr items =>
      obtain ⟨item, hitem, read⟩ := exists_of_mem_mapM h e he
      exact Entry.read (unique.part hitem) read
    | _ => cases h
  rw [Trace.ofJson?_json fun e he => (entries e he).1]
  conv_rhs => rw [← List.map_id t]
  exact congrArg some (List.map_congr_left fun e he => (entries e he).2)

/-! ### How deep it nests -/

section

variable {P : Float → Prop} {depth : Nat}

@[simp] theorem Json.within_null : Within P depth .null := by cases depth <;> simp [Within]

@[simp] theorem Json.within_bool (b : Bool) : Within P depth (.bool b) := by
  cases depth <;> simp [Within]

@[simp] theorem Json.within_str (s : String) : Within P depth (.str s) := by
  cases depth <;> simp [Within]

theorem Json.within_nat {n : Nat} (h : n < wordSize) : Within P depth (.nat n) := by
  have fits : Fits n := by
    unfold Fits
    unfold wordSize at h
    omega
  cases depth <;> simpa [Json.nat, Within]

theorem Json.within_option_nat {n : Option Nat} (h : ∀ i ∈ n, i < wordSize) :
    Within P depth (.option .nat n) := by
  cases n with
  | none => exact within_null
  | some i => exact within_nat (h i rfl)

/-- A node that has been read nests no deeper than what it was read from. -/
theorem Node.within_of_read {j : Json} {n : Node} (unique : j.Unique) (within : Within P depth j)
    (h : ofJson? j = some n) : Within P depth n.json := by
  have readable := Node.readable_of_read unique h
  obtain ⟨id, value, next, prev, hparts, -, hvalue, -, -⟩ := Node.ofJson?_eq_some h
  have part : value ∈ j.parts := fields?_part hparts (by simp)
  obtain ⟨depth, rfl, inside⟩ := within.part part
  rw [(unique.part part).settled] at hvalue
  rw [Node.json, Within]
  simp only [MembersWithin, and_true]
  exact ⟨within_nat readable.id, hvalue ▸ inside, within_option_nat readable.next,
    within_option_nat readable.prev⟩

theorem Chain.within_of_read {j : Json} {c : Chain} (unique : j.Unique) (within : Within P depth j)
    (h : ofJson? j = some c) : Within P depth c.json := by
  have readable := Chain.readable_of_read unique h
  obtain ⟨kind, head, nodes, error, hparts, -, -, hnodes, -⟩ := Chain.ofJson?_eq_some h
  have part : Json.arr nodes ∈ j.parts := fields?_part hparts (by simp)
  obtain ⟨depth, rfl, inside⟩ := within.part part
  have written : Within P depth (.arr (c.nodes.map Node.json)) := by
    cases depth with
    | zero => simp [Within] at inside
    | succ depth =>
      rw [Within, itemsWithin_iff] at inside ⊢
      refine List.forall_mem_map.2 fun n hn => ?_
      obtain ⟨item, hitem, read⟩ := exists_of_mem_mapM hnodes n hn
      exact Node.within_of_read ((unique.part part).part hitem) (inside item hitem) read
  rw [Chain.json, Within, membersWithin_iff, List.forall_mem_append]
  constructor
  · simp only [List.forall_mem_cons, List.not_mem_nil, false_imp_iff, implies_true, and_true]
    exact ⟨within_str _, within_option_nat readable.head, written⟩
  · cases c.error <;> simp

theorem Shown.within_of_read {j : Json} (unique : j.Unique) (within : Within P depth j) :
    Within P depth (ofJson j).json := by
  unfold ofJson
  split
  next c read => exact Chain.within_of_read unique within read
  · show Within P depth j.settled
    rwa [unique.settled]

/-- The named values of an object are written as an object that nests no deeper. -/
theorem Json.within_bindings {α : Type} {read : Json → Option α} (write : α → Json) {j : Json}
    {m : Ordered String α} (within : Within P depth j) (h : bindings? read j = some m)
    (hw : ∀ {depth v a}, v ∈ j.parts → Within P depth v → read v = some a →
      Within P depth (write a)) :
    Within P depth (.obj (m.entries.map fun (name, a) => (name, write a))) := by
  cases depth with
  | zero =>
    cases j with
    | obj => simp [Within] at within
    | _ => cases h
  | succ depth =>
    rw [Within, membersWithin_iff]
    refine List.forall_mem_map.2 (bindings?_forall (P := fun a => Within P depth (write a)) h ?_)
    intro v hv a read
    obtain ⟨_, ⟨⟩, inside⟩ := within.part hv
    exact hw hv inside read

theorem Snapshot.within_of_read {j : Json} {s : Snapshot} (unique : j.Unique)
    (within : Within P depth j) (h : ofJson? j = some s) : Within P depth (.obj s.members) := by
  obtain ⟨line, function, locals, tags, scope, deep, branch, hparts, hline, hlocals, htags,
    hdepth⟩ := Snapshot.ofJson?_eq_some h
  obtain ⟨_, -, hline⟩ := required?_eq_some hline
  obtain ⟨_, -, hdepth⟩ := required?_eq_some hdepth
  have localsPart : locals ∈ j.parts := fields?_part hparts (by simp)
  have tagsPart : tags ∈ j.parts := fields?_part hparts (by simp)
  obtain ⟨depth, rfl, localsWithin⟩ := within.part localsPart
  obtain ⟨_, ⟨⟩, tagsWithin⟩ := within.part tagsPart
  have shown := within_bindings Shown.json localsWithin hlocals
    fun hv inside read => by
      cases read
      exact Shown.within_of_read ((unique.part localsPart).part hv) inside
  have named := within_bindings (fun t : Tag => .str t.name) tagsWithin htags
    fun _ _ _ => within_str _
  have scope : Within P depth (.option (.str ·.name) s.scope) := by
    cases s.scope with
    | none => exact within_null
    | some => exact within_str _
  have branch : Within P depth (.option .bool s.branch) := by
    cases s.branch with
    | none => exact within_null
    | some => exact within_bool _
  rw [Within, Snapshot.members]
  simp only [MembersWithin, and_true]
  exact ⟨within_nat (nat?_lt hline), within_str _, shown, named, scope,
    within_nat (nat?_lt hdepth), branch⟩

theorem Entry.within_of_read {j : Json} {e : Entry} (unique : j.Unique)
    (within : Within P depth j) (h : ofJson? j = some e) : Within P depth e.json := by
  obtain ⟨event, rest, read, restUnique, restWithin⟩ := Entry.ofJson?_eq_some h
  obtain ⟨depth, rfl, inside⟩ := restWithin within
  rw [Entry.json, Within, MembersWithin]
  refine ⟨within_str _, ?_⟩
  rcases Entry.ofParts?_eq_some read with ⟨kind, s, rfl, hs⟩ | ⟨output, rfl⟩ | ⟨error, rfl⟩
  · have members := Snapshot.within_of_read (restUnique unique) inside hs
    rwa [Within] at members
  · simp [Entry.members, MembersWithin]
  · simp [Entry.members, MembersWithin]

/-- A trace that has been read nests no deeper than what it was read from. -/
theorem Trace.within_of_read {j : Json} {t : Trace} (unique : j.Unique) (within : Within P depth j)
    (h : ofJson? j = some t) : Within P depth t.json := by
  cases j with
  | arr items =>
    cases depth with
    | zero => simp [Within] at within
    | succ depth =>
      rw [Within, itemsWithin_iff] at within
      rw [Trace.json, Within, itemsWithin_iff]
      refine List.forall_mem_map.2 fun e he => ?_
      obtain ⟨item, hitem, read⟩ := exists_of_mem_mapM h e he
      exact Entry.within_of_read (unique.part hitem) (within item hitem) read
  | _ => cases h

end

/-! ### Doubles -/

namespace Json

mutual

/-- The doubles in a value. -/
def doubles : Json → List Float
  | float x => [x]
  | arr items => itemDoubles items
  | obj members => memberDoubles members
  | null | bool _ | int _ | str _ => []

/-- The doubles in some items. -/
def itemDoubles : List Json → List Float
  | [] => []
  | v :: vs => v.doubles ++ itemDoubles vs

/-- The doubles in the values of some members. -/
def memberDoubles : List (String × Json) → List Float
  | [] => []
  | (_, v) :: ms => v.doubles ++ memberDoubles ms

end

mutual

theorem within_of_doubles {P : Float → Prop} : ∀ {depth : Nat} {j : Json},
    Within (fun _ => True) depth j → (∀ x ∈ j.doubles, P x) → Within P depth j
  | _, .null, _, _ => within_null
  | _, .bool b, _, _ => within_bool b
  | _, .str s, _, _ => within_str s
  | depth, .int n, h, _ => by cases depth <;> simpa [Within] using h
  | depth, .float x, _, hP => by cases depth <;> simpa [Within, doubles] using hP
  | 0, .arr _, h, _ | 0, .obj _, h, _ => by simp [Within] at h
  | depth + 1, .arr items, h, hP => by
    rw [Within] at h ⊢
    rw [doubles] at hP
    exact itemsWithin_of_doubles h hP
  | depth + 1, .obj members, h, hP => by
    rw [Within] at h ⊢
    rw [doubles] at hP
    exact membersWithin_of_doubles h hP

theorem itemsWithin_of_doubles {P : Float → Prop} : ∀ {depth : Nat} {items : List Json},
    ItemsWithin (fun _ => True) depth items → (∀ x ∈ itemDoubles items, P x) →
      ItemsWithin P depth items
  | _, [], _, _ => trivial
  | depth, v :: vs, h, hP => by
    rw [ItemsWithin] at h ⊢
    rw [itemDoubles, List.forall_mem_append] at hP
    exact ⟨within_of_doubles h.1 hP.1, itemsWithin_of_doubles h.2 hP.2⟩

theorem membersWithin_of_doubles {P : Float → Prop} : ∀ {depth : Nat}
    {ms : List (String × Json)}, MembersWithin (fun _ => True) depth ms →
      (∀ x ∈ memberDoubles ms, P x) → MembersWithin P depth ms
  | _, [], _, _ => trivial
  | depth, (name, v) :: ms, h, hP => by
    rw [MembersWithin] at h ⊢
    rw [memberDoubles, List.forall_mem_append] at hP
    exact ⟨within_of_doubles h.1 hP.1, membersWithin_of_doubles h.2 hP.2⟩

end

end Json

/-! ### Traces -/

/-- A trace that has been read from a value without repeated names is read again from its own JSON,
and from the text of that JSON if every double in it is what its text is read as. -/
theorem trace_normal {j : Json} {t : Trace} (unique : j.Unique) (h : Trace.ofJson? j = some t) :
    Trace.ofJson? t.json = some t ∧
    ∀ s, Json.ofText? s = some j → (∀ x ∈ t.json.doubles, Legible x) →
      Trace.ofText? t.json.compact = some t := by
  have again : Trace.ofJson? t.json = some t := Trace.ofJson?_json_of_read unique h
  refine ⟨again, fun s text legible => ?_⟩
  have within : Within (fun _ => True) Raw.maxDepth t.json :=
    Trace.within_of_read unique (ofText?_within text) h
  rw [Trace.ofText?, ofText?_compact (within_of_doubles within legible)]
  exact again

theorem legible_half : Legible 1.5 := by
  have text : Decimal.jsonLayout.text 1.5 = "1.5" := by decide +kernel
  have value : (⟨false, ['1'], ['5'], 0, false⟩ : Numeral).float? = some 1.5 := by decide +kernel
  refine ⟨⟨false, ['1'], ['5'], 0, false⟩, by rw [text]; rfl, ?_⟩
  rw [Numeral.value?, value]
  rfl

/-- A frame that is given as an array, with a double among its locals, is read and read again. -/
theorem trace_normal_array :
    let j : Json := .arr [.arr [.str "line", .int 1, .str "f", .obj [("x", .float 1.5)], .obj [],
      .null, .int 0, .null]]
    j.Unique ∧ ∃ t, Trace.ofJson? j = some t ∧ Trace.ofJson? t.json = some t ∧
      t.json.doubles = [1.5] ∧ Trace.ofText? t.json.compact = some t := by
  intro j
  have unique : j.Unique := by simp [j, Json.Unique, ItemsUnique, MembersUnique]
  have within : Within Legible Raw.maxDepth j := by
    simp [j, Raw.maxDepth, Within, ItemsWithin, MembersWithin, Fits, legible_half]
  obtain ⟨t, read, doubles⟩ : ∃ t, Trace.ofJson? j = some t ∧ t.json.doubles = [1.5] :=
    ⟨_, rfl, rfl⟩
  obtain ⟨again, spelled⟩ := trace_normal unique read
  refine ⟨unique, t, read, again, doubles, ?_⟩
  refine spelled j.compact (ofText?_compact within) fun x hx => ?_
  rw [doubles, List.mem_singleton] at hx
  exact hx ▸ legible_half

/-- The double next to `10 ^ -29` has the text `1e-29`, which is read as the double behind it. -/
example : ¬Legible (Float.ofBits 4172965893781238599) := by
  rintro ⟨n, read, value⟩
  have bits : ((numeral? (Decimal.jsonLayout.text (Float.ofBits 4172965893781238599)).toList).bind
      fun p => p.1.value?).map (fun j => match j with | .float y => y.toBits | _ => 0) =
        some 4172965893781238600 := by decide +kernel
  rw [read, Option.bind_some, value] at bits
  have bits : (Float.ofBits 4172965893781238599).toBits = 4172965893781238600 :=
    Option.some.inj bits
  exact absurd bits (by decide +kernel)

end Stepwise
