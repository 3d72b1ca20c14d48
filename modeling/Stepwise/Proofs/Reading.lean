import Stepwise.Proofs.Ordered
import Stepwise.Proofs.Walk
import Stepwise.Trace.Read

/-!
# Reading back what was written

A JSON value in which no object has a name twice is settled, and pictures of values are. Chains and
frames are read back from their JSON as they were, numbers of 64 bits taken for granted, with two
things that JSON does not tell: a tag becomes the tag of its name, and a plain value in the form of
a chain becomes a chain (`Shown.reread`).
-/

namespace Stepwise

/-! ### Lists of results -/

/-- A result in a list of results is the one for some item. -/
theorem exists_of_mem_mapM {α β : Type} {f : α → Option β} : ∀ {as : List α} {bs : List β},
    as.mapM f = some bs → ∀ b ∈ bs, ∃ a ∈ as, f a = some b
  | [], bs, e => by
    obtain rfl : [] = bs := by simpa using e
    simp
  | a :: as, bs, e => by
    rw [List.mapM_cons] at e
    obtain ⟨b, hb, e⟩ := Option.bind_eq_some_iff.1 e
    obtain ⟨bs', hbs, e⟩ := Option.bind_eq_some_iff.1 e
    obtain rfl : b :: bs' = bs := Option.some.inj e
    refine List.forall_mem_cons.2 ⟨⟨a, List.mem_cons_self, hb⟩, fun b hb => ?_⟩
    obtain ⟨a, ha, h⟩ := exists_of_mem_mapM hbs b hb
    exact ⟨a, List.mem_cons_of_mem _ ha, h⟩

/-- What holds of every result of a function holds of the results for the items of a list. -/
theorem forall_mem_of_mapM {α β : Type} {f : α → Option β} {P : β → Prop}
    (h : ∀ a b, f a = some b → P b) {as : List α} {bs : List β} (e : as.mapM f = some bs) :
    ∀ b ∈ bs, P b := by
  intro b hb
  obtain ⟨a, -, found⟩ := exists_of_mem_mapM e b hb
  exact h a b found

/-- The results for the items of a list, if there is one for each. -/
theorem mapM_of_forall {α β : Type} {f : α → Option β} {g : α → β} :
    ∀ {as : List α}, (∀ a ∈ as, f a = some (g a)) → as.mapM f = some (as.map g)
  | [], _ => rfl
  | a :: as, h => by
    rw [List.forall_mem_cons] at h
    rw [List.mapM_cons, h.1, mapM_of_forall h.2]
    rfl

/-! ### Settled values -/

namespace Json

theorem settledItems_eq : ∀ {vs : List Json}, (∀ v ∈ vs, v.settled = v) → settledItems vs = vs
  | [], _ => rfl
  | v :: vs, h => by
    rw [List.forall_mem_cons] at h
    rw [settledItems, h.1, settledItems_eq h.2]

theorem settledMembers_eq_foldl : ∀ (ms : List (String × Json)) (seen : Ordered String Json),
    (∀ m ∈ ms, m.2.settled = m.2) →
    settledMembers ms seen = ms.foldl (fun seen m => seen.set m.1 m.2) seen
  | [], _, _ => rfl
  | (name, v) :: ms, seen, h => by
    rw [List.forall_mem_cons] at h
    rw [settledMembers, h.1, settledMembers_eq_foldl ms _ h.2]
    rfl

/-- An object is settled if its values are and no name comes twice. -/
theorem settled_obj {ms : Ordered String Json} (h : ∀ m ∈ ms.entries, m.2.settled = m.2) :
    (obj ms.entries).settled = obj ms.entries := by
  rw [settled, settledMembers_eq_foldl _ _ h]
  exact congrArg obj (Ordered.entries_ofList ms.distinct)

theorem settled_arr {items : List Json} (h : ∀ v ∈ items, v.settled = v) :
    (arr items).settled = arr items := by
  rw [settled, settledItems_eq h]

end Json

open Json

/-- The picture of a value is settled. -/
theorem Heap.plainIn_settled (h : Heap) : ∀ (fuel : Nat) (around : List Address) (v : Value)
    (j : Json), h.plainIn around fuel v = some j → j.settled = j := by
  intro fuel
  induction fuel with
  | zero =>
    intro around v j e
    cases e
  | succ fuel ih =>
    intro around v j e
    have text {v : Value} {j : Json} (e : (h.repr? fuel v).map Json.str = some j) :
        j.settled = j := by
      obtain ⟨_, -, rfl⟩ := Option.map_eq_some_iff.1 e
      rfl
    cases v with
    | none | bool | int | str =>
      cases e
      rfl
    | float x =>
      cases e
      unfold numberJson
      split <;> rfl
    | tuple m items =>
      obtain ⟨js, hjs, rfl⟩ := Option.map_eq_some_iff.1 e
      exact settled_arr (forall_mem_of_mapM (ih around) hjs)
    | range | builtin => exact text e
    | ref a =>
      simp only [Heap.plainIn] at e
      split at e
      · exact text e
      · split at e
        · cases e
          rfl
        split at e
        · obtain ⟨js, hjs, rfl⟩ := Option.map_eq_some_iff.1 e
          exact settled_arr (forall_mem_of_mapM (ih _) hjs)
        · obtain ⟨js, hjs, rfl⟩ := Option.map_eq_some_iff.1 e
          exact settled_arr (forall_mem_of_mapM (ih _) hjs)
        · obtain ⟨ms, hms, e⟩ := Option.bind_eq_some_iff.1 e
          obtain rfl := Option.some.inj e
          refine settled_obj (Ordered.forall_mem_ofList (P := fun j => j.settled = j)
            (forall_mem_of_mapM ?_ hms))
          rintro ⟨k, v⟩ m hm
          obtain ⟨name, -, hm⟩ := Option.bind_eq_some_iff.1 hm
          obtain ⟨j, hj, hm⟩ := Option.bind_eq_some_iff.1 hm
          obtain rfl := Option.some.inj hm
          exact ih _ v j hj
        · cases e
          rfl
        · cases e
          rfl
        · exact text e

theorem Heap.plain?_settled (h : Heap) (fuel : Nat) (v : Value) :
    ((h.plain? fuel v).getD .null).settled = (h.plain? fuel v).getD .null := by
  cases e : h.plain? fuel v with
  | none => rfl
  | some j => exact h.plainIn_settled fuel [] v j e

/-! ### Parts -/

namespace Json

/-- The numbers that are read back. -/
def wordSize : Nat := 0x10000000000000000

theorem nat?_nat {n : Nat} (h : n < wordSize) : nat? (nat n) = some n := by
  have bound : (0 : Int) ≤ n ∧ (n : Int) < 0x10000000000000000 := by
    unfold wordSize at h
    omega
  simp only [nat, nat?, if_pos bound, Int.toNat_natCast]

theorem required?_nat {n : Nat} (h : n < wordSize) :
    required? nat? (some (nat n)) = some n := by
  rw [required?, Option.bind_some, nat?_nat h]

theorem missing?_nat {n : Option Nat} (h : ∀ i ∈ n, i < wordSize) :
    missing? nat? (some (option nat n)) = some n := by
  cases n with
  | none => rfl
  | some i =>
    show (nat? (nat i)).map some = some (some i)
    rw [nat?_nat (h i rfl)]
    rfl

theorem missing?_bool (b : Option Bool) : missing? bool? (some (option bool b)) = some b := by
  cases b <;> rfl

theorem bindings?_obj {α ν : Type} (read : Json → Option α) (write : ν → Json) (f : ν → α)
    {m : Ordered String ν} (h : ∀ e ∈ m.entries, read (write e.2) = some (f e.2)) :
    bindings? read (.obj (m.entries.map fun (name, v) => (name, write v))) =
      some (m.mapValues f) := by
  show Option.bind _ _ = _
  rw [List.mapM_map, mapM_of_forall (g := fun e => (e.1, f e.2))]
  · exact congrArg some (Ordered.ofList_mapValues m f)
  · intro e he
    show (read (write e.2)).bind (fun v => some (e.1, v)) = _
    rw [h e he]
    rfl

end Json

/-! ### Chains -/

/-- Whether a node is read back as it is. -/
structure Node.Readable (n : Node) : Prop where
  id : n.id < wordSize
  value : n.value.settled = n.value
  next : ∀ i ∈ n.next, i < wordSize
  prev : ∀ i ∈ n.prev, i < wordSize

theorem Node.ofJson?_of_parts {j id value next prev : Json} {n : Node}
    (parts : fields? ["id", "value", "next", "prev"] 4 j =
      some [some id, some value, some next, some prev])
    (hid : required? nat? (some id) = some n.id) (hvalue : value.settled = n.value)
    (hnext : missing? nat? (some next) = some n.next)
    (hprev : missing? nat? (some prev) = some n.prev) : ofJson? j = some n := by
  simp only [ofJson?, parts, Option.bind_eq_bind, Option.bind_some, hid, hvalue, hnext, hprev,
    Option.pure_def]

theorem Node.ofJson?_json {n : Node} (h : n.Readable) : ofJson? n.json = some n :=
  ofJson?_of_parts rfl (required?_nat h.id) h.value (missing?_nat h.next) (missing?_nat h.prev)

/-- Whether a chain is read back as it is. -/
structure Chain.Readable (c : Chain) : Prop where
  head : ∀ i ∈ c.head, i < wordSize
  nodes : ∀ n ∈ c.nodes, n.Readable

theorem Chain.kindNamed?_kindName (doubly : Bool) :
    kindNamed? (kindName doubly) = some doubly := by
  cases doubly <;> rfl

theorem Chain.ofJson?_json {c : Chain} (h : c.Readable) : Chain.ofJson? c.json = some c := by
  have nodes : required? (items? Node.ofJson?) (some (.arr (c.nodes.map Node.json))) =
      some c.nodes := by
    show (c.nodes.map Node.json).mapM Node.ofJson? = some c.nodes
    rw [List.mapM_map]
    exact (mapM_of_forall (g := id) fun n hn => Node.ofJson?_json (h.nodes n hn)).trans
      (congrArg some (List.map_id _))
  have parts : fields? ["type", "head", "nodes", "error"] 3 c.json =
      some [some (.str (kindName c.doubly)), some (.option .nat c.head),
        some (.arr (c.nodes.map Node.json)), c.error.map .str] := by
    unfold Chain.json
    cases c.error <;> rfl
  have kind : required? (choice? kindNamed? isNull) (some (.str (kindName c.doubly))) =
      some c.doubly := kindNamed?_kindName c.doubly
  have error : missing? str? (c.error.map .str) = some c.error := by
    cases c.error <;> rfl
  simp only [Chain.ofJson?, parts, Option.bind_eq_bind, Option.bind_some, kind,
    missing?_nat h.head, nodes, error, Option.pure_def]

namespace Heap

variable {h : Heap} {limit : Nat} {visited : List Address}

/-- A node of a walk is read back as it is, if the largest number of nodes is not yet reached. -/
theorem nodeAt_readable {a : Address} {attrs : List (String × Value)} {next : Option Nat}
    (bound : visited.length < Chain.limit) (hn : ∀ i ∈ next, i ≤ visited.length + 1) :
    (h.nodeAt visited a attrs next).Readable := by
  have small {i : Nat} (hi : i ≤ visited.length + 1) : i < wordSize := by
    unfold Chain.limit at bound
    unfold wordSize
    omega
  refine ⟨small (Nat.le_succ _), ?_, fun i hi => small (hn i hi), fun i hi => small ?_⟩
  · show (h.payload attrs).settled = h.payload attrs
    unfold payload
    split
    · exact h.plain?_settled 1 _
    · rfl
  · have before := (nodeAt_prev i hi).1
    omega

/-- The nodes of a walk are read back as they are. -/
theorem Walked.readable {as : List Address} {nodes : List Node}
    (H : h.Walked limit visited as nodes) (bound : visited.length + limit ≤ Chain.limit) :
    ∀ n ∈ nodes, n.Readable := by
  induction H with
  | nowhere => exact nofun
  | ends | cut => exact List.forall_mem_singleton.2 (nodeAt_readable (by omega) nofun)
  | closes _ onward =>
    refine List.forall_mem_singleton.2 (nodeAt_readable (by omega) ?_)
    rintro _ ⟨⟩
    simpa using Nat.le_of_lt (onward_lt onward)
  | goes _ _ _ ih =>
    refine List.forall_mem_cons.2 ⟨nodeAt_readable (by omega) ?_, ih (by simp; omega)⟩
    rintro _ ⟨⟩
    exact Nat.le_refl _

/-- The picture of a linked list is read back as it is. -/
theorem chainOf_readable (h : Heap) (v : Value) (t : Tag) : (h.chainOf v t).Readable := by
  obtain ⟨as, H, -⟩ := h.chainOf_walked v t
  refine ⟨?_, H.readable (by simp)⟩
  unfold chainOf
  split
  · exact nofun
  · dsimp only
    split
    · exact nofun
    · rintro _ ⟨⟩
      exact Nat.zero_lt_succ _

end Heap

/-! ### Frames -/

/-- Whether a value that is shown is read back as it is, unless it looks like a chain. -/
def Shown.Readable : Shown → Prop
  | .chain c => c.Readable
  | .plain j => j.settled = j

/-- What becomes of a value that is shown when it is read back. -/
def Shown.reread : Shown → Shown
  | .chain c => .chain c
  | .plain j => .ofJson j

/-- Whether nothing is lost of a value that is shown: if a plain value has the form of a chain, it
has nothing but what a chain has. -/
def Shown.Faithful : Shown → Prop
  | .chain _ => True
  | .plain j => ∀ c, Chain.ofJson? j = some c → c.json = j

theorem Shown.ofJson_json {v : Shown} (h : v.Readable) : ofJson v.json = v.reread := by
  cases v with
  | chain c =>
    rw [Shown.json, Shown.ofJson, Chain.ofJson?_json h]
    rfl
  | plain j => rfl

theorem Shown.reread_json_iff {v : Shown} (h : v.Readable) :
    v.reread.json = v.json ↔ v.Faithful := by
  cases v with
  | chain c => exact ⟨fun _ => trivial, fun _ => rfl⟩
  | plain j =>
    have h : j.settled = j := h
    cases e : Chain.ofJson? j with
    | none => simp [Shown.reread, Shown.ofJson, Shown.Faithful, Shown.json, e, h]
    | some c => simp [Shown.reread, Shown.ofJson, Shown.Faithful, Shown.json, e]

theorem Shown.reread_eq_iff {v : Shown} (h : v.Readable) :
    v.reread = v ↔ ∀ j, v = .plain j → Chain.ofJson? j = none := by
  cases v with
  | chain c => exact ⟨fun _ _ => nofun, fun _ => rfl⟩
  | plain j =>
    have h : j.settled = j := h
    cases e : Chain.ofJson? j with
    | none => simp [Shown.reread, Shown.ofJson, e, h]
    | some c => simp [Shown.reread, Shown.ofJson, e]

/-- Whether a frame is read back. -/
structure Snapshot.Readable (s : Snapshot) : Prop where
  line : s.line < wordSize
  depth : s.depth < wordSize
  locals : ∀ b ∈ s.locals.entries, b.2.Readable

/-- What becomes of a frame when it is read back. -/
def Snapshot.reread (s : Snapshot) : Snapshot :=
  { s with locals := s.locals.mapValues Shown.reread, tags := s.tags.mapValues (.named ·.name) }

theorem Tag.name_named (name : String) : (Tag.named name).name = name := by
  unfold Tag.named
  split <;> rfl

theorem Snapshot.ofJson?_of_parts {j line function locals tags scope depth branch : Json}
    {s : Snapshot}
    (parts : fields? ["line", "function", "locals", "var_types", "scope", "depth",
      "branch_taken"] 7 j = some [some line, some function, some locals, some tags, some scope,
        some depth, some branch])
    (hline : required? nat? (some line) = some s.line)
    (hfunction : required? str? (some function) = some s.function)
    (hlocals : bindings? (fun v => some (Shown.ofJson v)) locals = some s.locals)
    (htags : bindings? (fun v => v.str?.map Tag.named) tags = some s.tags)
    (hscope : missing? (choice? LineScope.named? isVoid) (some scope) = some s.scope)
    (hdepth : required? nat? (some depth) = some s.depth)
    (hbranch : missing? bool? (some branch) = some s.branch) : ofJson? j = some s := by
  have hlocals : required? (bindings? fun v => some (Shown.ofJson v)) (some locals) =
      some s.locals := hlocals
  have htags : required? (bindings? fun v => v.str?.map Tag.named) (some tags) = some s.tags :=
    htags
  simp only [ofJson?, parts, Option.bind_eq_bind, Option.bind_some, hline, hfunction, hlocals,
    htags, hscope, hdepth, hbranch, Option.pure_def]

theorem Snapshot.ofJson?_members {s : Snapshot} (h : s.Readable) :
    ofJson? (.obj s.members) = some s.reread := by
  refine ofJson?_of_parts rfl (required?_nat h.line) rfl ?_ ?_ ?_ (required?_nat h.depth)
    (missing?_bool s.branch)
  · exact bindings?_obj _ Shown.json Shown.reread fun e he =>
      congrArg some (Shown.ofJson_json (h.locals e he))
  · exact bindings?_obj _ (fun t : Tag => .str t.name) (fun t => Tag.named t.name)
      fun _ _ => rfl
  · show missing? _ (some (.option (.str ·.name) s.scope)) = some s.scope
    cases s.scope with
    | none => rfl
    | some scope => cases scope <;> rfl

/-! ### Entries -/

/-- Whether an entry is read back. -/
def Entry.Readable : Entry → Prop
  | .step _ s => s.Readable
  | _ => True

/-- What becomes of an entry when it is read back. -/
def Entry.reread : Entry → Entry
  | .step kind s => .step kind s.reread
  | e => e

theorem Entry.ofJson?_json {e : Entry} (h : e.Readable) : ofJson? e.json = some e.reread := by
  cases e with
  | print | exception => rfl
  | step kind s =>
    have members : (("event", Json.str kind.name) :: s.members).filter (·.1 != "event") =
        s.members := rfl
    have event : (("event", Json.str kind.name) :: s.members).filter (·.1 == "event") =
        [("event", .str kind.name)] := rfl
    have parts : ofParts? kind.name (.obj s.members) = some (.step kind s.reread) := by
      cases kind <;>
        simp only [EventKind.name, ofParts?, Snapshot.ofJson?_members h, Option.map_some]
    show ofJson? (.obj (("event", Json.str kind.name) :: s.members)) = _
    unfold ofJson?
    dsimp only
    rw [event, members]
    exact parts

/-- A trace is read back entry by entry. -/
theorem Trace.ofJson?_json {t : Trace} (h : ∀ e ∈ t, e.Readable) :
    Trace.ofJson? t.json = some (t.map Entry.reread) := by
  show (t.map Entry.json).mapM Entry.ofJson? = _
  rw [List.mapM_map]
  exact mapM_of_forall fun e he => Entry.ofJson?_json (h e he)

/-- Whether nothing is lost of an entry when it is read back. -/
def Entry.Faithful : Entry → Prop
  | .step _ s => ∀ b ∈ s.locals.entries, b.2.Faithful
  | _ => True

/-- Names of types are read back as they are. -/
theorem Snapshot.reread_tags (s : Snapshot) :
    (s.reread.tags.entries.map fun (name, t) => (name, Json.str t.name)) =
      s.tags.entries.map fun (name, t) => (name, Json.str t.name) := by
  simp [Snapshot.reread, Ordered.mapValues, Tag.name_named]

theorem Snapshot.reread_locals_iff {s : Snapshot} (h : s.Readable) :
    ((s.reread.locals.entries.map fun (name, v) => (name, v.json)) =
      s.locals.entries.map fun (name, v) => (name, v.json)) ↔
      ∀ b ∈ s.locals.entries, b.2.Faithful := by
  show (s.locals.entries.map fun e => (e.1, e.2.reread)).map _ = _ ↔ _
  rw [List.map_map, List.map_inj_left]
  refine forall₂_congr fun b hb => ?_
  rw [← Shown.reread_json_iff (h.locals b hb)]
  exact ⟨fun e => (Prod.mk.inj e).2, fun e => congrArg (Prod.mk b.1) e⟩

theorem Snapshot.reread_members_iff {s : Snapshot} (h : s.Readable) :
    s.reread.members = s.members ↔ ∀ b ∈ s.locals.entries, b.2.Faithful := by
  rw [← Snapshot.reread_locals_iff h]
  refine ⟨fun e => ?_, fun e => ?_⟩
  · have := (List.cons.inj (List.cons.inj (List.cons.inj e).2).2).1
    exact Json.obj.inj (Prod.mk.inj this).2
  · unfold Snapshot.members
    rw [Snapshot.reread_tags, e]
    rfl

theorem Entry.reread_json_iff {e : Entry} (h : e.Readable) :
    e.reread.json = e.json ↔ e.Faithful := by
  cases e with
  | print | exception => exact ⟨fun _ => trivial, fun _ => rfl⟩
  | step kind s =>
    refine Iff.trans ⟨fun e => ?_, fun e => ?_⟩ (Snapshot.reread_members_iff h)
    · exact (List.cons.inj (Json.obj.inj e)).2
    · exact congrArg (fun members => Json.obj (("event", .str kind.name) :: members)) e

/-- A trace that is read back is the same JSON exactly if nothing is lost of any entry. -/
theorem Trace.reread_json_iff {t : Trace} (h : ∀ e ∈ t, e.Readable) :
    Trace.json (t.map Entry.reread) = t.json ↔ ∀ e ∈ t, e.Faithful := by
  have same : Trace.json (t.map Entry.reread) = t.json ↔
      (t.map Entry.reread).map Entry.json = t.map Entry.json :=
    ⟨Json.arr.inj, congrArg Json.arr⟩
  rw [same, List.map_map, List.map_inj_left]
  exact forall₂_congr fun e he => Entry.reread_json_iff (h e he)

end Stepwise
