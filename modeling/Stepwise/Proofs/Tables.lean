import Stepwise.Proofs.Extent
import Stepwise.Proofs.Sound

/-!
# Tables and their keys

Wherever a run comes, the tables of dictionaries and sets agree with their keys: no key comes twice,
and every entry is stored under the key that its key object has, whatever has become of the heap
since it was set (`tables_filed`). So `popitem` and `pop`, which find the key of what they return
once more, take out that entry and leave the others as they are.

## The model

A world says which values may be filed under a key (`World.filed`). The entries of tables are such
values (`EntryRel`), and on a tidy heap they have their keys (`Tidy.filed`).
-/

namespace Stepwise

open Script

variable {σ : Type} {m : Machine σ} {h h' : Heap} {a : Address} {t : Table}

/-! ### Tables on a heap -/

/-- Whether the tables on a heap agree with their keys. -/
structure Heap.Filed (h : Heap) : Prop where
  /-- No key comes twice. -/
  distinct : ∀ {a t}, h.table? a = some t → t.keys.Nodup
  /-- An entry is stored under the key of its key object. -/
  keyed : ∀ {a t}, h.table? a = some t → ∀ e ∈ t.entries, h.key? e.2.1 = some e.1

theorem Heap.table?_eq_some :
    h.table? a = some t ↔ h.get? a = some (.dict t) ∨ h.get? a = some (.set t) := by
  unfold table?
  split
  · next e => simp [e]
  · next e => simp [e]
  · next hd hs => simpa using ⟨hd t, hs t⟩

/-- The tables on a heap agree with their keys if those among its objects do. -/
theorem Heap.filed_of_objects (keyed : ∀ t, some (.dict t) ∈ h.objects ∨ some (.set t) ∈ h.objects →
    ∀ e ∈ t.entries, h.key? e.2.1 = some e.1) : h.Filed where
  distinct {_ t} _ := t.distinct
  keyed {_ t} ht := keyed t ((table?_eq_some.1 ht).imp mem_objects mem_objects)

/-- All that is filed on a tidy heap has its key. -/
theorem Grounded.filed {w : World} (H : Grounded w m) : m.heap.Filed where
  distinct {_ t} _ := t.distinct
  keyed {a t} ht e he := by
    have related : TableRel w t t := by
      obtain ho | ho := Heap.table?_eq_some.1 ht
      · cases H.objectRel ho with
        | dict same => exact same
      · cases H.objectRel ho with
        | set same => exact same
    obtain ⟨e', same⟩ := related.entries.partner e he
    exact (H.tidy.filed same.filed).key

/-! ### Popping -/

/-- Whether nothing has changed but one table, the entries of which are now `es`. -/
structure Heap.Keeps (h : Heap) (a : Address) (es : List (Key × Value × Value)) (h' : Heap) :
    Prop where
  table : ∃ t, h'.table? a = some t ∧ t.entries = es
  others : ∀ b ≠ a, h'.get? b = h.get? b

theorem Heap.keeps_modifyTable (ht : h.table? a = some t) (f : Table → Table) :
    h.Keeps a (f t).entries (h.modifyTable a f) where
  table := by
    refine ⟨f t, table?_eq_some.2 ?_, rfl⟩
    rw [modifyTable, get?_modify, if_pos rfl]
    refine (table?_eq_some.1 ht).imp (fun ho => ?_) fun ho => ?_
    · rw [ho]
      rfl
    · rw [ho]
      rfl
  others b hb := by rw [modifyTable, get?_modify, if_neg hb.symm]

/-- Whether an entry that is popped is the one that goes, and all others stay in order: of a
dictionary the last one, of a set the first. -/
structure Machine.Pops (m : Machine σ) : Prop where
  popItem : ∀ {a t es k x y} (r : Runner σ), m.heap.table? a = some t →
    t.entries = es ++ [(k, x, y)] →
    ∃ h, dictMethod r a "popitem" [] m = .ok (.tuple m.heap.marks [x, y]) { m with heap := h } ∧
      m.heap.Keeps a es h
  pop : ∀ {a t es k x y} (r : Runner σ), m.heap.table? a = some t →
    t.entries = (k, x, y) :: es →
    ∃ h, setMethod r a "pop" [] m = .ok x { m with heap := h } ∧ m.heap.Keeps a es h

theorem tableAt_eq (ht : m.heap.table? a = some t) : tableAt a m = .ok t m := by
  rw [tableAt, getHeap_bind, ht]
  rfl

/-- An entry that is taken out by the key of its key object. -/
theorem Heap.Filed.erase (H : h.Filed) (ht : h.table? a = some t)
    {before after : List (Key × Value × Value)} {k : Key} {x y : Value}
    (he : t.entries = before ++ (k, x, y) :: after) :
    h.key? x = some k ∧ h.Keeps a (before ++ after) (h.modifyTable a (·.erase k)) := by
  refine ⟨H.keyed ht (k, x, y) (by simp [he]), ?_⟩
  rw [← Ordered.entries_erase he]
  exact keeps_modifyTable ht fun t => t.erase k

theorem Heap.Filed.pops (H : m.heap.Filed) : m.Pops where
  popItem {a t es k x y} r ht he := by
    have split : t.entries = es ++ (k, x, y) :: [] := he
    obtain ⟨key, keeps⟩ := H.erase ht split
    rw [List.append_nil] at keeps
    have last : t.pairs.getLast? = some (x, y) := by simp [Table.pairs, Ordered.values, he]
    have marks : (m.heap.modifyTable a (·.erase k)).marks = m.heap.marks := Heap.marks_modify ..
    refine ⟨((m.heap.modifyTable a (·.erase k)).tuple [x, y]).2, ?_, keeps.table, keeps.others⟩
    show dictPopItem a m = _
    rw [dictPopItem, M.bind_ok (tableAt_eq ht), last]
    dsimp only
    rw [M.bind_ok (keyOf_some key), ← marks]
    rfl
  pop {a t es k x y} r ht he := by
    have split : t.entries = [] ++ (k, x, y) :: es := he
    obtain ⟨key, keeps⟩ := H.erase ht split
    have first : t.members = x :: es.map (·.2.1) := by simp [Table.members, Ordered.values, he]
    refine ⟨m.heap.modifyTable a (·.erase k), ?_, keeps⟩
    show setPop a m = _
    rw [setPop, M.bind_ok (tableAt_eq ht), first]
    dsimp only
    rw [M.bind_ok (keyOf_some key)]
    rfl

/-! ### Along a run -/

/-- Whether every run from a machine on comes through nothing but states with tables that agree with
their keys: those on the trail of the same run, whether it ends or not. -/
def Machine.StaysFiled (m : Machine σ) (observe : Observer σ) : Prop :=
  ∀ fuel p,
    plainly (runProgram (trailing observe fuel) p m.trailed) =
        runProgram (watched observe fuel) p m ∧
      ∀ v ∈ (machineOf (runProgram (trailing observe fuel) p m.trailed)).log.visits,
        v.machine.heap.Filed ∧ v.machine.Pops

theorem Stands.staysFiled {w : World} {m : Machine σ} (H : Stands ⟨[], []⟩ w m.trailed)
    (observe : Observer σ) : m.StaysFiled observe := by
  intro fuel p
  refine ⟨trailing_runs observe fuel p m.trailed, fun v hv => ?_⟩
  obtain ⟨w', grounded, -⟩ := (Sound.runProgram_grounded observe fuel p H).visits v hv
  exact ⟨grounded.filed, grounded.filed.pops⟩

/-- Tables agree with their keys: in every state that a run comes through, whoever watches it, no two
entries of a dictionary or set have one key, each is stored under the key that its key object has
there, and popping takes out the entry that it returns. -/
theorem tables_filed (observe : Observer σ) (log : σ) (s : Listing) :
    (Machine.start log).StaysFiled observe ∧
      (Machine.forTrace s).StaysFiled (Recorder.observe s) := by
  obtain ⟨w, H⟩ := Sound.start_stands log
  obtain ⟨w', H'⟩ := Sound.forTrace_stands s
  exact ⟨Stands.staysFiled (m := Machine.start log) H observe,
    Stands.staysFiled (m := Machine.forTrace s) H' (Recorder.observe s)⟩

end Stepwise
