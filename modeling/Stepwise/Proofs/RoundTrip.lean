import Stepwise.Proofs.Depth
import Stepwise.Proofs.Reading

/-!
# Traces and their JSON

The JSON of a trace is read back as a trace, entry by entry. It is the same JSON if it is written
once more, unless a variable holds a dictionary in the form of a chain that has more members than a
chain: those are lost (`trace_reread`).
-/

namespace Stepwise

open Script Json

namespace Recorder

variable {s : Listing}

/-! ### Depths -/

/-- Whether no event was recorded at a depth beyond the largest number of open frames. -/
def Shallow (ns : List Noted) : Prop := ∀ n ∈ ns, ∀ depth ∈ n.2, depth ≤ recursionLimit

theorem shallow_append {ns ns' : List Noted} : Shallow (ns ++ ns') ↔ Shallow ns ∧ Shallow ns' :=
  List.forall_mem_append

theorem shallow_single {e : Event} {o : Option Nat} {d : Nat} (h : o = none ∨ o = some d)
    (hd : d ≤ recursionLimit) : Shallow [(e, o)] := by
  refine List.forall_mem_singleton.2 ?_
  rintro depth rfl
  obtain h | h := h
  · cases h
  · exact Option.some.inj h ▸ hd

/-- Whether the events of the `d`-th open frame are recorded at no larger depth than is allowed. -/
def ShallowAt (s : Listing) (d : Nat) (es : List Event) : Prop :=
  ∀ {r ns r'}, Goes s r ns r' → ns.map Prod.fst = es → r.depth ≤ d → Shallow ns

/-- A whole frame is shallow if what happens inside of it is. -/
theorem ShallowAt.frame {d : Nat} {es : List Event} {call ret : Event} (h : ShallowAt s (d + 1) es)
    (tallies : Tallies s es) (hcall : call.kind = .call) (hret : ret.kind = .return_)
    (hd : d < recursionLimit) : ShallowAt s d (call :: es ++ [ret]) := by
  intro r ns r' goes hns hr
  obtain ⟨front, back, rfl, hfront, hback⟩ := List.map_eq_append_iff.1 hns
  obtain ⟨⟨_, o⟩, inner, rfl, rfl, hinner⟩ := List.map_eq_cons_iff.1 hfront
  obtain ⟨⟨_, o'⟩, _, rfl, rfl, hnil⟩ := List.map_eq_cons_iff.1 hback
  obtain rfl := List.map_eq_nil_iff.1 hnil
  obtain ⟨r₂, start, last⟩ := goes.split
  cases start with
  | @cons _ r₁ _ _ _ first inside =>
  obtain ⟨-, depth₂, calls₂⟩ := tallies.tallies inside hinner
  obtain ⟨noted, depth', -⟩ := last.single.return_ hret
  rw [calls₂, depth₂] at depth'
  obtain ⟨ho, hr₁, hr'⟩ : (o = none ∨ o = some (r.depth + 1)) ∧ r₁.depth ≤ r.depth + 1 ∧
      r'.depth = r.depth := by
    obtain ⟨ho, -, depth₁, calls₁, -⟩ | ⟨ho, depth₁, calls₁⟩ := first.call hcall
    · exact ⟨.inr ho, by omega, by simp [depth', calls₁, depth₁]⟩
    · exact ⟨.inl ho, by omega, by simp [depth', calls₁, depth₁]⟩
  refine shallow_append.2 ⟨List.forall_mem_cons.2 ⟨?_, h inside hinner (by omega)⟩,
    shallow_single (d := r.depth) ?_ (by omega)⟩
  · exact List.forall_mem_singleton.1 (shallow_single ho (by omega))
  · exact hr' ▸ noted.imp_left And.left

theorem shallowAt_inside {phrase : Phrase → Prop} {d : Nat} {call last : Event} {es : List Event}
    (h : Inside phrase d call es last) (hd : d ≤ recursionLimit) : ShallowAt s d es := by
  induction h with
  | start =>
    intro r ns r' _ hns _
    obtain rfl := List.map_eq_nil_iff.1 hns
    exact nofun
  | line outer n ih =>
    intro r ns r' goes hns hr
    obtain ⟨front, back, rfl, hfront, hback⟩ := List.map_eq_append_iff.1 hns
    obtain ⟨⟨_, o⟩, _, rfl, rfl, hnil⟩ := List.map_eq_cons_iff.1 hback
    obtain rfl := List.map_eq_nil_iff.1 hnil
    obtain ⟨r₁, before, line⟩ := goes.split
    obtain ⟨-, depth₁, -⟩ := (tallies_inside outer).tallies before hfront
    obtain ⟨noted, -, -⟩ := line.single.line rfl
    exact shallow_append.2 ⟨ih hd before hfront hr, shallow_single noted (by omega)⟩
  | @call _ _ _ _ call' _ last' outer limit part inner ih ih' =>
    intro r ns r' goes hns hr
    obtain ⟨front, back, rfl, hfront, hback⟩ := List.map_eq_append_iff.1 hns
    obtain ⟨r₁, before, frame⟩ := goes.split
    obtain ⟨-, depth₁, -⟩ := (tallies_inside outer).tallies before hfront
    obtain ⟨n, -, hn⟩ := part
    have closed : last'.closing.kind = .return_ := rfl
    have whole : ShallowAt s _ (call' :: _ ++ [last'.closing]) :=
      ShallowAt.frame (ih' limit) (tallies_inside inner) hn.kind closed limit
    exact shallow_append.2 ⟨ih hd before hfront hr, whole frame hback (by omega)⟩

/-- The events of a whole run are recorded at no depth beyond the largest number of open frames. -/
theorem shallow_of_wellNested {phrase : Phrase → Prop} {es : List Event}
    (h : WellNested phrase es) {ns : List Noted} {r : Recorder} (goes : Goes s start ns r)
    (hns : ns.map Prod.fst = es) : Shallow ns := by
  obtain ⟨globals, inner, last, rfl, inside⟩ := h
  exact ShallowAt.frame (shallowAt_inside inside (by decide)) (tallies_inside inside) rfl rfl
    (by decide) goes hns (Nat.le_refl 0)

/-! ### Frames -/

theorem describe_readable (h : Heap) (v : Value) : (describe h v).2.Readable := by
  unfold describe
  dsimp only
  split
  · exact h.chainOf_readable v _
  · split
    · exact rfl
    · exact h.plain?_settled ample v

end Recorder

/-! ### Traces -/

/-- Whether the line of a part of a program, if it has one, is a number of 64 bits. -/
def Script.Phrase.Numbered (n : Phrase) : Prop := ∀ line ∈ n.line?, line < wordSize

theorem exists_of_mem_right {α β : Type} {R : α → β → Prop} {as : List α} {bs : List β}
    (h : List.Forall₂ R as bs) : ∀ b ∈ bs, ∃ a ∈ as, R a b := by
  induction h with
  | nil => simp
  | cons hab _ ih =>
    refine List.forall_mem_cons.2 ⟨⟨_, List.mem_cons_self, hab⟩, fun b hb => ?_⟩
    obtain ⟨a, ha, hab⟩ := ih b hb
    exact ⟨a, List.mem_cons_of_mem _ ha, hab⟩

/-- What is known of an entry from the frame that it shows. -/
def Entry.IsSnapshot (P : Nat → Prop) (e : Entry) : Prop :=
  ∃ kind s, e = .step kind s ∧ P s.line ∧ ∀ b ∈ s.locals.entries, b.2.Readable

/-- The entries of a recorded run are read back, if the lines of the program are numbers of 64
bits. -/
theorem recordedRun_readable (fuel : Nat) (s : Listing) {p : Program}
    (lines : Every Phrase.Numbered (blockParts p)) :
    (recordedRun fuel s p).1 = .outOfFuel ∨
      ∀ e ∈ (recordedRun fuel s p).2.log.entries.toList, e.Readable := by
  have kept := recordedRun_keeps fuel s (P := Entry.IsSnapshot (· < wordSize)) lines
    (fun _ => nofun) ?_
  · refine kept.imp_right ?_
    rintro ⟨nested, ⟨ns, hns, goes⟩, snapshots⟩ e he
    obtain ⟨kind, snap, rfl, line, locals⟩ := snapshots e he
    refine ⟨line, ?_, locals⟩
    obtain ⟨entries, same, shows⟩ := goes.entries
    obtain rfl : _ = entries := same
    obtain ⟨⟨event, depth⟩, hn, snap', e', -, -, hdepth⟩ := exists_of_mem_right shows _ he
    obtain ⟨n, hn, hd⟩ := List.mem_filterMap.1 hn
    obtain ⟨depth', hd, e''⟩ := Option.map_eq_some_iff.1 hd
    have bound := Recorder.shallow_of_wellNested nested goes hns n hn depth' hd
    obtain rfl : snap = snap' := (Entry.step.inj e').2
    obtain rfl : depth' = depth := (Prod.mk.inj e'').2
    show snap.depth < wordSize
    rw [hdepth]
    exact Nat.lt_of_le_of_lt bound (by decide)
  · rintro kind m f scope depth branch hl -
    refine ⟨kind, _, rfl, ?_,
      Recorder.snapshot_locals Recorder.describe_readable m f scope depth branch⟩
    obtain ⟨-, h, -⟩ | ⟨n, hn, h⟩ := hl
    · have zero : (Recorder.snapshot m f scope depth branch).line = 0 := h
      rw [zero]
      decide
    · exact hn _ h

theorem Entry.readable_of_isStep {e : Entry} (h : e.isStep = false) : e.Readable := by
  cases e with
  | step => cases h
  | _ => trivial

/-- The entries of a trace are read back, if the lines of the program are numbers of 64 bits. -/
theorem traceProgram_readable (source : String) {p : Program}
    (lines : Every Phrase.Numbered (blockParts p)) :
    (recordedRun ample (Listing.of source p) p).1 = .outOfFuel ∨
      ∀ e ∈ traceProgram source p, e.Readable :=
  forall_mem_traceProgram (recordedRun_readable ample (Listing.of source p) lines)
    fun _ => Entry.readable_of_isStep

/-- The JSON of a trace is read back as a trace. Written once more it is the same JSON exactly if no
variable holds a plain value in the form of a chain that is more than a chain: such a value comes
back as a chain, without the rest. The value of a variable comes back as it was exactly if it is a
chain, or a plain value that has not the form of one. -/
theorem trace_reread (source : String) (p : Program)
    (lines : Every Phrase.Numbered (blockParts p)) :
    (recordedRun ample (Listing.of source p) p).1 = .outOfFuel ∨
      Trace.ofJson? (traceProgram source p).json =
          some ((traceProgram source p).map Entry.reread) ∧
        (Trace.json ((traceProgram source p).map Entry.reread) = (traceProgram source p).json ↔
          ∀ e ∈ traceProgram source p, e.Faithful) ∧
        ∀ e ∈ traceProgram source p, ∀ s ∈ e.snapshot?, ∀ b ∈ s.locals.entries,
          (b.2.reread = b.2 ↔ ∀ j, b.2 = .plain j → Chain.ofJson? j = none) := by
  refine (traceProgram_readable source lines).imp_right fun h =>
    ⟨Trace.ofJson?_json h, Trace.reread_json_iff h, ?_⟩
  rintro (⟨kind, s⟩ | _ | _) he s' ⟨⟩ b hb
  exact Shown.reread_eq_iff ((h _ he).locals b hb)

/-- Two lines, `d = {'type': 'linked_list', 'head': None, 'nodes': [], 'size': 0}` and `x = 1`. -/
def lookalike : Program :=
  [.mk (.assign [.name "d"] (.dict [(.str "type", .str "linked_list"), (.str "head", .none),
      (.str "nodes", .list []), (.str "size", .int 0)])) ⟨1, 1⟩ 1,
    .mk (.assign [.name "x"] (.int 1)) ⟨2, 1⟩ 2]

/-- The text of `lookalike`. -/
def lookalikeSource : String :=
  "d = \x7b'type': 'linked_list', 'head': None, 'nodes': [], 'size': 0\x7d\nx = 1\n"

/-- The trace of a dictionary that looks like a chain is read back. -/
theorem trace_reread_lookalike :
    (recordedRun ample (Listing.of lookalikeSource lookalike) lookalike).1 = .outOfFuel ∨
      Trace.ofJson? (traceProgram lookalikeSource lookalike).json =
          some ((traceProgram lookalikeSource lookalike).map Entry.reread) ∧
        (Trace.json ((traceProgram lookalikeSource lookalike).map Entry.reread) =
            (traceProgram lookalikeSource lookalike).json ↔
          ∀ e ∈ traceProgram lookalikeSource lookalike, e.Faithful) ∧
        ∀ e ∈ traceProgram lookalikeSource lookalike, ∀ s ∈ e.snapshot?, ∀ b ∈ s.locals.entries,
          (b.2.reread = b.2 ↔ ∀ j, b.2 = .plain j → Chain.ofJson? j = none) :=
  trace_reread lookalikeSource lookalike (by
    simp [Every, Phrase.Numbered, lookalike, blockParts, Stmt.parts, Action.parts, allParts,
      Expr.parts, pairParts, Phrase.line?, Stmt.line, Stmt.pos, wordSize])

/-- Its dictionary is not faithful: the member that a chain has not is lost. -/
example : ¬(Shown.plain (.obj [("type", .str "linked_list"), ("head", .null), ("nodes", .arr []),
    ("size", .int 0)])).Faithful :=
  fun h => nomatch Json.obj.inj (h ⟨false, none, [], none⟩ rfl)

end Stepwise
