import Stepwise.Proofs.Recording

/-!
# Depths

The depth of an entry is the number of recorded calls that are open. Recorded calls and recorded
returns nest (`Tallied`), whichever frames were open when the recording began and however the run
left them.
-/

namespace Stepwise

open Script

/-- Whether an event is the return of a frame that was opened by a call. -/
def Event.Closes (e call : Event) : Prop :=
  e.kind = .return_ ∧ e.name = call.name ∧ e.frame = call.frame ∧ e.locals = call.locals

/-- The events of a frame in which `d` recorded calls are open, each with the depth at which it was
recorded. -/
inductive Tallied : (d : Nat) → List Noted → Prop
  /-- Nothing has happened. -/
  | nil {d} : Tallied d []
  /-- A line is recorded at the depth of the frame, if it is recorded. -/
  | line {d ns e depth} (h : Tallied d ns) (kind : e.kind = .line)
    (hd : depth = none ∨ depth = some d) : Tallied d (ns ++ [(e, depth)])
  /-- A recorded call counts itself, and its return, which is recorded, no longer counts it. -/
  | recorded {d ns call inner ret} (h : Tallied d ns) (kind : call.kind = .call)
    (hi : Tallied (d + 1) inner) (closes : ret.Closes call) :
    Tallied d (ns ++ ((call, some (d + 1)) :: inner ++ [(ret, some d)]))
  /-- A call that is not recorded does not count, and neither does its return. -/
  | skipped {d ns call inner ret depth} (h : Tallied d ns) (kind : call.kind = .call)
    (hi : Tallied d inner) (closes : ret.Closes call) (hd : depth = none ∨ depth = some d) :
    Tallied d (ns ++ ((call, none) :: inner ++ [(ret, depth)]))

namespace Recorder

variable {s : Listing} {r r' : Recorder}

/-- What the recorder makes of the events of a frame: they are tallied at its depth, and afterwards
as many calls are open as before. -/
structure Tallies (s : Listing) (es : List Event) : Prop where
  tallies : ∀ {r ns r'}, Goes s r ns r' → ns.map Prod.fst = es →
    Tallied r.depth ns ∧ r'.depth = r.depth ∧ r'.calls = r.calls

/-- What the recorder makes of a line. -/
theorem Step.line {n : Noted} (h : Step s r n r') (kind : n.1.kind = .line) :
    (n.2 = none ∨ n.2 = some r.depth) ∧ r'.depth = r.depth ∧ r'.calls = r.calls := by
  cases h with
  | @skip e _ =>
    have kind : e.kind = .line := kind
    simp [kind, count]
  | @note e _ _ _ =>
    have kind : e.kind = .line := kind
    simp [kind, count]

/-- What the recorder makes of a call. -/
theorem Step.call {n : Noted} (h : Step s r n r') (kind : n.1.kind = .call) :
    (n.2 = some (r.depth + 1) ∧ s.isEarly n.1 = false ∧ r'.depth = r.depth + 1 ∧
        r'.calls = true :: r.calls ∧ r'.armed = true) ∨
      (n.2 = none ∧ r'.depth = r.depth ∧ r'.calls = false :: r.calls) := by
  cases h with
  | @skip e _ =>
    have kind : e.kind = .call := kind
    simp [kind, count]
  | @note e _ late _ =>
    have kind : e.kind = .call := kind
    simp [kind, count, late]

/-- What the recorder makes of a return. -/
theorem Step.return_ {n : Noted} (h : Step s r n r') (kind : n.1.kind = .return_) :
    ((n.2 = none ∧ (s.isEarly n.1 = true ∨ r.armed = false)) ∨ n.2 = some r'.depth) ∧
      r'.depth = (r.depth - if r.calls.head? = some true then 1 else 0) ∧
      r'.calls = r.calls.tail := by
  cases h with
  | @skip e hidden =>
    have kind : e.kind = .return_ := kind
    simp [kind, count, hidden]
  | @note e _ late _ =>
    have kind : e.kind = .return_ := kind
    simp [kind, count]

/-- What the recorder makes of a whole frame. -/
theorem Tallies.frame {es : List Event} {call ret : Event} (h : Tallies s es)
    (kind : call.kind = .call) (closes : ret.Closes call)
    (visible : s.isEarly call = false → s.isEarly ret = false) {before ns : List Noted}
    (hb : Tallied r.depth before) (goes : Goes s r ns r')
    (hns : ns.map Prod.fst = call :: es ++ [ret]) :
    Tallied r.depth (before ++ ns) ∧ r'.depth = r.depth ∧ r'.calls = r.calls := by
  obtain ⟨front, back, rfl, hfront, hback⟩ := List.map_eq_append_iff.1 hns
  obtain ⟨⟨_, o⟩, inner, rfl, rfl, hinner⟩ := List.map_eq_cons_iff.1 hfront
  obtain ⟨⟨_, o'⟩, _, rfl, rfl, hnil⟩ := List.map_eq_cons_iff.1 hback
  obtain rfl := List.map_eq_nil_iff.1 hnil
  obtain ⟨r₂, start, last⟩ := goes.split
  cases start with
  | @cons _ r₁ _ _ _ first inside =>
  obtain ⟨tallied, depth₂, calls₂⟩ := h.tallies inside hinner
  obtain ⟨noted, depth', calls'⟩ := last.single.return_ closes.1
  rw [calls₂, depth₂] at depth'
  rw [calls₂] at calls'
  obtain ⟨rfl, late, depth₁, calls₁, armed₁⟩ | ⟨rfl, depth₁, calls₁⟩ := first.call kind
  · -- the call is recorded, so the recorder is armed when the frame returns
    have depth : r'.depth = r.depth := by simp [depth', calls₁, depth₁]
    rw [depth₁] at tallied
    obtain ⟨-, hidden⟩ | same := noted
    · exact absurd hidden (by simp [visible late, inside.armed armed₁])
    · obtain rfl : o' = some r.depth := depth ▸ same
      exact ⟨hb.recorded kind tallied closes, depth, by simp [calls', calls₁]⟩
  · have depth : r'.depth = r.depth := by simp [depth', calls₁, depth₁]
    rw [depth₁] at tallied
    refine ⟨hb.skipped kind tallied closes ?_, depth, by simp [calls', calls₁]⟩
    exact noted.imp And.left fun same => depth ▸ same

/-- A call of a function or class, and the return of its frame, are never early. -/
theorem not_early_of_calledBy {phrase : Script.Phrase → Prop} {e e' : Event}
    (part : ∃ n, phrase n ∧ n.IsCalledBy e) (h : e'.frame = e.frame) : s.isEarly e' = false := by
  obtain ⟨n, -, hn⟩ := part
  have frame : e'.frame ≠ .module := by
    rw [h]
    cases n with
    | function | cls =>
      rw [hn.2.1]
      exact nofun
    | _ => cases hn
  simp [Listing.isEarly, frame]

/-- The events inside of a frame are tallied. -/
theorem tallies_inside {phrase : Script.Phrase → Prop} {d : Nat} {call last : Event}
    {es : List Event}
    (h : Inside phrase d call es last) : Tallies s es := by
  induction h with
  | start =>
    refine ⟨fun goes hns => ?_⟩
    obtain rfl := List.map_eq_nil_iff.1 hns
    cases goes
    exact ⟨.nil, rfl, rfl⟩
  | line _ n ih =>
    refine ⟨fun goes hns => ?_⟩
    obtain ⟨front, back, rfl, hfront, hback⟩ := List.map_eq_append_iff.1 hns
    obtain ⟨⟨_, o⟩, _, rfl, rfl, hnil⟩ := List.map_eq_cons_iff.1 hback
    obtain rfl := List.map_eq_nil_iff.1 hnil
    obtain ⟨r₁, before, line⟩ := goes.split
    obtain ⟨tallied, depth, calls⟩ := ih.tallies before hfront
    obtain ⟨noted, depth', calls'⟩ := line.single.line rfl
    rw [depth] at noted
    exact ⟨tallied.line rfl noted, depth'.trans depth, calls'.trans calls⟩
  | @call _ _ _ _ call' _ last' _ _ part inner ih ih' =>
    refine ⟨fun goes hns => ?_⟩
    obtain ⟨front, back, rfl, hfront, hback⟩ := List.map_eq_append_iff.1 hns
    obtain ⟨r₁, before, frame⟩ := goes.split
    obtain ⟨tallied, depth, calls⟩ := ih.tallies before hfront
    have closes : last'.closing.Closes call' := ⟨rfl, inner.same_frame⟩
    have visible : s.isEarly last'.closing = false := not_early_of_calledBy part closes.2.2.1
    obtain ⟨n, -, hn⟩ := part
    obtain ⟨all, depth', calls'⟩ := ih'.frame hn.kind closes (fun _ => visible)
      (depth ▸ tallied) frame hback
    exact ⟨depth ▸ all, depth'.trans depth, calls'.trans calls⟩

/-- The events of a whole run are tallied, and no recorded call is left open. -/
theorem tallied_of_wellNested {phrase : Script.Phrase → Prop} {es : List Event}
    (h : WellNested phrase es) {ns : List Noted} (goes : Goes s start ns r)
    (hns : ns.map Prod.fst = es) : Tallied 0 ns := by
  obtain ⟨globals, inner, last, rfl, inside⟩ := h
  have closes : last.closing.Closes ⟨.call, moduleName, .module, globals, 0⟩ :=
    ⟨rfl, inside.same_frame⟩
  refine ((tallies_inside inside).frame rfl closes (fun late => ?_) .nil goes hns).1
  -- the module is called on line 0, so if that is not early, no line is
  have first : startLine s.main = 0 := by simpa [Listing.isEarly] using late
  simp [Listing.isEarly, first]

end Recorder

/-- The depth of every entry of a trace is the number of recorded calls that are open, recorded
calls and returns nest, and none is open at the end. -/
theorem trace_tallied (source : String) (p : Program) :
    (recordedRun ample (Listing.of source p) p).1 = .outOfFuel ∨ ∃ ns : List Noted,
      ns.map Prod.fst = (recordedRun ample (Listing.of source p) p).2.history.reverse ∧
      (traceProgram source p).Shows (Recorder.recorded ns) ∧ Tallied 0 ns := by
  refine or_iff_not_imp_left.2 fun ends => ?_
  obtain ⟨nested, ns, hns, goes⟩ := (recordedRun_goes ample _ p).resolve_left ends
  exact ⟨ns, hns, trace_shows ends goes, Recorder.tallied_of_wellNested nested goes hns⟩

end Stepwise
