import Stepwise.Proofs.Pure
import Stepwise.Proofs.Watch
import Stepwise.Trace.Run

/-!
# Recordings

What the recorder remembers is what it gets when it goes through the history of the run event by
event (`Goes`). At each event it either records an entry with the line, the function and the depth
of the event, or only counts the event.

Once one event has been recorded, nothing is left out any more but what the module does before its
first main line (`Goes.arms`). So the recorded events are the last events of the run exactly if no
such event comes after the first recorded one (`trace_armed`). That one does come is possible: a
lambda inside of an f-string reports lines counted within the field, which may be main lines while
a definition before the first main line is still running.
-/

namespace Stepwise

open Script

/-- Whether an event belongs to the module before its first main line. -/
def Listing.isEarly (s : Listing) (e : Event) : Bool :=
  e.frame == .module && e.line < startLine s.main

/-- An event, and at which depth it was recorded, if it was. -/
abbrev Noted := Event × Option Nat

/-- Whether an entry shows an event at a depth. -/
def Entry.Shows (entry : Entry) (e : Event) (depth : Nat) : Prop :=
  ∃ snap, entry = .step e.kind snap ∧ snap.line = e.line ∧ snap.function = e.name ∧
    snap.depth = depth

namespace Recorder

/-- What the recorder does at an event. -/
inductive Step (s : Listing) (r : Recorder) : Noted → Recorder → Prop
  /-- The event is not recorded. -/
  | skip {e} (h : s.isEarly e = true ∨ r.armed = false) : Step s r (e, none) (r.count e.kind false)
  /-- The event is recorded. -/
  | note {e entry} (h : s.isEarly e = false) (shows : entry.Shows e (r.count e.kind true).depth) :
    Step s r (e, some (r.count e.kind true).depth)
      { r.count e.kind true with entries := (r.count e.kind true).entries.push entry }

/-- What the recorder does at some events. -/
inductive Goes (s : Listing) : Recorder → List Noted → Recorder → Prop
  | nil {r} : Goes s r [] r
  | cons {r r' r'' n ns} (h : Step s r n r') (t : Goes s r' ns r'') : Goes s r (n :: ns) r''

variable {s : Listing} {r r' r'' : Recorder}

namespace Goes

variable {ns ns' : List Noted}

theorem append : ∀ {r ns}, Goes s r ns r' → Goes s r' ns' r'' → Goes s r (ns ++ ns') r''
  | _, [], .nil, h => h
  | _, _ :: _, .cons h t, h' => .cons h (append t h')

/-- The recorder goes through the first part of a history and then through the rest. -/
theorem split : ∀ {r ns}, Goes s r (ns ++ ns') r'' → ∃ r', Goes s r ns r' ∧ Goes s r' ns' r''
  | _, [], h => ⟨_, .nil, h⟩
  | _, _ :: _, .cons h t =>
    let ⟨r', left, right⟩ := split t
    ⟨r', .cons h left, right⟩

theorem single {n : Noted} (h : Goes s r [n] r') : Step s r n r' := by
  cases h with
  | cons h t =>
    cases t
    exact h

end Goes

/-! ### The recorder as an observer -/

/-- Whether an event may tell the outcome of a condition: only a line with a condition does. -/
def Tells (kind : EventKind) (scope : Option LineScope) (branch : Option Bool) : Prop :=
  branch.isSome = true → kind = .line ∧ scope = some .conditional

/-- Recording an event asks about a pure expression at most, and ends with one more entry: the frame
as some machine shows it. -/
theorem record_within (s : Listing) (moment : Moment) (m : Machine Recorder) (f : Frame)
    (r : Recorder) :
    (record s moment m f r).Within (fun e => ∃ harmless, e.isPure harmless = true) fun log =>
      ∃ m' scope branch, Tells moment.kind scope branch ∧ log = { r with
        entries := r.entries.push (.step moment.kind (snapshot m' f scope r.depth branch)) } := by
  unfold record
  dsimp only
  split
  · next line =>
    unfold askBranch
    dsimp only
    split
    · next e _ =>
      split
      · next pure => exact .test ⟨_, pure⟩ fun m answer => .note ⟨m, _, _, fun _ => line, rfl⟩
      · exact .note ⟨m, _, _, fun _ => line, rfl⟩
    · exact .note ⟨m, _, _, fun _ => line, rfl⟩
  · exact .note ⟨m, _, none, nofun, rfl⟩

theorem snapshot_shows (m : Machine Recorder) (f : Frame) (kind : EventKind)
    (scope : Option LineScope) (depth : Nat) (branch : Option Bool) :
    (Entry.step kind (snapshot m f scope depth branch)).Shows (f.event kind) depth :=
  ⟨_, rfl, rfl, rfl, rfl⟩

/-- What holds of every value that is shown holds of those of a frame. -/
theorem snapshot_locals {P : Shown → Prop} (h : ∀ h v, P (describe h v).2) (m : Machine Recorder)
    (f : Frame) (scope : Option LineScope) (depth : Nat) (branch : Option Bool) :
    ∀ b ∈ (snapshot m f scope depth branch).locals.entries, P b.2 := by
  refine Ordered.forall_mem_ofList fun b hb => ?_
  obtain ⟨⟨name, t, v⟩, hv, rfl⟩ := List.mem_map.1 hb
  obtain ⟨⟨name', v'⟩, -, e⟩ := List.mem_map.1 hv
  obtain ⟨-, e⟩ := Prod.mk.inj e
  have shown : (describe m.heap v').2 = v := congrArg Prod.snd e
  exact shown ▸ h m.heap v'

/-- An event that is recorded is not early. -/
theorem early_of_admits {m : Machine Recorder} {f : Frame} (kind : EventKind)
    (h : admits s m f = true) : s.isEarly (f.event kind) = false := by
  rw [admits, Bool.and_eq_true, Bool.not_eq_true'] at h
  exact h.1

/-- Nothing is left out once something was recorded but what is early. -/
theorem hidden_of_not_admits {m : Machine Recorder} {f : Frame} (kind : EventKind)
    (h : admits s m f = false) : s.isEarly (f.event kind) = true ∨ m.log.armed = false := by
  rw [admits, Bool.and_eq_false_iff, Bool.not_eq_false', Bool.or_eq_false_iff] at h
  exact h.imp_right And.left

/-- The recorder remembers what it gets when it goes through the history. -/
def Remembers (s : Listing) (r : Recorder) (history : List Event) : Prop :=
  ∃ ns, ns.map Prod.fst = history.reverse ∧ Goes s start ns r

/-- The recorder goes on remembering its history, and what holds of every frame that it shows holds
of its entries. -/
theorem observe_keeps (s : Listing) {bare : Prop} {phrase : Phrase → Prop} {P : Entry → Prop}
    (expr : ∀ e, phrase (.expr e))
    (shown : ∀ kind m f scope depth branch, Reported bare phrase (f.event kind) →
      Tells kind scope branch → P (.step kind (snapshot m f scope depth branch))) :
    Keeps (observe s) bare phrase
      fun r history => Remembers s r history ∧ ∀ e ∈ r.entries.toList, P e where
  keeps {moment m f fs h} hs hl hh := by
    rintro ⟨⟨ns, hns, goes⟩, entries⟩
    have next {n : Noted} {r : Recorder} (hn : n.1 = f.event moment.kind)
        (h : Step s m.log n r) : Remembers s r m.history :=
      ⟨ns ++ [n], by simp [hns, hh, hn], goes.append (.cons h .nil)⟩
    have same (recorded : Bool) : (m.log.count moment.kind recorded).entries = m.log.entries := by
      cases moment.kind <;> rfl
    unfold observe
    rw [hs]
    dsimp only
    cases admitted : admits s m f with
    | true =>
      refine (record_within s moment m f _).mono ?_ ?_
      · rintro e ⟨harmless, pure⟩ n hn
        have pure := pure_parts pure n hn
        cases n with
        | expr e => exact expr e
        | _ => cases pure
      · rintro _ ⟨m', scope, branch, tells, rfl⟩
        refine ⟨next rfl (.note (early_of_admits _ admitted) (snapshot_shows ..)), ?_⟩
        rw [Array.toList_push, List.forall_mem_append, same]
        exact ⟨entries, List.forall_mem_singleton.2 (shown _ _ _ _ _ _ hl tells)⟩
    | false =>
      refine .note ⟨next rfl (.skip (hidden_of_not_admits _ admitted)), ?_⟩
      rw [same]
      exact entries

/-! ### What a history leaves in the recorder -/

theorem count_entries (r : Recorder) (kind : EventKind) (recorded : Bool) :
    (r.count kind recorded).entries = r.entries := by
  cases kind <;> rfl

theorem count_armed (r : Recorder) (kind : EventKind) (recorded : Bool) :
    (r.count kind recorded).armed = (r.armed || recorded) := by
  cases kind <;> rfl

/-- The events that were recorded, with their depths. -/
def recorded (ns : List Noted) : List (Event × Nat) := ns.filterMap fun n => n.2.map (n.1, ·)

/-- The entries show the events that were recorded, in the same order. -/
theorem Goes.entries : ∀ {r ns r'}, Goes s r ns r' → ∃ entries : List Entry,
    r'.entries.toList = r.entries.toList ++ entries ∧
      List.Forall₂ (fun (n : Event × Nat) entry => entry.Shows n.1 n.2) (recorded ns) entries
  | _, _, _, .nil => ⟨[], (List.append_nil _).symm, .nil⟩
  | r, _, _, .cons (.skip (e := e) _) t => by
    obtain ⟨entries, h, shows⟩ := t.entries
    exact ⟨entries, count_entries r e.kind false ▸ h, shows⟩
  | r, _, _, .cons (.note _ hs) t => by
    obtain ⟨entries, h, shows⟩ := t.entries
    refine ⟨_ :: entries, ?_, .cons hs shows⟩
    rw [h, count_entries]
    simp

/-- Once armed, the recorder stays armed. -/
theorem Goes.armed : ∀ {r ns r'}, Goes s r ns r' → r.armed = true → r'.armed = true
  | _, _, _, .nil, h => h
  | r, _, _, .cons (.skip (e := e) _) t, h => t.armed (by rw [count_armed, h]; rfl)
  | r, _, _, .cons (.note (e := e) _ _) t, h => t.armed (by simp [count_armed])

/-- Once armed, the recorder leaves out nothing but early events. -/
theorem Goes.visible : ∀ {r ns r'}, Goes s r ns r' → r.armed = true →
    ∀ n ∈ ns, n.2.isSome = !s.isEarly n.1
  | _, _, _, .nil, _ => by simp
  | r, _, _, .cons (.skip (e := e) hidden) t, h => by
    have early : s.isEarly e = true := hidden.resolve_right (by simp [h])
    have rest := t.visible (by rw [count_armed, h]; rfl)
    simpa [early] using rest
  | r, _, _, .cons (.note (e := e) late _) t, h => by
    have rest := t.visible (by simp [count_armed])
    simpa [late] using rest

end Recorder

/-! ### Recorded runs -/

theorem Machine.setGlobal_knows {σ : Type} {m : Machine σ} {phrase : Phrase → Prop}
    (h : m.heap.Knows phrase) (name : String) (v : Value) :
    (m.setGlobal name v).heap.Knows phrase := by
  refine h.modify fun o ho => ?_
  have known := h _ o ho
  cases o with
  | func => exact known
  | _ => trivial

/-- A machine with the lines of its script has run nothing yet. -/
theorem Machine.forTrace_fresh {phrase : Phrase → Prop} (s : Listing) :
    (Machine.forTrace s).Fresh phrase where
  knows := by
    have listed : ((Machine.start Recorder.start).heap.alloc
        (.list (s.lines.map Value.str))).2.Knows phrase :=
      (Machine.start_fresh Recorder.start).knows.alloc trivial
    exact Machine.setGlobal_knows (m := { Machine.start Recorder.start with heap := _ }) listed _ _
  stack := rfl
  history := rfl
  awake := rfl

/-- A recorded run has a well nested history, the recorder has gone through it, and what holds of
every frame that can be shown holds of the entries. -/
theorem recordedRun_keeps (fuel : Nat) (s : Listing) {p : Program} {phrase : Phrase → Prop}
    {P : Entry → Prop} (hp : Every phrase (blockParts p)) (expr : ∀ e, phrase (.expr e))
    (shown : ∀ kind m f scope depth branch, Reported (p = []) phrase (f.event kind) →
      Recorder.Tells kind scope branch →
        P (.step kind (Recorder.snapshot m f scope depth branch))) :
    (recordedRun fuel s p).1 = .outOfFuel ∨
      WellNested phrase (recordedRun fuel s p).2.history.reverse ∧
        (∃ ns, ns.map Prod.fst = (recordedRun fuel s p).2.history.reverse ∧
          Recorder.Goes s .start ns (recordedRun fuel s p).2.log) ∧
        ∀ e ∈ (recordedRun fuel s p).2.log.entries.toList, P e :=
  (runProgram_watching (Recorder.observe_keeps s expr shown) hp fuel
    (Machine.forTrace_fresh s) ⟨⟨[], rfl, .nil⟩, nofun⟩).outcome

/-- A recorded run has a well nested history, and the recorder has gone through it. -/
theorem recordedRun_goes (fuel : Nat) (s : Listing) (p : Program) :
    (recordedRun fuel s p).1 = .outOfFuel ∨
      WellNested (fun _ => True) (recordedRun fuel s p).2.history.reverse ∧
        ∃ ns, ns.map Prod.fst = (recordedRun fuel s p).2.history.reverse ∧
          Recorder.Goes s .start ns (recordedRun fuel s p).2.log :=
  (recordedRun_keeps fuel s (P := fun _ => True) (every_of (fun _ => trivial) _)
    (fun _ => trivial) fun _ _ _ _ _ _ _ _ => trivial).imp_right fun h => ⟨h.1, h.2.1⟩

/-- Whether an entry is that of an event. -/
def Entry.isStep : Entry → Bool
  | .step _ _ => true
  | _ => false

/-- Whether the entries of events in a trace show some events at some depths, in order. -/
def Trace.Shows (t : Trace) (es : List (Event × Nat)) : Prop :=
  List.Forall₂ (fun n entry => entry.Shows n.1 n.2) es (t.filter Entry.isStep)

theorem closing_isStep {o : Outcome} {output : String} :
    ∀ e ∈ closing o output, e.isStep = false := by
  intro e he
  obtain he | he := List.mem_append.1 he
  · split at he
    · cases he
    · obtain rfl := List.mem_singleton.1 he
      rfl
  · cases o with
    | failed =>
      obtain rfl := List.mem_singleton.1 he
      rfl
    | _ => cases he

theorem filter_closing (o : Outcome) (output : String) :
    (closing o output).filter Entry.isStep = [] :=
  List.filter_eq_nil_iff.2 fun e he => Bool.not_eq_true _ ▸ closing_isStep e he

theorem filter_shows {es : List (Event × Nat)} {entries : List Entry}
    (h : List.Forall₂ (fun n entry => entry.Shows n.1 n.2) es entries) :
    entries.filter Entry.isStep = entries := by
  induction h with
  | nil => rfl
  | cons hs _ ih =>
    obtain ⟨snap, rfl, -⟩ := hs
    exact congrArg (_ :: ·) ih

/-- The trace of a run that has not broken off: what was recorded, and the entries at the end. -/
theorem traceProgram_eq {source : String} {p : Program}
    (ends : (recordedRun ample (Listing.of source p) p).1 ≠ .outOfFuel) :
    traceProgram source p = (recordedRun ample (Listing.of source p) p).2.log.entries.toList ++
      closing (recordedRun ample (Listing.of source p) p).1
        (recordedRun ample (Listing.of source p) p).2.output := by
  unfold traceProgram
  split
  · next e => exact absurd (congrArg Prod.fst e) ends
  · next e => rw [e]

/-- What holds of the entries of a recorded run and of those at the end holds of the trace. -/
theorem forall_mem_traceProgram {source : String} {p : Program} {P : Entry → Prop}
    (h : (recordedRun ample (Listing.of source p) p).1 = .outOfFuel ∨
      ∀ e ∈ (recordedRun ample (Listing.of source p) p).2.log.entries.toList, P e)
    (last : ∀ e, e.isStep = false → P e) :
    (recordedRun ample (Listing.of source p) p).1 = .outOfFuel ∨
      ∀ e ∈ traceProgram source p, P e := by
  refine or_iff_not_imp_left.2 fun ends => ?_
  rw [traceProgram_eq ends]
  exact List.forall_mem_append.2 ⟨h.resolve_left ends, fun e he => last e (closing_isStep e he)⟩

/-- The trace of a program shows what was recorded of its run. -/
theorem trace_shows {source : String} {p : Program} {ns : List Noted}
    (ends : (recordedRun ample (Listing.of source p) p).1 ≠ .outOfFuel)
    (h : Recorder.Goes (Listing.of source p) .start ns
      (recordedRun ample (Listing.of source p) p).2.log) :
    (traceProgram source p).Shows (Recorder.recorded ns) := by
  obtain ⟨entries, he, shows⟩ := h.entries
  rw [Trace.Shows, traceProgram_eq ends, List.filter_append, filter_closing, List.append_nil, he]
  exact (filter_shows shows).symm ▸ shows

/-! ### What is left out -/

namespace Recorder

variable {s : Listing} {r r' : Recorder} {ns : List Noted}

/-- If exactly the events that are not early were recorded, those are what was recorded. -/
theorem recorded_visible (h : ∀ n ∈ ns, n.2.isSome = !s.isEarly n.1) :
    (recorded ns).map Prod.fst = (ns.map Prod.fst).filter (!s.isEarly ·) := by
  induction ns with
  | nil => rfl
  | cons n ns ih =>
    obtain ⟨e, depth⟩ := n
    rw [List.forall_mem_cons] at h
    have head : depth.isSome = !s.isEarly e := h.1
    rw [List.map_cons, List.filter_cons, ← ih h.2, ← head]
    cases depth <;> rfl

/-- A recorder that goes through a history leaves out its first events, and then none but early
ones. -/
theorem Goes.arms : ∀ {r ns r'}, Goes s r ns r' → ∃ skipped rest : List Event,
    ns.map Prod.fst = skipped ++ rest ∧ (∀ e, rest.head? = some e → s.isEarly e = false) ∧
      (recorded ns).map Prod.fst = rest.filter (!s.isEarly ·)
  | _, _, _, .nil => ⟨[], [], rfl, nofun, rfl⟩
  | _, _, _, .cons (.skip (e := e) _) t => by
    obtain ⟨skipped, rest, h, hd, hr⟩ := t.arms
    exact ⟨e :: skipped, rest, congrArg (e :: ·) h, hd, hr⟩
  | r, _, _, .cons (.note (e := e) late shows) t => by
    have visible := t.visible (by simp [count_armed])
    refine ⟨[], _, rfl, ?_, recorded_visible (List.forall_mem_cons.2 ⟨?_, visible⟩)⟩
    · rintro _ ⟨⟩
      exact late
    · exact (congrArg (!·) late).symm

end Recorder

/-- What is left of a list is its end only if nothing was left out of it, if the first of the
others stays. -/
theorem filter_suffix_iff {α : Type} {p : α → Bool} {front rest : List α}
    (h : ∀ a, rest.head? = some a → p a = true) :
    rest.filter p <:+ front ++ rest ↔ ∀ a ∈ rest, p a = true := by
  refine ⟨fun hs => ?_, fun hall => ?_⟩
  · have inner : rest.filter p <:+ rest :=
      List.suffix_of_suffix_length_le hs (List.suffix_append ..) (List.length_filter_le ..)
    cases rest with
    | nil => simp
    | cons a t =>
      have ha : p a = true := h a rfl
      rw [List.filter_cons_of_pos ha, List.suffix_cons_iff] at inner
      refine List.forall_mem_cons.2 ⟨ha, ?_⟩
      obtain same | short := inner
      · exact List.filter_eq_self.1 (List.cons.inj same).2
      · -- an end of `t` cannot have more elements that stay than `t` has
        have more := short.sublist.countP_le (p := p)
        simp only [List.countP_cons_of_pos ha, List.countP_filter, Bool.and_self] at more
        exact absurd more (Nat.not_succ_le_self _)
  · rw [List.filter_eq_self.2 hall]
    exact List.suffix_append ..

/-- The trace of a program shows the events of its run from some event on, except for the early ones
among them. So it shows the last events of the run, leaving out none, if and only if none of them
is early. -/
theorem trace_armed (source : String) (p : Program) :
    let s := Listing.of source p
    let events := (recordedRun ample s p).2.history.reverse
    (recordedRun ample s p).1 = .outOfFuel ∨
    ∃ (skipped rest : List Event) (shown : List (Event × Nat)),
      events = skipped ++ rest ∧ (∀ e, rest.head? = some e → s.isEarly e = false) ∧
      (traceProgram source p).Shows shown ∧
      shown.map Prod.fst = rest.filter (!s.isEarly ·) ∧
      (shown.map Prod.fst <:+ events ↔ ∀ e ∈ rest, s.isEarly e = false) := by
  refine or_iff_not_imp_left.2 fun ends => ?_
  obtain ⟨_, ns, hns, goes⟩ := (recordedRun_goes ample _ p).resolve_left ends
  obtain ⟨skipped, rest, h, hd, hr⟩ := goes.arms
  refine ⟨skipped, rest, _, hns ▸ h, hd, trace_shows ends goes, hr, ?_⟩
  rw [hr, ← hns, h, filter_suffix_iff fun e he => by simp [hd e he]]
  simp

end Stepwise
