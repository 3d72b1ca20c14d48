import Stepwise.Proofs.Discreet
import Stepwise.Proofs.Relation.Grown
import Stepwise.Trace.Run

/-!
# Tracing does not show

A run that the recorder watches prints what the same run prints unwatched, and ends alike. That
needs the recorder to be discreet: there is one way for it to leave a mark, a condition like
`max(xs, key=print)`, which is evaluated once more than the script says, and another one, a class
with a built-in as a special method. And it needs the run not to look at addresses, since the
recorder makes objects too. A run that keeps clear of all three is `discreet`.
-/

namespace Stepwise

open Script Coupling

/-! ### The start -/

/-- The scope of the module, made on both sides. -/
theorem scope_grown (vars : Namespace) (hv : ∀ w, NamespaceRel w vars vars) :
    ∃ w, (w.phrase = fun _ => True) ∧ w.located ∧ w.place Heap.empty.next Heap.empty.next ∧
      w.Flat ∧ Grown w (Heap.empty.alloc (.scope ⟨vars, none⟩)).2
        (Heap.empty.alloc (.scope ⟨vars, none⟩)).2 := by
  have empty : Grown (World.nothing True True) Heap.empty Heap.empty := grown_empty
  exact ⟨empty.world True True, rfl, trivial, .inr ⟨rfl, rfl⟩,
    fun _ => ⟨.inl trivial, .inl trivial⟩, empty.allocRel (.scope ⟨hv _, .none⟩)⟩

/-- Two machines at their start do the same. -/
theorem start_alike {σ τ : Type} (log : σ) (log' : τ) :
    ∃ w, Alike w (Machine.start log) (Machine.start log') := by
  obtain ⟨w₀, phrase, located, globals, scope⟩ := scope_grown (.ofList [("__name__", .str "__main__")])
    fun _ => .ofList (.cons ⟨rfl, .str _⟩ .nil)
  obtain ⟨w, hw, ⟨flat, grown⟩, known⟩ := exceptionClasses_rel
    (P := fun w h h' => w.Flat ∧ Grown w h h')
    (fun name _ _ H hb => ⟨_, World.le_meet, ⟨.inr ⟨rfl, rfl⟩, .inr ⟨rfl, trivial⟩⟩,
      H.1.mono World.le_meet,
      (H.2.allocClass name true hb : Grown (H.2.world True True) _ _)⟩) scope
  have near : Near w (Machine.start log) (Machine.start log') :=
    ⟨grown.heapRel, .nil, hw.place globals, known, .nil, fun _ => rfl, .nil, .nil⟩
  exact ⟨w, near, grown, flat, hw.phrase.trans phrase, hw.located ▸ located, rfl, rfl⟩

/-! ### Whole runs -/

/-- Runs that have ended alike: both without an error, or with errors of one kind, with one message
and in one place. -/
inductive Outcome.Matches : Outcome → Outcome → Prop
  | finished : Matches .finished .finished
  | failed {e e'} (kind : e.fault.kind = e'.fault.kind)
    (message : e.fault.message = e'.fault.message) (pos : e.pos = e'.pos) :
    Matches (.failed e) (.failed e')

/-- Two runs that have ended like a third one have ended alike. -/
theorem Outcome.Matches.join {a b c : Outcome} (h : a.Matches b) (h' : a.Matches c) :
    b.Matches c := by
  cases h with
  | finished =>
    cases h' with
    | finished => exact .finished
  | failed kind message pos =>
    cases h' with
    | failed kind' message' pos' =>
      exact .failed (kind.symm.trans kind') (message.symm.trans message') (pos.symm.trans pos')

section

variable {σ τ : Type} {w : World} {l : Machine σ} {r : Machine τ}

/-- What runs apart come to. -/
theorem outcomes_match {α β : Type} {A : Rel α β} {x : M σ α} {y : M τ β}
    (h : (apart σ τ True).Sim () w A x y) (H : Alike w l r) :
    (outcome x l).1 = .outOfFuel ∨ (outcome y r).1 = .outOfFuel ∨
      (outcome x l).1.Matches (outcome y r).1 ∧
        (outcome x l).2.output = (outcome y r).2.output := by
  have both := h l r H
  unfold outcome
  revert both
  generalize x l = rx, y r = ry
  intro both
  cases both with
  | left | stop => exact .inl rfl
  | right => exact .inr (.inl rfl)
  | lost hl => exact hl.elim
  | ok _ _ hm => exact .inr (.inr ⟨.finished, hm.output⟩)
  | error _ he hm =>
    exact .inr (.inr ⟨.failed he.fault.kind he.fault.message (he.pos hm.located), hm.output⟩)

theorem guard_sim {s : Listing} {moment : Moment} {tell : M τ Unit}
    (h : ∀ {l r}, Alike w l r → s.isRisky moment (l : Machine σ) = false →
      Settles (fun _ r' => Alike w l r') (tell r)) :
    (apart σ τ True).Sim () w Same (s.guard moment) tell := by
  intro l r H
  have guard : s.guard moment l =
      if s.isRisky moment l then .error .outOfFuel l else .ok () l := by
    show (if s.isRisky moment l then throw .outOfFuel else pure () : M σ Unit) l = _
    split <;> rfl
  rw [guard]
  split
  · exact .left trivial
  · next safe =>
    have told := h H (Bool.not_eq_true _ ▸ safe)
    revert told
    generalize tell r = result
    intro told
    cases told with
    | ok H' => exact .ok le_rfl rfl H'
    | outOfFuel => exact .right trivial

/-- A discreet run goes with the same run under an observer that keeps runs apart. -/
theorem discreet_sim {s : Listing} {tell : Nat → Moment → M τ Unit}
    (h : ∀ {w l r} fuel moment, Alike w l r → s.isRisky moment (l : Machine σ) = false →
      Settles (fun _ r' => Alike w l r') (tell fuel moment r)) (p : Program) (fuel : Nat) :
    (apart σ τ True).Sim () w (fun _ _ _ => True) (runProgram (discreet s fuel) p)
      (runProgram (runner tell (pure ()) fuel) p) := by
  have notify {c w} (fuel : Nat) (moment : Moment) :
      (apart σ τ True).Sim c w Same (s.guard moment) (tell fuel moment) :=
    guard_sim fun H safe => h fuel moment H safe
  have runners := runner_rel (Apart.tell_apart notify) fuel
  refine .get fun l r H => ?_
  have frame : FrameRel w (Frame.start moduleName .module l.globals 0)
      (Frame.start moduleName .module r.globals 0) :=
    ⟨rfl, rfl, H.near.globals, .none, .none, rfl, rfl, fun _ => rfl, fun _ => rfl, rfl⟩
  refine (runFrame_sim trivial (notify fuel) frame fun w' _ => ?_).bind
    fun _ _ _ _ _ => .pure trivial
  exact block_sim runners trivial (every_of (fun _ => trivial) _) fun _ _ => trivial

end

/-- Two lines, `x = 1` and `if max([x], key=key): pass`, the key being left out if there is none. -/
def branching (key : Option String) : Program :=
  let keyed := (key.map fun k => Argument.keyword "key" (.name k)).toList
  [.mk (.assign [.name "x"] (.int 1)) ⟨1, 1⟩ 1,
    .mk (.if_ (.call (.name "max") (.positional (.list [.name "x"]) :: keyed))
      [.mk .pass ⟨3, 5⟩ 3] []) ⟨2, 1⟩ 3]

/-- Lines for `branching`. -/
def branchingLines (key : String) : Listing :=
  ⟨#["x = 1", "if max([x]" ++ key ++ "):", "    pass"], [1, 2, 3]⟩

/-- With `key=print` the program prints once, and once more if it is traced. -/
example :
    (outcome (runProgram (quiet 20) (branching (some "print"))) (Machine.start ())).2.output =
        "1\n" ∧
      (outcome (runProgram (watched (Recorder.observe (branchingLines ", key=print")) 20)
        (branching (some "print"))) (Machine.start Recorder.start)).2.output = "1\n1\n" := by
  decide +kernel

end Stepwise
