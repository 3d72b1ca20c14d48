import Stepwise.Proofs.Relation.Apart
import Stepwise.Proofs.Inquiry
import Stepwise.Proofs.Pure
import Stepwise.Trace.Recorder

/-!
# Discreet observers

What the recorder does at an event leaves the run alone: it prints nothing, changes no object that
is there and moves nothing (`glance`), as long as the conditions that it evaluates pass no key
function, and no class has a built-in among its special methods.
-/

namespace Stepwise

open Script Coupling

/-! ### Pure expressions are calm -/

/-- Whether a part is an expression that changes nothing by itself. -/
def Script.Phrase.Calm (harmless : String → Prop) : Script.Phrase → Prop
  | .expr e => e.Calm harmless
  | _ => False

/-- Whether a part is not a call that passes a key function. -/
def Script.Phrase.isKeyless : Script.Phrase → Bool
  | .expr (.call _ args) => args.all Argument.isKeyless
  | _ => true

/-- Whether no call in an expression passes a key function. -/
def Script.Expr.isKeyless (e : Expr) : Bool := e.parts.all Script.Phrase.isKeyless

theorem calm_of_pure {harmless : String → Bool} {e : Expr} (h : e.isPure harmless = true)
    (hk : Every (Script.Phrase.isKeyless · = true) e.parts) :
    Every (Script.Phrase.Calm (harmless · = true)) e.parts := by
  intro n hn
  have pure := pure_parts h n hn
  have keyless := hk n hn
  cases n with
  | expr e =>
    have pure : e.isPure harmless = true := pure
    cases e with
    | lambda | listComp | setComp | dictComp => simp [Expr.isPure] at pure
    | call f args =>
      cases f with
      | name x =>
        rw [Expr.isPure, Bool.and_eq_true] at pure
        exact ⟨x, rfl, pure.1, List.all_eq_true.1 keyless⟩
      | _ => simp [Expr.isPure] at pure
    | _ => trivial
  | _ => exact pure

/-! ### Orderly heaps -/

/-- Whether a value is neither a built-in nor a built-in method. -/
def Heap.isInert (h : Heap) : Value → Bool
  | .builtin _ => false
  | .ref a => match h.get? a with
    | some (.nativeMethod _ _) => false
    | _ => true
  | _ => true

/-- Whether no class has a built-in among its special methods. -/
def Heap.isOrderly (h : Heap) : Bool :=
  h.objects.all fun o => match o with
    | some (.cls c) => specialMethods.all fun name => (c.attrs.get? name).all h.isInert
    | _ => true

theorem Heap.inert_of_isInert {h : Heap} {v : Value} (hv : h.isInert v = true) : Inert h v := by
  cases v with
  | builtin b => cases hv
  | ref a =>
    intro receiver name e
    simp [isInert, e] at hv
  | _ => trivial

/-- In an orderly heap, the special methods of a class are no built-ins. -/
theorem Heap.inert_of_isOrderly {h : Heap} (ho : h.isOrderly = true) {a : Address} {c : Class}
    {name : String} {v : Value} (hc : h.class? a = some c) (hn : name ∈ specialMethods)
    (hv : c.attrs.get? name = some v) : Inert h v := by
  rw [class?_eq_some, get?] at hc
  split at hc
  · cases hc
  · have found := Array.mem_of_getElem? (Option.join_eq_some_iff.1 hc)
    have tidy := List.all_eq_true.1 (Array.all_eq_true_iff_forall_mem.1 ho _ found) name hn
    rw [hv] at tidy
    exact inert_of_isInert tidy

section

variable {σ τ : Type} {w : World} {m : Machine σ} {m' : Machine τ}

/-- Whether a name stands for a harmless function is the same on both sides. -/
theorem Near.isHarmless (H : Near w m m') (name : String) :
    Recorder.isHarmless m name = Recorder.isHarmless m' name := by
  unfold Recorder.isHarmless
  obtain ⟨e, e'⟩ | ⟨v, v', e, e', hv⟩ := (H.lookup? name).cases <;> simp only [e, e']
  cases hv <;> rfl

/-- The text of a line is the same on both sides. -/
theorem Near.lineText (H : Near w m m') (s : Listing) (line : Nat) :
    Recorder.lineText s m line = Recorder.lineText s m' line := by
  have bound : OptionRel Same w
      (do (← (← m.heap.list? (← (← m.global? Recorder.linesName).address?))[line - 1]?).asStr?)
      (do (← (← m'.heap.list? (← (← m'.global? Recorder.linesName).address?))[line - 1]?).asStr?) :=
    (H.global? _).bind fun hv => hv.address?.bind fun ha => (H.heap.list? ha).bind fun hi =>
      OptionRel.bind (A := ValueRel) (by simpa using hi.get? (line - 1)) fun hv => .of_eq hv.asStr?
  unfold Recorder.lineText
  dsimp only
  rw [bound.eq]

end

/-! ### Looking at a machine of two -/

section

variable {σ τ : Type}

/-- The account of an inspection of the second of two runs apart: it makes objects, and else leaves
the machine as it is. -/
def glance (w : World) (l : Machine σ) (r : Machine τ) : Account τ where
  Ctx := List Address
  Fits c m := Grown w l.heap m.heap ∧
    m = { r with heap := m.heap, inspecting := true, writing := c }
  phrase := Script.Phrase.Calm (Recorder.isHarmless r · = true)
  known _ := True
  changes := False
  executes := False
  harmless x := Recorder.isHarmless r x = true
  Tame v := ∃ u, ValueRel w u v ∧ Inert l.heap u

variable {w : World} {l : Machine σ} {r : Machine τ}

theorem glance_lawful (H : Alike w l r) (ho : l.heap.isOrderly = true) : (glance w l r).Lawful where
  phrase := False.elim
  changes := False.elim
  calm := .inr fun _ h => h
  harmless := by
    rintro c m x ⟨grown, hm⟩ hx
    have same : OptionRel ValueRel w (l.lookup? x) (m.lookup? x) := by
      rw [hm]
      exact (H.near.withHeap le_rfl grown.heapRel).lookup? x
    have harmless : Recorder.isHarmless l x = true := (H.near.isHarmless x).trans hx
    unfold Recorder.isHarmless at harmless
    split at harmless
    · next b e =>
      rw [e] at same
      obtain ⟨_, e', hv⟩ := same.some_left
      cases hv
      exact ⟨b, e', harmless⟩
    · cases harmless
  executes := by
    rintro c m ⟨-, hm⟩ awake
    rw [hm] at awake
    cases awake
  tame := False.elim
  special := by
    rintro c m a name v ⟨grown, -⟩ hn hv
    obtain ⟨k, -, hv⟩ := Option.bind_eq_some_iff.1 hv
    obtain ⟨owner', -, hb⟩ := List.exists_of_findSome?_eq_some hv
    obtain ⟨k', hk', hb⟩ := Option.bind_eq_some_iff.1 hb
    obtain ⟨u', hu', hb⟩ := Option.bind_eq_some_iff.1 hb
    obtain rfl := Option.some.inj hb
    -- the class was there before, and on the other side its special methods are no built-ins
    obtain ⟨owner, ha⟩ := grown.classes hk'
    obtain ⟨-, e'⟩ | ⟨k, _, e, e', hk⟩ := (grown.heapRel.class? (H.flat.addr ha)).cases
    · rw [hk'] at e'
      cases e'
    · obtain rfl := Option.some.inj (hk'.symm.trans e')
      have found : OptionRel ValueRel w (k.attrs.get? name) (k'.attrs.get? name) :=
        OrderedRel.get? hk.attrs rfl
      obtain ⟨-, eu'⟩ | ⟨u, _, eu, eu', hu⟩ := found.cases
      · rw [hu'] at eu'
        cases eu'
      · obtain rfl := Option.some.inj (hu'.symm.trans eu')
        exact ⟨u, hu, Heap.inert_of_isOrderly ho e hn eu⟩
  inert := by
    rintro c m v ⟨grown, -⟩ ⟨u, hu, inert⟩
    refine .inr ?_
    cases hu with
    | builtin => exact inert
    | ref ha =>
      intro receiver name e
      obtain ⟨-, e'⟩ | ⟨o, o', e₁, e', ho⟩ := (grown.get ha.1).cases
      · rw [e] at e'
        cases e'
      · obtain rfl := Option.some.inj (e.symm.trans e')
        cases ho
        exact inert _ _ e₁
    | _ => trivial
  alloc := by
    rintro c m o ⟨grown, hm⟩ ho
    refine ⟨grown.allocRight ho, ?_⟩
    rw [hm]
  tuple := by
    rintro c m items ⟨grown, hm⟩
    refine ⟨grown.tupleRight items, ?_⟩
    rw [hm]
  heap _ := False.elim
  output _ := False.elim
  frame := False.elim
  pos _ := False.elim
  modules _ := False.elim
  handled _ := False.elim
  writing := by
    rintro c m a ⟨grown, hm⟩
    refine ⟨a :: c, ⟨grown, ?_⟩, ?_, fun _ h => h⟩
    · rw [hm]
    · rintro m' ⟨grown', hm'⟩
      refine ⟨grown', ?_⟩
      rw [hm']
      rfl

/-! ### The recorder is discreet -/

/-- Evaluating a calm condition in the second of two runs apart keeps them apart. -/
theorem testInFrame_alike {e : Expr} (H : Alike w l r) (ho : l.heap.isOrderly = true)
    (hp : e.isPure (Recorder.isHarmless r) = true) (hk : e.isKeyless = true) (fuel : Nat) :
    Settles (fun _ r' => Alike w l r') (testInFrame (quiet fuel) e r) := by
  have lawful := glance_lawful H ho
  have runners : RunnerRel (glance w l r).coupling (quiet fuel) (quiet fuel) :=
    runner_rel (Account.tell_quiet id) fuel
  have parts : Every (glance w l r).phrase e.parts := calm_of_pure hp (List.all_eq_true.1 hk)
  have left : Leaves _ ((do truthy (quiet fuel) (← (quiet fuel).eval e) : M τ Bool)
      { r with inspecting := true }) := Account.leaves_of_sim (T := glance w l r) (c := r.writing)
    ((runners.eval parts).bind fun _ _ _ _ hv => truthy_sim runners hv) (knows_all _)
    ⟨H.grown, rfl⟩
  have back {r' : Machine τ} (h : (glance w l r).Fits r.writing r') :
      Alike w l { r' with inspecting := r.inspecting, pos := r.pos } := by
    obtain ⟨grown, hr⟩ := h
    rw [hr]
    exact H.withHeap le_rfl grown
  show Settles _ (inspect (do truthy (quiet fuel) (← (quiet fuel).eval e)) r)
  rw [inspect_eq]
  revert left
  generalize (do truthy (quiet fuel) (← (quiet fuel).eval e) : M τ Bool)
    { r with inspecting := true } = result
  intro left
  cases left with
  | ok h => exact .ok (back h.2)
  | error h => exact .ok (back h.2)
  | outOfFuel => exact .outOfFuel

end

/-- Whether the recorder may leave a mark on a run at an event: it evaluates a condition that passes
a key function, or some class has a built-in among its special methods. -/
def Listing.isRisky {σ : Type} (s : Listing) (moment : Moment) (m : Machine σ) : Bool :=
  match m.stack with
  | [] => false
  | f :: _ =>
    let text := Recorder.lineText s m f.line
    match Recorder.question? moment (conditionOf? text) with
    | some e =>
      moment.kind = .line && scopeOf text moment.kind = some .conditional &&
        e.isPure (Recorder.isHarmless m) && !(e.isKeyless && m.heap.isOrderly)
    | none => false

section

variable {σ : Type} {w : World} {l : Machine σ} {r : Machine Recorder}

/-- Remembering something keeps runs apart. -/
theorem note_alike (H : Alike w l r) (n : Nat) (log : Recorder) :
    Settles (fun _ r' => Alike w l r') (inquire (quiet n) (.note log) r) :=
  .ok { H with near := { H.near with } }

theorem record_alike {s : Listing} {moment : Moment} {f : Frame} {fs : List Frame}
    (H : Alike w l r) (hs : l.stack = f :: fs) (safe : s.isRisky moment l = false) (n : Nat)
    {f' : Frame} (hf : f.line = f'.line) (log : Recorder) :
    Settles (fun _ r' => Alike w l r')
      (inquire (quiet n) (Recorder.record s moment r f' log) r) := by
  have text := H.near.lineText s f.line
  unfold Recorder.record
  dsimp only
  rw [← hf, ← text]
  split
  · next h =>
    obtain ⟨line, conditional⟩ := h
    rw [line] at conditional
    unfold Recorder.askBranch
    dsimp only
    cases asked : Recorder.question? moment (conditionOf? (Recorder.lineText s l f.line)) with
    | none => exact note_alike H n _
    | some e =>
      dsimp only
      split
      · next pure =>
        have harmless : Recorder.isHarmless l = Recorder.isHarmless r := funext H.near.isHarmless
        have calm : (e.isKeyless && l.heap.isOrderly) = true := by
          simpa [Listing.isRisky, hs, asked, line, conditional, harmless, pure] using safe
        rw [Bool.and_eq_true] at calm
        exact (testInFrame_alike H calm.2 pure calm.1 n).bind fun H' => note_alike H' n _
      · exact note_alike H n _
  · exact note_alike H n _

theorem observe_nil {m : Machine Recorder} (hs : m.stack = []) (s : Listing) (moment : Moment) :
    Recorder.observe s moment m = .note m.log := by
  unfold Recorder.observe
  rw [hs]

theorem observe_cons {m : Machine Recorder} {f : Frame} {fs : List Frame} (hs : m.stack = f :: fs)
    (s : Listing) (moment : Moment) :
    Recorder.observe s moment m =
      if Recorder.admits s m f then
        Recorder.record s moment m f (m.log.count moment.kind (Recorder.admits s m f))
      else .note (m.log.count moment.kind (Recorder.admits s m f)) := by
  unfold Recorder.observe
  rw [hs]

/-- At an event without a risk the recorder keeps runs apart. -/
theorem observe_alike {s : Listing} {moment : Moment} (H : Alike w l r)
    (safe : s.isRisky moment l = false) (n : Nat) :
    Settles (fun _ r' => Alike w l r') (askObserver (Recorder.observe s) n moment r) := by
  obtain ⟨-, e'⟩ | ⟨f, f', fs, fs', e, e', hf⟩ := H.near.stack_cases
  · rw [askObserver_eq (report_nil e' _), observe_nil e']
    exact note_alike H n _
  · let r' := { r with history := f'.event moment.kind :: r.history }
    have H' : Alike w l r' := { H with near := { H.near with } }
    rw [askObserver_eq (report_eq e' _), observe_cons (m := r') e']
    split
    · exact record_alike H' e safe n (hf.line H.located) _
    · exact note_alike H' n _

end

/-- Goes on at an event only if the recorder certainly leaves no mark on the run. -/
def Listing.guard {σ : Type} (s : Listing) (moment : Moment) : M σ Unit := do
  if s.isRisky moment (← get) then throw .outOfFuel

/-- A runner that nobody watches, and that stops where the recorder may leave a mark on the run, or
where an address becomes a number or part of a text. -/
def discreet {σ : Type} (s : Listing) (fuel : Nat) : Runner σ :=
  runner (fun _ => s.guard) (throw .outOfFuel) fuel

end Stepwise
