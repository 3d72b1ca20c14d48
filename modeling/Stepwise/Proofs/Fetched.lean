import Stepwise.Proofs.Branch

/-!
# Methods that are fetched first

`t = object.name` makes an object for the method, which `t(…)` then calls; `object.name(…)` makes
none. Both come to the same (`method_fetched`), unless the method call finds a function of the class
where the attribute means something else: the class of an instance, or the arguments of an exception
(`Heap.masks`).

## The model

The object for the method is all that one of the two runs has and the other has not, and nothing
refers to it, so the runs are apart (`apart`). What a run comes to may depend on one more object if
it turns an address into a number or a text; a runner that stops there (`bare`) says whether it does.
-/

namespace Stepwise

open Script Coupling

variable {σ : Type}

/-! ### What is compared -/

/-- Fetches `receiver.name`, and calls it. -/
def callAttribute (r : Runner σ) (receiver : Value) (name : String) (args : List Value)
    (keywords : Keywords) : M σ Value := do
  callValue r (← getAttribute receiver name) args keywords

/-- Whether a method call finds a function of the class under a name by which an attribute means
something else. -/
def Heap.masks (h : Heap) (v : Value) (name : String) : Bool :=
  (h.classFunction? v name).isSome && (name = "__class__" || (h.exceptionArgs? v name).isSome)

/-- The world in which all that a heap has given out belongs together with itself. -/
def Heap.given (h : Heap) : World where
  place a b := a = b ∧ a < h.next
  object _ := True
  kept _ := True
  mark j k := j = k ∧ j < h.marks
  filed _ _ := True
  phrase _ := True
  place_right hb hc := hb.1.symm.trans hc.1
  place_left hb hc := hb.1.trans hc.1.symm
  mark_right hj hk := hj.1.symm.trans hk.1
  mark_left hj hk := hj.1.trans hk.1.symm

/-- Whether all that a machine computes with, and some values in hand, has been given out. -/
structure Machine.Given (m : Machine σ) (inHand : List Value) : Prop where
  alike : Alike m.heap.given m m
  inHand : ∀ v ∈ inHand, ValueRel m.heap.given v v

/-- Results of two runs with the same effect: in a world that has grown by what they made, both give
related values or fail with related errors, and the machines that they leave do the same. -/
inductive SameEffect (w : World) :
    EStateM.Result Failure (Machine σ) Value → EStateM.Result Failure (Machine σ) Value → Prop
  | ok {w' v v' m m'} (hw : w ≤ w') (value : ValueRel w' v v') (machine : Alike w' m m') :
    SameEffect w (.ok v m) (.ok v' m')
  | error {w' e e' m m'} (hw : w ≤ w') (error : ErrorRel w' e e') (machine : Alike w' m m') :
    SameEffect w (.error (.error e) m) (.error (.error e') m')

/-! ### Runs that stop where an address shows -/

/-- The account that says nothing. -/
def blank (σ : Type) : Account σ := .ofScene (fun (_ : Unit) _ => True) (fun _ => True) True

instance : (blank σ).Lawful := Account.ofScene_lawful fun _ _ => trivial

namespace Blank

variable {α : Type} {A : Rel α α} {w : World} {x y : M σ α}

/-- The same step on both sides. -/
theorem sim_of (h : ∀ m, w.Sharp → (World.diagonal fun _ => True) ≤ w →
      ∃ a m', x m = .ok a m' ∧ y m = .ok a m' ∧ A w a a) :
    ((blank σ).beside True).Sim () w A x y := by
  refine Account.sim_of fun m hw _ _ => ?_
  obtain ⟨a, m', hx, hy, ha⟩ := h m (hw ▸ World.diagonal_sharp) hw.ge
  exact ⟨a, a, m', hx, hy, ha, knows_all m'.heap, trivial⟩

instance : ((blank σ).beside True).Unframed where
  push hf := sim_of fun m sharp _ => by
    obtain rfl := Discrete.eq sharp hf
    exact ⟨(), _, rfl, rfl, rfl⟩
  pop := sim_of fun m _ hw => ⟨_, _, rfl, rfl, up hw (Diagonal.refl _)⟩
  move _ := sim_of fun m _ _ => ⟨(), _, rfl, rfl, rfl⟩

/-- A runner that stops where an address shows, beside one that does not. -/
theorem runners (fuel : Nat) : RunnerRel ((blank σ).beside True) (bare fuel) (quiet fuel) :=
  runner_rel (.ofNotify (C := (blank σ).beside True) (fun _ _ _ => .left trivial) id
    (fun _ _ => trivial) (fun hm => hm.world ▸ trivial) fun _ _ => .pure rfl) fuel

/-- What comes of a run that nothing stops, comes of the run that does not stop either. -/
theorem eq_of_sim [Discrete A]
    (h : ((blank σ).beside True).Sim () (World.diagonal fun _ => True) A x y) {m : Machine σ}
    (hides : (outcome x m).1 ≠ .outOfFuel) : y m = x m := by
  have both := h m m ⟨rfl, rfl, knows_all m.heap, trivial⟩
  unfold outcome at hides
  revert hides both
  generalize x m = rx, y m = ry
  intro hides both
  cases both with
  | left | stop => exact absurd rfl hides
  | right h | lost h => exact h.elim
  | ok _ h hm =>
    obtain rfl := Discrete.eq (hm.world ▸ World.diagonal_sharp) h
    rw [hm.eq]
  | error _ h hm =>
    obtain rfl := Discrete.eq (hm.world ▸ World.diagonal_sharp) h
    rw [hm.eq]

end Blank

/-! ### One more object -/

section

variable {w : World} {m m' : Machine σ}

/-- The second machine makes an object that the first one does not make. -/
theorem Alike.allocRight (H : Alike w m m') {o : Object} (ho : ∀ c, o ≠ .cls c) :
    Alike w m { m' with heap := (m'.heap.alloc o).2 } :=
  H.withHeap le_rfl (H.grown.allocRight ho)

/-- Runs apart, both of which stop where an address shows, do every task alike. -/
theorem Apart.bare_runners (fuel : Nat) : RunnerRel (apart σ σ False) (bare fuel) (bare fuel) :=
  runner_rel (.ofNotify (C := apart σ σ False) .stop id (fun _ _ => trivial)
    (fun hm => Alike.located hm) fun _ _ => .pure rfl) fuel

variable {r : Runner σ} {receiver : Value} {name : String} {args : List Value}
  {keywords : Keywords}

theorem Heap.attributeOf_native {h : Heap} {v : Value} (native : h.hasNativeMethod v name = true) :
    h.exceptionArgs? v name = none ∧ h.attributeOf v name = .native v := by
  cases v with
  | ref a =>
    cases ho : h.get? a with
    | none => simp [hasNativeMethod, nativeMethods, ho] at native
    | some o =>
      cases o with
      | list | dict | set =>
        exact ⟨by simp [exceptionArgs?, Value.address?, instance?, ho],
          by simp only [attributeOf, ho, native, if_true]⟩
      | _ => simp [hasNativeMethod, nativeMethods, ho] at native
  | str | float | int => exact ⟨rfl, by simp only [attributeOf, native, if_true]⟩
  | _ => simp [hasNativeMethod, nativeMethods] at native

/-- A fetched method is an object that holds the method. -/
theorem callAttribute_native (native : m.heap.hasNativeMethod receiver name = true) :
    callAttribute r receiver name args keywords m = callNative r receiver name args keywords
      { m with heap := (m.heap.alloc (.nativeMethod receiver name)).2 } := by
  obtain ⟨plain, method⟩ := Heap.attributeOf_native native
  have fetched : getAttribute receiver name m = .ok (.ref m.heap.next)
      { m with heap := (m.heap.alloc (.nativeMethod receiver name)).2 } := by
    rw [getAttribute, getHeap_bind, plain, method]
    rfl
  have made : (m.heap.alloc (.nativeMethod receiver name)).2.get? m.heap.next =
      some (.nativeMethod receiver name) := by rw [Heap.get?_alloc, if_pos rfl]
  rw [callAttribute, M.bind_ok fetched, callValue, callObject, getHeap_bind, made]

/-- A fetched function of the class is an object that holds the function and its receiver. -/
theorem callAttribute_function {a : Address}
    (found : m.heap.classFunction? receiver name = some a)
    (clear : m.heap.masks receiver name = false) :
    callAttribute r receiver name args keywords m = callFunction r a (receiver :: args) keywords
      { m with heap := (m.heap.alloc (.boundMethod receiver a)).2 } := by
  simp only [Heap.masks, found, Option.isSome_some, Bool.true_and, Bool.or_eq_false_iff,
    decide_eq_false_iff_not, Option.isSome_eq_false_iff, Option.isNone_iff_eq_none] at clear
  obtain ⟨ordinary, plain⟩ := clear
  -- the receiver is an instance without such an attribute, and its class has a function
  obtain ⟨b, address, found⟩ := Option.bind_eq_some_iff.1 found
  obtain ⟨i, instance_, found⟩ := Option.bind_eq_some_iff.1 found
  split at found
  · cases found
  next own =>
  obtain ⟨⟨method, owner⟩, inherited, found⟩ := Option.bind_eq_some_iff.1 found
  obtain ⟨a', isRef, found⟩ := Option.bind_eq_some_iff.1 found
  obtain ⟨f, closure, same⟩ := Option.bind_eq_some_iff.1 found
  obtain rfl := Option.some.inj same
  obtain rfl : receiver = .ref b := Value.address?_eq_some.1 address
  obtain rfl : method = .ref a' := Value.address?_eq_some.1 isRef
  have object : m.heap.get? b = some (.inst i) := Heap.instance?_eq_some.1 instance_
  have missing : i.attrs.get? name = none := by
    simpa [Ordered.contains] using own
  have bound : m.heap.attributeOf (.ref b) name = .bind (.ref a') (.ref b) := by
    simp only [Heap.attributeOf, object, Heap.instanceAttribute, missing, ordinary, if_false,
      inherited]
  have fetched : getAttribute (.ref b) name m = .ok (.ref m.heap.next)
      { m with heap := (m.heap.alloc (.boundMethod (.ref b) a')).2 } := by
    rw [getAttribute, getHeap_bind, plain, bound]
    show bindTo (.ref a') (.ref b) m = _
    rw [bindTo, getHeap_bind, closure]
    rfl
  have made : (m.heap.alloc (.boundMethod (.ref b) a')).2.get? m.heap.next =
      some (.boundMethod (.ref b) a') := by rw [Heap.get?_alloc, if_pos rfl]
  rw [callAttribute, M.bind_ok fetched, callValue, callObject, getHeap_bind, made]

end

/-! ### Both come to the same -/

section

variable {w : World} {m m' : Machine σ} {receiver : Value} {name : String} {args : List Value}
  {keywords : Keywords}

/-- A runner that stops where an address shows does a method call as it does a call of what it has
fetched. -/
theorem callMethod_agree (H : Alike w m m) (hv : ValueRel w receiver receiver)
    (hargs : ValuesRel w args args) (hks : KeywordsRel w keywords keywords)
    (clear : m.heap.masks receiver name = false) (fuel : Nat) :
    Agree (apart σ σ False) () w ValueRel (callMethod (bare fuel) receiver name args keywords m)
      (callAttribute (bare fuel) receiver name args keywords m) := by
  have runners : RunnerRel (apart σ σ False) (bare fuel) (bare fuel) := Apart.bare_runners fuel
  rw [callMethod, getHeap_bind]
  split
  case isTrue native =>
    rw [callAttribute_native native]
    exact callNative_sim runners trivial hv name hargs hks _ _ (H.allocRight nofun)
  case isFalse =>
    cases found : m.heap.classFunction? receiver name with
    | some a =>
      have ha : w.addr a a := by
        have same := H.near.heap.classFunction? hv name
        rw [found] at same
        cases same with
        | some ha => exact ha
      rw [callAttribute_function found clear]
      exact callFunction_sim runners ha (.cons hv hargs) hks _ _ (H.allocRight nofun)
    | none =>
      have fetched : (apart σ σ False).Sim () w ValueRel
          (callAttribute (bare fuel) receiver name args keywords)
          (callAttribute (bare fuel) receiver name args keywords) :=
        (getAttribute_sim hv name).bind fun w₁ f f' h₁ hf =>
          callValue_sim runners trivial hf (up h₁ hargs) (up h₁ hks)
      exact fetched m m H

/-- What comes of a method call that shows no address. -/
theorem callMethod_quiet {fuel : Nat}
    (hides : (outcome (callMethod (bare fuel) receiver name args keywords) m).1 ≠ .outOfFuel) :
    callMethod (quiet fuel) receiver name args keywords m =
      callMethod (bare fuel) receiver name args keywords m :=
  Blank.eq_of_sim (callMethod_sim (Blank.runners fuel) trivial (Diagonal.refl receiver) name
    (Diagonal.refl (A := ValuesRel) args) (Diagonal.refl (A := KeywordsRel) keywords)) hides

/-- What comes of a call of what has been fetched, if it shows no address. -/
theorem callAttribute_quiet {fuel : Nat}
    (hides : (outcome (callAttribute (bare fuel) receiver name args keywords) m).1 ≠ .outOfFuel) :
    callAttribute (quiet fuel) receiver name args keywords m =
      callAttribute (bare fuel) receiver name args keywords m := by
  have call : ((blank σ).beside True).Sim () (World.diagonal fun _ => True) ValueRel
      (callAttribute (bare fuel) receiver name args keywords)
      (callAttribute (quiet fuel) receiver name args keywords) :=
    (getAttribute_sim (Diagonal.refl receiver) name).bind fun w₁ f f' h₁ hf =>
      callValue_sim (Blank.runners fuel) trivial hf
        (up h₁ (Diagonal.refl (A := ValuesRel) args))
        (up h₁ (Diagonal.refl (A := KeywordsRel) keywords))
  exact Blank.eq_of_sim call hides

end

/-- Runs apart that are not out of fuel have the same effect. -/
theorem Apart.sameEffect {w : World} {x y : M σ Value} {m m' : Machine σ}
    (h : Agree (apart σ σ False) () w ValueRel (x m) (y m'))
    (ends : (outcome x m).1 ≠ .outOfFuel ∨ (outcome y m').1 ≠ .outOfFuel) :
    (outcome x m).1 ≠ .outOfFuel ∧ (outcome y m').1 ≠ .outOfFuel ∧ SameEffect w (x m) (y m') := by
  unfold outcome at ends ⊢
  revert h ends
  generalize x m = rx, y m' = ry
  intro h ends
  cases h with
  | left h | right h | lost h => exact h.elim
  | stop => exact absurd rfl (ends.elim id id)
  | ok hw h hm => exact ⟨nofun, nofun, .ok hw h hm⟩
  | error hw h hm => exact ⟨nofun, nofun, .error hw h hm⟩

/-! ### States of runs -/

/-- All that a state of a run refers to has been given out. -/
theorem Grounded.given {w : World} {m : Machine σ} {inHand : List Value} (H : Grounded w m)
    (hv : ∀ v ∈ inHand, w.Refers v) : m.Given inHand := by
  have sharp := H.tidy.sharp
  have within : w.flatten ≤ m.heap.given :=
    ⟨fun hab => ⟨sharp.place hab, (H.tidy.grown.used hab).1⟩, id, id,
      fun hjk => ⟨sharp.mark hjk, (H.tidy.grown.marks hjk).1⟩, fun _ => trivial,
      H.tidy.phrase.symm, (eq_true sharp.located).symm⟩
  have whole : w ≤ m.heap.given := w.le_flatten.trans within
  have grown : Grown m.heap.given m.heap m.heap :=
    { H.tidy.grown with
      get := by
        rintro a b ⟨rfl, -⟩
        cases ho : m.heap.get? a with
        | none => exact .none
        | some o => exact .some (up whole (H.objectRel ho))
      used := by
        rintro a b ⟨rfl, ha⟩
        exact ⟨ha, ha⟩
      marks := by
        rintro j k ⟨rfl, hj⟩
        exact ⟨hj, hj⟩
      classes := fun {a c} hc =>
        ⟨a, within.place (H.tidy.place (Heap.class?_eq_some.1 hc))⟩ }
  have alike : Alike m.heap.given m m :=
    ⟨H.near.withHeap whole grown.heapRel, grown, fun _ => ⟨trivial, trivial⟩, rfl, trivial, rfl,
      rfl⟩
  refine ⟨alike, fun v hx => ?_⟩
  obtain ⟨v', hv⟩ := hv v hx
  obtain rfl := Discrete.eq sharp hv
  exact up whole hv

/-- Fetching a method first makes no difference: for every machine, receiver and arguments that
refer to nothing but what has been given out, `receiver.name(…)` and `t = receiver.name; t(…)` come
to the same, if the name is not masked and one of the two shows no address and has enough fuel. In
any state that a run comes through, and for the values in hand there, all has been given out. -/
theorem method_fetched {σ : Type} :
    (∀ {m : Machine σ} {receiver : Value} {name : String} {args : List Value}
        {keywords : Keywords}, m.Given (receiver :: args ++ keywords.map (·.2)) →
      m.heap.masks receiver name = false → ∀ {fuel : Nat},
      (outcome (callMethod (bare fuel) receiver name args keywords) m).1 ≠ .outOfFuel ∨
        (outcome (callAttribute (bare fuel) receiver name args keywords) m).1 ≠ .outOfFuel →
      SameEffect m.heap.given (callMethod (quiet fuel) receiver name args keywords m)
        (callAttribute (quiet fuel) receiver name args keywords m)) ∧
      ∀ (observe : Observer σ) (log : σ) (fuel : Nat) (p : Program), ∀ v ∈ (machineOf (runProgram
        (trailing observe fuel) p (Machine.start log).trailed)).log.visits,
        v.machine.Given v.inHand := by
  constructor
  · intro m receiver name args keywords given clear fuel hides
    obtain ⟨hv, hrest⟩ := List.forall_mem_cons.1 given.inHand
    obtain ⟨hargs, hks⟩ := List.forall_mem_append.1 hrest
    have agree := callMethod_agree given.alike hv (List.forall₂_same.2 hargs)
      (List.forall₂_same.2 fun k hk => ⟨rfl, hks _ (List.mem_map_of_mem hk)⟩) clear fuel
    obtain ⟨hidden, hidden', same⟩ := Apart.sameEffect agree hides
    rw [callMethod_quiet hidden, callAttribute_quiet hidden']
    exact same
  · intro observe log fuel p v hv
    obtain ⟨w, stands⟩ := Sound.start_stands log
    obtain ⟨w, ground, inHand⟩ := (Sound.runProgram_grounded observe fuel p stands).visits v hv
    exact ground.given inHand

/-- `class A:` with a method `m` that returns `1`, and then `A()`. -/
def methodical : Program :=
  [.mk (.classDef (.mk "A" [] [.mk (.functionDef (.mk "m" [.mk "self" none] none none
    [.mk (.return_ (some (.int 1))) ⟨3, 9⟩ 3] ⟨2, 5⟩)) ⟨2, 5⟩ 3] ⟨1, 1⟩)) ⟨1, 1⟩ 3,
    .mk (.expr (.call (.name "A") [])) ⟨4, 1⟩ 4]

/-- The states that a run of `methodical` comes through, the last one first. -/
def methodicalVisits : List (Visit Unit) :=
  (machineOf (runProgram (trailing (fun _ _ => .note ()) 9) methodical
    (Machine.start ()).trailed)).log.visits

/-- The method of the instance that `methodical` makes, called right away and fetched first. -/
theorem method_fetched_instance :
    ∃ v ∈ methodicalVisits, ∃ receiver ∈ v.inHand,
      (v.machine.heap.classFunction? receiver "m").isSome = true ∧
        v.machine.heap.masks receiver "m" = false ∧
        SameEffect v.machine.heap.given (callMethod (quiet 9) receiver "m" [] [] v.machine)
          (callAttribute (quiet 9) receiver "m" [] [] v.machine) := by
  let v := methodicalVisits.get ⟨2, by decide +kernel⟩
  let receiver := v.inHand.get ⟨0, by decide +kernel⟩
  have function : (v.machine.heap.classFunction? receiver "m").isSome = true := by decide +kernel
  have clear : v.machine.heap.masks receiver "m" = false := by decide +kernel
  have hides : (outcome (callMethod (bare 9) receiver "m" [] []) v.machine).1 ≠ .outOfFuel := by
    decide +kernel
  have hv : v ∈ methodicalVisits := List.get_mem _ _
  have held : receiver ∈ v.inHand := List.get_mem _ _
  have given := method_fetched.2 (fun _ _ => .note ()) () 9 methodical v hv
  have alone : v.machine.Given [receiver] :=
    ⟨given.alike, List.forall_mem_singleton.2 (given.inHand receiver held)⟩
  exact ⟨v, hv, receiver, held, function, clear, method_fetched.1 alone clear (.inl hides)⟩

end Stepwise
