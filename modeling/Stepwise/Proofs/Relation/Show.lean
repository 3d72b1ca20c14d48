import Stepwise.Proofs.Relation.Call

/-!
# Coupled texts

What `str`, `repr` and conditions make of values is the same on both sides. An address gets into a
text only after the runner has been told (`Runner.reveal`).
-/

namespace Stepwise

open Script Coupling

variable {σ τ : Type} {C : Coupling σ τ} [hC : C.Lawful] {c : C.Ctx} {w : World}
variable {α β : Type} {A : Rel α β}
variable {r : Runner σ} {r' : Runner τ} (hr : RunnerRel C r r')
include hr

/-! ### Truth -/

theorem truthOfInstance_sim {v v' : Value} (hv : ValueRel w v v') :
    C.Sim c w Same (truthOfInstance r v) (truthOfInstance r' v') := by
  refine (callSpecial_sim hr (.inr (by decide)) hv .nil).bind fun w₁ b b' h₁ hb => ?_
  cases hb with
  | none =>
    refine (callSpecial_sim hr (.inr (by decide)) (up h₁ hv) .nil).bind fun w₂ n n' h₂ hn => ?_
    cases hn with
    | none => exact .pure rfl
    | some hn => exact .pure (by rw [hn.asInt?]; rfl)
  | some hb =>
    have same := hb
    cases hb with
    | bool b => exact .pure rfl
    | _ => exact failType_sim _ same

theorem truthy_sim {v v' : Value} (hv : ValueRel w v v') :
    C.Sim c w Same (truthy r v) (truthy r' v') := by
  have same := hv
  cases hv with
  | tuple _ h => exact .pure (by rw [ListRel.isEmpty h]; rfl)
  | ref ha =>
    refine .getHeap fun m m' hm => ?_
    obtain ⟨e, e'⟩ | ⟨o, o', e, e', ho⟩ := (hC.near hm).heap.object ha <;> simp only [e, e']
    · exact .pure rfl
    · cases ho with
      | list h => exact .pure (by simpa [Same] using h.isEmpty)
      | dict h | set h => exact .pure (by rw [TableRel.isEmpty h]; rfl)
      | inst _ => exact truthOfInstance_sim hr same
      | _ => exact .pure rfl
  | _ => exact .pure rfl

/-! ### Text -/

omit hr in
theorem expectText_sim (method : String) {v v' : Value} (hv : ValueRel w v v') :
    C.Sim c w Same (expectText method v) (expectText method v') := by
  have same := hv
  cases hv with
  | str s => exact .pure rfl
  | _ => exact failType_sim _ same

omit hr in
/-- A text of its own accord, where showing an address takes nothing. -/
theorem plainText_bare (bare : r.reveal = pure ()) (v : Value) :
    plainText r v = (do enough ((← getHeap).repr? r.bound v)) := by
  unfold plainText
  rw [bare]
  refine congrArg (getHeap >>= ·) (funext fun h => ?_)
  split <;> rfl

theorem plainText_sim {v v' : Value} (hv : ValueRel w v v') :
    C.Sim c w Same (plainText r v) (plainText r' v') := by
  obtain same | ⟨left, le, bare, bare'⟩ := hr.bounds
  · refine .getHeap fun m m' hm => ?_
    have H := (hC.near hm).heap
    rw [← same, ← H.showsAddress r.bound hv]
    dsimp only
    refine .ite .rfl (fun _ => ?_) fun h => ?_
    · refine hr.reveal.bind fun w₁ _ _ h₁ exact => .enough (.of_eq ?_)
      exact H.repr? r.bound hv (.inl fun ha => exact (h₁.addr ha))
    · exact .enough (.of_eq (H.repr? r.bound hv (.inr (by simpa using h))))
  · rw [plainText_bare bare, plainText_bare bare']
    refine .getHeap fun m m' hm => ?_
    have exact : w.Exact := by
      have passed := hr.reveal m m' hm
      rw [bare, bare'] at passed
      obtain ⟨⟩ | ⟨⟩ | ⟨⟩ | ⟨⟩ | ⟨h₁, exact, -⟩ := passed
      exact fun {_ _} ha => exact (h₁.addr ha)
    cases shown : m.heap.repr? r.bound v with
    | none => exact .left left
    | some s =>
      rw [← (hC.near hm).heap.repr? r'.bound hv (.inl exact), Heap.repr?_mono le shown]
      exact .pure rfl

omit hC in
theorem reprEntry_sim {e e' : Value × Value} (he : PairRel ValueRel ValueRel w e e') :
    C.Sim c w Same (reprEntry r e) (reprEntry r' e') :=
  (hr.repr he.fst).bind fun _ k k' h₁ hk =>
    (hr.repr (up h₁ he.snd)).bind fun _ v v' _ hv => .pure (by rw [hk, hv]; rfl)

omit hC in
theorem texts_sim {vs vs' : List Value} (h : ValuesRel w vs vs') :
    C.Sim c w Same (vs.mapM r.repr) (vs'.mapM r'.repr) :=
  (Sim.mapM (B := Same) h fun _ _ _ _ hv => hr.repr hv).mono fun _ _ _ _ h => ListRel.same_iff.1 h

theorem reprObject_sim {a a' : Address} (ha : w.addr a a') :
    C.Sim c w Same (reprObject r a) (reprObject r' a') := by
  refine .getHeap_here fun m m' hm => ?_
  have plain : C.Sim c w Same (plainText r (.ref a)) (plainText r' (.ref a')) :=
    plainText_sim hr (.ref ha)
  obtain ⟨e, e'⟩ | ⟨o, o', e, e', ho⟩ := (hC.near hm).heap.object ha <;> simp only [e, e']
  · exact plain m m' hm
  have holds : m.heap.hasContainer a = o.isContainer := by rw [Heap.hasContainer, e, Option.any_some]
  cases ho with
  | list h =>
    refine hC.writing hm holds ha fun c' w' hw _ => (texts_sim hr (up hw h)).bind fun _ ts ts' _ ht => ?_
    exact .pure (congrArg Heap.listText ht)
  | dict h =>
    refine hC.writing hm holds ha fun c' w' hw _ => ?_
    refine (Sim.mapM (B := Same) (up hw (TableRel.pairs h)) fun _ _ _ _ he =>
      reprEntry_sim hr he).bind fun _ ts ts' _ ht => ?_
    exact .pure (congrArg Heap.bracesText (ListRel.same_iff.1 ht))
  | set h =>
    refine hC.writing hm holds ha fun c' w' hw _ => ?_
    refine (texts_sim hr (up hw (TableRel.members h))).bind fun _ ts ts' _ ht => ?_
    exact .pure (congrArg Heap.setText ht)
  | _ => exact plain m m' hm

theorem reprOf_sim {v v' : Value} (hv : ValueRel w v v') :
    C.Sim c w Same (reprOf r v) (reprOf r' v') := by
  have same := hv
  cases hv with
  | tuple _ h =>
    exact (texts_sim hr h).bind fun _ ts ts' _ ht => .pure (congrArg Heap.tupleText ht)
  | ref ha =>
    refine .get fun m m' hm => ?_
    have H := hC.near hm
    refine .ite (by rw [H.writing.contains ha]) (fun _ => .pure ?_) fun _ => ?_
    · obtain ⟨e, e'⟩ | ⟨o, o', e, e', ho⟩ := H.heap.object ha <;> rw [e, e']
      · rfl
      · exact HeapRel.cycleText ho
    · refine (callSpecial_sim hr (.inr (by decide)) same .nil).bind fun w₁ t t' h₁ ht => ?_
      cases ht with
      | none => exact reprObject_sim hr (h₁.addr ha)
      | some ht => exact expectText_sim _ ht
  | _ => exact .pure rfl

theorem exceptionMessage_sim {v v' : Value} (hv : ValueRel w v v') :
    C.Sim c w Same (exceptionMessage r v) (exceptionMessage r' v') := by
  refine (callSpecial_sim hr (.inr (by decide)) hv .nil).bind fun w₁ t t' h₁ ht => ?_
  cases ht with
  | some ht => exact expectText_sim _ ht
  | none =>
    refine .get fun m m' hm => ?_
    have H := hC.near hm
    obtain ⟨e, e'⟩ | ⟨i, i', e, e', hi⟩ :=
      ((up h₁ hv).address?.bind fun ha => H.heap.instance? ha).cases <;> simp only [e, e']
    · exact hr.str (up h₁ hv)
    · obtain ⟨cls, attrs, args⟩ := i
      obtain ⟨cls', attrs', args'⟩ := i'
      obtain ⟨hcls, -, hargs⟩ := hi
      rcases hargs with _ | ⟨ha, _ | ⟨hb, ht⟩⟩
      · exact .pure rfl
      · exact .ite (by rw [H.isKeyError hcls]) (fun _ => hr.repr ha) fun _ => hr.str ha
      · exact (texts_sim hr (.cons ha (.cons hb ht))).bind fun _ ts ts' _ ht =>
          .pure (congrArg Heap.tupleText ht)

theorem strOf_sim {v v' : Value} (hv : ValueRel w v v') :
    C.Sim c w Same (strOf r v) (strOf r' v') := by
  have same := hv
  cases hv with
  | str s => exact .pure rfl
  | ref ha =>
    refine .getHeap fun m m' hm => ?_
    obtain ⟨e, e'⟩ | ⟨i, i', e, e', hi⟩ := ((hC.near hm).heap.instance? ha).cases <;>
      simp only [e, e']
    · exact hr.repr same
    refine (callSpecial_sim hr (.inr (by decide)) same .nil).bind fun w₁ t t' h₁ ht => ?_
    cases ht with
    | some ht => exact expectText_sim _ ht
    | none =>
      refine .getHeap fun m m' hm => ?_
      refine .ite ?_ (fun _ => exceptionMessage_sim hr (up h₁ same)) fun _ =>
        hr.repr (up h₁ same)
      rw [(hC.near hm).heap.isExceptionClass (h₁.addr hi.cls)]
  | _ => exact hr.repr same

omit hC in
/-- Where the left run gives up, the text of a key comes to nothing, or else the key is shown. -/
theorem plainText_lost (hl : C.lopsided) (v : Value) {f : String → M σ α}
    (hf : ∀ s m, Lost (f s m)) (m : Machine σ) : Lost ((plainText r v >>= f) m) := by
  have text (o : Option String) : Lost ((enough o >>= f) m) := by
    cases o with
    | none => exact .outOfFuel
    | some s => exact hf s m
  unfold plainText
  rw [bind_assoc]
  have read : (getHeap : M σ Heap) m = .ok m.heap m := rfl
  refine .bind_ok read ?_
  dsimp only
  split
  · rw [bind_assoc]
    obtain lost | revealed := hr.reveals hl m
    · exact lost.bind _
    · exact .bind_ok revealed (text _)
  · exact text _

theorem failKey_sim {v v' : Value} (hv : ValueRel w v v') :
    C.Sim c w A (failKey r v) (failKey r' v') := by
  refine (hr.repr hv).attempt_bind (fun hl e m _ => plainText_lost hr hl v
    (fun s m => .fail (by simp [Fault.kind]) rfl) m) fun w₁ t t' h₁ ht => ?_
  cases ht with
  | ok ht =>
    cases ht
    exact fail_sim (.key _ (up h₁ hv))
  | error _ =>
    refine (plainText_sim hr (up h₁ hv)).bind fun w₂ s s' h₂ hs => ?_
    cases hs
    exact fail_sim (.key _ (up (h₁.trans h₂) hv))

end Stepwise
