import Stepwise.Proofs.Relation.Heap

/-!
# Related texts

The text of a value is the same in related heaps, unless it shows an address (`repr?`); whether it
does is the same in any case (`showsAddress`). A text that is found is found with any larger bound
(`Heap.repr?_mono`).
-/

namespace Stepwise

/-! ### Larger bounds -/

/-- Parts that are all there are still there if each of them is. -/
theorem mapM_some {α β : Type} {f g : α → Option β} : ∀ {as : List α} {bs : List β},
    (∀ a b, f a = some b → g a = some b) → as.mapM f = some bs → as.mapM g = some bs
  | [], _, _, e => e
  | a :: as, bs, more, e => by
    rw [List.mapM_cons] at e ⊢
    obtain ⟨b, first, e⟩ := Option.bind_eq_some_iff.1 e
    obtain ⟨bs', rest, e⟩ := Option.bind_eq_some_iff.1 e
    rw [more a b first]
    show (as.mapM g >>= fun bs => pure (b :: bs)) = _
    rw [mapM_some more rest]
    exact e

namespace Heap

variable {h : Heap}

/-- A text that is found so deep is found one level deeper. -/
theorem reprIn_succ : ∀ (fuel : Nat) {around : List Address} {v : Value} {s : String},
    h.reprIn around fuel v = some s → h.reprIn around (fuel + 1) v = some s
  | 0, _, _, _, e => by simp [reprIn] at e
  | fuel + 1, around, v, s, e => by
    cases v with
    | tuple _ items =>
      rw [reprIn] at e ⊢
      obtain ⟨parts, shown, e⟩ := Option.bind_eq_some_iff.1 e
      exact Option.bind_eq_some_iff.2 ⟨parts, mapM_some (fun _ _ => reprIn_succ fuel) shown, e⟩
    | ref a =>
      have inside (u : Value) (t : String) : h.reprIn (a :: around) fuel u = some t →
          h.reprIn (a :: around) (fuel + 1) u = some t := reprIn_succ fuel
      rw [reprIn] at e ⊢
      cases found : h.get? a with
      | none => simpa only [found] using e
      | some o =>
        simp only [found] at e ⊢
        split at e
        · next circular => rwa [if_pos circular]
        · next outside =>
          rw [if_neg outside]
          cases o with (dsimp only at e ⊢)
          | list items | set items =>
            obtain ⟨parts, shown, e⟩ := Option.bind_eq_some_iff.1 e
            exact Option.bind_eq_some_iff.2 ⟨parts, mapM_some inside shown, e⟩
          | dict t =>
            obtain ⟨parts, shown, e⟩ := Option.bind_eq_some_iff.1 e
            refine Option.bind_eq_some_iff.2 ⟨parts, mapM_some (fun p part shown => ?_) shown, e⟩
            obtain ⟨k, key, e⟩ := Option.bind_eq_some_iff.1 shown
            obtain ⟨x, value, e⟩ := Option.bind_eq_some_iff.1 e
            refine Option.bind_eq_some_iff.2 ⟨k, inside _ _ key, ?_⟩
            exact Option.bind_eq_some_iff.2 ⟨x, inside _ _ value, e⟩
          | inst i =>
            split at e
            · next exception =>
              rw [if_pos exception]
              obtain ⟨parts, shown, e⟩ := Option.bind_eq_some_iff.1 e
              exact Option.bind_eq_some_iff.2 ⟨parts, mapM_some inside shown, e⟩
            · next ordinary => rwa [if_neg ordinary]
          | boundMethod receiver function =>
            obtain ⟨shown, text, e⟩ := Option.bind_eq_some_iff.1 e
            exact Option.bind_eq_some_iff.2 ⟨shown, reprIn_succ fuel text, e⟩
          | _ => exact e
    | _ => simpa only [reprIn] using e

theorem repr?_mono {fuel fuel' : Nat} (le : fuel ≤ fuel') {v : Value} {s : String}
    (e : h.repr? fuel v = some s) : h.repr? fuel' v = some s := by
  induction le with
  | refl => exact e
  | step _ ih => exact reprIn_succ _ ih

end Heap

namespace HeapRel

variable {w : World} {h h' : Heap} {v v' : Value} {around around' : List Address}

/-! ### Addresses in a text -/

theorem showsIn (H : HeapRel w h h') : ∀ (fuel : Nat) {around around' : List Address}
    {v v' : Value}, ListRel AddrRel w around around' → ValueRel w v v' →
    h.showsIn around fuel v = h'.showsIn around' fuel v'
  | 0, _, _, _, _, _, _ => by simp only [Heap.showsIn]
  | fuel + 1, around, around', v, v', ha, hv => by
    cases hv with
    | tuple _ hs =>
      simp only [Heap.showsIn]
      exact ListRel.any hs fun hv => H.showsIn fuel ha hv
    | @ref b b' hb =>
      have inside {u u' : Value} (hu : ValueRel w u u') :
          h.showsIn (b :: around) fuel u = h'.showsIn (b' :: around') fuel u' :=
        H.showsIn fuel (.cons hb ha) hu
      unfold Heap.showsIn
      obtain ⟨e, e'⟩ | ⟨o, o', e, e', ho⟩ := H.object hb <;> simp only [e, e']
      rw [ha.contains hb]
      split
      · rfl
      · cases ho with
        | list hs => exact hs.any inside
        | dict ht =>
          exact (TableRel.pairs ht).any fun he => by rw [inside he.fst, inside he.snd]
        | set ht => exact (TableRel.members ht).any inside
        | inst hi =>
          simp only [H.isExceptionClass hi.cls]
          split
          · exact hi.args.any inside
          · rfl
        | boundMethod hr _ => exact H.showsIn fuel .nil hr
        | _ => rfl
    | _ => simp only [Heap.showsIn]

theorem showsAddress (H : HeapRel w h h') (fuel : Nat) (hv : ValueRel w v v') :
    h.showsAddress fuel v = h'.showsAddress fuel v' :=
  H.showsIn fuel .nil hv

/-! ### The text -/

/-- Texts of related items are the same if each is the same that shows no address. -/
theorem mapM_text {α β : Type} {A : Rel α β} {as : List α} {bs : List β} {shows : α → Bool}
    {f : α → Option String} {g : β → Option String} (hs : ListRel A w as bs)
    (quiet : w.Exact ∨ as.any shows = false)
    (hf : ∀ {a b}, A w a b → w.Exact ∨ shows a = false → f a = g b) :
    as.mapM f = bs.mapM g := by
  induction hs with
  | nil => rfl
  | cons hab _ ih =>
    simp only [List.any_cons, Bool.or_eq_false_iff] at quiet
    rw [List.mapM_cons, List.mapM_cons, hf hab (quiet.imp_right And.left),
      ih (quiet.imp_right And.right)]

theorem functionName (H : HeapRel w h h') {a a' : Address} (ha : w.addr a a') :
    h.functionName a = h'.functionName a' := by
  unfold Heap.functionName
  obtain ⟨e, e'⟩ | ⟨f, f', e, e', hf⟩ := (H.closure? ha).cases <;> simp only [e, e']
  rw [hf.definition]

theorem addressText {a a' : Address} (ha : w.addr a a') (quiet : w.Exact ∨ true = false) :
    Heap.addressText a = Heap.addressText a' := by
  obtain exact | h := quiet
  · rw [exact ha]
  · cases h

theorem cycleText {o o' : Object} (ho : ObjectRel w o o') :
    Heap.cycleText o = Heap.cycleText o' := by
  cases ho <;> rfl

theorem reprIn (H : HeapRel w h h') : ∀ (fuel : Nat) {around around' : List Address}
    {v v' : Value}, ListRel AddrRel w around around' → ValueRel w v v' →
    w.Exact ∨ h.showsIn around fuel v = false →
    h.reprIn around fuel v = h'.reprIn around' fuel v'
  | 0, _, _, _, _, _, _, _ => by simp only [Heap.reprIn]
  | fuel + 1, around, around', v, v', ha, hv, quiet => by
    cases hv with
    | tuple _ hs =>
      simp only [Heap.reprIn, Heap.showsIn] at quiet ⊢
      rw [mapM_text (A := ValueRel) hs quiet fun hu q => H.reprIn fuel ha hu q]
    | @ref b b' hb =>
      have inside {u u' : Value} (hu : ValueRel w u u')
          (q : w.Exact ∨ h.showsIn (b :: around) fuel u = false) :
          h.reprIn (b :: around) fuel u = h'.reprIn (b' :: around') fuel u' :=
        H.reprIn fuel (.cons hb ha) hu q
      unfold Heap.reprIn
      unfold Heap.showsIn at quiet
      obtain ⟨e, e'⟩ | ⟨o, o', e, e', ho⟩ := H.object hb <;> simp only [e, e'] at quiet ⊢
      simp only [ha.contains hb, cycleText ho] at quiet ⊢
      split
      · rfl
      · next outside =>
        simp only [outside, Bool.false_eq_true, if_false] at quiet
        cases ho with (dsimp only at quiet ⊢)
        | list hs => rw [mapM_text hs quiet inside]
        | dict ht =>
          rw [mapM_text (TableRel.pairs ht) quiet fun he q => ?_]
          simp only [Bool.or_eq_false_iff] at q
          rw [inside he.fst (q.imp_right And.left), inside he.snd (q.imp_right And.right)]
        | set ht => rw [mapM_text (TableRel.members ht) quiet inside]
        | inst hi =>
          simp only [H.isExceptionClass hi.cls, H.className hi.cls] at quiet ⊢
          split
          · next h => rw [mapM_text hi.args (by simpa only [h, if_true] using quiet) inside]
          · next h => rw [addressText hb (by simpa only [if_neg h] using quiet)]
        | cls hc => rw [hc.name, hc.builtin]
        | func hf => rw [hf.definition, addressText hb quiet]
        | boundMethod hr hf =>
          rw [H.reprIn fuel .nil hr quiet, H.typeName hr, H.functionName hf]
        | nativeMethod hr name => rw [H.typeName hr]
        | super hc _ => rw [H.className hc]
        | module hm => rw [hm.name]
        | scope _ => rw [addressText hb quiet]
    | _ => simp only [Heap.reprIn]

/-- Texts that show no address are the same. -/
theorem repr? (H : HeapRel w h h') (fuel : Nat) (hv : ValueRel w v v')
    (quiet : w.Exact ∨ h.showsAddress fuel v = false) : h.repr? fuel v = h'.repr? fuel v' :=
  H.reprIn fuel .nil hv quiet

end HeapRel

end Stepwise
