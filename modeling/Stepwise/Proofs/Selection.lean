import Stepwise.Eval.Operator
import Stepwise.Eval.Run
import Stepwise.Proofs.Heap
import Stepwise.Proofs.Range

/-!
# What slices select

The positions of a slice are a progression (`Slice.positions_eq`): from where its lower bound lies
on, by its step, as long as they are before where its upper bound lies (`Slice.origin`,
`Slice.limit`). Strings, tuples and lists are read alike (`getSlice_givesItems`); so two slices that
meet are the whole sequence when they are joined, and going by -1 turns it around
(`slices_select`).

## The model

The length of a sequence and the step of a slice are supposed to be below `2 ** 62`, so that no step
leads out of the words of 64 bits; the bounds may be any integers. Reading a slice of a tuple or
list makes another one, so a result is what it is in the machine behind it, in which everything that
was there before still is (`Heap.Retains`).
-/

namespace Stepwise

open Script

/-! ### Positions -/

namespace Slice

variable {s : Slice} {len : Nat} {n : Int}

/-- A slice with a step, and one of less than `2 ** 62` in either direction. -/
structure Moderate (s : Slice) : Prop where
  stride_ne_zero : s.stride ≠ 0
  stride_lt : s.stride.natAbs < 0x4000000000000000

/-- The place that no bound lies in front of: the first position, and for one who goes down, the
place before it. -/
def low (s : Slice) : Int := if 0 < s.stride then 0 else -1

/-- The place that no bound lies behind: the place behind the last position, and for one who goes
down, the last position. -/
def high (s : Slice) (len : Int) : Int := if 0 < s.stride then len else len - 1

/-- Where a bound lies in a sequence of length `len`. Bounds below zero count from the end; those
outside are moved to the nearest place. -/
def place (s : Slice) (len x : Int) : Int :=
  max s.low (min (s.high len) (if x < 0 then len + x else x))

/-- Where a slice begins; at the end that is first on its way if it does not say. -/
def origin (s : Slice) (len : Int) : Int :=
  (s.lower.map (s.place len)).getD (if 0 < s.stride then s.low else s.high len)

/-- What a slice stops before; the end that is last on its way if it does not say. -/
def limit (s : Slice) (len : Int) : Int :=
  (s.upper.map (s.place len)).getD (if s.stride < 0 then s.low else s.high len)

theorem clamp_up (up : 0 < s.stride) : clamp len 0 len = s.place len := by
  funext x
  unfold clamp place low high
  rw [if_pos up, if_pos up]
  split <;> omega

theorem clamp_down (down : ¬0 < s.stride) : clamp len (-1) (len - 1) = s.place len := by
  funext x
  unfold clamp place low high
  rw [if_neg down, if_neg down]
  split <;> omega

theorem first_eq : s.first len = s.origin len := by
  unfold first origin
  split
  · next up => rw [clamp_up up, low, if_pos up]
  · next down => rw [clamp_down down, high, if_neg down]

theorem stop_eq (hs : s.stride ≠ 0) : s.stop len = s.limit len := by
  unfold stop limit
  split
  · next up => rw [clamp_up up, if_neg (by omega), high, if_pos up]
  · next down => rw [clamp_down down, if_pos (by omega), low, if_neg down]

theorem low_le_place {x : Int} : s.low ≤ s.place len x := Int.le_max_left ..

theorem low_le_high : s.low ≤ s.high len := by
  unfold low high
  split <;> omega

theorem place_le_high {x : Int} : s.place len x ≤ s.high len :=
  Int.max_le.2 ⟨low_le_high, Int.min_le_left ..⟩

/-- Whatever bound there is, and whichever end stands for one that is missing, its place is between
the ends. -/
theorem bound_between (bound : Option Int) (p : Prop) [Decidable p] :
    s.low ≤ (bound.map (s.place len)).getD (if p then s.low else s.high len) ∧
      (bound.map (s.place len)).getD (if p then s.low else s.high len) ≤ s.high len := by
  cases bound with
  | some x => exact ⟨low_le_place, place_le_high⟩
  | none =>
    show s.low ≤ (if p then s.low else s.high len) ∧ (if p then s.low else s.high len) ≤ s.high len
    have : s.low ≤ s.high len := low_le_high
    split <;> omega

/-- What lies between the bounds of a slice is a position. -/
theorem inside (hs : s.stride ≠ 0) (mem : n ∈ rangeItems (s.origin len) (s.limit len) s.stride) :
    0 ≤ n ∧ n < len := by
  have origin : s.low ≤ s.origin len ∧ s.origin len ≤ s.high len := bound_between ..
  have limit : s.low ≤ s.limit len ∧ s.limit len ≤ s.high len := bound_between ..
  unfold low high at origin limit
  obtain up | down := Int.lt_or_gt_of_ne hs.symm
  · have := bounds_up up mem
    rw [if_pos up, if_pos up] at origin limit
    omega
  · have := bounds_down down mem
    rw [if_neg (by omega), if_neg (by omega)] at origin limit
    omega

theorem positions_eq (hs : s.Moderate) (small : len < 0x4000000000000000) :
    s.positions len =
      some ((rangeItems (s.origin len) (s.limit len) s.stride).map Int.toNat) := by
  rw [positions, countOf_eq (by omega), first_eq, stop_eq hs.stride_ne_zero,
    walkFrom_eq hs.stride_ne_zero]
  · rfl
  · intro n mem
    have := inside hs.stride_ne_zero mem
    have := hs.stride_lt
    refine ⟨n + s.stride, word_of_isWord ?_, rfl⟩
    rw [isWord_64, fits_iff]
    omega

/-- Some positions of a sequence of length `len` are those that a slice selects. -/
structure Visits (s : Slice) (len : Nat) (ps : List Nat) : Prop where
  /-- They are computed. -/
  computed : s.positions len = some ps
  /-- They begin where the lower bound lies and go on by the step, as long as they are before where
  the upper bound lies. -/
  progress : ∀ i : Nat, ps[i]?.map Int.ofNat =
    if isBefore (s.limit len) s.stride (s.origin len + i * s.stride) then
      some (s.origin len + i * s.stride)
    else none
  /-- They are positions of the sequence. -/
  inside : ∀ p ∈ ps, p < len
  /-- None of them is selected twice. -/
  distinct : ps.Nodup

theorem Moderate.visits (hs : s.Moderate) (small : len < 0x4000000000000000) :
    s.Visits len ((rangeItems (s.origin len) (s.limit len) s.stride).map Int.toNat) where
  computed := positions_eq hs small
  progress i := by
    have position {k : Int} (lt : i < rangeLen (s.origin len) (s.limit len) s.stride)
        (hk : k = s.origin len + i * s.stride) : Int.ofNat k.toNat = k := by
      have mem := (mem_rangeItems_iff hs.stride_ne_zero).2
        ⟨(lt_rangeLen_iff hs.stride_ne_zero).1 lt, i, rfl⟩
      exact Int.toNat_of_nonneg (hk ▸ (inside hs.stride_ne_zero mem).1)
    rw [List.getElem?_map, Option.map_map]
    by_cases lt : i < rangeLen (s.origin len) (s.limit len) s.stride
    · rw [rangeItems_get lt, if_pos ((lt_rangeLen_iff hs.stride_ne_zero).1 lt), Option.map_some]
      exact congrArg some (position lt rfl)
    · rw [if_neg (mt (lt_rangeLen_iff hs.stride_ne_zero).2 lt), List.getElem?_eq_none]
      · rfl
      · rw [length_rangeItems]
        omega
  inside p mem := by
    obtain ⟨n, between, rfl⟩ := List.mem_map.1 mem
    have := inside hs.stride_ne_zero between
    omega
  distinct := by
    refine (nodup_rangeItems hs.stride_ne_zero).map_on fun n hn k hk same => ?_
    have := inside hs.stride_ne_zero hn
    have := inside hs.stride_ne_zero hk
    omega

theorem Visits.eq {ps ps' : List Nat} (h : s.Visits len ps) (h' : s.positions len = some ps') :
    ps = ps' :=
  Option.some.inj (h.computed.symm.trans h')

/-! ### Without gaps, and backwards -/

/-- The numbers from one to another are those of a range. -/
theorem rangeItems_one {a b : Int} (ha : 0 ≤ a) :
    (rangeItems a b 1).map Int.toNat = List.range' a.toNat (b - a).toNat := by
  have len : rangeLen a b 1 = (b - a).toNat := by
    unfold rangeLen
    split
    · omega
    · rw [if_neg (by omega)]
      omega
  rw [rangeItems, len, List.map_map, List.range'_eq_map_range]
  refine List.map_congr_left fun i _ => ?_
  show (a + i * 1).toNat = a.toNat + i
  omega

theorem rangeItems_back : (rangeItems ((len : Int) - 1) (-1) (-1)).map Int.toNat =
    (List.range len).reverse := by
  have count : rangeLen ((len : Int) - 1) (-1) (-1) = len := by
    unfold rangeLen
    rw [if_neg (by omega)]
    split
    · rw [show -(-1 : Int) = 1 by rfl, Int.ediv_one]
      omega
    · omega
  rw [rangeItems, count, List.map_map, List.range_eq_range', List.reverse_range',
    ← List.range_eq_range']
  refine List.map_congr_left fun i _ => ?_
  show ((len : Int) - 1 + i * -1).toNat = 0 + len - 1 - i
  omega

theorem moderate_of_stride (hs : s.stride = 1 ∨ s.stride = -1) : s.Moderate where
  stride_ne_zero := by omega
  stride_lt := by omega

/-- A slice without gaps selects the positions from where its lower bound lies to where its upper
bound lies. -/
theorem visits_span (hs : s.stride = 1) (small : len < 0x4000000000000000) :
    s.Visits len
      (List.range' (s.origin len).toNat ((s.limit len).toNat - (s.origin len).toNat)) := by
  have between : 0 ≤ s.origin len := by
    have : s.low ≤ s.origin len ∧ _ := bound_between ..
    rw [low, if_pos (by omega)] at this
    exact this.1
  have visits := (moderate_of_stride (.inl hs)).visits small
  rw [hs, rangeItems_one between] at visits
  have length :
      (s.limit len - s.origin len).toNat = (s.limit len).toNat - (s.origin len).toNat := by omega
  rwa [length] at visits

/-- Going by -1 without bounds selects all positions, the last one first. -/
theorem visits_back (small : len < 0x4000000000000000) :
    (⟨none, none, some (-1)⟩ : Slice).Visits len (List.range len).reverse := by
  rw [← rangeItems_back]
  exact (moderate_of_stride (.inr rfl)).visits small

/-! ### Items -/

variable {α : Type} {items : List α} {ps : List Nat} {xs : List α}

/-- The items at positions that are there. -/
theorem exists_items (inside : ∀ p ∈ ps, p < items.length) :
    ∃ xs : List α, ps.map (items[·]?) = xs.map some := by
  induction ps with
  | nil => exact ⟨[], rfl⟩
  | cons p ps ih =>
    obtain ⟨xs, rest⟩ := ih fun q mem => inside q (List.mem_cons_of_mem p mem)
    have first := List.getElem?_eq_getElem (inside p List.mem_cons_self)
    refine ⟨items.get ⟨p, inside p List.mem_cons_self⟩ :: xs, ?_⟩
    rw [List.map_cons, first, rest]
    rfl

theorem itemsAt_eq_some {items : Array α} :
    itemsAt items ps = some xs ↔ ps.map (items[·]?) = xs.map some := by
  induction ps generalizing xs with
  | nil => cases xs <;> simp [itemsAt]
  | cons p ps ih =>
    rw [itemsAt] at ih ⊢
    cases xs with
    | nil => simp [Option.bind_eq_some_iff]
    | cons x xs => simp [Option.bind_eq_some_iff, ih]

theorem pick_eq {items : Array α} (positions : s.positions items.size = some ps)
    (picked : ps.map (items[·]?) = xs.map some) : s.pick items = some xs := by
  rw [pick, positions]
  exact itemsAt_eq_some.2 picked

/-- The items of a span. -/
theorem map_range' {a n : Nat} (h : a + n ≤ items.length) :
    (List.range' a n).map (items[·]?) = ((items.drop a).take n).map some := by
  refine List.ext_getElem? fun i => ?_
  by_cases lt : i < n
  · simp [lt, show a + i < items.length by omega]
  · simp [lt]

end Slice

/-! ### Sequences -/

namespace Heap

variable {h h' : Heap} {kind : Builtin} {v : Value} {items : List Value}

/-- What a string, a tuple or a list consists of: a string of its characters. -/
inductive Sequence (h : Heap) : Builtin → Value → List Value → Prop
  | str (s : String) : Sequence h .str (.str s) (characters s)
  | tuple (mark : Nat) (items : List Value) : Sequence h .tuple (.tuple mark items) items
  | list {a : Address} {items : List Value} (found : h.get? a = some (.list items.toArray)) :
    Sequence h .list (.ref a) items

/-- What is there in one heap is there in another one. -/
def Retains (h h' : Heap) : Prop := ∀ a o, h.get? a = some o → h'.get? a = some o

theorem retains_alloc (o : Object) : h.Retains (h.alloc o).2 := by
  intro a o' found
  rw [get?_alloc, if_neg (ne_next found)]
  exact found

theorem Retains.trans {h'' : Heap} (first : h.Retains h') (second : h'.Retains h'') :
    h.Retains h'' :=
  fun a o found => second a o (first a o found)

theorem get?_alloc_next (o : Object) : (h.alloc o).2.get? h.next = some o := by
  rw [get?_alloc, if_pos rfl]

theorem Sequence.retain (hv : h.Sequence kind v items) (retains : h.Retains h') :
    h'.Sequence kind v items := by
  cases hv with
  | str s => exact .str s
  | tuple mark => exact .tuple mark items
  | list found => exact .list (retains _ _ found)

end Heap

open Heap

variable {σ : Type} {m : Machine σ} {kind : Builtin} {v w : Value} {items xs ys : List Value}

/-- A run gives a sequence of some items, and whatever was there is there still. -/
def GivesItems (x : M σ Value) (m : Machine σ) (kind : Builtin) (items : List Value) : Prop :=
  ∃ v m', x m = .ok v m' ∧ m.heap.Retains m'.heap ∧ m'.heap.Sequence kind v items

theorem makeList_givesItems (m : Machine σ) (items : List Value) :
    GivesItems (makeList items) m .list items :=
  ⟨_, _, rfl, retains_alloc _, .list (get?_alloc_next (h := m.heap) _)⟩

theorem makeTuple_givesItems (m : Machine σ) (items : List Value) :
    GivesItems (makeTuple items) m .tuple items :=
  ⟨_, _, rfl, fun _ _ found => found, .tuple _ items⟩

theorem pure_givesItems (m : Machine σ) (s : String) :
    GivesItems (pure (.str s)) m .str (characters s) :=
  ⟨_, _, rfl, fun _ _ found => found, .str s⟩

theorem GivesItems.of_eq {x y : M σ Value} (gives : GivesItems y m kind items) (h : x m = y m) :
    GivesItems x m kind items := by
  unfold GivesItems
  rw [h]
  exact gives

theorem GivesItems.bind {x : M σ Value} {f : Value → M σ Value} {kind' : Builtin}
    {items' : List Value} (hx : GivesItems x m kind items)
    (hf : ∀ v m', m.heap.Retains m'.heap → m'.heap.Sequence kind v items →
      GivesItems (f v) m' kind' items') : GivesItems (x >>= f) m kind' items' := by
  obtain ⟨v, m', run, retains, hv⟩ := hx
  obtain ⟨v', m'', run', retains', hv'⟩ := hf v m' retains hv
  refine ⟨v', m'', ?_, retains.trans retains', hv'⟩
  rw [M.bind_ok run, run']

/-- What is found on the heap when a list is indexed. -/
theorem indexed_list {h : Heap} {a : Address} {items : Array Value}
    (found : h.get? a = some (.list items)) : h.indexed (.ref a) = .list items := by
  have object : h.object? (.ref a) = some (.list items) := found
  rw [Heap.indexed, object]

section

variable {s : Slice} {ps : List Nat}

/-- Sequences of all kinds are read alike. -/
theorem getSlice_givesItems (hv : m.heap.Sequence kind v items) (visits : s.Visits items.length ps)
    (picked : ps.map (items[·]?) = xs.map some) : GivesItems (getSlice v s) m kind xs := by
  cases hv with
  | str text =>
    have len : (characters text).length = text.toList.length := List.length_map ..
    rw [len] at visits
    obtain ⟨cs, chars⟩ := Slice.exists_items visits.inside
    have same : xs.map some = (characters (String.ofList cs)).map some := by
      have each (p : Nat) : (characters text)[p]? = text.toList[p]?.map fun c => .str c.toString :=
        List.getElem?_map ..
      calc xs.map some = (ps.map (text.toList[·]?)).map (Option.map fun c => .str c.toString) := by
            rw [← picked, List.map_map]
            exact List.map_congr_left fun p _ => each p
        _ = (characters (String.ofList cs)).map some := by
            rw [chars, characters, String.toList_ofList, List.map_map, List.map_map]
            rfl
    have pick : s.pick text.toList.toArray = some cs :=
      Slice.pick_eq visits.computed (by simpa using chars)
    rw [List.map_injective_iff.2 (Option.some_injective _) same]
    refine (pure_givesItems m (String.ofList cs)).of_eq ?_
    rw [getSlice, pick]
    rfl
  | tuple mark =>
    have pick : s.pick items.toArray = some xs :=
      Slice.pick_eq visits.computed (by simpa using picked)
    refine (makeTuple_givesItems m xs).of_eq ?_
    rw [getSlice, pick]
    rfl
  | list found =>
    have pick : s.pick items.toArray = some xs :=
      Slice.pick_eq visits.computed (by simpa using picked)
    refine (makeList_givesItems m xs).of_eq ?_
    simp only [getSlice]
    rw [getHeap_bind, indexed_list found]
    dsimp only
    rw [pick]
    rfl

theorem add_givesItems (r : Runner σ) (hv : m.heap.Sequence kind v xs)
    (hw : m.heap.Sequence kind w ys) : GivesItems (binaryOp r .add v w) m kind (xs ++ ys) := by
  cases hv with
  | str s =>
    cases hw with
    | str s' =>
      have joined : characters (s ++ s') = characters s ++ characters s' := by
        simp [characters]
      rw [← joined]
      exact pure_givesItems m _
  | tuple mark =>
    cases hw with
    | tuple mark' => exact makeTuple_givesItems m _
  | @list a _ found =>
    cases hw with
    | @list b _ found' =>
      have left : m.heap.object? (.ref a) = some (.list xs.toArray) := found
      have right : m.heap.object? (.ref b) = some (.list ys.toArray) := found'
      refine (makeList_givesItems m (xs ++ ys)).of_eq ?_
      show objectOperator r .add (.ref a) (.ref b) m = _
      rw [objectOperator, getHeap_bind, left, right]
      show make (.list (xs.toArray ++ ys.toArray)) m = _
      rw [List.append_toArray]
      rfl

end

/-- Slices select what their bounds and their step say, of strings, tuples and lists: a progression
of positions of the sequence. So two slices that meet are the whole sequence when they are joined,
and going by -1 turns it around. -/
theorem slices_select :
    (∀ (s : Slice) (len : Nat), s.Moderate → len < 0x4000000000000000 → ∃ ps, s.Visits len ps) ∧
      ∀ (r : Runner σ) (m : Machine σ) {kind : Builtin} {v : Value} {items : List Value},
        m.heap.Sequence kind v items → items.length < 0x4000000000000000 →
        (∀ s : Slice, s.Moderate → ∃ ps xs, s.Visits items.length ps ∧
          ps.map (items[·]?) = xs.map some ∧ GivesItems (getSlice v s) m kind xs) ∧
        (∀ k : Int, GivesItems (do
          let front ← getSlice v ⟨none, some k, none⟩
          let back ← getSlice v ⟨some k, none, none⟩
          binaryOp r .add front back) m kind items) ∧
        GivesItems (getSlice v ⟨none, none, some (-1)⟩) m kind items.reverse := by
  refine ⟨fun s len hs small => ⟨_, hs.visits small⟩, fun r m {kind v items} hv small =>
    ⟨fun s hs => ?_, fun k => ?_, ?_⟩⟩
  · have visits := hs.visits small
    obtain ⟨xs, picked⟩ := Slice.exists_items visits.inside
    exact ⟨_, xs, visits, picked, getSlice_givesItems hv visits picked⟩
  · let cut := ((⟨none, some k, none⟩ : Slice).place items.length k).toNat
    have within : cut ≤ items.length := Int.toNat_le.2 Slice.place_le_high
    have front : (⟨none, some k, none⟩ : Slice).Visits items.length (List.range' 0 cut) :=
      Slice.visits_span rfl small
    have back : (⟨some k, none, none⟩ : Slice).Visits items.length
        (List.range' cut (items.length - cut)) := Slice.visits_span rfl small
    have joined :
        (items.drop 0).take cut ++ (items.drop cut).take (items.length - cut) = items := by
      rw [List.drop_zero, ← List.length_drop, List.take_length, List.take_append_drop]
    -- the second slice is read in the machine in which the first one has been made
    refine (getSlice_givesItems hv front (Slice.map_range' (by omega))).bind
      fun u m' retains hu => ?_
    refine (getSlice_givesItems (hv.retain retains) back (Slice.map_range' (by omega))).bind
      fun u' m'' retains' hu' => ?_
    have sum := add_givesItems r (hu.retain retains') hu'
    rwa [joined] at sum
  · refine getSlice_givesItems hv (Slice.visits_back small) ?_
    rw [List.map_reverse, List.map_reverse, List.range_eq_range', Slice.map_range' (by omega),
      List.drop_zero, List.take_length]

/-- A slice that begins behind the end and goes down by two, and a string turned around. -/
theorem slices_select_down :
    let m := Machine.start ()
    (⟨some 9, none, some (-2)⟩ : Slice).Moderate ∧
      (⟨some 9, none, some (-2)⟩ : Slice).Visits 3 [2, 0] ∧
      GivesItems (getSlice (.str "añb") ⟨none, none, some (-1)⟩) m .str
        [.str "b", .str "ñ", .str "a"] := by
  intro m
  have moderate : (⟨some 9, none, some (-2)⟩ : Slice).Moderate := ⟨by decide, by decide⟩
  obtain ⟨ps, visits⟩ := (slices_select (σ := Unit)).1 _ 3 moderate (by decide)
  obtain rfl : ps = [2, 0] := visits.eq (by decide)
  exact ⟨moderate, visits, (slices_select.2 (quiet 1) m (.str "añb") (by decide)).2.2⟩

end Stepwise
