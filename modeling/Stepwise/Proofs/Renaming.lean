import Mathlib.Logic.Equiv.Basic
import Stepwise.Proofs.Relation.Heap
import Stepwise.Proofs.Walk

/-!
# Renamed heaps

What a value is drawn as does not depend on what things are called or on where they are: with other
class names, other attribute names and all objects at other addresses it gets the same tag and the
same chain (`detection_renamed`).

## The model

A `Naming` gives attributes new names, one to each; names that belong to the language keep theirs,
and no other name becomes one of these. The addresses that belong together are those of a world
(`World`), and everything that detection reads off a heap is related step by step, as it is for two
runs of one program. Names of classes are free, and so is the code of functions.
-/

namespace Stepwise

/-- New names for attributes. -/
structure Naming where
  /-- The new name of an attribute. -/
  name : String → String
  injective : Function.Injective name
  reserved : ∀ {n}, isReserved n = true → name n = n
  ordinary : ∀ {n}, isReserved n = false → isReserved (name n) = false

/-- The world in which each address belongs to the one that it is moved to. -/
def World.moved (move : Address ≃ Address) : World :=
  { diagonal fun _ => True with
    place := fun a b => move a = b
    place_right := fun h h' => h.symm.trans h'
    place_left := fun h h' => move.injective (h.trans h'.symm) }

/-- The tag without the name of a type. -/
def Tag.unnamed : Tag → Tag
  | other _ => other ""
  | t => t

/-- The chain without the text of its error, which shows an address. -/
def Chain.unnamed (c : Chain) : Chain := { c with error := c.error.map fun _ => "" }

theorem Heap.chainOf_tag (h : Heap) (v : Value) (t : Tag) :
    h.chainOf v t.unnamed = h.chainOf v t := by
  cases t <;> rfl

namespace Naming

/-! ### Objects -/

/-- Names and their new names. -/
def NameRel (ρ : Naming) : Rel String String := fun _ n n' => ρ.name n = n'

/-- Attributes under their new names. -/
abbrev AttrsRel (ρ : Naming) : Rel Namespace Namespace := OrderedRel ρ.NameRel ValueRel

/-- Instances of related classes. -/
structure InstanceRel (ρ : Naming) (w : World) (i i' : Instance) : Prop where
  cls : w.addr i.cls i'.cls
  attrs : ρ.AttrsRel w i.attrs i'.attrs
  args : ValuesRel w i.args i'.args

/-- Classes, whatever they are called. -/
structure ClassRel (ρ : Naming) (w : World) (c c' : Class) : Prop where
  bases : ListRel AddrRel w c.bases c'.bases
  mro : ListRel AddrRel w c.mro c'.mro
  attrs : ρ.AttrsRel w c.attrs c'.attrs
  builtin : c.builtin = c'.builtin

/-- Functions, whatever names stand in their code. -/
structure FunctionRel (w : World) (f f' : Closure) : Prop where
  defaults : ListRel (OptionRel ValueRel) w f.defaults f'.defaults
  scope : OptionRel KeptRel w f.scope f'.scope
  owner : OptionRel AddrRel w f.owner f'.owner

/-- Modules of one name. -/
structure ModuleRel (ρ : Naming) (w : World) (m m' : Module) : Prop where
  name : m.name = m'.name
  attrs : ρ.AttrsRel w m.attrs m'.attrs

/-- Objects of one kind that hold related values, their attributes under new names. -/
inductive ObjectRel (ρ : Naming) (w : World) : Object → Object → Prop
  | list {items items'} (h : ValuesRel w items.toList items'.toList) :
    ObjectRel ρ w (.list items) (.list items')
  | dict {t t'} (h : TableRel w t t') : ObjectRel ρ w (.dict t) (.dict t')
  | set {t t'} (h : TableRel w t t') : ObjectRel ρ w (.set t) (.set t')
  | inst {i i'} (h : ρ.InstanceRel w i i') : ObjectRel ρ w (.inst i) (.inst i')
  | cls {c c'} (h : ρ.ClassRel w c c') : ObjectRel ρ w (.cls c) (.cls c')
  | func {f f'} (h : FunctionRel w f f') : ObjectRel ρ w (.func f) (.func f')
  | boundMethod {v v' f f'} (h : ValueRel w v v') (hf : w.addr f f') :
    ObjectRel ρ w (.boundMethod v f) (.boundMethod v' f')
  | nativeMethod {v v'} (h : ValueRel w v v') (name : String) :
    ObjectRel ρ w (.nativeMethod v name) (.nativeMethod v' name)
  | super {a a' v v'} (ha : w.addr a a') (h : ValueRel w v v') :
    ObjectRel ρ w (.super a v) (.super a' v')
  | module {m m'} (h : ρ.ModuleRel w m m') : ObjectRel ρ w (.module m) (.module m')
  | scope {s s'} (h : ScopeRel w s s') : ObjectRel ρ w (.scope s) (.scope s')

/-- Heaps with related objects at related addresses. -/
structure HeapRel (ρ : Naming) (w : World) (h h' : Heap) : Prop where
  get : ∀ {a a'}, w.place a a' → OptionRel ρ.ObjectRel w (h.get? a) (h'.get? a')

/-- Lists of attributes under their new names. -/
abbrev EntriesRel (ρ : Naming) : Rel (List (String × Value)) (List (String × Value)) :=
  ListRel (PairRel ρ.NameRel ValueRel)

variable {ρ : Naming} {w : World} {h h' : Heap} {a a' : Address} {v v' u u' : Value}
  {attrs attrs' : List (String × Value)} {seen seen' : List Address}

instance : Decides ρ.NameRel where
  eq_iff := by
    rintro _ _ _ _ _ rfl rfl
    exact ρ.injective.eq_iff.symm

theorem NameRel.isReserved {n n' : String} (hn : ρ.NameRel w n n') :
    isReserved n = isReserved n' := by
  cases e : Stepwise.isReserved n with
  | true => rw [← hn, ρ.reserved e, e]
  | false => rw [← hn, ρ.ordinary e]

namespace HeapRel

variable (H : ρ.HeapRel w h h')

include H

theorem object? (hv : ValueRel w v v') :
    OptionRel ρ.ObjectRel w (h.object? v) (h'.object? v') :=
  hv.address?.bind fun ha => H.get ha.1

theorem instance? (ha : w.addr a a') :
    OptionRel ρ.InstanceRel w (h.instance? a) (h'.instance? a') := by
  unfold Heap.instance?
  obtain ⟨e, e'⟩ | ⟨o, o', e, e', ho⟩ := (H.get ha.1).cases <;> simp only [e, e']
  · exact .none
  · cases ho with
    | inst hi => exact .some hi
    | _ => exact .none

theorem class? (ha : w.addr a a') : OptionRel ρ.ClassRel w (h.class? a) (h'.class? a') := by
  unfold Heap.class?
  obtain ⟨e, e'⟩ | ⟨o, o', e, e', ho⟩ := (H.get ha.1).cases <;> simp only [e, e']
  · exact .none
  · cases ho with
    | cls hc => exact .some hc
    | _ => exact .none

/-! ### Types -/

theorem classOf? (hv : ValueRel w v v') : OptionRel AddrRel w (h.classOf? v) (h'.classOf? v') :=
  hv.address?.bind fun ha => (H.instance? ha).bind fun hi => .some hi.cls

/-- Names that belong to the language are found at related places. -/
theorem classLookup? (ha : w.addr a a') {name : String} (hn : isReserved name = true) :
    OptionRel (PairRel ValueRel AddrRel) w (h.classLookup? a name) (h'.classLookup? a' name) :=
  (H.class? ha).bind fun hc => hc.mro.findSome? fun hb =>
    (H.class? hb).bind fun hc => (OrderedRel.get? hc.attrs (ρ.reserved hn)).bind
      fun hv => .some ⟨hv, hb⟩

theorem isCallable (hv : ValueRel w v v') : h.isCallable v = h'.isCallable v' := by
  cases hv with
  | ref ha =>
    unfold Heap.isCallable
    obtain ⟨e, e'⟩ | ⟨o, o', e, e', ho⟩ := (H.get ha.1).cases <;> simp only [e, e']
    cases ho with
    | inst hi => exact (H.classLookup? hi.cls (by decide +kernel)).isSome
    | _ => rfl
  | _ => rfl

/-- The name of a type that is no class of the script stays. -/
theorem typeName (hv : ValueRel w v v') (hc : h.classOf? v = none) :
    h.typeName v = h'.typeName v' := by
  have same := hv.inlineTypeName?
  cases hv with
  | ref ha =>
    unfold Heap.typeName Heap.object?
    obtain ⟨e, e'⟩ | ⟨o, o', e, e', ho⟩ := (H.get ha.1).cases <;>
      simp only [Value.inlineTypeName?, Value.address?, Option.bind_some, e, e']
    cases ho with
    | inst =>
      simp only [Heap.classOf?, Heap.instance?, Value.address?, Option.bind_eq_bind,
        Option.bind_some, e] at hc
      cases hc
    | _ => rfl
  | _ => rfl

/-- Values of one type are of one type on the other side. -/
theorem likeTyped (hv : ValueRel w v v') (hu : ValueRel w u u') :
    h.likeTyped v u = h'.likeTyped v' u' := by
  unfold Heap.likeTyped
  obtain ⟨e, e'⟩ | ⟨c, c', e, e', hc⟩ := (H.classOf? hv).cases <;>
    obtain ⟨f, f'⟩ | ⟨d, d', f, f', hd⟩ := (H.classOf? hu).cases <;> simp only [e, e', f, f']
  · rw [H.typeName hv e, H.typeName hu f]
  · exact Decides.beq hc hd

/-! ### Attributes -/

theorem attributesAt? (ha : w.place a a') :
    OptionRel ρ.EntriesRel w (h.attributesAt? a) (h'.attributesAt? a') := by
  have visible : ∀ {as as' : Namespace}, ρ.AttrsRel w as as' → ρ.EntriesRel w
      (as.entries.filter fun e => !isReserved e.1 && !h.isCallable e.2)
      (as'.entries.filter fun e => !isReserved e.1 && !h'.isCallable e.2) :=
    fun hs => hs.entries.filter fun he => by rw [he.fst.isReserved, H.isCallable he.snd]
  unfold Heap.attributesAt?
  obtain ⟨e, e'⟩ | ⟨o, o', e, e', ho⟩ := (H.get ha).cases <;> simp only [e, e']
  · exact .none
  · cases ho with
    | inst hi => exact .some (visible hi.attrs)
    | module hm => exact .some (visible hm.attrs)
    | _ => exact .none

theorem attributes? (hv : ValueRel w v v') :
    OptionRel ρ.EntriesRel w (h.attributes? v) (h'.attributes? v') :=
  hv.address?.bind fun ha => H.attributesAt? ha.1

theorem hasAttributes (hv : ValueRel w v v') : h.hasAttributes v = h'.hasAttributes v' :=
  (H.attributes? hv).isSome

theorem linksOf (hv : ValueRel w v v') : ρ.EntriesRel w (h.linksOf v) (h'.linksOf v') :=
  ListRel.filter ((H.attributes? hv).getD .nil) fun he => H.hasAttributes he.snd

end HeapRel

/-! ### Profiles -/

/-- Profiles with related names. -/
structure ProfileRel (ρ : Naming) (w : World) (p p' : Profile) : Prop where
  primitives : ListRel ρ.NameRel w p.primitives p'.primitives
  links : ListRel ρ.NameRel w p.links p'.links
  likewise : ListRel ρ.NameRel w p.likewise p'.likewise
  loops : ListRel ρ.NameRel w p.loops p'.loops
  total : p.total = p'.total

theorem ProfileRel.isNodeShaped {p p' : Profile} (hp : ρ.ProfileRel w p p') :
    p.isNodeShaped = p'.isNodeShaped := by
  rw [Profile.isNodeShaped, Profile.isNodeShaped, hp.primitives.isEmpty, hp.total]

theorem ProfileRel.isNode {p p' : Profile} (hp : ρ.ProfileRel w p p') : p.isNode = p'.isNode := by
  rw [Profile.isNode, Profile.isNode, hp.links.isEmpty, hp.total, hp.primitives.isEmpty,
    hp.likewise.isEmpty]

theorem isPrimitive_eq (hv : ValueRel w v v') : v.isPrimitive = v'.isPrimitive := by
  cases hv <;> rfl

namespace HeapRel

variable (H : ρ.HeapRel w h h')

include H

theorem profile (hv : ValueRel w v v') : ρ.ProfileRel w (h.profile v) (h'.profile v') := by
  have attrs : ρ.EntriesRel w ((h.attributes? v).getD []) ((h'.attributes? v').getD []) :=
    (H.attributes? hv).getD .nil
  have names : ∀ {es es'}, ρ.EntriesRel w es es' →
      ListRel ρ.NameRel w (es.map (·.1)) (es'.map (·.1)) := fun hs => hs.map fun he => he.fst
  exact ⟨names (attrs.filter fun he => isPrimitive_eq he.snd), names (H.linksOf hv),
    names ((H.linksOf hv).filter fun he => H.likeTyped hv he.snd),
    names ((H.linksOf hv).filter fun he => Decides.beq he.snd.address? hv.address?), attrs.length⟩

/-! ### Tags -/

theorem headNode? (hv : ValueRel w v v') :
    OptionRel ValueRel w (h.headNode? v) (h'.headNode? v') := by
  refine ((H.linksOf hv).find? fun he => ?_).map fun he => he.snd
  dsimp only
  rw [(H.classOf? hv).isNone, (H.profile he.snd).isNodeShaped, bne, bne,
    Decides.beq (H.classOf? he.snd) (H.classOf? hv)]

theorem listHead? (hv : ValueRel w v v') :
    OptionRel ValueRel w (h.listHead? v) (h'.listHead? v') := by
  have hp := H.profile hv
  unfold Heap.listHead?
  simp only [hp.total, hp.primitives.length]
  split
  · exact .none
  · exact H.headNode? hv

/-- The tag of an object with attributes names nothing. -/
theorem objectTag? (hv : ValueRel w v v') : h.objectTag? v = h'.objectTag? v' := by
  unfold Heap.objectTag?
  obtain ⟨e, e'⟩ | ⟨as, as', e, e', hs⟩ := (H.attributes? hv).cases <;> simp only [e, e']
  cases hs with
  | nil => rfl
  | cons =>
    dsimp only
    obtain ⟨f, f'⟩ | ⟨x, x', f, f', hx⟩ := (H.listHead? hv).cases <;> simp only [f, f']
    · rw [(H.profile hv).isNode, (H.profile hv).likewise.length]
    · rw [(H.profile hx).links.length]

end HeapRel

/-! ### Chains -/

/-- Links that lead to one node or to related objects. -/
inductive LinkRel (w : World) : Link → Link → Prop
  | back : LinkRel w .back .back
  | seen (id : Nat) : LinkRel w (.seen id) (.seen id)
  | fresh {b b'} (hb : w.addr b b') : LinkRel w (.fresh b) (.fresh b')

instance : Decides LinkRel where
  eq_iff h h' := by
    cases h with
    | fresh ha =>
      cases h' with
      | fresh hb => simpa using World.addr_eq_iff ha hb
      | _ => simp
    | _ => cases h' <;> simp

theorem LinkRel.fresh? {link link' : Link} (hl : LinkRel w link link') :
    OptionRel AddrRel w link.fresh? link'.fresh? := by
  cases hl with
  | fresh ha => exact .some ha
  | _ => exact .none

theorem toAddress_rel (hs : ListRel AddrRel w seen seen') (twoWay : Bool) (ha : w.addr a a') :
    LinkRel w (Link.toAddress seen twoWay a) (Link.toAddress seen' twoWay a') := by
  unfold Link.toAddress
  rw [hs.idxOf? ha, hs.length]
  split
  · exact .fresh ha
  · split
    · exact .back
    · exact .seen _

theorem nextOf_eq (limit next : Nat) {onward onward' : Option Link}
    (ho : OptionRel LinkRel w onward onward') :
    Heap.nextOf limit next onward = Heap.nextOf limit next onward' := by
  cases ho with
  | none => rfl
  | some hl => cases hl <;> rfl

theorem plain?_eq (hv : ValueRel w v v') (hp : v.isPrimitive = true) :
    h.plain? 1 v = h'.plain? 1 v' := by
  cases hv with
  | bool | int | float | str => simp [Heap.plain?, Heap.plainIn]
  | _ => cases hp

theorem payload_eq (ha : ρ.EntriesRel w attrs attrs') : h.payload attrs = h'.payload attrs' := by
  unfold Heap.payload
  obtain ⟨e, e'⟩ | ⟨⟨n, v⟩, ⟨n', v'⟩, e, e', he⟩ :=
    (ha.find? fun he => isPrimitive_eq he.snd).cases <;> simp only [e, e']
  have hp : v.isPrimitive = true :=
    List.find?_some (p := fun e : String × Value => e.2.isPrimitive) e
  rw [plain?_eq he.snd hp]

namespace HeapRel

variable (H : ρ.HeapRel w h h')

include H

theorem linksFrom (hs : ListRel AddrRel w seen seen') (ha : ρ.EntriesRel w attrs attrs') :
    ListRel LinkRel w (h.linksFrom seen attrs) (h'.linksFrom seen' attrs') := by
  have values : ValuesRel w (attrs.map (·.2)) (attrs'.map (·.2)) := ha.map fun he => he.snd
  have slots : h.slots attrs = h'.slots attrs' :=
    (values.filter fun hv => by rw [hv.isNone, H.hasAttributes hv]).length
  have targets := (values.filter fun hv => H.hasAttributes hv).filterMap fun hv => hv.address?
  refine targets.map fun ha => ?_
  show LinkRel w (Link.toAddress seen (h.slots attrs ≥ 2) _)
    (Link.toAddress seen' (h'.slots attrs' ≥ 2) _)
  rw [slots]
  exact toAddress_rel hs _ ha

theorem onward? (hs : ListRel AddrRel w seen seen') (ha : ρ.EntriesRel w attrs attrs') :
    OptionRel LinkRel w (h.onward? seen attrs) (h'.onward? seen' attrs') :=
  (H.linksFrom hs ha).find? fun hl => decide_eq_decide.2 (not_congr (Decides.eq_iff hl .back))

theorem nodeAt {visited visited' : List Address} (hs : ListRel AddrRel w visited visited')
    (ha : w.addr a a') (he : ρ.EntriesRel w attrs attrs') (next : Option Nat) :
    h.nodeAt visited a attrs next = h'.nodeAt visited' a' attrs' next := by
  have links := H.linksFrom (hs.append (.cons ha .nil)) he
  have payload : h.payload attrs = h'.payload attrs' := payload_eq he
  unfold Heap.nodeAt
  rw [hs.length, payload, links.contains .back]

theorem walk : ∀ (limit : Nat) {visited visited' : List Address} {start start' : Option Address},
    ListRel AddrRel w visited visited' → OptionRel AddrRel w start start' →
      ExceptRel AddrRel Same w (h.walk limit visited start) (h'.walk limit visited' start')
  | 0, _, _, _, _, _, _ => by
    simp only [Heap.walk]
    exact .ok rfl
  | limit + 1, _, _, _, _, _, .none => by
    rw [Heap.walk_none, Heap.walk_none]
    exact .ok rfl
  | limit + 1, visited, visited', _, _, hs, .some (a := a) (b := a') ha => by
    rw [Heap.walk_some, Heap.walk_some]
    obtain ⟨e, e'⟩ | ⟨as, as', e, e', he⟩ := (H.attributesAt? ha.1).cases <;> simp only [e, e']
    · exact .error ha
    have hs' : ListRel AddrRel w (visited ++ [a]) (visited' ++ [a']) := hs.append (.cons ha .nil)
    have onward := H.onward? hs' he
    rw [H.nodeAt hs ha he, hs.length, nextOf_eq _ _ onward]
    exact (walk limit hs' (onward.bind fun hl => hl.fresh?)).map (congrArg _)

theorem firstNode? (hv : ValueRel w v v') (t : Tag) :
    OptionRel ValueRel w (h.firstNode? v t) (h'.firstNode? v' t) := by
  unfold Heap.firstNode?
  rw [(H.profile hv).isNode]
  split
  · exact H.headNode? hv
  · split
    · exact .some hv
    · exact .none

theorem chainOf (hv : ValueRel w v v') (t : Tag) :
    (h.chainOf v t).unnamed = (h'.chainOf v' t).unnamed := by
  unfold Heap.chainOf
  have walked := H.walk Chain.limit .nil ((H.firstNode? hv t).bind fun hv => hv.address?)
  revert walked
  generalize h.walk _ _ _ = x, h'.walk _ _ _ = y
  intro walked
  cases walked with
  | ok same =>
    cases same
    rfl
  | error => rfl

theorem tagOf (hv : ValueRel w v v') : (h.tagOf v).unnamed = (h'.tagOf v').unnamed := by
  have other : ∀ {s s'},
      (if h.isCallable v then Tag.function
        else (h.objectTag? v).getD (.other s)).unnamed =
      (if h'.isCallable v' then Tag.function
        else (h'.objectTag? v').getD (.other s')).unnamed := by
    intro s s'
    rw [H.isCallable hv, H.objectTag? hv]
    split
    · rfl
    · cases h'.objectTag? v' <;> rfl
  have ho := H.object? hv
  cases hv with
  | none | bool | int | float | str | tuple => rfl
  | range | builtin =>
    unfold Heap.tagOf
    exact other
  | ref =>
    unfold Heap.tagOf
    obtain ⟨e, e'⟩ | ⟨o, o', e, e', ho⟩ := ho.cases <;> simp only [e, e']
    · exact other
    · cases ho with
      | list | dict => rfl
      | _ => exact other

end HeapRel

end Naming

/-! ### Main statement -/

theorem Chain.unnamed_of_error {c : Chain} (hc : c.error = none) : c.unnamed = c := by
  unfold unnamed
  rw [hc, Option.map_none, ← hc]

/-- With other names for classes and attributes, and all objects moved, a value that is moved along
gets the same tag up to the name of its type, and is drawn as the same chain. With any other tag it
is drawn as the same chain up to the address that an error shows. -/
theorem detection_renamed (ρ : Naming) (move : Address ≃ Address) {h h' : Heap}
    (H : ρ.HeapRel (.moved move) h h') {v v' : Value} (hv : ValueRel (.moved move) v v') :
    (h'.tagOf v').unnamed = (h.tagOf v).unnamed ∧
      h'.chainOf v' (h'.tagOf v') = h.chainOf v (h.tagOf v) ∧
      ∀ t, (h'.chainOf v' t).unnamed = (h.chainOf v t).unnamed := by
  have tags : (h.tagOf v).unnamed = (h'.tagOf v').unnamed := H.tagOf hv
  refine ⟨tags.symm, ?_, fun t => (H.chainOf hv t).symm⟩
  have chains : (h.chainOf v (h.tagOf v)).unnamed = (h'.chainOf v' (h'.tagOf v')).unnamed := by
    rw [← h'.chainOf_tag v', ← tags, h'.chainOf_tag v']
    exact H.chainOf hv _
  rw [← Chain.unnamed_of_error (h.chainOf_unbroken v), chains,
    Chain.unnamed_of_error (h'.chainOf_unbroken v')]

/-- Two names in each other's place. -/
def Naming.swap (m n : String) (hm : isReserved m = false) (hn : isReserved n = false) :
    Naming where
  name := Equiv.swap m n
  injective := (Equiv.swap m n).injective
  reserved {k} hk := Equiv.swap_apply_of_ne_of_ne (fun e => by simp [← e, hk] at hm)
    fun e => by simp [← e, hk] at hn
  ordinary {k} hk := by
    rw [Equiv.swap_apply_def]
    split
    · exact hn
    · split
      · exact hm
      · exact hk

/-! ### A list under other names -/

/-- The names of two attributes exchanged. -/
def Naming.headFirst : Naming := swap "head" "first" (by decide +kernel) (by decide +kernel)

namespace Heap

/-- A list on a heap, behind the classes of its nodes and its own. -/
def ofNodes (cls head : String) (first : Address) (nodes : List (Int × Value)) : Heap where
  objects := (some (.cls ⟨cls, [], [base], .empty, false⟩) ::
    some (.cls ⟨"List", [], [base + 1], .empty, false⟩) ::
    some (.inst ⟨base + 1, .ofList [(head, .ref first)], []⟩) ::
    nodes.map fun (n, next) =>
      some (.inst ⟨base, .ofList [("value", .int n), ("next", next)], []⟩)).toArray
  marks := 0

/-- A list of two nodes. -/
def twoNodes : Heap := ofNodes "Node" "head" (base + 3) [(1, .ref (base + 4)), (2, .none)]

/-- The same list under other names, its nodes in each other's place. -/
def twoMoved : Heap := ofNodes "Knot" "first" (base + 4) [(2, .none), (1, .ref (base + 3))]

theorem get?_of_lt {h : Heap} {a : Address} (ha : a < base) : h.get? a = none := if_pos ha

theorem get?_base_add (h : Heap) (k : Nat) : h.get? (base + k) = (h.objects[k]?).join := by
  simp [get?]

theorem twoMoved_rel :
    Naming.headFirst.HeapRel (.moved (Equiv.swap (base + 3) (base + 4))) twoNodes twoMoved where
  get {a a'} ha := by
    obtain rfl : Equiv.swap (base + 3) (base + 4) a = a' := ha
    have stays : ∀ k : Nat, k ≠ 3 → k ≠ 4 →
        Equiv.swap (base + 3) (base + 4) (base + k) = base + k := fun k h3 h4 =>
      Equiv.swap_apply_of_ne_of_ne (by simpa using h3) (by simpa using h4)
    have name : ∀ {n}, n ≠ "head" → n ≠ "first" → Naming.headFirst.name n = n :=
      Equiv.swap_apply_of_ne_of_ne
    have value : Naming.headFirst.name "value" = "value" := name (by decide) (by decide)
    have next : Naming.headFirst.name "next" = "next" := name (by decide) (by decide)
    have stays0 := stays 0 (by decide) (by decide)
    have stays1 := stays 1 (by decide) (by decide)
    obtain below | ⟨k, rfl⟩ : a < base ∨ ∃ k : Nat, a = base + k :=
      (Nat.lt_or_ge a base).imp_right Nat.exists_eq_add_of_le
    · have e3 : a ≠ base + 3 := Nat.ne_of_lt (Nat.lt_add_right 3 below)
      have e4 : a ≠ base + 4 := Nat.ne_of_lt (Nat.lt_add_right 4 below)
      rw [Equiv.swap_apply_of_ne_of_ne e3 e4, get?_of_lt below, get?_of_lt below]
      exact .none
    · match k with
      | 0 =>
        rw [stays0, get?_base_add, get?_base_add]
        exact .some (.cls ⟨.nil, .cons ⟨stays0, trivial⟩ .nil, .nil, rfl⟩)
      | 1 =>
        rw [stays1, get?_base_add, get?_base_add]
        exact .some (.cls ⟨.nil, .cons ⟨stays1, trivial⟩ .nil, .nil, rfl⟩)
      | 2 =>
        rw [stays 2 (by decide) (by decide), get?_base_add, get?_base_add]
        have head : Naming.headFirst.name "head" = "first" := Equiv.swap_apply_left ..
        exact .some (.inst ⟨⟨stays1, trivial⟩,
          .cons ⟨head, .ref ⟨Equiv.swap_apply_left .., trivial⟩⟩ .nil, .nil⟩)
      | 3 =>
        rw [Equiv.swap_apply_left, get?_base_add, get?_base_add]
        exact .some (.inst ⟨⟨stays0, trivial⟩, .cons ⟨value, .int 1⟩
          (.cons ⟨next, .ref ⟨Equiv.swap_apply_right .., trivial⟩⟩ .nil), .nil⟩)
      | 4 =>
        rw [Equiv.swap_apply_right, get?_base_add, get?_base_add]
        exact .some (.inst ⟨⟨stays0, trivial⟩, .cons ⟨value, .int 2⟩
          (.cons ⟨next, .none⟩ .nil), .nil⟩)
      | k + 5 =>
        rw [stays (k + 5) (by omega) (by omega), get?_base_add, get?_base_add]
        exact .none

end Heap

theorem detection_renamed_twoNodes :
    Heap.twoNodes.tagOf (.ref (Heap.base + 2)) = .linkedList ∧
      (Heap.twoMoved.tagOf (.ref (Heap.base + 2))).unnamed =
        (Heap.twoNodes.tagOf (.ref (Heap.base + 2))).unnamed ∧
      Heap.twoMoved.chainOf (.ref (Heap.base + 2)) (Heap.twoMoved.tagOf (.ref (Heap.base + 2))) =
        Heap.twoNodes.chainOf (.ref (Heap.base + 2))
          (Heap.twoNodes.tagOf (.ref (Heap.base + 2))) ∧
      ∀ t, (Heap.twoMoved.chainOf (.ref (Heap.base + 2)) t).unnamed =
        (Heap.twoNodes.chainOf (.ref (Heap.base + 2)) t).unnamed := by
  have list : (World.moved (Equiv.swap (Heap.base + 3) (Heap.base + 4))).addr (Heap.base + 2)
      (Heap.base + 2) :=
    ⟨Equiv.swap_apply_of_ne_of_ne (by simp) (by simp), trivial⟩
  exact ⟨by decide +kernel, detection_renamed _ _ Heap.twoMoved_rel (.ref list)⟩

end Stepwise
