import Stepwise.Json.Read
import Stepwise.Trace.Entry

/-!
# Reading traces

The trace that a JSON value stands for.

## The model

Whatever has named parts may come as an object or as an array of its parts in their order. In an
object, unknown names are ignored, no known name may come twice, and parts that may be missing are
missing without harm; an array has all parts, except for one that is left out at its end.

A variable whose value has the form of a chain is read as one. Any other value stands for itself.
-/

namespace Stepwise

namespace Json

/-- The integer that is not negative and has 64 bits. -/
def nat? : Json → Option Nat
  | int n => if 0 ≤ n ∧ n < 0x10000000000000000 then some n.toNat else none
  | _ => none

/-- The string. -/
def str? : Json → Option String
  | str s => some s
  | _ => none

/-- The truth value. -/
def bool? : Json → Option Bool
  | bool b => some b
  | _ => none

/-- What `read` makes of a value, unless it is null. -/
def optional? {α : Type} (read : Json → Option α) : Json → Option (Option α)
  | null => some none
  | v => (read v).map some

/-- A choice between names: a name, or an object with the name as its only member and a value
without content. -/
def choice? {α : Type} (named : String → Option α) (isVoid : Json → Bool) : Json → Option α
  | str s => named s
  | obj [(s, v)] => if isVoid v then named s else none
  | _ => none

/-- Whether a value is null. -/
def isNull : Json → Bool
  | null => true
  | _ => false

/-- Whether a value is null or an object without members. -/
def isVoid : Json → Bool
  | null | obj [] => true
  | _ => false

/-- The values of some names in an object; none if one of the names comes twice. -/
def parts? (names : List String) (members : List (String × Json)) : Option (List (Option Json)) :=
  names.mapM fun name =>
    match members.filter (·.1 == name) with
    | [] => some none
    | [m] => some (some m.2)
    | _ => none

/-- A part that has to be there. -/
def required? {α : Type} (read : Json → Option α) (v : Option Json) : Option α := v.bind read

/-- A part that may be missing. -/
def missing? {α : Type} (read : Json → Option α) : Option Json → Option (Option α)
  | none => some none
  | some v => optional? read v

/-- The named values of an object; each name keeps its first place and takes its last value. -/
def bindings? {α : Type} (read : Json → Option α) : Json → Option (Ordered String α)
  | obj members => do
    let values ← members.mapM fun (name, v) => return (name, ← read v)
    return .ofList values
  | _ => none

/-- The parts of something with named parts: the members of an object, or the items of an array,
which has at least `least` of them. -/
def fields? (names : List String) (least : Nat) : Json → Option (List (Option Json))
  | obj members => parts? names members
  | arr items =>
    if least ≤ items.length ∧ items.length ≤ names.length then
      some (items.map some ++ List.replicate (names.length - items.length) none)
    else none
  | _ => none

end Json

open Json

/-- A node of a chain. -/
def Node.ofJson? (j : Json) : Option Node := do
  match ← fields? ["id", "value", "next", "prev"] 4 j with
  | [id, value, next, prev] =>
    return ⟨← required? nat? id, (← value).settled, ← missing? nat? next, ← missing? nat? prev⟩
  | _ => none

/-- The kind of chain with a name: whether it has links in both directions. -/
def Chain.kindNamed? (name : String) : Option Bool :=
  if name = kindName true then some true
  else if name = kindName false then some false
  else none

/-- The items of an array, each read by `read`. -/
def Json.items? {α : Type} (read : Json → Option α) : Json → Option (List α)
  | .arr items => items.mapM read
  | _ => none

/-- A chain. -/
def Chain.ofJson? (j : Json) : Option Chain := do
  match ← fields? ["type", "head", "nodes", "error"] 3 j with
  | [kind, head, nodes, error] =>
    return ⟨← required? (choice? kindNamed? isNull) kind, ← missing? nat? head,
      ← required? (items? Node.ofJson?) nodes, ← missing? str? error⟩
  | _ => none

/-- The value of a variable. -/
def Shown.ofJson (j : Json) : Shown :=
  match Chain.ofJson? j with
  | some c => .chain c
  | none => .plain j.settled

/-- The scope with a name. -/
def LineScope.named? : String → Option LineScope
  | "function" => some function
  | "loop" => some loop
  | "conditional" => some conditional
  | _ => none

/-- A frame. -/
def Snapshot.ofJson? (j : Json) : Option Snapshot := do
  let names := ["line", "function", "locals", "var_types", "scope", "depth", "branch_taken"]
  match ← fields? names 7 j with
  | [line, function, locals, tags, scope, depth, branch] =>
    return ⟨← required? nat? line, ← required? str? function,
      ← required? (bindings? fun v => some (Shown.ofJson v)) locals,
      ← required? (bindings? fun v => v.str?.map Tag.named) tags,
      ← missing? (choice? LineScope.named? isVoid) scope,
      ← required? nat? depth, ← missing? bool? branch⟩
  | _ => none

/-- Something with one text as its only part. -/
def Json.textPart? (name : String) (j : Json) : Option String := do
  match ← fields? [name] 1 j with
  | [text] => required? str? text
  | _ => none

/-- The entry of a kind whose parts are given. -/
def Entry.ofParts? (event : String) (parts : Json) : Option Entry :=
  match event with
  | "call" => (Snapshot.ofJson? parts).map (.step .call)
  | "line" => (Snapshot.ofJson? parts).map (.step .line)
  | "return" => (Snapshot.ofJson? parts).map (.step .return_)
  | "print" => (textPart? "output" parts).map .print
  | "exception" => (textPart? "error" parts).map .exception
  | _ => none

/-- An entry: an object whose member `event` says which kind it is, or an array that starts with
the kind. -/
def Entry.ofJson? : Json → Option Entry
  | .obj members => do
    match members.filter (·.1 == "event") with
    | [(_, .str event)] => ofParts? event (.obj (members.filter (·.1 != "event")))
    | _ => none
  | .arr (.str event :: parts) => ofParts? event (.arr parts)
  | _ => none

/-- A trace. -/
def Trace.ofJson? : Json → Option Trace := items? Entry.ofJson?

/-- The trace in a text. -/
def Trace.ofText? (s : String) : Option Trace := (Json.ofText? s).bind ofJson?

end Stepwise
