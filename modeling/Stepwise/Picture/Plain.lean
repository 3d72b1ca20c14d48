import Stepwise.Heap.Repr
import Stepwise.Json.Basic

/-!
# Values as JSON

What a picture shows of a value that is not a linked list: numbers, strings, arrays and objects as
themselves, and everything else as its text. A container inside itself is shown as dots.
-/

namespace Stepwise.Heap

/-- The text of a key as the name of a member. -/
def memberName? (h : Heap) (fuel : Nat) : Value → Option String
  | .str s => some s
  | .int n => some (Text.intText n)
  | .bool b => some (if b then "true" else "false")
  | .none => some "null"
  | .float x =>
    some (if x.isNaN then "NaN"
      else if x.isInf then if x > 0 then "Infinity" else "-Infinity"
      else Decimal.scriptLayout.text x)
  | v => h.repr? fuel v

/-- A double; the text of one that is not finite. -/
def numberJson (x : Float) : Json :=
  if x.isFinite then .float x else .str (Decimal.scriptLayout.text x)

/-- A container inside itself. -/
def cycleMark : Object → String
  | .dict _ => "\x7b...\x7d"
  | _ => "[...]"

/-- A value inside the objects `around`, at most `fuel` levels deep. -/
def plainIn (h : Heap) (around : List Address) (fuel : Nat) (v : Value) : Option Json :=
  match fuel, v with
  | 0, _ => none
  | _ + 1, .none => some .null
  | _ + 1, .bool b => some (.bool b)
  | _ + 1, .int n => some (.int n)
  | _ + 1, .float x => some (numberJson x)
  | _ + 1, .str s => some (.str s)
  | fuel + 1, .tuple _ items => (items.mapM (plainIn h around fuel)).map .arr
  | fuel + 1, .ref a =>
    let text := (h.repr? fuel v).map Json.str
    match h.get? a with
    | none => text
    | some o =>
      let inside := plainIn h (a :: around) fuel
      if around.contains a then some (.str (cycleMark o))
      else match o with
        | .list items => (items.toList.mapM inside).map .arr
        | .set t => (t.members.mapM inside).map .arr
        | .dict t => do
          let members ← t.pairs.mapM fun (k, v) =>
            return (← h.memberName? fuel k, ← inside v)
          return .obj (Ordered.ofList members).entries
        | .inst _ | .module _ => some (.str ("<" ++ h.typeName v ++ " object>"))
        | _ => text
  | fuel + 1, v => (h.repr? fuel v).map .str

/-- A value as JSON; none if it nests more than `fuel` deep. -/
def plain? (h : Heap) (fuel : Nat) (v : Value) : Option Json := plainIn h [] fuel v

end Stepwise.Heap
