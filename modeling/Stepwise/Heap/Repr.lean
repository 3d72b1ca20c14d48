import Stepwise.Decimal.Layout
import Stepwise.Heap.Class
import Stepwise.Text.Quoted

/-!
# Values as text

The text of a value, computed from the heap alone: no function of the script runs. A container
that is met again inside itself is written as dots.

## The model

`reprIn` carries the addresses of the containers around the value. A method that is bound to an
object shows that object as if nothing were around it, so a value can be built whose text would
have no end; `reprIn` therefore takes a bound on its depth and has no result if that is too
small.
-/

namespace Stepwise.Heap

open Decimal Text

/-- An address in a text. -/
def addressText (a : Address) : String := "0x" ++ natText 16 a

/-- A container inside itself. -/
def cycleText : Object → String
  | .dict _ => "\x7b...\x7d"
  | .set _ => "set(...)"
  | _ => "[...]"

/-- A list. -/
def listText (parts : List String) : String := "[" ++ String.intercalate ", " parts ++ "]"

/-- A tuple; a single item is followed by a comma. -/
def tupleText (parts : List String) : String :=
  match parts with
  | [part] => "(" ++ part ++ ",)"
  | _ => "(" ++ String.intercalate ", " parts ++ ")"

/-- Parts between braces. -/
def bracesText (parts : List String) : String :=
  "\x7b" ++ String.intercalate ", " parts ++ "\x7d"

/-- A set; there is no way to write an empty one between braces. -/
def setText (parts : List String) : String :=
  if parts.isEmpty then "set()" else bracesText parts

/-- A value that holds no other values. -/
def leafText : Value → String
  | .none => "None"
  | .bool true => "True"
  | .bool false => "False"
  | .int n => intText n
  | .float x => scriptLayout.text x
  | .str s => literal s
  | .range start stop step =>
    "range(" ++ intText start ++ ", " ++ intText stop
      ++ (if step = 1 then "" else ", " ++ intText step) ++ ")"
  | .builtin b =>
    if b.isType then "<class '" ++ b.name ++ "'>" else "<built-in function " ++ b.name ++ ">"
  | .tuple _ _ | .ref _ => ""

/-- The name of a function on the heap. -/
def functionName (h : Heap) (a : Address) : String :=
  match h.closure? a with
  | some f => f.definition.name
  | none => "?"

/-- The text of a value inside the containers `around`, at most `fuel` levels deep. -/
def reprIn (h : Heap) (around : List Address) (fuel : Nat) (v : Value) : Option String :=
  match fuel, v with
  | 0, _ => none
  | fuel + 1, .tuple _ items => do return tupleText (← items.mapM (reprIn h around fuel))
  | fuel + 1, .ref a =>
    match h.get? a with
    | none => some "<freed object>"
    | some o =>
      let inside := reprIn h (a :: around) fuel
      if around.contains a then some (cycleText o)
      else match o with
        | .list items => do return listText (← items.toList.mapM inside)
        | .dict t => do
          let parts ← t.pairs.mapM fun e => return (← inside e.1) ++ ": " ++ (← inside e.2)
          return bracesText parts
        | .set t => do return setText (← t.members.mapM inside)
        | .inst i =>
          if h.isExceptionClass i.cls then do
            let parts ← i.args.mapM inside
            return h.className i.cls ++ "(" ++ String.intercalate ", " parts ++ ")"
          else some ("<__main__." ++ h.className i.cls ++ " object at " ++ addressText a ++ ">")
        | .cls c => some ("<class '" ++ (if c.builtin then "" else "__main__.") ++ c.name ++ "'>")
        | .func f => some ("<function " ++ f.definition.name ++ " at " ++ addressText a ++ ">")
        | .boundMethod receiver function => do
          let shown ← reprIn h [] fuel receiver
          return "<bound method " ++ h.typeName receiver ++ "." ++ h.functionName function
            ++ " of " ++ shown ++ ">"
        | .nativeMethod receiver name =>
          some ("<built-in method " ++ name ++ " of " ++ h.typeName receiver ++ " object>")
        | .super cls _ => some ("<super: <class '" ++ h.className cls ++ "'>>")
        | .module m => some ("<module '" ++ m.name ++ "' (built-in)>")
        | .scope _ => some ("<cell at " ++ addressText a ++ ">")
  | _ + 1, v => some (leafText v)

/-- Whether the text of a value inside the containers `around` has an address in it. -/
def showsIn (h : Heap) (around : List Address) (fuel : Nat) (v : Value) : Bool :=
  match fuel, v with
  | 0, _ => false
  | fuel + 1, .tuple _ items => items.any (showsIn h around fuel)
  | fuel + 1, .ref a =>
    match h.get? a with
    | none => false
    | some o =>
      let inside := showsIn h (a :: around) fuel
      if around.contains a then false
      else match o with
        | .list items => items.toList.any inside
        | .dict t => t.pairs.any fun e => inside e.1 || inside e.2
        | .set t => t.members.any inside
        | .inst i => if h.isExceptionClass i.cls then i.args.any inside else true
        | .func _ | .scope _ => true
        | .boundMethod receiver _ => showsIn h [] fuel receiver
        | _ => false
  | _ + 1, _ => false

/-- Whether the text of a value has an address in it, as far as `fuel` levels deep. -/
def showsAddress (h : Heap) (fuel : Nat) (v : Value) : Bool := showsIn h [] fuel v

/-- The text of a value; none if it nests more than `fuel` deep. -/
def repr? (h : Heap) (fuel : Nat) (v : Value) : Option String := reprIn h [] fuel v

end Stepwise.Heap
