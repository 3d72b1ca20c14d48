import Stepwise.Eval.Argument
import Stepwise.Eval.Write
import Stepwise.Text.Cut

/-!
# Methods of strings
-/

namespace Stepwise

open Text

variable {σ : Type} (r : Runner σ)

/-- A text as a value. -/
def textValue (cs : List Char) : Value := .str (String.ofList cs)

/-- `sep.join(parts)`: the parts have to be strings; `n` of them have been seen. -/
def joinParts : (n : Nat) → List Value → M σ (List (List Char))
  | _, [] => return []
  | n, .str s :: vs => return s.toList :: (← joinParts (n + 1) vs)
  | n, v :: _ => failType (.stringItem n) v

/-- The options of a split given by name: separator and greatest number of cuts. -/
def splitOptions : Keywords → Value → Int → M σ (Value × Int)
  | [], sep, limit => return (sep, limit)
  | (key, v) :: rest, sep, limit =>
    match key with
    | "sep" => splitOptions rest v limit
    | "maxsplit" => do splitOptions rest sep (← indexValue v)
    | _ => fail (.type (.badKeyword key "split"))

/-- A count, none if it is negative. -/
def natural? (n : Int) : Option Nat := if n < 0 then none else some n.toNat

/-- `s.split(sep, limit)`. -/
def strSplit (cs : List Char) (args : List Value) (keywords : Keywords) : M σ Value := do
  let limit ← match args[1]? with
    | some v => indexValue v
    | none => pure (-1)
  let (sep, limit) ← splitOptions keywords (argument args 0) limit
  match sep with
  | .none => makeList ((words (natural? limit) cs).map textValue)
  | .str "" => fail (.value .emptySeparator)
  | .str sep => makeList ((splitOn sep.toList (natural? limit) cs).map textValue)
  | v => failType .separator v

/-- The characters that a strip takes off. -/
def stripped (name : String) (args : List Value) : M σ (Char → Bool) :=
  match args with
  | [] | .none :: _ => return isSpace
  | v :: _ => do
    let set := (← strArgument name v).toList
    return set.contains

/-- `s.replace(old, new, count)`. -/
def strReplace (cs : List Char) (args : List Value) : M σ Value := do
  let old ← strArgument "replace" (argument args 0)
  let new ← strArgument "replace" (argument args 1)
  let limit ← match args[2]? with
    | some v => pure (natural? (← indexValue v))
    | none => pure none
  return textValue (replace old.toList new.toList limit cs)

/-- Whether a text has one of some beginnings or endings. -/
def hasAffix (name : String) (p : List Char → Bool) : List Value → M σ Bool
  | [] => return false
  | v :: vs => do
    if p (← strArgument name v).toList then return true else hasAffix name p vs

/-- `s.startswith(options)` and `s.endswith(options)`. -/
def strAffix (name : String) (p : List Char → Bool) (v : Value) : M σ Value := do
  let options := match v with
    | .tuple _ items => items
    | v => [v]
  return .bool (← hasAffix name p options)

/-- A position in a text as a value; -1 if there is none. -/
def positionValue : Option Nat → Value
  | some n => .int n
  | none => .int (-1)

/-- The character that fills up a text. -/
def fillArgument (name : String) (args : List Value) : M σ Char :=
  match args[1]? with
  | none => return ' '
  | some v => do
    match (← strArgument name v).toList with
    | [c] => return c
    | _ => fail (.type .fillCharacter)

/-- `s.center(width, fill)` and the like. -/
def strAlign (name : String) (f : Char → Nat → List Char → List Char) (cs : List Char)
    (args : List Value) : M σ Value := do
  arity name args 1 2
  let width := (← indexValue (argument args 0)).toNat
  let c ← fillArgument name args
  return textValue (if cs.length ≥ width then cs else f c width cs)

/-- `s.partition(sep)`. -/
def strPartition (cs : List Char) (v : Value) : M σ Value := do
  let sep := (← strArgument "partition" v).toList
  if sep.isEmpty then fail (.value .emptySeparator)
  else match cut? sep cs with
    | some (before, behind) =>
      makeTuple [textValue before, textValue sep, textValue behind]
    | none => makeTuple [textValue cs, .str "", .str ""]

/-- The methods without arguments that ask something about a text. -/
def strQuestion? (name : String) (cs : List Char) : Option Bool :=
  let every (p : Char → Bool) : Option Bool := some (!cs.isEmpty && cs.all p)
  match name with
  | "isdigit" => every Char.isDigit
  | "isalpha" => every isAlphabetic
  | "isalnum" => every isAlphanumeric
  | "isspace" => every isSpace
  | "isupper" => some (noLetter isLower cs)
  | "islower" => some (noLetter isUpper cs)
  | _ => none

/-- The methods without arguments that change the case of a text. -/
def strCase? (name s : String) : Option String :=
  match name with
  | "lower" => some (toLower s)
  | "upper" => some (toUpper s)
  | "title" => some (String.ofList (titleFrom false s.toList))
  | "capitalize" => some (String.ofList (capitalize s.toList))
  | _ => none

/-- The methods that look for a text. -/
def strSearch (name : String) (cs : List Char) (args : List Value) : M σ Value := do
  arity name args 1 1
  let needle := (← strArgument name (argument args 0)).toList
  match name with
  | "find" => return positionValue (indexOf? needle cs)
  | "rfind" => return positionValue (lastIndexOf? needle cs)
  | "count" => return .int (countIn needle cs)
  | _ =>
    match indexOf? needle cs with
    | some n => return .int n
    | none => fail (.value .substring)

/-- The methods that take a text apart, put it together or fill it up. -/
def strChange (s name : String) (args : List Value) (keywords : Keywords) : M σ Value := do
  let cs := s.toList
  match name with
  | "join" => do
    arity name args 1 1
    return textValue (cs.intercalate (← joinParts 0 (← r.iterate (argument args 0))))
  | "split" => strSplit cs args keywords
  | "splitlines" => do
    arity name args 0 0
    makeList ((lines s).map .str)
  | "strip" => do
    arity name args 0 1
    let p ← stripped name args
    return textValue (stripEnd p (stripStart p cs))
  | "lstrip" => do
    arity name args 0 1
    return textValue (stripStart (← stripped name args) cs)
  | "rstrip" => do
    arity name args 0 1
    return textValue (stripEnd (← stripped name args) cs)
  | "replace" => do
    arity name args 2 3
    strReplace cs args
  | "startswith" => do
    arity name args 1 1
    strAffix name (·.isPrefixOf cs) (argument args 0)
  | "endswith" => do
    arity name args 1 1
    strAffix name (·.isSuffixOf cs) (argument args 0)
  | "format" => return .str (← formatTemplate r s args keywords)
  | "zfill" => do
    arity name args 1 1
    return textValue (zeroFill (← indexValue (argument args 0)).toNat cs)
  | "center" => strAlign name center cs args
  | "ljust" => strAlign name (fun c w cs => cs ++ fill c (w - cs.length)) cs args
  | "rjust" => strAlign name (fun c w cs => fill c (w - cs.length) ++ cs) cs args
  | "partition" => do
    arity name args 1 1
    strPartition cs (argument args 0)
  | _ => fail (.noAttribute (.ofObject "str" name))

/-- A method of a string. -/
def strMethod (s name : String) (args : List Value) (keywords : Keywords) : M σ Value := do
  match strQuestion? name s.toList with
  | some b => do
    arity name args 0 0
    return .bool b
  | none =>
    match strCase? name s with
    | some text => do
      arity name args 0 0
      return .str text
    | none =>
      if ["find", "rfind", "index", "count"].contains name then strSearch name s.toList args
      else strChange r s name args keywords

end Stepwise
