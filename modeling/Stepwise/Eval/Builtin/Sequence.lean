import Stepwise.Eval.Argument
import Stepwise.Eval.Method.Table
import Stepwise.Eval.Sort
import Stepwise.Number.Integer

/-!
# Built-in functions of iterables

Everything that would be computed item by item is computed at once: what `map`, `zip` and the like
give is a list.
-/

namespace Stepwise

variable {σ : Type} (r : Runner σ)

/-- Whether one of some values has the truth `want`. -/
def anyTruth (want : Bool) : List Value → M σ Bool
  | [] => return false
  | v :: vs => do if (← truthy r v) == want then return true else anyTruth want vs

/-- `all(items)` and `any(items)`: `want` is the truth that decides at once. -/
def builtinQuantifier (want : Bool) (v : Value) : M σ Value := do
  return .bool ((← anyTruth r want (← r.iterate v)) == want)

/-- The first number of an `enumerate` call given by name. -/
def enumerateStart : Keywords → Int → M σ Int
  | [], start => return start
  | (key, v) :: rest, _ =>
    if key = "start" then do enumerateStart rest (← indexValue v)
    else fail (.type (.badKeyword key "enumerate"))

/-- Values with their numbers, from `n` on. -/
def numbered (n : Int) : List Value → List Value → M σ Value
  | [], done => makeList done.reverse
  | v :: vs, done => do
    let i ← lift (exact n)
    numbered (n + 1) vs ((← makeTuple [.int i, v]) :: done)

/-- `enumerate(items, start)`. -/
def builtinEnumerate (args : List Value) (keywords : Keywords) : M σ Value := do
  let named ← enumerateStart keywords 0
  let (items, rest) ← firstArgument "enumerate" args
  let start ← match rest with
    | v :: _ => indexValue v
    | [] => pure named
  numbered start (← r.iterate items) []

/-- The values that a function accepts; without a function, those that are true. -/
def accepted (f : Value) : List Value → List Value → M σ (List Value)
  | [], done => return done.reverse
  | v :: vs, done => do
    let verdict ← if f.isNone then pure v else r.call f [v] []
    if ← truthy r verdict then accepted f vs (v :: done) else accepted f vs done

/-- `filter(f, items)`. -/
def builtinFilter (f v : Value) : M σ Value := do
  makeList (← accepted r f (← r.iterate v) [])

/-- The rows of some columns, as many as the shortest column has. -/
def rows (columns : List (List Value)) : List (List Value) :=
  let columns := columns.map List.toArray
  match (columns.map Array.size).min? with
  | some n => (List.range n).map fun i => columns.map (·.getD i .none)
  | none => []

/-- The results of calling a function with some lists of arguments. -/
def callAll (f : Value) : List (List Value) → List Value → M σ (List Value)
  | [], done => return done.reverse
  | args :: rest, done => do callAll f rest ((← r.call f args []) :: done)

/-- `map(f, …)`. -/
def builtinMap (args : List Value) : M σ Value := do
  let (f, iterables) ← firstArgument "map" args
  if iterables.isEmpty then fail (.type .mapArguments)
  else do
    let columns ← iterables.mapM r.iterate
    makeList (← callAll r f (rows columns) [])

/-- `zip(…)`. -/
def builtinZip (args : List Value) : M σ Value := do
  let columns ← args.mapM r.iterate
  makeList (← (rows columns).mapM makeTuple)

/-- `sorted(items, key=…, reverse=…)`. -/
def builtinSorted (args : List Value) (keywords : Keywords) : M σ Value := do
  let v ← oneArgument "sorted" args
  let (key, reverse) ← sortOptions r "sorted" keywords none false
  makeList (← sortValues r (← r.iterate v) key reverse)

/-! ### Smallest and largest -/

/-- The options of `max` and `min`: the key and the answer for nothing. -/
def extremeOptions (callee : String) :
    Keywords → Option Value → Option Value → M σ (Option Value × Option Value)
  | [], key, default => return (key, default)
  | (name, v) :: rest, key, default =>
    match name with
    | "key" => extremeOptions callee rest (if v.isNone then none else some v) default
    | "default" => extremeOptions callee rest key (some v)
    | _ => fail (.type (.badKeyword name callee))

/-- The first value whose key none of the others exceeds; `best` is the best so far, with its
key. -/
def extreme (largest : Bool) (key : Option Value) :
    Option (Value × Value) → List Value → M σ (Option Value)
  | best, [] => return best.map (·.2)
  | none, v :: vs => do
    let k ← keyFor r key v
    extreme largest key (some (k, v)) vs
  | some (bestKey, best), v :: vs => do
    let k ← keyFor r key v
    let better ← if largest then r.lessThan bestKey k else r.lessThan k bestKey
    extreme largest key (some (if better then (k, v) else (bestKey, best))) vs

/-- `max(…)` and `min(…)`. -/
def builtinExtreme (largest : Bool) (args : List Value) (keywords : Keywords) : M σ Value := do
  let callee := if largest then "max" else "min"
  let (key, default) ← extremeOptions callee keywords none none
  let items ← match args with
    | [] => fail (.type (.atLeast callee 1 0))
    | [v] => r.iterate v
    | args => pure args
  match (← extreme r largest key none items).or default with
  | some v => return v
  | none => fail (.value (.emptyExtreme callee))

/-! ### Containers -/

/-- `dict(source, …)`. -/
def builtinDict (args : List Value) (keywords : Keywords) : M σ Value := do
  let named := keywords.map fun (k, v) => (Value.str k, v)
  match ← optionalArgument "dict" args with
  | none => makeDict named
  | some v => makeDict ((← entriesOf r v) ++ named)

/-- A container type called with an iterable. -/
def builtinCollect (name : String) (build : List Value → M σ Value) (args : List Value) :
    M σ Value := do
  match ← optionalArgument name args with
  | none => build []
  | some v => build (← r.iterate v)

/-- The length that `__len__` has returned. -/
def lengthResult (v : Value) : M σ Int :=
  match v with
  | .int n => if n < 0 then fail (.value .negativeLength) else return n
  | v => failType .notInteger v

/-- `len(v)` of an object on the heap. -/
def objectLength (v : Value) (a : Address) : M σ Int := do
  match (← getHeap).get? a with
  | some (.list items) => return items.size
  | some (.dict t) | some (.set t) => return t.size
  | some (.inst _) =>
    match ← callSpecial r v "__len__" [] with
    | some n => lengthResult n
    | none => failType .noLength v
  | _ => failType .noLength v

/-- `len(v)`. -/
def lengthOf (v : Value) : M σ Int := do
  match v with
  | .str s => return s.length
  | .tuple _ items => return items.length
  | .range start stop step => return countOf (rangeLen start stop step)
  | .ref a => objectLength r v a
  | v => failType .noLength v

end Stepwise
