import Stepwise.Machine.Task
import Stepwise.Picture.Chain

/-!
# Traces

What is recorded of a run: for every step the variables of the frame that runs, and at the end what
was printed and the error that nothing has caught. As JSON a trace is an array with an object for
every entry. The first member of an entry says what kind of event it is; members that have no value
are null.
-/

namespace Stepwise

/-- What the first word of a source line says about the line. -/
inductive LineScope where
  | function | loop | conditional
  deriving DecidableEq, Repr

/-- The name of a scope. -/
def LineScope.name : LineScope → String
  | function => "function"
  | loop => "loop"
  | conditional => "conditional"

/-- A value as a trace shows it. -/
inductive Shown where
  /-- A linked list or a node of one. -/
  | chain (c : Chain)
  /-- Any other value. -/
  | plain (j : Json)

/-- A frame at an event. -/
structure Snapshot where
  /-- The line that runs. -/
  line : Nat
  /-- The name of the function. -/
  function : String
  /-- Its variables, functions and classes apart. -/
  locals : Ordered String Shown
  /-- Their tags. -/
  tags : Ordered String Tag
  /-- What the line is. -/
  scope : Option LineScope
  /-- The number of recorded calls that have not returned. -/
  depth : Nat
  /-- The outcome of the condition on the line. -/
  branch : Option Bool

/-- An entry of a trace. -/
inductive Entry where
  /-- An event in a frame. -/
  | step (kind : EventKind) (s : Snapshot)
  /-- Everything that was printed, without the blanks around it. -/
  | print (output : String)
  /-- An error that ended the run, or kept it from starting. -/
  | exception (error : String)

/-- What is recorded of a run, in the order of the run. -/
abbrev Trace := List Entry

namespace Entry

/-- The name of the event. -/
def event : Entry → String
  | step kind _ => kind.name
  | print _ => "print"
  | exception _ => "exception"

/-- The frame of an event. -/
def snapshot? : Entry → Option Snapshot
  | step _ s => some s
  | _ => none

end Entry

/-! ### Traces as JSON -/

/-- A node of a chain. -/
def Node.json (n : Node) : Json :=
  .obj [("id", .nat n.id), ("value", n.value), ("next", .option .nat n.next),
    ("prev", .option .nat n.prev)]

/-- The name of a kind of chain. -/
def Chain.kindName (doubly : Bool) : String :=
  if doubly then "doubly_linked_list" else "linked_list"

/-- A chain. The error is left out if there is none. -/
def Chain.json (c : Chain) : Json :=
  .obj ([("type", .str (kindName c.doubly)), ("head", .option .nat c.head),
    ("nodes", .arr (c.nodes.map Node.json))]
    ++ match c.error with
      | some e => [("error", .str e)]
      | none => [])

/-- The value of a variable. -/
def Shown.json : Shown → Json
  | chain c => c.json
  | plain j => j

/-- The members of a frame. -/
def Snapshot.members (s : Snapshot) : List (String × Json) :=
  [("line", .nat s.line), ("function", .str s.function),
    ("locals", .obj (s.locals.entries.map fun (name, v) => (name, v.json))),
    ("var_types", .obj (s.tags.entries.map fun (name, t) => (name, .str t.name))),
    ("scope", .option (.str ·.name) s.scope), ("depth", .nat s.depth),
    ("branch_taken", .option .bool s.branch)]

/-- The members of an entry behind the first. -/
def Entry.members : Entry → List (String × Json)
  | step _ s => s.members
  | print output => [("output", .str output)]
  | exception error => [("error", .str error)]

/-- An entry. -/
def Entry.json (e : Entry) : Json := .obj (("event", .str e.event) :: e.members)

/-- A trace. -/
def Trace.json (t : Trace) : Json := .arr (t.map Entry.json)

end Stepwise
