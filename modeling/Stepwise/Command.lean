import Stepwise.Json.Text
import Stepwise.Trace.Run

/-!
# The command line

What the program does with its arguments: it prints the trace of a script as JSON, or shows it in
the viewer.
-/

namespace Stepwise.Command

/-- The name of the program. -/
def programName : String := "steptrace"

/-- What a path leads to. -/
inductive Found where
  | nothing
  | directory
  /-- A file that holds no text. -/
  | bytes
  /-- A file with its text. -/
  | file (text : String)

/-- What the arguments ask for. -/
inductive Wish where
  | help
  /-- The trace of a script, in the viewer if `view` is set. -/
  | trace (path : String) (view : Bool)
  /-- There is no path. -/
  | nothing

/-- The wish in some arguments, if a path and the option for the viewer have been read before. Of
several paths the last one counts; help comes first, wherever it is asked for. -/
def wishFrom (path : Option String) (view : Bool) : List String → Wish
  | [] => match path with
    | some path => .trace path view
    | none => .nothing
  | arg :: args =>
    if arg = "--view" ∨ arg = "-v" then wishFrom path true args
    else if arg = "--help" ∨ arg = "-h" then .help
    else wishFrom (some arg) view args

/-- What the program leaves behind. -/
structure Result where
  /-- The exit code. -/
  status : Nat
  /-- What it prints. -/
  output : String
  /-- What it complains about. -/
  errors : String

/-- How the program is used. -/
def usage : String :=
  "Usage: " ++ programName ++ " [--view] <file.py>\n\n"
    ++ "  " ++ programName ++ " script.py          # Print the JSON trace\n"
    ++ "  " ++ programName
    ++ " --view script.py   # Step through the trace in the terminal\n\n"
    ++ "Set RUST_LOG=steptrace=debug to see tracer decisions on stderr.\n"

/-- A script that cannot be read: the sort of the error, what is known about it, and its message. -/
def failed (sort facts message : String) : Result :=
  ⟨1, "", "Error: " ++ sort ++ " \x7b " ++ facts ++ ", message: \"" ++ message ++ "\" \x7d\n"⟩

/-- What is done: something is printed, or a script is shown in the viewer. -/
inductive Action where
  | finish (r : Result)
  | view (source : String)

/-- What is done for some arguments; `find` looks up paths. -/
def act (find : String → Found) (args : List String) : Action :=
  match wishFrom none false args with
  | .help => .finish ⟨0, "", usage⟩
  | .nothing => .finish ⟨1, "", "Error: No input file provided\n\n" ++ usage⟩
  | .trace path view =>
    match find path with
    | .nothing => .finish ⟨1, "", "Error: File '" ++ path ++ "' not found\n" ++ usage⟩
    | .directory => .finish (failed "Os" "code: 21, kind: IsADirectory" "Is a directory")
    | .bytes =>
      .finish (failed "Error" "kind: InvalidData" "stream did not contain valid UTF-8")
    | .file source =>
      if view then .view source
      else .finish ⟨0, (trace source).json.pretty ++ "\n", ""⟩

/-- The path whose wish it is, if there is one: the only one that has to be looked up. -/
def pathOf? (args : List String) : Option String :=
  match wishFrom none false args with
  | .trace path _ => some path
  | _ => none

end Stepwise.Command
