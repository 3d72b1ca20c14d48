import Stepwise.Trace.Recorder

/-!
# Tracing a script

From a source text to its trace. A text with a forbidden part is not even parsed; the check looks at
the text alone, so it keeps nobody from harm who means it.
-/

namespace Stepwise

open Script

/-- Parts that a source text may not have, in lower case. -/
def forbidden : List String :=
  ["import os", "import sys", "subprocess", "open(", "exec(", "eval(", "import shutil", "from os",
    "from sys", "socket", "threading", "multiprocessing"]

/-- Whether a source text has no forbidden part. -/
def isSafe (source : String) : Bool :=
  let text := (Text.toLower source).toList
  forbidden.all fun part => !Text.occursIn part.toList text

/-- The error for a text with a forbidden part. -/
def forbiddenMessage : String :=
  "Unsafe code detected. Use of restricted functions/modules is not allowed."

/-- The machine with the lines of its script before a recorded run. -/
def Machine.forTrace (s : Listing) : Machine Recorder :=
  let m := Machine.start Recorder.start
  let (a, heap) := m.heap.alloc (.list (s.lines.map Value.str))
  { m with heap }.setGlobal Recorder.linesName (.ref a)

/-- The entries at the end of a trace: what was printed, and the error that ended the run. -/
def closing (o : Outcome) (output : String) : Trace :=
  let output := Text.trim output
  (if output.isEmpty then [] else [.print output])
    ++ match o with
      | .failed e => [.exception e.fault.message]
      | _ => []

/-- The error that a trace tells instead of a run that has broken off. -/
def brokenMessage : String := "internal error: tracer thread panicked"

/-- The outcome of a recorded run and the machine after it. -/
def recordedRun (fuel : Nat) (s : Listing) (p : Program) : Outcome × Machine Recorder :=
  outcome (runProgram (watched (Recorder.observe s) fuel) p) (Machine.forTrace s)

/-- The trace of a program. Nothing is told of a run that has broken off but that it did. -/
def traceProgram (source : String) (p : Program) : Trace :=
  match recordedRun ample (Listing.of source p) p with
  | (.outOfFuel, _) => [.exception brokenMessage]
  | (o, m) => m.log.entries.toList ++ closing o m.output

/-- The trace of a script. -/
def trace (source : String) : Trace :=
  if !isSafe source then [.exception forbiddenMessage]
  else match parseProgram source with
    | .error e => [.exception e.message]
    | .ok p => traceProgram source p

end Stepwise
