import Stepwise.Command
import Stepwise.Viewer.Screen

/-!
# The program

Reads the arguments and the script, and does what `Stepwise.Command` says. In the viewer, the screen
is printed, and then every line of input names one key.
-/

namespace Stepwise

/-- Looks up a path. -/
def findPath (path : String) : IO Command.Found := do
  try
    return .file (← IO.FS.readFile path)
  catch
    | .noFileOrDirectory _ _ _ => return .nothing
    | .inappropriateType _ code _ => return if code = 21 then .directory else .nothing
    | _ => return .bytes

/-- The size of the screen of the viewer. -/
def screenSize : Viewer.Size := ⟨100, 21⟩

/-- Shows a trace until the viewer is closed or the input ends. -/
partial def showTrace (v : Viewer.State) : IO Unit := do
  let v := v.settle screenSize
  for row in v.screen screenSize do
    IO.println (String.join (row.map (·.text)))
  if v.quit then return
  let line ← (← IO.getStdin).getLine
  if line.isEmpty then return
  match Viewer.Key.named? (String.ofList (line.toList.filter (· ≠ '\n'))) with
  | some key => showTrace (v.press key)
  | none => showTrace v

/-- Does what the arguments ask for. -/
def runCommand (args : List String) : IO UInt32 := do
  let found ← match Command.pathOf? args with
    | some path => findPath path
    | none => pure .nothing
  match Command.act (fun _ => found) args with
  | .finish r =>
    IO.print r.output
    IO.eprint r.errors
    return r.status.toUInt32
  | .view source =>
    showTrace (.start (trace source) source)
    return 0

end Stepwise

def main (args : List String) : IO UInt32 := Stepwise.runCommand args
