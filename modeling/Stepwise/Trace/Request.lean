import Stepwise.Json.Read
import Stepwise.Trace.Run

/-!
# Requests

Traces as a service: the text of a request holds a script, and the answer holds its trace.
-/

namespace Stepwise

open Json

/-- What a request asks for. -/
structure Request where
  /-- The script, if there is one. -/
  code : Option String

namespace Request

/-- The script in a request: a string, or null for none. -/
def code? : Raw → Option (Option String)
  | .null => some none
  | .str s => (textOf? s).map some
  | _ => none

/-- The request in a text: an object with a member `code`, or an array with the script as its only
item. The script may be missing, and the other members of an object are not looked at. -/
def ofRaw? : Raw → Option Request
  | .obj members => do
    let names ← members.mapM fun m => textOf? m.1
    match (names.zip members).filter (·.1 == "code") with
    | [] => return ⟨none⟩
    | [(_, _, v)] => return ⟨← code? v⟩
    | _ => none
  | .arr [] => some ⟨none⟩
  | .arr [v] => (code? v).map (⟨·⟩)
  | _ => none

/-- The request in a text. -/
def ofText? (body : String) : Option Request := (Raw.ofText? body).bind ofRaw?

end Request

/-- The answer to a request. -/
inductive Answer where
  /-- The text is no request. -/
  | malformed
  /-- There is no script in it. -/
  | noCode
  /-- The trace of the script. -/
  | trace (t : Trace)

/-- Answers a request. -/
def answer (body : String) : Answer :=
  match Request.ofText? body with
  | none => .malformed
  | some r =>
    let code := r.code.getD ""
    if (Text.trim code).isEmpty then .noCode else .trace (Stepwise.trace code)

namespace Answer

/-- The status of an answer: only a request without a script is refused. -/
def status : Answer → Nat
  | noCode => 400
  | _ => 200

/-- What an answer says. -/
def json : Answer → Json
  | malformed => .obj [("error", .str "malformed")]
  | noCode => .obj [("error", .str "No code provided.")]
  | trace t => t.json

end Answer

end Stepwise
