import EngineSdk.Api.Basic
import EngineSdk.NetClass.Expand

/-!
# The derive as a request

`netclassOp` runs the derive on the item written in the request's `source`: the answer is the
generated text (the error tokens when the item's attributes are at fault); a source that is not
an item is refused with kind `syn` and the reader's message.
-/

namespace EngineSdk.Api

/-- Runs the derive on the request's source. -/
def netclassOp (req : Json) : Reply Json :=
  match req.get? "source" with
  | none => refuse "missing source"
  | some (.str src) =>
    match NetClass.derive src with
    | .ok text => pure (.str text)
    | .error (.malformed m) => .error ⟨"syn", m⟩
    | .error (.stopped m) => .error ⟨"panic", m⟩
  | some _ => refuse "source not a string"

end EngineSdk.Api
