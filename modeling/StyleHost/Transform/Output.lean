import StyleHost.Result.MediaType
import StyleHost.Transform.Error

/-!
# The output of a run

* `Output` : a serialized result with its media type.
* `Output.text` : the result as a text.
-/

namespace StyleHost

/-- A serialized result. -/
structure Output where
  bytes : Bytes
  mediaType : MediaType
deriving DecidableEq

namespace Output

/-- Whether the result is empty. -/
def isEmpty (o : Output) : Bool := o.bytes.isEmpty

/-- The result as a text, which it need not be. -/
def text (o : Output) : Except TransformError String :=
  match Utf8.decode o.bytes with
  | .ok s => .ok s
  | .error fault => .error (.serialize fault.message)

end Output

end StyleHost
