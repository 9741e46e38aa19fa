import SharedVm.Json
import SharedVm.Request

/-!
# Requests on the wire

A request travels as one JSON object, followed by a line of its own that ends it. The object holds
no line break, since JSON text escapes control characters, so the end is where it first shows. A
lone surrogate has no bytes: in a value it stops the request, and in the name of a variable it is
replaced.
-/

namespace SharedVm.Request

def toJson (r : Request) : Json :=
  .object [
    ("command", .text r.command),
    ("command_args", .array (r.args.map .text)),
    ("env", .object (r.env.map fun (k, v) => (Utf8.lossy k, .text v)))]

def sentinel : Text := "\nEOM\n"

def frame (body : Json) : Bytes := Utf8.encode (body.write Json.compact ++ sentinel)

/-- The values of a request in the order in which they are written. -/
def texts (r : Request) : List Text := r.command :: r.args ++ r.env.map (·.2)

def textError? (ts : List Text) : Option WireError :=
  (ts.findSome? (Utf8.firstLone? Utf8.isLone)).map fun (position, run) => .text position run

def wire (r : Request) : Except Failure Bytes :=
  match textError? r.texts with
  | some e => .error (.unserializable e)
  | none => .ok (frame r.toJson)

end SharedVm.Request
