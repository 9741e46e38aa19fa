import SharedVm.Json.OfValue
import SharedVm.Request.Wire

/-!
# Drafts

What would be a request if it had been checked: values by name, in the order in which they are
written. A draft travels as a request does, with each value in the form that JSON has for it: bytes
and paths as text, and what is no finite number as null. Values that are no fields are left out, but
their names have to be Unicode text. Where text belongs, a value of another kind may hold others up to
`Draft.depthLimit` deep.
-/

namespace SharedVm.Request

structure Draft where
  values : Bindings Value
  deriving Repr

namespace Draft

/-- The draft that fields make; those of other names are left out. -/
def ofFields (fields : Bindings Value) : Draft where
  values :=
    let command : Bindings Value := (fields.get? "command").toList.map fun v => ("command", v)
    let others : Bindings Value := [
      ("command_args", (fields.get? "command_args").getD (.list [])),
      ("env", (fields.get? "env").getD (.mapping []))]
    command ++ others

/-- The draft that given fields make, none of which may stand for the kind of requests. -/
def ofValue (given : Value) : Except Failure Draft :=
  match given with
  | .mapping entries =>
    if entries.any (!isText ·.1) then .error .namesNotText
    else
      let fields := Assignment.named entries
      if (fields.get? "cls").isSome then .error .kindGivenTwice else .ok (ofFields fields)
  | _ => .ok (ofFields [])

def ofRequest (r : Request) : Draft where
  values := [
    ("command", .text r.command),
    ("command_args", .list (r.args.map .text)),
    ("env", .mapping (r.env.map fun (k, v) => (.text k, .text v)))]

def kindName : Text := "LaunchRequest"

def value (d : Draft) (name : Text) : Except Failure Value :=
  match d.values.get? name with
  | some v => .ok v
  | none => .error (.slot (.missing kindName name))

def command (d : Draft) : Except Failure Value := d.value "command"

def args (d : Draft) : Except Failure (List Value) := do itemsOf (← d.value "command_args")

def env (d : Draft) : Except Failure (List (Value × Value)) := do
  match ← d.value "env" with
  | .mapping entries => .ok entries
  | v => .error (.noEntries v.kindName)

def depthLimit : Nat := 255

def textJson (t : Text) : Except WireError Json :=
  match textError? [t] with
  | some e => .error e
  | none => .ok (.text t)

def bytesJson (bs : Bytes) : Except WireError Json :=
  match Utf8.fault? bs with
  | some fault => .error (.bytes fault)
  | none => .ok (.text (Utf8.decode bs))

def leaf : Value → Except WireError Json
  | .bool b => .ok (.bool b)
  | .int n => .ok (.int n)
  | .real (.finite negative m e) => .ok (.real (.finite negative m e))
  | .text t => textJson t
  | .bytes bs => bytesJson bs
  | .path p => textJson p.text
  | _ => .ok .null

def bytesName (bs : Bytes) : Except WireError Text :=
  match Utf8.fault? bs with
  | some (.invalid position count) => .error (.name position ((bs.drop position).take count))
  | some (.incomplete position) => .error (.name position (bs.drop position))
  | none => .ok (Utf8.decode bs)

/-- The name that a value is in an object. What is no finite number has the name of nothing. -/
def name : Value → Except WireError Text
  | .bool b => .ok (if b then "true" else "false")
  | .real .nan | .real (.infinite _) => .ok Value.null.display
  | .text t => match textError? [t] with
    | some e => .error e
    | none => .ok t
  | .bytes bs => bytesName bs
  | v => .ok (Utf8.lossy v.display)

def coding : Json.Coding WireError where
  leaf
  name
  enter depth := if depth < depthLimit then .ok () else .error .tooDeep

def valueJson : Value → Except WireError Json
  | .text t => textJson t
  | v => Json.ofValue coding 0 v

def argsJson : Value → Except WireError Json
  | .list items => (items.mapM valueJson).map .array
  | v => Json.ofValue coding 0 v

/-- The name of a variable. Text is replaced where it is no Unicode text. -/
def variableName : Value → Except WireError Text
  | .text t => .ok (Utf8.lossy t)
  | v => name v

def entryJson (entry : Value × Value) : Except WireError (Text × Json) := do
  let name ← variableName entry.1
  return (name, ← valueJson entry.2)

def envJson : Value → Except WireError Json
  | .mapping entries => (entries.mapM entryJson).map .object
  | v => Json.ofValue coding 0 v

def member? (name : Text) (v : Value) : Except WireError (Option (Text × Json)) :=
  match textError? [name] with
  | some e => .error e
  | none =>
    if name = "command" then (valueJson v).map fun j => some (name, j)
    else if name = "command_args" then (argsJson v).map fun j => some (name, j)
    else if name = "env" then (envJson v).map fun j => some (name, j)
    else .ok none

def toJson (d : Draft) : Except WireError Json :=
  (d.values.mapM fun b => member? b.1 b.2).map fun (members : List (Option (Text × Json))) =>
    .object (members.filterMap id)

/-- What keeps a draft from being written at all: a value in the place of what would write it. -/
def obstacle? (d : Draft) : Option Failure :=
  let inPlace (name : Text) (f : Text → Failure) := (d.values.get? name).map fun v => f v.kindName
  inPlace "to_wire" .notCallable <|> inPlace "model_dump_json" .notCallable <|>
    inPlace "__pydantic_serializer__" .notWriter

def wire (d : Draft) : Except Failure Bytes :=
  match d.obstacle? with
  | some f => .error f
  | none => (d.toJson.mapError .unserializable).map frame

end Draft

def sharedNames : List Text := [
  "__class_vars__", "__private_attributes__", "__signature__", "__pydantic_complete__",
  "__pydantic_computed_fields__", "__pydantic_core_schema__", "__pydantic_custom_init__",
  "__pydantic_decorators__", "__pydantic_fields__", "__pydantic_generic_metadata__",
  "__pydantic_parent_namespace__", "__pydantic_post_init__", "__pydantic_root_model__",
  "__pydantic_serializer__", "__pydantic_setattr_handlers__", "__pydantic_validator__"]

/-- A request never changes: a field of any name that is assigned is refused. A name that starts
with an underscore is no field; it stays beside the fields, unless it stands for the request
itself. -/
def assign (r : Request) (name v : Value) : Except Failure Draft := do
  match name with
  | .text t =>
    if sharedNames.contains t then .error (.slot (.shared Draft.kindName t))
    if t.head? ≠ some (.char '_') then .error (.invalid [⟨[Utf8.lossy t], .frozen⟩])
    if t = "__fields_set__" then .error (.slot (.derived Draft.kindName t))
  | _ => pure ()
  match ← (Assignment.ofEntry Draft.kindName name v).mapError .slot with
  | .all values => return ⟨values⟩
  | .one name v => return ⟨(Draft.ofRequest r).values.set name v⟩

end SharedVm.Request
