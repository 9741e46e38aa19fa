import SharedVm.Journal.Record
import SharedVm.Journal.Template
import SharedVm.Json.OfValue
import SharedVm.Value.Item

/-!
# Drafts of records

What a record is made of before any of it is text. A mark that has the name of a part takes the place
of that part, and a part may be missing. `Draft.line` is the record as it is written: one line, or why
there is none.
-/

namespace SharedVm.Journal

inductive LineError where
  | slot (cause : SlotError)
  | moment (cause : MomentError)
  | template (cause : TemplateError)
  /-- A value in the place of what makes the message. -/
  | notCallable (kind : Text)
  | item (cause : ItemError)
  | noTrace (kind : Text)
  | noContext (kind : Text)
  | unwritable (kind : Text)
  | noName (kind : Text)
  | digits
  deriving DecidableEq, Repr

namespace LineError

def message : LineError → Text
  | slot cause => cause.message
  | moment cause => cause.message
  | template cause => cause.message
  | notCallable kind => "'" ++ kind ++ "' object is not callable"
  | item cause => cause.message
  | noTrace kind => "'" ++ kind ++ "' object has no attribute 'tb_frame'"
  | noContext kind => "'" ++ kind ++ "' object has no attribute '__suppress_context__'"
  | unwritable kind => "Object of type " ++ kind ++ " is not JSON serializable"
  | noName kind => "keys must be str, int, float, bool or None, not " ++ kind
  | digits => Decimal.unwritableText

end LineError

/-- What belongs to a record as its failure: what one says, or a value in the place of one. -/
inductive Attached where
  | failure (text : Text)
  | value (v : Value)
  deriving Repr

structure Draft where
  /-- Seconds since 1970. -/
  created : Option Value := none
  process : Option Value := none
  level : Option Value := none
  logger : Option Value := none
  template : Option Value := none
  values : Option Values := none
  attached : Option Attached := none
  marks : Bindings Value := []
  deriving Repr

namespace Draft

def kindName : Text := "LogRecord"

/-- Sets a mark, or the part that has its name. -/
def mark (d : Draft) (name : Text) (v : Value) : Draft :=
  if name = "created" then { d with created := some v }
  else if name = "process" then { d with process := some v }
  else if name = "levelname" then { d with level := some v }
  else if name = "name" then { d with logger := some v }
  else if name = "msg" then { d with template := some v }
  else if name = "args" then { d with values := some (.whole v) }
  else if name = "exc_info" then { d with attached := some (.value v) }
  else { d with marks := d.marks.set name v }

def ofMarks (marks : Bindings Value) : Draft :=
  marks.foldl (fun d m => d.mark m.1 m.2) {}

def set (d : Draft) (name v : Value) : Except SlotError Draft :=
  match Assignment.ofEntry kindName name v with
  | .error e => .error e
  | .ok (.all values) => .ok (ofMarks values)
  | .ok (.one name v) => .ok (d.mark name v)

def setAll (d : Draft) (entries : List (Value × Value)) : Except SlotError Draft :=
  entries.foldlM (fun d e => d.set e.1 e.2) d

/-- The form of a value that is neither a list nor a mapping. -/
def leaf : Value → Except LineError Json
  | .null => .ok .null
  | .bool b => .ok (.bool b)
  | .int n => if (Decimal.write? n).isSome then .ok (.int n) else .error .digits
  | .real x => .ok (.real x)
  | .text t => .ok (.text t)
  | v => .error (.unwritable v.kindName)

def name : Value → Except LineError Text
  | .null => .ok "null"
  | .bool b => .ok (if b then "true" else "false")
  | .int n => match Decimal.write? n with
    | some t => .ok t
    | none => .error .digits
  | .real x => .ok (Json.realText .plain x)
  | .text t => .ok t
  | v => .error (.noName v.kindName)

def coding : Json.Coding LineError where
  leaf
  name

def part {α : Type} (name : Text) (p : Option α) : Except LineError α :=
  match p with
  | some a => .ok a
  | none => .error (.slot (.missing kindName name))

def message (d : Draft) : Except LineError Text :=
  match d.marks.get? Record.messageMark with
  | some v => .error (.notCallable v.kindName)
  | none => do
    let template ← part "msg" d.template
    unless template.isShowable do throw .digits
    let values ← part "args" d.values
    (Journal.message template.display values).mapError .template

/-- What a value in the place of a failure says: where it came from and what failed are looked for
at two places, and nothing may be there. -/
def failureOf (v : Value) : Except LineError Text := do
  let trace ← (v.item 2).mapError .item
  let _ ← (v.item 0).mapError .item
  let problem ← (v.item 1).mapError .item
  match trace, problem with
  | .null, .null => return "NoneType: None"
  | .null, problem => .error (.noContext problem.kindName)
  | trace, _ => .error (.noTrace trace.kindName)

def failure? : Attached → Except LineError (Option Text)
  | .failure t => .ok (some t)
  | .value v => if v.isTruthy then (failureOf v).map some else .ok none

/-- Whether a mark can be shown before the line is written; whole numbers wait until then. -/
def isTellable : Value → Bool
  | .int _ => true
  | v => v.isShowable

def line (d : Draft) : Except LineError Text := do
  let created ← part "created" d.created
  let moment ← (Moment.ofValue created).mapError .moment
  let time ← moment.text.mapError .moment
  let process ← part "process" d.process
  let level ← part "levelname" d.level
  let logger ← part "name" d.logger
  let message ← d.message
  unless Record.everyMark d.marks isTellable do throw .digits
  let failure ← failure? (← part "exc_info" d.attached)
  let process ← Json.ofValue coding 0 process
  let level ← Json.ofValue coding 0 level
  let logger ← Json.ofValue coding 0 logger
  unless Record.everyMark d.marks Value.isShowable do throw .digits
  let stamp : List (Text × Json) := [("ts", .text time), ("pid", process)]
  return Json.write Json.spaced
    (.object (stamp ++ Record.membersWith level logger message d.marks failure))

end Draft

end SharedVm.Journal
