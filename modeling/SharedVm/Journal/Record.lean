import SharedVm.Journal.Level
import SharedVm.Journal.Timestamp
import SharedVm.Json
import SharedVm.Notice

/-!
# Records

A record of the log is one line of JSON. Control characters are escaped, so a record never breaks
its line, whatever its message holds.
-/

namespace SharedVm.Journal

structure Record where
  logger : Text
  level : Int
  levelText : Text := levelName level
  message : Text
  marks : Bindings Value := []
  failure : Option Text := none
  deriving Repr

namespace Record

def ofNotice (n : Notice) : Record where
  logger := n.logger
  level := n.level
  message := n.message
  marks := n.marks

/-- The name of a mark that takes the place of what makes the message of a record. -/
def messageMark : Text := "getMessage"

def markNames : List Text := ["op", "port", "lock_path", "attempt"]

/-- A mark that is set: numbers stay numbers, anything else is text. -/
def markJson : Value → Option Json
  | .null => none
  | .bool b => some (.bool b)
  | .int n => some (.int n)
  | v => some (.text v.display)

/-- Whether something holds of each mark that a record shows. -/
def everyMark (marks : Bindings Value) (p : Value → Bool) : Bool :=
  markNames.all fun name => ((marks.get? name).map p).getD true

def markMembers (marks : Bindings Value) : List (Text × Json) :=
  markNames.filterMap fun name => ((marks.get? name).bind markJson).map fun v => (name, v)

def membersWith (level logger : Json) (message : Text) (marks : Bindings Value)
    (failure : Option Text) : List (Text × Json) :=
  let always : List (Text × Json) := [("level", level), ("logger", logger), ("msg", .text message)]
  let last : List (Text × Json) := failure.toList.map fun t => ("exc", .text t)
  always ++ markMembers marks ++ last

def members (r : Record) : List (Text × Json) :=
  membersWith (.text r.levelText) (.text r.logger) r.message r.marks r.failure

def failureText (r : Report) : Text :=
  if r.message.isEmpty then r.kindName else r.kindName ++ ": " ++ r.message

end Record

end SharedVm.Journal
