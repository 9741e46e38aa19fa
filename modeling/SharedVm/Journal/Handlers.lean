import SharedVm.Journal.Record

/-!
# Handlers

Who gets the records of the package. One handler writes them as lines of JSON, on the stream that
was set up last; others, which the package does not know, get the bare messages. Once a handler of
its own has been set up, nothing is passed on beyond the package. The marks of a record may not have the
names that records keep for their parts; a record that nobody gets is not looked at. A mark in the
place of what makes the message keeps a record from being written, and one with too many digits keeps
it from becoming a line of JSON.
-/

namespace SharedVm.Journal

def package : Text := "krun_launch"

/-- What a handler writes of a record: a line of JSON, or the bare message. -/
inductive Form where
  | json
  | message
  deriving DecidableEq, Repr

structure Handler where
  form : Form
  stream : Text
  deriving DecidableEq, Repr

structure Handlers where
  /-- In the order in which they were added. -/
  list : List Handler := []
  threshold : Int := 0
  /-- The truth value that was set as the threshold, if it was one. -/
  flag : Option Bool := none
  passesOn : Bool := true
  deriving DecidableEq, Repr

namespace Handlers

/-- Goes through the handlers and takes away those for lines of JSON, one by one. -/
def withoutJson (handlers : List Handler) : List Handler :=
  handlers.foldl (fun left x => if x.form = .json then left.erase x else left) handlers

/-- Sets up the handler for lines of JSON, in place of any from before. -/
def setUp (h : Handlers) (level : Int) (stream : Text) (flag : Option Bool := none) : Handlers where
  list := withoutJson h.list ++ [⟨.json, stream⟩]
  threshold := level
  flag
  passesOn := false

def addForeign (h : Handlers) (stream : Text) : Handlers :=
  { h with list := h.list ++ [⟨.message, stream⟩] }

def count (h : Handlers) : Nat := h.list.length

/-- Whether a logger belongs to the package: its name goes on behind the package's with a dot, or
with dots that leave one when they are taken in pairs. -/
def covers (logger : Text) : Bool :=
  logger = package ||
    (package.isPrefixOf logger &&
      ((logger.drop package.length).takeWhile (· = .char '.')).length % 2 = 1)

/-- What one handler writes about a record: the whole record, or its bare message. -/
inductive Entry
  | record (r : Record)
  | message (t : Text)

structure Written where
  stream : Text
  entry : Entry

def entryOf? (r : Record) : Form → Option Entry
  | .json => if Record.everyMark r.marks Value.isShowable then some (.record r) else none
  | .message => some (.message r.message)

def emit (h : Handlers) (r : Record) : List Written :=
  if covers r.logger && isWritten h.threshold r.level then
    h.list.filterMap fun x => (entryOf? r x.form).map fun entry => { stream := x.stream, entry }
  else []

def partNames : List Text := [
  "message", "asctime", "name", "msg", "args", "levelname", "levelno", "pathname", "filename",
  "module", "exc_info", "exc_text", "stack_info", "lineno", "funcName", "created", "msecs",
  "relativeCreated", "thread", "threadName", "processName", "process"]

def isEnabled (h : Handlers) (logger : Text) (level : Int) : Bool :=
  isWritten (if covers logger then h.threshold else 0) level

inductive LogError where
  | nameTaken (name : Text)
  /-- The level has no name and too many digits to be shown. -/
  | digits
  | loggerNotNamed
  deriving DecidableEq, Repr

def LogError.message : LogError → Text
  | .nameTaken name => Text.quoted ("Attempt to overwrite " ++ name.quoted ++ " in LogRecord")
  | .digits => Decimal.unwritableText
  | .loggerNotNamed => "A logger name must be a string"

/-- The name of the logger that a value asks for; nothing asks for the one above all others. -/
def loggerGiven (v : Value) : Except LogError Text :=
  match v with
  | .text name => .ok name
  | v => if v.isTruthy then .error .loggerNotNamed else .ok []

/-- Why a record cannot be made. -/
def refusal? (r : Record) : Option LogError :=
  if (Decimal.write? r.level).isNone then some .digits
  else (r.marks.find? fun m => partNames.contains m.1).map fun m => .nameTaken m.1

/-- What the handlers write about a record, if it matters to anyone and can be made. -/
def log (h : Handlers) (r : Record) : Except LogError (List Written) :=
  if h.isEnabled r.logger r.level then
    match refusal? r with
    | some e => .error e
    | none => .ok (if (r.marks.get? Record.messageMark).isSome then [] else h.emit r)
  else .ok []

end Handlers

end SharedVm.Journal
