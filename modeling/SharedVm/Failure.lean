import SharedVm.Slot
import SharedVm.Text.Utf8
import SharedVm.Value.Whole

/-!
# Failures

Everything that can stop an operation, as causes, with one wording for each. `Report` is what the
operating system says, or a failure of that shape that came from elsewhere. `LaunchError` is a
request that failed; only one that could not connect is worth another attempt.
-/

namespace SharedVm

inductive SystemKind where
  | plain | blocked | brokenPipe | childProcess | connection | connectionAborted
  | connectionRefused | connectionReset | fileExists | interrupted | isDirectory | notDirectory
  | notFound | permission | noProcess | timeout
  deriving DecidableEq, Repr

def SystemKind.ofNumber : Int → SystemKind
  | 1 => permission
  | 2 => notFound
  | 3 => noProcess
  | 4 => interrupted
  | 10 => childProcess
  | 11 => blocked
  | 13 => permission
  | 17 => fileExists
  | 20 => notDirectory
  | 21 => isDirectory
  | 32 => brokenPipe
  | 103 => connectionAborted
  | 104 => connectionReset
  | 108 => brokenPipe
  | 110 => timeout
  | 111 => connectionRefused
  | 114 => blocked
  | 115 => blocked
  | _ => plain

inductive ReportKind where
  | system (kind : SystemKind)
  | value
  | type
  | runtime
  /-- The user's interrupt: no clean-up that only expects errors stops it. -/
  | interrupt
  | other (name : Text)
  deriving DecidableEq, Repr

structure Report where
  kind : ReportKind
  number : Option Int
  text : Text
  path : Option Text := none
  deriving DecidableEq, Repr

namespace Report

def isSystem (r : Report) : Bool :=
  match r.kind with
  | .system _ => true
  | _ => false

def isInterrupt (r : Report) : Bool := r.kind = .interrupt

/-- Whether the report means that somebody else has the lock. -/
def isRefusal (r : Report) : Bool := r.kind = .system .blocked || r.kind = .system .permission

def isNotFound (r : Report) : Bool := r.kind = .system .notFound

/-- Whether the report of asking about a path only means that nothing is there: the path or a
directory above it is missing, a file stands in the place of a directory, links lead nowhere, or
the path is no name. -/
def isAbsence (r : Report) : Bool :=
  match r.kind with
  | .system _ => r.number.any [2, 9, 20, 40].contains
  | .value => true
  | _ => false

def message (r : Report) : Text :=
  match r.number with
  | none => r.text
  | some n =>
    if r.isSystem then
      "[Errno " ++ Decimal.ofInt n ++ "] " ++ r.text ++
        (match r.path with
          | some p => ": " ++ p.quoted
          | none => [])
    else "(" ++ Decimal.ofInt n ++ ", " ++ r.text.quoted ++ ")"

def kindName (r : Report) : Text :=
  match r.kind with
  | .system .plain => "OSError"
  | .system .blocked => "BlockingIOError"
  | .system .brokenPipe => "BrokenPipeError"
  | .system .childProcess => "ChildProcessError"
  | .system .connection => "ConnectionError"
  | .system .connectionAborted => "ConnectionAbortedError"
  | .system .connectionRefused => "ConnectionRefusedError"
  | .system .connectionReset => "ConnectionResetError"
  | .system .fileExists => "FileExistsError"
  | .system .interrupted => "InterruptedError"
  | .system .isDirectory => "IsADirectoryError"
  | .system .notDirectory => "NotADirectoryError"
  | .system .notFound => "FileNotFoundError"
  | .system .permission => "PermissionError"
  | .system .noProcess => "ProcessLookupError"
  | .system .timeout => "TimeoutError"
  | .value => "ValueError"
  | .type => "TypeError"
  | .runtime => "RuntimeError"
  | .interrupt => "KeyboardInterrupt"
  | .other name => name

def ofNumber (n : Int) (text : Text) (path : Option Text := none) : Report :=
  ⟨.system (.ofNumber n), some n, text, path⟩

def refused : Report := ofNumber 111 "Connection refused"

def contended : Report := ofNumber 11 "Resource temporarily unavailable"

end Report

inductive Flaw where
  | missing | extra | notText | notList | notMapping | frozen
  | notUnicode
  deriving DecidableEq, Repr

namespace Flaw

def name : Flaw → Text
  | missing => "missing"
  | extra => "extra_forbidden"
  | notText => "string_type"
  | notList => "list_type"
  | notMapping => "dict_type"
  | frozen => "frozen_instance"
  | notUnicode => "string_unicode"

def message : Flaw → Text
  | missing => "Field required"
  | extra => "Extra inputs are not permitted"
  | notText => "Input should be a valid string"
  | notList => "Input should be a valid list"
  | notMapping => "Input should be a valid dictionary"
  | frozen => "Instance is frozen"
  | notUnicode => "Input should be a valid string, unable to parse raw data as a unicode string"

end Flaw

structure Detail where
  place : List Text
  flaw : Flaw
  deriving DecidableEq, Repr

def Detail.message (d : Detail) : Text := Text.join "." d.place ++ ": " ++ d.flaw.message

inductive LaunchErrorKind where
  | connection | serialization | server
  deriving DecidableEq, Repr

namespace LaunchErrorKind

def name : LaunchErrorKind → Text
  | connection => "connection"
  | serialization => "serialization"
  | server => "server"

def ofName? (t : Text) : Option LaunchErrorKind :=
  [connection, serialization, server].find? (·.name = t)

end LaunchErrorKind

/-- A single request to the leader that failed. `details` lists the flaws of a request that was
refused before anything was sent. -/
structure LaunchError where
  kind : LaunchErrorKind
  reason : Text
  port : Option Value := none
  details : Option (List Detail) := none
  deriving Repr

namespace LaunchError

def connection (r : Report) (port : Option Value) : LaunchError :=
  ⟨.connection, r.message, port, none⟩

def serialization (reason : Text) : LaunchError := ⟨.serialization, reason, none, none⟩

def invalid (details : List Detail) : LaunchError :=
  ⟨.serialization, Text.join ", " (details.map Detail.message), none, some details⟩

def server (reason : Text) (port : Option Value) : LaunchError := ⟨.server, reason, port, none⟩

/-- Whether another attempt may succeed. -/
def retryable (e : LaunchError) : Bool := e.kind = .connection

def message (e : LaunchError) : Text :=
  match e.kind with
  | .connection =>
    "could not connect to krun server" ++
      (match e.port with
        | some p => " on port " ++ p.display
        | none => []) ++ ": " ++ e.reason
  | .serialization => "could not serialize into JSON: " ++ e.reason
  | .server => "krun server returned an error: " ++ e.reason

end LaunchError

inductive Misconfiguration where
  | runtimeDirUnset
  | serverPortInvalid (raw : Value)
  | portUnpublishable (port : Value)
  | lockNotOpened (lock : Path) (cause : Report)
  | lockNotTaken (lock : Path) (cause : Report)
  | lockNotRead (lock : Path) (cause : Report)
  | portNotPublished (lock : Path) (cause : Report)
  | variableMissing (name : Text)
  | deviceTreeNotRead (file : Path) (cause : Report)
  | ownPathUnknown (cause : Report)
  | relayNotFound
  | relayPortsUsedUp (directory : Path)
  | relayNotStarted (binary : Text) (cause : Report)
  | stated (message : Text)
  deriving Repr

namespace Misconfiguration

def message : Misconfiguration → Text
  | runtimeDirUnset => "unable to get XDG_RUNTIME_DIR: variable is not set"
  | serverPortInvalid raw => "KRUN_SERVER_PORT is not a valid port: " ++ raw.literal
  | portUnpublishable port =>
    "server port " ++ port.display ++ " cannot be published, expected 1025-65535"
  | lockNotOpened lock cause => "failed to open lock file " ++ lock.text ++ ": " ++ cause.message
  | lockNotTaken lock cause =>
    "failed to acquire exclusive lock on " ++ lock.text ++ ": " ++ cause.message
  | lockNotRead lock cause => "failed to read lock file " ++ lock.text ++ ": " ++ cause.message
  | portNotPublished lock cause =>
    "failed to publish server port in " ++ lock.text ++ ": " ++ cause.message
  | variableMissing name => "failed to get `" ++ name ++ "` env var"
  | deviceTreeNotRead file cause =>
    "failed to read `" ++ file.text ++ "`: " ++ cause.message
  | ownPathUnknown cause => "failed to get path of current running executable: " ++ cause.message
  | relayNotFound => "unable to find socat in PATH"
  | relayPortsUsedUp directory => "ran out of relay ports under " ++ directory.text
  | relayNotStarted binary cause => "failed to start relay " ++ binary ++ ": " ++ cause.message
  | stated message => message

end Misconfiguration

inductive WireError where
  | text (position : Nat) (run : Text)
  | bytes (fault : Utf8.Fault)
  /-- A name in bytes that are not UTF-8: the bytes from a position on that are part of no
  character. -/
  | name (position : Nat) (run : Bytes)
  | tooDeep
  deriving DecidableEq, Repr

namespace WireError

def rangeText (position count : Nat) : Text :=
  Decimal.ofNat position ++ "-" ++ Decimal.ofNat (position + count - 1)

def unencodableMessage (position : Nat) (run : Text) : Text :=
  "'utf-8' codec can't encode character" ++
    (match run with
      | [s] => " '" ++ Quoted.escapeCode s.code ++ "' in position " ++ Decimal.ofNat position
      | _ => "s in position " ++ rangeText position run.length) ++ ": surrogates not allowed"

def message : WireError → Text
  | text position run =>
    "Error serializing to JSON: UnicodeEncodeError: " ++ unencodableMessage position run
  | bytes (.invalid position count) =>
    "Error serializing to JSON: invalid utf-8 sequence of " ++ Decimal.ofNat count ++
      " bytes from index " ++ Decimal.ofNat position
  | bytes (.incomplete position) =>
    "Error serializing to JSON: incomplete utf-8 byte sequence from index " ++
      Decimal.ofNat position
  | name position run =>
    "Error serializing to JSON: UnicodeDecodeError: 'utf-8' codec can't decode byte" ++
      (match run with
        | [b] => " 0x" ++ hexDigits 2 b.toNat ++ " in position " ++ Decimal.ofNat position
        | _ => "s in position " ++ rangeText position run.length) ++ ": invalid utf-8"
  | tooDeep => "Error serializing to JSON: ValueError: Maximum serialization depth exceeded"

end WireError

/-- Why an operation ended without a result. -/
inductive Failure where
  | report (r : Report)
  | lockUnavailable (reason : Text)
  | misconfigured (cause : Misconfiguration)
  | leaderWithoutPort (lock : Path)
  | launch (e : LaunchError)
  | forwarding (cause : LaunchError) (attempts : Int)
  | invalid (details : List Detail)
  | notWhole (cause : WholeError)
  | digitsToWrite
  | seekClosed
  | useClosed
  | embeddedNull
  | unencodable (position : Nat) (run : Text)
  | unserializable (cause : WireError)
  | slot (cause : SlotError)
  /-- A value in the place of something that is done. -/
  | notCallable (kind : Text)
  /-- A value in the place of what writes a request. -/
  | notWriter (kind : Text)
  | namesNotText
  /-- A field has the name that stands for the kind of requests. -/
  | kindGivenTwice
  | notPathLike (kind : Text)
  | notIterable (kind : Text)
  | notSpreadable (kind : Text)
  | notComparable (kind : Text)
  | noEntries (kind : Text)
  | notJoinable (index : Nat) (kind : Text)
  | homeUnknown
  /-- A delay that the clock cannot count, given as a whole number or not. -/
  | delayTooLong (whole : Bool)
  | emptyName (path : Path)
  | invalidName (name : Text)
  | unknownErrorKind (name : Value)
  | nameUnknown (name : Text)
  /-- A port or a delay was given as an option without a value. -/
  | emptyPort
  | emptyDelay
  | emptyOverride
  deriving Repr

namespace Failure

def message : Failure → Text
  | report r => r.message
  | lockUnavailable reason => reason
  | misconfigured cause => cause.message
  | leaderWithoutPort lock =>
    "krun is already running but couldn't find its server port in " ++ lock.text ++ ", bailing out"
  | launch e => e.message
  | forwarding cause _ => "could not request launch to server: " ++ cause.message
  | invalid details => Text.join ", " (details.map Detail.message)
  | notWhole cause => cause.message
  | digitsToWrite => Decimal.unwritableText
  | seekClosed => "seek of closed file"
  | useClosed => "I/O operation on closed file"
  | embeddedNull => "embedded null byte"
  | unencodable position run => WireError.unencodableMessage position run
  | unserializable cause => cause.message
  | slot cause => cause.message
  | notCallable kind => "'" ++ kind ++ "' object is not callable"
  | notWriter kind => "'" ++ kind ++ "' object has no attribute 'to_json'"
  | namesNotText => "keywords must be strings"
  | kindGivenTwice => "BaseModel.model_construct() got multiple values for argument 'cls'"
  | notPathLike kind => "expected str, bytes or os.PathLike object, not " ++ kind
  | notIterable kind => "'" ++ kind ++ "' object is not iterable"
  | notSpreadable kind => "Value after * must be an iterable, not " ++ kind
  | notComparable kind => "'>' not supported between instances of '" ++ kind ++ "' and 'int'"
  | noEntries kind => "'" ++ kind ++ "' object has no attribute 'items'"
  | notJoinable index kind =>
    "sequence item " ++ Decimal.ofNat index ++ ": expected str instance, " ++ kind ++ " found"
  | homeUnknown => "Could not determine home directory."
  | delayTooLong true => "timestamp too large to convert to C _PyTime_t"
  | delayTooLong false => "timestamp out of range for platform time_t"
  | emptyName path => (Value.path path).literal ++ " has an empty name"
  | invalidName name => "Invalid name " ++ name.quoted
  | unknownErrorKind name => name.literal ++ " is not a valid LaunchErrorKind"
  | nameUnknown name => name.quoted
  | emptyPort => (WholeError.notNumber "list").message
  | emptyDelay => "float() argument must be a string or a real number, not 'list'"
  | emptyOverride => "not enough values to unpack (expected 2, got 0)"

def isInterrupt : Failure → Bool
  | report r => r.isInterrupt
  | _ => false

/-- Why the operating system takes a text as no name: it has no bytes, or a zero byte would end
it. -/
def ofName? (t : Text) : Option Failure :=
  match Utf8.firstLone? Utf8.isStray t with
  | some (position, run) => some (unencodable position run)
  | none => if t.contains (.char '\x00') then some embeddedNull else none

end Failure

end SharedVm
