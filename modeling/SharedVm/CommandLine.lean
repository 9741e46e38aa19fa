import SharedVm.CommandLine.Help
import SharedVm.Environ

/-!
# The command line

Reads the arguments of a run. The options of a part come before anything else in it; from the first
argument of a launch that is no option on, all of them are the command.
-/

namespace SharedVm.CommandLine

/-- What a launch was asked for. A value that was given as a separator is empty: it counts as given
but holds nothing. -/
structure Settings where
  port : Option Nat := some 3333
  interactive : Bool := false
  env : Option (List (Option Override)) := none
  retryDelay : Option Binary64 := some (.finite false 0 (-1074))
  command : List Text := []
  deriving Repr

inductive Command where
  | launch (settings : Settings)
  | status
  deriving Repr

/-- Why a run ends before it has begun. -/
inductive Stop where
  | help (part : Part)
  | version
  | complaint (part : Part) (c : Complaint)
  deriving Repr

structure Outcome where
  code : Int
  out : Text := []
  err : Text := []
  deriving DecidableEq, Repr

def Stop.outcome : Stop → Outcome
  | help part => { code := 0, out := part.help }
  | version => { code := 0, out := lines [program ++ " " ++ CommandLine.version] }
  | complaint part c =>
    { code := 2, err := part.usage ++ lines [part.program ++ ": error: " ++ c.message] }

/-- A variable for the command: `KEY=VALUE`, or `KEY` to take it from the host. -/
def override? (raw : Text) : Option Override :=
  let (key, value) := splitValue raw
  if key.strip.isEmpty then none else some (key.strip, (value.map .text).getD .null)

def setFlag (part : Part) (s : Settings) : Opt → Except Stop Settings
  | .help => .error (.help part)
  | .version => .error .version
  | .interactive => .ok { s with interactive := true }
  | _ => .ok s

def setFlags (part : Part) (s : Settings) : List Opt → Except Stop Settings
  | [] => .ok s
  | o :: rest => do setFlags part (← setFlag part s o) rest

def setValue (s : Settings) (o : Opt) (raw : Text) : Except Complaint Settings :=
  let given := raw ≠ "--"
  match o with
  | .port =>
    if given then match Port.chosen raw with
      | .ok n => .ok { s with port := some n }
      | .error e => .error (.port e)
    else .ok { s with port := none }
  | .env =>
    if given then match override? raw with
      | some v => .ok { s with env := some (s.env.getD [] ++ [some v]) }
      | none => .error (.override raw)
    else .ok { s with env := some (s.env.getD [] ++ [none]) }
  | .retryDelay =>
    if given then match Binary64.read raw with
      | some x => .ok { s with retryDelay := some x }
      | none => .error (.delay raw)
    else .ok { s with retryDelay := none }
  | _ => .ok s

def complain {α : Type} (part : Part) (r : Except Complaint α) : Except Stop α :=
  r.mapError (.complaint part)

/-- Reads the options of a launch and then the command; also the options that nobody knows. -/
def readLaunch (s : Settings) (unknown : List Text) :
    List (Text × Mark) → Except Stop (Settings × List Text)
  | [] => .ok (s, unknown)
  | (a, .unknown) :: rest => readLaunch s (unknown ++ [a]) rest
  | (_, .option o short value) :: rest => do
    let (flags, last, value) ← complain .launch (optionsOf .launch o short value)
    if last.takesValue then
      match value, rest with
      | some v, rest =>
        let s ← setFlags .launch s flags
        let s ← complain .launch (setValue s last v)
        readLaunch s unknown rest
      | none, (v, .plain) :: rest =>
        let s ← setFlags .launch s flags
        let s ← complain .launch (setValue s last v)
        readLaunch s unknown rest
      | none, _ => .error (.complaint .launch (.valueMissing last))
    else
      let s ← setFlags .launch s (flags ++ [last])
      readLaunch s unknown rest
  | here => .ok ({ s with command := here.map (·.1) }, unknown)

def readStatus (unknown : List Text) : List (Text × Mark) → Except Stop (List Text)
  | [] => .ok unknown
  | (_, .option o short value) :: rest => do
    let (flags, last, _) ← complain .status (optionsOf .status o short value)
    let _ ← setFlags .status {} (flags ++ [last])
    readStatus unknown rest
  | (a, _) :: rest => readStatus (unknown ++ [a]) rest

/-- Nothing that is unknown may be left over. -/
def settle (unknown : List Text) (c : Command) : Except Stop Command :=
  if unknown.isEmpty then .ok c else .error (.complaint .whole (.unrecognized unknown))

def readCommand (unknown : List Text) (name : Text) (args : List Text) : Except Stop Command :=
  if name = "launch" then do
    let (settings, more) ← readLaunch {} [] (← complain .launch (marks .launch args))
    settle (unknown ++ more) (.launch settings)
  else if name = "status" then do
    let more ← readStatus [] (← complain .status (marks .status args))
    settle (unknown ++ more) .status
  else .error (.complaint .whole (.commandUnknown name))

def readMarked (unknown : List Text) : List (Text × Mark) → Except Stop Command
  | [] => .error (.complaint .whole .commandMissing)
  | (a, .unknown) :: rest => readMarked (unknown ++ [a]) rest
  | (_, .option o short value) :: rest => do
    let (flags, last, _) ← complain .whole (optionsOf .whole o short value)
    let _ ← setFlags .whole {} (flags ++ [last])
    readMarked unknown rest
  | [(_, .separator)] => .error (.complaint .whole .commandMissing)
  | (name, _) :: rest => readCommand unknown name (rest.map (·.1))

def read (args : List Text) : Except Stop Command := do
  readMarked [] (← complain .whole (marks .whole args))

end SharedVm.CommandLine
