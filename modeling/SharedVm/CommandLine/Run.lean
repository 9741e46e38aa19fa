import SharedVm.CommandLine
import SharedVm.Json
import SharedVm.Launch

/-!
# Runs

What a command line does. A launch that becomes the leader runs its command itself and holds the
lock for as long as the command runs, so such a run is in two halves, with whatever happens
meanwhile between them.
-/

namespace SharedVm.CommandLine

/-- How the command of a leader ended: with an exit code, or without having been started. -/
inductive Ending where
  | exited (code : Int)
  | failed (r : Report)
  deriving DecidableEq, Repr

def Ending.isExit : Ending → Bool
  | exited _ => true
  | failed _ => false

/-- The first half of a run: it is over, or the command of the leader runs now. -/
inductive Begun where
  | done (outcome : Outcome)
  | running (leader : Leader (Option Override))

def message (t : Text) : Text := program ++ ": " ++ t ++ "\n"

/-- The overrides up to the first one that holds nothing, and whether there is one. -/
def filled : List (Option Override) → List Override × Bool
  | [] => ([], false)
  | none :: _ => ([], true)
  | some v :: rest => ((filled rest).map (v :: ·) id)

def prepare (overrides : List (Option Override)) : Act Value := do
  let (overrides, short) := filled overrides
  if short then
    let _ ← Guest.gather (← Act.environ) (← get).deviceTree overrides
    throw .emptyOverride
  else return Guest.asValue (← Guest.ownVars overrides)

/-- The variables of a command that the leader runs: it finds the leader by its port. -/
def leaderVars (process : Environ) (overrides : List Override) (port : Int) : Bindings Value :=
  (process.forProcess overrides).set Environ.serverPortVar (.text (Decimal.ofInt port))

def startCommand (leader : Leader (Option Override)) : Act Unit := do
  let (overrides, short) := filled leader.overrides
  if short then
    LockFile.close leader.handle
    throw .emptyOverride
  let vars := leaderVars (← Act.environ) overrides leader.port
  Act.event (.run (leader.command :: leader.args) vars.sorted)

/-- Whether a failure of a launch is told to the user rather than to the caller. -/
def isTold : Failure → Bool
  | .misconfigured _ | .leaderWithoutPort _ | .forwarding .. => true
  | _ => false

/-- The command and its arguments: the settings' without a separator in front. -/
def Settings.commandLine (s : Settings) : List Text :=
  match s.command with
  | [] => []
  | a :: rest => if a = "--" then rest else a :: rest

def beginLaunch (s : Settings) : Act Begun := do
  match s.commandLine with
  | [] => return .done { code := 2, err := message "missing command" }
  | command :: args =>
    let port ← match s.port with
      | some port => pure port
      | none => throw .emptyPort
    let delay ← match s.retryDelay with
      | some delay => pure delay
      | none => throw .emptyDelay
    let launch : Launch (Option Override) := {
      serverPort := .int port
      command := .text command
      args := .list (args.map .text)
      overrides := s.env.getD []
      interactive := s.interactive
      retryDelay := .real delay }
    let launched ← tryCatch (Except.ok <$> launch.run prepare) fun f =>
      if isTold f then return .error f else throw f
    match launched with
    | .error f => return .done { code := 1, err := message f.message }
    | .ok (.requested _ _) => return .done { code := 0 }
    | .ok (.leading leader) =>
      startCommand leader
      return .running leader

def report (l : Leadership) : Json :=
  .object [
    ("leader", .bool l.leader),
    ("port", match l.port with
      | some n => .int n
      | none => .null),
    ("lock_path", .text l.lock.text)]

def status : Act Outcome := do
  let found ← tryCatch
    (Except.ok <$> Election.inspect do Election.lockOf (← Act.environ))
    fun f => match f with
      | .misconfigured m => return .error m
      | _ => throw f
  match found with
  | .error m => return { code := 2, err := message m.message }
  | .ok l =>
    let out := (report l).write Json.indented ++ "\n"
    Act.unlessRefused (·.printing out)
    return { code := if l.leader then 0 else 1, out }

/-- Runs up to the end, or to where the command of a leader runs. -/
def start (args : List Text) : Act Begun := do
  match read args with
  | .error stop => return .done stop.outcome
  | .ok .status => return .done (← status)
  | .ok (.launch settings) => beginLaunch settings

def finish (leader : Leader (Option Override)) (ending : Ending) : Act Outcome := do
  LockFile.release leader.handle
  match ending with
  | .exited code => return { code }
  | .failed r =>
    if r.isNotFound then
      return { code := 127, err := message ("command not found: " ++ leader.command.display) }
    else throw (.report r)

end SharedVm.CommandLine
