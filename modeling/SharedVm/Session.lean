import SharedVm.CommandLine.Run
import SharedVm.Journal.Record

/-!
# Sessions

Runs of any length: steps over one world, each with tapes and faults of its own. While the command
of a leader runs, steps of a session of its own take place. Each step answers with its result, what
it did to the surroundings, what it told the log, and what the disk holds afterwards.
-/

namespace SharedVm.Session

inductive Preparation where
  | real
  | fails (message : Text)
  | gives (vars : Value)

inductive Operation where
  | setEnviron (env : Environ)
  | write (file : Path) (content : Bytes) (executable : Bool)
  | fill (directory : Path) (names : List Text)
  | makeDirectory (directory : Path)
  | remove (file : Path)
  | stand (port : Value) (lock : Option Path)
  | inspect (lock : Option Path)
  | readPort (lock : Path)
  | publish (handle : Text) (port : Value)
  | replace (handle : Text) (content : Bytes)
  | release (handle : Text) (closeFails : Option Report)
  | close (handle : Text)
  | openAt (lock : Path)
  | take (handle : Text) (blocking : Bool)
  | launch (l : Launch Override) (preparation : Preparation)
  | freePort (base : Path) (ports : Value)
  | startRelay (base : Option Path) (binary : Option Text) (host : Option Environ)
  | waitRelay (relay : Text)
  | endRelay (relay : Text)
  | findProgram (program : Text) (host : Option Environ)
  | findCompanion (program running : Text) (host : Option Environ)
  | guestVars (overrides : List Override) (host : Option Environ) (compatible : Option Path)
  | processVars (overrides : List Override) (host : Option Environ)

inductive Result where
  | nothing
  | standing (s : Standing)
  | leadership (l : Leadership)
  | port (n : Option Nat)
  | isClosed (b : Bool)
  | contents (bs : Bytes)
  | launched (l : Launched Override)
  | freePort (port : Value)
  | relay (r : Relay)
  | exitCode (n : Int)
  | program (t : Option Text)
  | companion (p : Path)
  | guestVars (vars : Bindings Value)
  | processVars (vars : Bindings Value)
  | outcome (o : CommandLine.Outcome)

/-- What a step brings along: tapes, faults beside those of the step around it, a name for what it
produces, and the level from which on its records are kept. -/
structure Setting where
  peers : List Peer := []
  relays : List RelayProcess := []
  faults : Faults := {}
  name : Option Text := none
  log : Option Int := none

inductive Step where
  | one (setting : Setting) (operation : Operation)
  /-- A run of the command line, the end of the command of its leader, and what happens while that
  command runs. -/
  | commandLine (setting : Setting) (args : List Text) (ending : CommandLine.Ending)
      (meanwhile : Option (List Step))

/-- What a step answers. `records` are those that the step's own setting keeps, `shown` those that a
run of the command line shows. -/
inductive Answer where
  | mk (result : Except Failure Result) (events : List Event) (meanwhile : Option (List Answer))
      (records : Option (List Journal.Record)) (shown : List Journal.Record)
      (listing : List (Location × Option Bytes))

structure State where
  world : World
  handles : Bindings Nat := []
  relays : Bindings Relay := []

namespace State

def nameHandle (s : State) (name : Option Text) (h : Nat) : State :=
  match name with
  | some name => { s with handles := s.handles.set name h }
  | none => s

def nameRelay (s : State) (name : Option Text) (r : Relay) : State :=
  match name with
  | some name => { s with relays := s.relays.set name r }
  | none => s

def remember (s : State) (name : Option Text) : Result → State
  | .standing (.elected h _ _) => s.nameHandle name h
  | .launched (.leading leader) => s.nameHandle name leader.handle
  | .relay r => s.nameRelay name r
  | _ => s

end State

/-- Writes a file from outside, in place if it is there. -/
def writeFile (file : Path) (content : Bytes) (executable : Bool) : Act Unit := do
  Act.makeDirectories file.parent
  Act.checkPath file.text
  match (← Act.disk).touch file with
  | .error e => throw (.report (e.report file.text))
  | .ok (i, d) => Act.setDisk (d.modifyInode i ({ · with content, executable }))

def removeFile (file : Path) : Act Unit := do
  Act.setDisk (← Act.ask file (fun _ => none) (·.remove file))

def hostOr (host : Option Environ) : Act Environ :=
  match host with
  | some env => return env
  | none => Act.environ

def lockOr (lock : Option Path) : Act Path := do
  match lock with
  | some lock => return lock
  | none => Election.lockOf (← Act.environ)

def prepare (p : Preparation) (overrides : List Override) : Act Value := do
  match p with
  | .real => return Guest.asValue (← Guest.ownVars overrides)
  | .fails message =>
    Act.event (.prepare overrides)
    Act.misconfigured (.stated message)
  | .gives vars =>
    Act.event (.prepare overrides)
    return vars

def withHandle (s : State) (name : Text) (f : Nat → Act Result) : Act Result :=
  match s.handles.get? name with
  | some h => f h
  | none => throw (.nameUnknown name)

def withRelay (s : State) (name : Text) (f : Relay → Act Result) : Act Result :=
  match s.relays.get? name with
  | some r => f r
  | none => throw (.nameUnknown name)

def perform (s : State) : Operation → Act Result
  | .setEnviron env => do
    modify ({ · with environ := env })
    return .nothing
  | .write file content executable => do
    writeFile file content executable
    return .nothing
  | .fill directory names => do
    Act.makeDirectories directory
    for name in names do writeFile (directory.child name) [] false
    return .nothing
  | .makeDirectory directory => do
    Act.makeDirectories directory
    return .nothing
  | .remove file => do
    removeFile file
    return .nothing
  | .stand port lock => return .standing (← Election.stand port (lockOr lock))
  | .inspect lock => return .leadership (← Election.inspect (lockOr lock))
  | .readPort lock => return .port (← LockFile.readPort lock)
  | .publish handle port => withHandle s handle fun h => do
    LockFile.publish h port
    return .nothing
  | .replace handle content => withHandle s handle fun h => do
    LockFile.replace h content
    return .nothing
  | .release handle closeFails => withHandle s handle fun h => do
    LockFile.release h closeFails
    return .isClosed !(← Act.disk).isOpen h
  | .close handle => withHandle s handle fun h => do
    LockFile.close h
    return .nothing
  | .openAt lock => do
    let h ← LockFile.openAt lock
    return .contents (← LockFile.contents h)
  | .take handle blocking => withHandle s handle fun h => do
    LockFile.take h blocking
    return .nothing
  | .launch l preparation => return .launched (← l.run (prepare preparation))
  | .freePort base ports => do
    let ports ← Act.ofExcept (Request.itemsOf ports)
    return .freePort (← Relay.freePort Value.display base ports)
  | .startRelay base binary host => do
    return .relay (← Relay.start base binary (← hostOr host))
  | .waitRelay relay => withRelay s relay fun r => return .exitCode (← r.wait)
  | .endRelay relay => withRelay s relay fun r => do
    r.terminate
    return .nothing
  | .findProgram program host => return .program (← Program.find (← hostOr host) program)
  | .findCompanion program running host =>
    return .companion (← Program.companion (← hostOr host) program running)
  | .guestVars overrides host compatible => do
    let compatible := compatible.getD (← get).deviceTree
    return .guestVars (← Guest.vars (← hostOr host) compatible overrides)
  | .processVars overrides host => return .processVars ((← hostOr host).forProcess overrides)

def enter (w : World) (setting : Setting) : World :=
  { w with
    peers := setting.peers, relays := setting.relays, faults := setting.faults.within w.faults
    events := [], notices := [] }

/-- The world after a step, with what surrounds it as it was before. -/
def leave (before after : World) : World :=
  { after with
    peers := before.peers, relays := before.relays, faults := before.faults
    events := before.events, notices := before.notices }

/-- What a step leaves behind. `fed` is what it told the log of the step around it; `silenced`
says that the log of the step around it gets nothing more. -/
structure Ran where
  answer : Answer
  state : State
  fed : List Notice
  silenced : Bool

def kept (threshold : Int) (notices : List Notice) : List Journal.Record :=
  (notices.filter fun n => Journal.isWritten threshold n.level).map Journal.Record.ofNotice

def runOne (s : State) (setting : Setting) (operation : Operation) : Ran :=
  let opened := s.world.disk.handles.length
  let (result, w) := (perform s operation).run (enter s.world setting)
  let named := match result with
    | .ok r => match operation with
      | .openAt _ => s.nameHandle setting.name opened
      | _ => s.remember setting.name r
    | .error _ => s
  { answer := .mk result w.events none (setting.log.map fun level => kept level w.notices) []
      w.disk.listing
    state := { named with world := leave s.world w }
    fed := if setting.log.isSome then [] else w.notices
    silenced := setting.log.isSome }

mutual

/-- Runs one step. A run of the command line sets the log up anew, so the log of its own setting
keeps nothing. Nothing happens meanwhile if the command of its leader is not even started. -/
def Step.run (s : State) : Step → Ran
  | .one setting operation => runOne s setting operation
  | .commandLine setting args ending meanwhile =>
    let level := Journal.levelOf s.world.environ
    let (begun, w) := (CommandLine.start args).run (enter s.world setting)
    let ended (result : Except Failure Result) (w : World) (s' : State) (told : List Notice)
        (inner : Option (List Answer)) : Ran :=
      { answer := .mk result w.events inner (setting.log.map fun _ => []) (kept level told)
          w.disk.listing
        state := { s' with world := leave s.world w }
        fed := []
        silenced := true }
    match begun with
    | .error f => ended (.error f) w s w.notices none
    | .ok (.done outcome) => ended (.ok (.outcome outcome)) w s w.notices none
    | .ok (.running leader) =>
      match meanwhile, ending.isExit with
      | some steps, true =>
        let (answers, s', fed, silenced) := runAll { s with world := { w with notices := [] } } steps
        let (outcome, w') := (CommandLine.finish leader ending).run s'.world
        ended (outcome.map .outcome) w' s'
          (w.notices ++ fed ++ (if silenced then [] else w'.notices)) (some answers)
      | _, _ =>
        let (outcome, w) := (CommandLine.finish leader ending).run w
        ended (outcome.map .outcome) w s w.notices none

def runAll (s : State) : List Step → List Answer × State × List Notice × Bool
  | [] => ([], s, [], false)
  | step :: rest =>
    let ran := step.run s
    let (answers, s, fed, silenced) := runAll ran.state rest
    (ran.answer :: answers, s, ran.fed ++ (if ran.silenced then [] else fed),
      ran.silenced || silenced)

end

/-- The state in which a session starts: an empty working directory and a device tree file in it. -/
def initial (env : Environ) (system : System := {}) : State :=
  { world := { system, environ := env, deviceTree := "device-tree/compatible" } }

def answers (env : Environ) (steps : List Step) (system : System := {}) : List Answer :=
  (runAll (initial env system) steps).1

end SharedVm.Session
