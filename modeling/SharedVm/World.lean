import SharedVm.Disk
import SharedVm.Environ
import SharedVm.Notice

/-!
# The world

What an operation runs in: the disk, the variables of the process, and what its surroundings are
going to do, as tapes that are used up from the front. An operation leaves behind what it did to
the surroundings, as events, and what it told the log. `Act` is an operation that may fail; what it
did before it failed stays done.
-/

namespace SharedVm

inductive Peer where
  | unreachable (r : Report)
  | deaf (r : Report)
  /-- The pieces of the answer, and the failure after them if there is one. An empty piece reads as
  the end. -/
  | answering (pieces : List Bytes) (ending : Option Report)
  deriving DecidableEq, Repr

structure RelayProcess where
  spawnFails : Option Report := none
  /-- Whether the socket is there as soon as the process is. -/
  touches : Bool := false
  pid : Int := 4242
  /-- The exit code that is there without waiting, if the process has ended. -/
  poll : Option Int := none
  exitCode : Int := 0
  /-- Whether the process is gone when it is told to end. -/
  gone : Bool := false
  deriving DecidableEq, Repr

/-- Calls that fail for as long as an operation runs, for reasons that are not in what the disk
holds: a missing permission, or a disk that is full or broken. -/
structure Faults where
  lock : Option Report := none
  sync : Option Report := none
  /-- Reading a lock file that somebody else has locked, by a candidate. -/
  read : Option Report := none
  /-- The same reading, by an inspection. -/
  inspect : Option Report := none
  resolve : Option Report := none
  /-- Asking what is at a path. -/
  stat : Path → Option Report := fun _ => none
  /-- Opening a file, or reading a file that is opened only to be read. -/
  opening : Path → Option Report := fun _ => none
  /-- Making a directory: both the one at the path and those above it that it needs. -/
  making : Path → Option Report := fun _ => none

def Faults.within (inner outer : Faults) : Faults where
  lock := inner.lock.or outer.lock
  sync := inner.sync.or outer.sync
  read := inner.read.or outer.read
  inspect := inner.inspect.or outer.inspect
  resolve := inner.resolve.or outer.resolve
  stat p := (inner.stat p).or (outer.stat p)
  opening p := (inner.opening p).or (outer.opening p)
  making p := (inner.making p).or (outer.making p)

inductive Event where
  | connect (host : Text) (port : Int) (timeout : Option Value)
  | send (bs : Bytes)
  | closed
  | spawn (argv : List Text)
  | poll
  | terminate
  | wait
  | sleep (seconds : Value)
  | run (argv : List Value) (env : Bindings Value)
  | prepare (overrides : List Override)
  deriving Repr

structure World where
  system : System := {}
  disk : Disk := .empty
  environ : Environ := []
  deviceTree : Path := ⟨.root, ["proc", "device-tree", "compatible"]⟩
  faults : Faults := {}
  peers : List Peer := []
  relays : List RelayProcess := []
  events : List Event := []
  notices : List Notice := []

abbrev Act := ExceptT Failure (StateM World)

namespace Act

def run {α : Type} (a : Act α) (w : World) : Except Failure α × World := a w

def fail {α : Type} (f : Failure) : Act α := throw f

def misconfigured {α : Type} (m : Misconfiguration) : Act α := throw (.misconfigured m)

def ofExcept {α : Type} : Except Failure α → Act α
  | .ok a => pure a
  | .error f => throw f

def whole (v : Value) : Act Int := ofExcept (v.whole.mapError .notWhole)

def event (e : Event) : Act Unit := modify fun w => { w with events := w.events ++ [e] }

def note (n : Notice) : Act Unit := modify fun w => { w with notices := w.notices ++ [n] }

def disk : Act Disk := return (← get).disk

def setDisk (d : Disk) : Act Unit := modify ({ · with disk := d })

def environ : Act Environ := return (← get).environ

def users : Act Users := return (← get).system.users

/-- Runs `a`, and `cleanUp` after it also if `a` fails; a failure of `cleanUp` comes first. -/
def ensuring {α : Type} (a : Act α) (cleanUp : Act Unit) : Act α := do
  let r ← tryCatch (Except.ok <$> a) fun f => pure (.error f)
  cleanUp
  ofExcept r

/-- Runs `a`, and turns what the operating system reports into the failure that `cause` says. -/
def orReport {α : Type} (a : Act α) (cause : Report → Act α) : Act α :=
  tryCatch a fun f => match f with
    | .report r => if r.isSystem then cause r else throw f
    | _ => throw f

def mayFail (fault : Faults → Option Report) : Act Unit := do
  match fault (← get).faults with
  | some r => throw (.report r)
  | none => pure ()

def checkPath (t : Text) : Act Unit :=
  match Failure.ofName? t with
  | some f => throw f
  | none => pure ()

/-- Goes on unless the system refuses. -/
def unlessRefused (refusal : System → Option Failure) : Act Unit := do
  match refusal (← get).system with
  | some f => throw f
  | none => pure ()

def sleep (delay : Value) : Act Unit := do
  unlessRefused (·.sleeping delay)
  event (.sleep delay)

def ask {α : Type} (p : Path) (fault : Faults → Option Report) (f : Disk → Except DiskError α) :
    Act α := do
  checkPath p.text
  mayFail fault
  match f (← disk) with
  | .ok a => pure a
  | .error e => throw (.report (e.report p.text))

/-- That nothing is there, unless asking failed for another reason. -/
def absent (r : Report) : Act Bool := if r.isAbsence then return false else throw (.report r)

def isThere (p : Path) : Act Bool := do
  if (Failure.ofName? p.text).isSome then return false
  match (← get).faults.stat p with
  | some r => absent r
  | none => match (← disk).stat p with
    | .ok _ => return true
    | .error .nameTooLong => throw (.report (DiskError.nameTooLong.report p.text))
    | .error _ => return false

/-- After a directory could not be made: it may be there already. -/
def settleDirectory (p : Path) (r : Report) : Act Unit := do
  if !r.isSystem || r.isNotFound then throw (.report r)
  let there ← match (← get).faults.stat p with
    | some r => absent r
    | none => pure ((← disk).isDirectory p)
  if !there then throw (.report r)

def makeDirectories (p : Path) : Act Unit := do
  checkPath p.text
  match (← get).faults.making p with
  | some r => settleDirectory p r
  | none =>
    let (failed, d) := (← disk).makeDirectories p
    setDisk d
    match failed with
    | none => pure ()
    | some (e, at') => throw (.report (e.report at'.text))

def readFile (p : Path) : Act Bytes := do
  let i ← ask p (·.opening p) (·.file p)
  return (← disk).content i

def openFile (p : Path) : Act Nat := do
  let i ← ask p (·.opening p) (·.file p)
  let (h, d) := (← disk).openInode i
  setDisk d
  return h

end Act

end SharedVm
