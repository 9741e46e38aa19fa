import SharedVm.World

/-!
# Programs

Looking for a program: in the directories of a search path, or beside the program that runs. A
program named with a slash is looked for just there.
-/

namespace SharedVm.Program

def isRunnable (d : Disk) (t : Text) : Bool :=
  (Failure.ofName? t).isNone && match d.statText t with
    | .ok (.file i) => (d.inode? i).any (·.executable)
    | _ => false

/-- The text of a name below a directory; an empty directory is the working directory. -/
def below (directory name : Text) : Text :=
  if directory.isEmpty || directory.getLast? = some (.char '/') then directory ++ name
  else directory ++ "/" ++ name

/-- Searched where the host has no search path. -/
def standardPath : Text := "/bin:/usr/bin"

/-- The first place below one of the directories where the program can be run. -/
def search (d : Disk) (path program : Text) : Option Text :=
  ((path.splitOn (.char ':')).map fun directory => below directory program).find? (isRunnable d)

def pathText : Value → Except Failure Text
  | .text t => .ok t
  | .bytes bs => .ok (Utf8.decodeOs bs)
  | .path p => .ok p.text
  | v => .error (.notPathLike v.kindName)

/-- Where a program is, seen from variables of the host; without a search path there, the one of
the process counts. -/
def find? (d : Disk) (host process : Environ) (program : Text) : Except Failure (Option Text) :=
  if program.contains (.char '/') then .ok (if isRunnable d program then some program else none)
  else
    let path := ((host.var? "PATH").orElse fun _ => process.var? "PATH").getD (.text standardPath)
    if path.isTruthy then (pathText path).map fun path => search d path program
    else .ok none

def find (host : Environ) (program : Text) : Act (Option Text) := do
  Act.ofExcept (find? (← Act.disk) host (← Act.environ) program)

/-- Why the operating system does not answer about a path that is followed from `here` on, one name
after the other. Only paths that end in a name of their own are asked for. -/
def flawAlong? (here : Path) : List Text → Option Failure
  | [] => none
  | name :: rest =>
    let next := here.along name
    match if name = Path.back then none else Failure.ofName? next.text with
    | some f => some f
    | none => flawAlong? next rest

/-- Why a path cannot be followed to its end; that nothing is there is no reason. -/
def flaw? (p : Path) : Option Failure :=
  flawAlong? ⟨if p.start = .here then .here else .root, []⟩ p.names

def absolute (d : Disk) (p : Path) : Path :=
  let above := match p.start with
    | .here => d.workDir
    | _ => []
  ⟨.root, p.names.foldl Disk.next above⟩

def withName (p : Path) (name : Text) : Except Failure Path :=
  if p.names.isEmpty then .error (.emptyName p)
  else if name.getLast? = some (.char '/') || Path.startOf name ≠ .here ||
      (Path.namesOf name).length ≠ 1 then .error (.invalidName name)
  else .ok ⟨p.start, p.names.dropLast ++ [name]⟩

/-- Where a companion of the running program is: in the search path, else beside `running`. -/
def companion (host : Environ) (program running : Text) : Act Path := do
  match ← find host program with
  | some found => return .ofText found
  | none =>
    let current ← Act.orReport
      (do
        Act.mayFail (·.resolve)
        match flaw? (.ofText running) with
        | some f => throw f
        | none => return absolute (← Act.disk) (.ofText running))
      fun r => Act.misconfigured (.ownPathUnknown r)
    Act.ofExcept (withName current program)

end SharedVm.Program
