import SharedVm.Failure
import SharedVm.Text.Utf8

/-!
# Disk

Directories, files and locks. A location, the names from the root, leads to a directory or to an
inode; the inode has the contents, and the open handle that holds its lock. So a file that has been
removed keeps its contents and its lock for the handles that are open on it, and a new file of the
same name is a different one.
-/

namespace SharedVm

/-- The names from the root to a place on the disk. -/
abbrev Location := List Text

inductive Entry where
  | directory
  | file (inode : Nat)
  deriving DecidableEq, Repr

structure Inode where
  content : Bytes := []
  executable : Bool := false
  holder : Option Nat := none
  deriving DecidableEq, Repr

structure Handle where
  inode : Nat
  position : Nat := 0
  isOpen : Bool := true
  deriving DecidableEq, Repr

/-- Handles and inodes are known by their place in the order of their making. -/
structure Disk where
  workDir : Location
  entries : List (Location × Entry)
  inodes : List Inode := []
  handles : List Handle := []
  deriving DecidableEq, Repr

inductive DiskError where
  | notFound | fileExists | notDirectory | isDirectory | nameTooLong
  deriving DecidableEq, Repr

namespace DiskError

def number : DiskError → Int
  | notFound => 2
  | fileExists => 17
  | notDirectory => 20
  | isDirectory => 21
  | nameTooLong => 36

def text : DiskError → Text
  | notFound => "No such file or directory"
  | fileExists => "File exists"
  | notDirectory => "Not a directory"
  | isDirectory => "Is a directory"
  | nameTooLong => "File name too long"

def report (e : DiskError) (path : Text) : Report := .ofNumber e.number e.text path

end DiskError

namespace Disk

def empty : Disk :=
  let workDir : Location := ["work"]
  { workDir, entries := [(workDir, .directory)] }

def entryAt? (d : Disk) (at' : Location) : Option Entry :=
  if at'.isEmpty then some .directory else (d.entries.find? (·.1 = at')).map (·.2)

def inode? (d : Disk) (i : Nat) : Option Inode := d.inodes[i]?

def handle? (d : Disk) (h : Nat) : Option Handle := d.handles[h]?

def isOpen (d : Disk) (h : Nat) : Bool := (d.handle? h).any (·.isOpen)

def content (d : Disk) (i : Nat) : Bytes := ((d.inode? i).map (·.content)).getD []

def holder? (d : Disk) (i : Nat) : Option Nat := (d.inode? i).bind (·.holder)

def modifyInode (d : Disk) (i : Nat) (f : Inode → Inode) : Disk :=
  { d with inodes := d.inodes.modify i f }

def modifyHandle (d : Disk) (h : Nat) (f : Handle → Handle) : Disk :=
  { d with handles := d.handles.modify h f }

def nameLimit : Nat := 255

def nameLength (name : Text) : Nat := ((Utf8.encodeOs? name).getD []).length

/-- One name further; `..` leads up and `.` stays. -/
def next (here : Location) (name : Text) : Location :=
  if name = Path.back then here.dropLast
  else if name = "." then here
  else here ++ [name]

/-- The location that names lead to. All but the last have to be directories. -/
def follow (d : Disk) (here : Location) : List Text → Except DiskError Location
  | [] => .ok here
  | name :: rest =>
    match d.entryAt? here with
    | none => .error .notFound
    | some (.file _) => .error .notDirectory
    | some .directory =>
      if nameLength name > nameLimit then .error .nameTooLong
      else follow d (next here name) rest

def origin (d : Disk) : PathRoot → Location
  | .here => d.workDir
  | _ => []

def pathLimit : Nat := 4095

def locate (d : Disk) (p : Path) : Except DiskError Location :=
  if nameLength p.text > pathLimit then .error .nameTooLong
  else d.follow (d.origin p.start) p.names

def look (d : Disk) (place : Location) : Except DiskError Entry :=
  match d.entryAt? place with
  | some e => .ok e
  | none => .error .notFound

def stat (d : Disk) (p : Path) : Except DiskError Entry := do d.look (← d.locate p)

/-- The names in a text that has not been brought into the plain form of a path: an empty one
stays where it is, which has to be a directory. -/
def rawNames (t : Text) : List Text :=
  (t.splitOn (.char '/')).map fun name => if name.isEmpty then "." else name

/-- What a text leads to that has not been brought into the plain form of a path. -/
def statText (d : Disk) (t : Text) : Except DiskError Entry := do
  if t.isEmpty then .error .notFound
  else if nameLength t > pathLimit then .error .nameTooLong
  else d.look (← d.follow (d.origin (Path.startOf t)) (rawNames t))

def isDirectory (d : Disk) (p : Path) : Bool :=
  match d.stat p with
  | .ok .directory => true
  | _ => false

def makeDirectory (d : Disk) (p : Path) : Except DiskError Disk := do
  let place ← d.locate p
  match d.entryAt? place with
  | some _ => .error .fileExists
  | none => .ok { d with entries := d.entries ++ [(place, .directory)] }

/-- Makes a directory unless it is there, after the directories above it; the error with the
directory that it is about, if there is one. What was made before an error stays. Names are handed
over last to first, so that the directory above has one name less. -/
def makeDirectoriesFrom (d : Disk) (start : PathRoot) :
    List Text → Option (DiskError × Path) × Disk
  | [] => (none, d)
  | name :: above =>
    let p : Path := ⟨start, (name :: above).reverse⟩
    let settle (d : Disk) (e : DiskError) : Option (DiskError × Path) × Disk :=
      if d.isDirectory p then (none, d) else (some (e, p), d)
    match d.makeDirectory p with
    | .ok d => (none, d)
    | .error .notFound =>
      match makeDirectoriesFrom d start above with
      | (some e, d) => (some e, d)
      | (none, d) => match d.makeDirectory p with
        | .ok d => (none, d)
        | .error .notFound => (some (.notFound, p), d)
        | .error e => settle d e
    | .error e => settle d e

/-- Makes a directory unless it is there, with the directories above it. -/
def makeDirectories (d : Disk) (p : Path) : Option (DiskError × Path) × Disk :=
  d.makeDirectoriesFrom p.start p.names.reverse

def addFile (d : Disk) (place : Location) : Nat × Disk :=
  (d.inodes.length,
    { d with entries := d.entries ++ [(place, .file d.inodes.length)], inodes := d.inodes ++ [{}] })

/-- The inode of a file, which is made if nothing is there. -/
def touch (d : Disk) (p : Path) : Except DiskError (Nat × Disk) := do
  let place ← d.locate p
  match d.entryAt? place with
  | none => .ok (d.addFile place)
  | some (.file i) => .ok (i, d)
  | some .directory => .error .isDirectory

def file (d : Disk) (p : Path) : Except DiskError Nat := do
  match ← d.stat p with
  | .file i => .ok i
  | .directory => .error .isDirectory

def remove (d : Disk) (p : Path) : Except DiskError Disk := do
  let place ← d.locate p
  match ← d.look place with
  | .file _ => .ok { d with entries := d.entries.filter (·.1 ≠ place) }
  | .directory => .error .isDirectory

def openInode (d : Disk) (i : Nat) : Nat × Disk :=
  (d.handles.length, { d with handles := d.handles ++ [{ inode := i }] })

/-- Takes the lock of the file for a handle, unless another handle holds it. -/
def lock (d : Disk) (h : Nat) : Option Disk :=
  match d.handle? h with
  | none => none
  | some x =>
    match d.holder? x.inode with
    | some other =>
      if other = h then some d else none
    | none => some (d.modifyInode x.inode ({ · with holder := some h }))

def unlock (d : Disk) (h : Nat) : Disk :=
  match d.handle? h with
  | none => d
  | some x =>
    if d.holder? x.inode = some h then d.modifyInode x.inode ({ · with holder := none }) else d

/-- Closes a handle, which gives up its lock. -/
def close (d : Disk) (h : Nat) : Disk := (d.unlock h).modifyHandle h ({ · with isOpen := false })

@[simp] theorem handle?_modifyInode (d : Disk) (i h : Nat) (f : Inode → Inode) :
    (d.modifyInode i f).handle? h = d.handle? h := rfl

@[simp] theorem inode?_modifyHandle (d : Disk) (h i : Nat) (f : Handle → Handle) :
    (d.modifyHandle h f).inode? i = d.inode? i := rfl

@[simp] theorem handle?_unlock (d : Disk) (h k : Nat) : (d.unlock h).handle? k = d.handle? k := by
  unfold unlock
  split
  · rfl
  · split <;> rfl

theorem isOpen_close (d : Disk) (h : Nat) : (d.close h).isOpen h = false := by
  have hk := handle?_unlock d h h
  unfold handle? at hk
  simp only [isOpen, close, modifyHandle, handle?, List.getElem?_modify_eq, hk]
  cases d.handles[h]? <;> rfl

theorem holder?_of_lock {d e : Disk} {h : Nat} {x : Handle} (hx : d.handle? h = some x)
    (hi : x.inode < d.inodes.length) (he : d.lock h = some e) : e.holder? x.inode = some h := by
  unfold lock at he
  simp only [hx] at he
  split at he
  · split at he
    · cases he
      simp_all
    · cases he
  · cases he
    simp [holder?, inode?, modifyInode, List.getElem?_eq_getElem hi]

def rewind (d : Disk) (h : Nat) : Disk := d.modifyHandle h ({ · with position := 0 })

/-- Cuts off the contents of the file; the position stays. -/
def truncate (d : Disk) (h : Nat) : Disk :=
  match d.handle? h with
  | none => d
  | some x => d.modifyInode x.inode ({ · with content := [] })

/-- Contents with bytes written at a position, after zeros where the contents end before it. -/
def overwrite (content : Bytes) (position : Nat) (bs : Bytes) : Bytes :=
  content.take position ++ List.replicate (position - content.length) 0 ++ bs ++
    content.drop (position + bs.length)

def write (d : Disk) (h : Nat) (bs : Bytes) : Disk :=
  match d.handle? h with
  | none => d
  | some x =>
    (d.modifyInode x.inode fun i => { i with content := overwrite i.content x.position bs })
      |>.modifyHandle h ({ · with position := x.position + bs.length })

def unread (d : Disk) (h : Nat) : Bytes :=
  match d.handle? h with
  | none => []
  | some x => (d.content x.inode).drop x.position

def listing (d : Disk) : List (Location × Option Bytes) :=
  d.entries.filterMap fun (place, e) =>
    if place ≠ d.workDir && d.workDir.isPrefixOf place then
      some (place.drop d.workDir.length, match e with
        | .directory => none
        | .file i => some (d.content i))
    else none

end Disk

end SharedVm
