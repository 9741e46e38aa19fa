import SharedVm.World

/-!
# Lock files

The file whose lock makes a process the leader, and whose contents are the leader's port. The lock
belongs to the open handle: closing the handle gives it up.
-/

namespace SharedVm

namespace LockFile

/-- Opens the file, which is made if it is not there, with the directories above it. What it holds
stays. -/
def openAt (lock : Path) : Act Nat := do
  Act.makeDirectories lock.parent
  Act.checkPath lock.text
  Act.mayFail (·.opening lock)
  match (← Act.disk).touch lock with
  | .error e => throw (.report (e.report lock.text))
  | .ok (i, d) =>
    let (h, d) := d.openInode i
    Act.setDisk d
    return h

def close (h : Nat) : Act Unit := do Act.setDisk ((← Act.disk).close h)

/-- Takes the lock. Without blocking, a lock that somebody else has is a failure of its own. -/
def take (h : Nat) (blocking : Bool) : Act Unit := do
  if !(← Act.disk).isOpen h then throw .useClosed
  let refuse (r : Report) : Act Unit :=
    if r.isRefusal && !blocking then throw (.lockUnavailable r.message) else throw (.report r)
  match (← get).faults.lock with
  | some r => refuse r
  | none => match (← Act.disk).lock h with
    | some d => Act.setDisk d
    | none => refuse .contended

/-- What the handle has not read yet. -/
def contents (h : Nat) : Act Bytes := do return (← Act.disk).unread h

def port (bs : Bytes) : Act (Option Nat) := do
  match Published.ofBytes bs with
  | .error (.tooLong n) => throw (.notWhole (.tooLong n))
  | .error .malformed => return none
  | .ok p =>
    match p with
    | .malformed t => Act.note (.malformedPort t)
    | .reserved n => Act.note (.reservedPort n)
    | .pastLast n => Act.note (.portPastLast n)
    | .port _ | .blank => pure ()
    return p.port?

/-- The usable port in a file, if there is one; a file that is not there has none. -/
def readPort (lock : Path) : Act (Option Nat) := do
  match ← tryCatch (some <$> Act.readFile lock) fun f => match f with
    | .report r => if r.isNotFound then pure none else throw f
    | _ => throw f
  with
  | some bs => port bs
  | none => return none

/-- Makes a port the contents of the file. The old contents are gone before the port is known to be
a number that has a decimal text. -/
def publish (h : Nat) (port : Value) : Act Unit := do
  if !(← Act.disk).isOpen h then throw .seekClosed
  Act.setDisk (((← Act.disk).rewind h).truncate h)
  match Decimal.write? (← Act.whole port) with
  | none => throw .digitsToWrite
  | some t =>
    Act.setDisk ((← Act.disk).write h (Utf8.encode t))
    Act.mayFail (·.sync)

def replace (h : Nat) (bs : Bytes) : Act Unit := do
  if !(← Act.disk).isOpen h then throw .seekClosed
  Act.setDisk ((((← Act.disk).rewind h).truncate h).write h bs)

/-- Goes on after any failure but an interrupt. -/
def tolerant (a : Act Unit) : Act Unit :=
  tryCatch a fun f => if f.isInterrupt then throw f else pure ()

/-- Gives up the lock and closes the handle, whatever fails on the way. A handle whose closing
fails stays open without the lock. -/
def release (h : Nat) (closeFails : Option Report := none) : Act Unit := do
  tolerant do
    if !(← Act.disk).isOpen h then throw .useClosed
    Act.mayFail (·.lock)
    Act.setDisk ((← Act.disk).unlock h)
  tolerant do
    match closeFails with
    | some r => throw (.report r)
    | none => close h

end LockFile

end SharedVm
