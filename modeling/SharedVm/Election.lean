import SharedVm.LockFile

/-!
# Election

Who holds the lock of the lock file leads. A candidate that gets the lock publishes its port; one
that does not learns the port of the leader. An inspection only looks: it takes the lock for a
moment and changes no file.
-/

namespace SharedVm

inductive Standing where
  | elected (handle : Nat) (lock : Path) (port : Int)
  | led (lock : Path) (port : Option Nat)
  deriving DecidableEq, Repr

/-- Whether somebody leads, and the usable port of the leader. -/
structure Leadership where
  leader : Bool
  port : Option Nat
  lock : Path
  deriving DecidableEq, Repr

namespace Election

def lockOf (env : Environ) : Act Path := do
  Act.ofExcept (env.lockPath (← Act.environ) (← Act.users))

/-- Whether the handle gets the lock. A handle that fails to try is closed. -/
def seek (h : Nat) (lock : Path) : Act Bool :=
  tryCatch (do LockFile.take h false; return true) fun f => match f with
    | .lockUnavailable _ => return false
    | f => do
      LockFile.close h
      match f with
      | .report r => if r.isSystem then Act.misconfigured (.lockNotTaken lock r) else throw f
      | f => throw f

/-- Publishes the port of a candidate that has the lock, or gives the lock up. -/
def lead (h : Nat) (lock : Path) (candidate : Value) : Act Unit :=
  tryCatch (LockFile.publish h candidate) fun f => match f with
    | .report r =>
      if r.isSystem then do
        LockFile.release h
        Act.misconfigured (.portNotPublished lock r)
      else do
        LockFile.close h
        throw f
    | f => do
      LockFile.close h
      throw f

def follow (h : Nat) (lock : Path) : Act (Option Nat) := do
  let bs ← Act.ensuring
    (Act.orReport (do Act.mayFail (·.read); LockFile.contents h) fun r =>
      Act.misconfigured (.lockNotRead lock r))
    (LockFile.close h)
  LockFile.port bs

/-- Stands for election with a port. `lock` says where the lock file is. The log is told of a port
that was published if the candidate gave it as a number. -/
def stand (candidate : Value) (lock : Act Path) : Act Standing := do
  let port ← Act.whole candidate
  if !Port.isPublishable port then Act.misconfigured (.portUnpublishable candidate)
  let lock ← lock
  let h ← Act.orReport (LockFile.openAt lock) fun r => Act.misconfigured (.lockNotOpened lock r)
  if ← seek h lock then
    lead h lock candidate
    if candidate.isNumber then Act.note (.lockAcquired lock port)
    return .elected h lock port
  else
    let port ← follow h lock
    Act.note (.lockHeld lock port)
    return .led lock port

def inspect (lock : Act Path) : Act Leadership := do
  let lock ← lock
  if !(← Act.isThere lock) then return ⟨false, none, lock⟩
  let h ← Act.openFile lock
  Act.ensuring
    (tryCatch (do LockFile.take h false; return ⟨false, none, lock⟩) fun f => match f with
      | .lockUnavailable _ => do
        Act.mayFail (·.inspect)
        return ⟨true, ← LockFile.port (← LockFile.contents h), lock⟩
      | f => throw f)
    (LockFile.close h)

end Election

end SharedVm
