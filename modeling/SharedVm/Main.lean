import SharedVm.CommandLine.Run
import SharedVm.Journal.Record

/-!
# The program

Reads the surroundings of the process once, and answers from that picture of them: the variables,
the lock file with whoever holds it, and the device tree. It connects to nobody and starts no
command; a launch that would become the leader says what it would run.
-/

namespace SharedVm.Main

def charOf : Symbol → Char
  | .char c => c
  | .lone _ => '\uFFFD'

def toString (t : Text) : String := String.ofList (t.map charOf)

/-- The variables that a run may ask for. -/
def varNames (args : List String) : List String :=
  let named := match CommandLine.read (args.map Text.ofString) with
    | .ok (.launch s) => (s.env.getD []).filterMap fun v => v.map fun (name, _) => toString name
    | _ => []
  ["HOME", "DISPLAY", "XAUTHORITY", toString Environ.serverPortVar, toString Environ.runtimeDirVar,
    toString Journal.levelVar] ++ Environ.wellKnownVars.map toString ++ named

def readEnviron (args : List String) : IO Environ := do
  let mut env : Environ := []
  for name in varNames args do
    match ← IO.getEnv name with
    | some v => env := env.set (Text.ofString name) (.text (Text.ofString v))
    | none => pure ()
  return env

/-- The lines of a file that is there. -/
def linesOf (file : String) : IO (List String) := do
  try return (← IO.FS.readFile file).splitOn "\n"
  catch _ => return []

/-- The number of the user who runs the process. -/
def ownNumber? : IO (Option String) := do
  return (← linesOf "/proc/self/status").findSome? fun line =>
    match line.splitOn "\t" with
    | "Uid:" :: n :: _ => some n
    | _ => none

def readUsers : IO Users := do
  let records := (← linesOf "/etc/passwd").map (·.splitOn ":")
  let number ← ownNumber?
  let home? (isMeant : String → String → Bool) : Option Text :=
    records.findSome? fun record => match record with
      | name :: _ :: n :: _ :: _ :: home :: _ =>
        if isMeant name n then some (Text.ofString home) else none
      | _ => none
  return {
    own := home? fun _ n => number = some n
    named := fun user => home? fun name _ => Text.ofString name = user }

def isHeld (file : String) : IO Bool := do
  try
    let h ← IO.FS.Handle.mk file .read
    let free ← h.tryLock
    if free then h.unlock
    return !free
  catch _ => return false

/-- The disk with a file as it is found, and its lock in other hands if it is held. -/
def copyFile (d : Disk) (file : Path) : IO Disk := do
  let name := toString file.text
  try
    let bytes ← IO.FS.readBinFile name
    let (_, d) := d.makeDirectories file.parent
    match d.touch file with
    | .error _ => return d
    | .ok (i, d) =>
      let d := d.modifyInode i ({ · with content := bytes.toList })
      if ← isHeld name then
        let (h, d) := d.openInode i
        return (d.lock h).getD d
      else return d
  catch _ => return d

def readWorld (args : List String) : IO World := do
  let environ ← readEnviron args
  let users ← readUsers
  let world : World := { environ, system := { users } }
  let disk ← copyFile world.disk world.deviceTree
  let disk ← match environ.lockPath environ users with
    | .ok lock => copyFile disk lock
    | .error _ => pure disk
  return { world with disk }

def tell (w : World) : IO Unit := do
  for n in w.notices do
    if Journal.isWritten (Journal.levelOf w.environ) n.level then
      let record := Json.object (Journal.Record.ofNotice n).members
      IO.eprintln (toString (record.write Json.spaced))

end SharedVm.Main

open SharedVm in
def main (args : List String) : IO UInt32 := do
  let (begun, w) := (CommandLine.start (args.map Text.ofString)).run (← Main.readWorld args)
  Main.tell w
  match begun with
  | .ok (.done outcome) =>
    IO.print (Main.toString outcome.out)
    IO.eprint (Main.toString outcome.err)
    return outcome.code.toNat.toUInt32
  | .ok (.running leader) =>
    let command := Text.join " " ((leader.command :: leader.args).map Value.display)
    IO.println (Main.toString ("would lead on port " ++ Decimal.ofInt leader.port ++ ": " ++ command))
    return 0
  | .error f =>
    IO.eprintln (Main.toString (CommandLine.program ++ ": " ++ f.message))
    return 1
