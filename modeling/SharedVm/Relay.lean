import SharedVm.Program
import SharedVm.Relay.Address

/-!
# Relays

A relay carries the terminal of one interactive session. It listens on a socket whose name holds
its port; the first port without such a name is free. A relay that is never connected to has to be
ended and waited for.
-/

namespace SharedVm

structure Relay where
  process : RelayProcess
  port : Int
  socket : Path
  deriving DecidableEq, Repr

namespace Relay

def socketDir (base : Path) : Path := (base.child "krun").child "socket"

def socketPath (base : Path) (port : Text) : Path := (socketDir base).child ("port-" ++ port)

/-- The ports that relays use: 50000 to 50199. -/
def ports : List Int := (List.range 200).map fun (i : Nat) => 50000 + (i : Int)

/-- The first port whose socket is not there. `text` says how the name of a socket shows a port. -/
def freePort {α : Type} (text : α → Text) (base : Path) : List α → Act α
  | [] => Act.misconfigured (.relayPortsUsedUp (socketDir base))
  | port :: rest => do
    if ← Act.isThere (socketPath base (text port)) then freePort text base rest else return port

def nextProcess : Act RelayProcess := do
  let w ← get
  match w.relays with
  | [] => return {}
  | p :: rest =>
    set { w with relays := rest }
    return p

def spawn (binary : Text) (socket : Path) : Act RelayProcess := do
  Act.event (.spawn [binary, "unix-l:" ++ socket.text, "-,raw,echo=0"])
  let p ← nextProcess
  match p.spawnFails with
  | some r => throw (.report r)
  | none =>
    if p.touches then
      match (← Act.disk).touch socket with
      | .ok (_, d) => Act.setDisk d
      | .error _ => pure ()
    return p

def listen (base : Path) (binary : Text) : Act Relay := do
  let port ← freePort Decimal.ofInt base ports
  let socket := socketPath base (Decimal.ofInt port)
  Act.makeDirectories socket.parent
  let process ← Act.orReport (spawn binary socket) fun r =>
    Act.misconfigured (.relayNotStarted binary r)
  Act.note (.relayListening process.pid socket)
  return { process, port, socket }

/-- Where the relay program is: the one that is given, unless its name is empty. -/
def binaryOr (binary : Option Text) (host : Environ) : Act (Option Text) := do
  match binary with
  | some binary => if binary.isEmpty then Program.find host program else return some binary
  | none => Program.find host program

/-- Starts a relay below a runtime directory, which `host` names if `base` does not. -/
def start (base : Option Path) (binary : Option Text) (host : Environ) : Act Relay := do
  let base ← match base with
    | some base => pure base
    | none => Act.ofExcept (host.runtimeDir (← Act.environ) (← Act.users))
  match ← binaryOr binary host with
  | none => Act.misconfigured .relayNotFound
  | some binary => listen base binary

def wait (r : Relay) : Act Int := do
  Act.event .wait
  return r.process.exitCode

/-- Tells a relay to end, which fails if it is gone. -/
def signal (r : Relay) : Act Unit := do
  Act.event .terminate
  if r.process.gone then throw (.report (.ofNumber 3 "No such process"))

/-- Tells a relay to end, unless it has ended; that it is gone is no failure. -/
def terminate (r : Relay) : Act Unit := do
  Act.event .poll
  if r.process.poll.isNone then
    tryCatch (signal r) fun f => match f with
      | .report e => if e.kind = .system .noProcess then pure () else throw f
      | _ => throw f

end Relay

end SharedVm
