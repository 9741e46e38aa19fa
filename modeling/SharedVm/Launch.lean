import SharedVm.Election
import SharedVm.Exchange
import SharedVm.Guest
import SharedVm.Relay

/-!
# Launching

A launch reaches a leader that is known, becomes the leader, or reaches the leader that it lost the
election to. Only in the last case the leader may still be starting, so only there a connection
that fails is tried again, at most `attemptLimit` times in all.
-/

namespace SharedVm

/-- What is to be launched, and where. What stands for nothing comes from the process. -/
structure Launch (α : Type) where
  /-- The port to publish by a launch that becomes the leader. -/
  serverPort : Value
  command : Value
  args : Value := .list []
  overrides : List α := []
  interactive : Bool := false
  host : Option Environ := none
  lock : Option Path := none
  runtimeDir : Option Path := none
  retryDelay : Value := .int 0

structure Leader (α : Type) where
  handle : Nat
  lock : Path
  port : Int
  command : Value
  args : List Value
  overrides : List α

inductive Launched (α : Type) where
  | requested (port : Int) (attempts : Nat)
  | leading (leader : Leader α)

namespace Launch

variable {α : Type}

def attemptLimit : Nat := 4

/-- How the leader at a port is asked to run a command with arguments and variables. -/
abbrev Asking := (port command args env : Value) → Act Unit

def byExchange : Asking := fun port command args env => Exchange.request port command args env

/-- Asks a leader to run a command, through a relay if the launch is interactive. A relay is ended
when the request fails, and waited for in any case. -/
def deliver (l : Launch α) (request : Asking) (runtimeDir : Option Path) (port : Int)
    (command : Value) (args : List Value) (env : Value) : Act Unit := do
  if !l.interactive then request (.int port) command (.list args) env
  else
    let relay ← Relay.start runtimeDir none (← Act.environ)
    let (wrapped, wrappedArgs) ← Act.ofExcept (Relay.wrap command (.list args) (.int relay.port))
    tryCatch
      (request (.int port) (.text wrapped) (.list (wrappedArgs.map .text)) env)
      fun f => do
        relay.terminate
        let _ ← relay.wait
        throw f
    let code ← relay.wait
    Act.note (.relayExited relay.port code)

/-- What went wrong with a request, if that is all that went wrong. -/
def launchError? (a : Act Unit) : Act (Option LaunchError) :=
  tryCatch (do a; return none) fun f => match f with
    | .launch e => return some e
    | f => throw f

def pause (delay : Value) : Act Unit := do
  match delay.isPositive? with
  | some true => Act.sleep delay
  | some false => pure ()
  | none => throw (.notComparable delay.kindName)

/-- Sends, and sends again after a delay as long as the connection fails, at most `left` more
times. The number of the attempt that succeeded. -/
def retry (send : Act Unit) (port : Int) (delay : Value) (left attempt : Nat) : Act Nat := do
  match ← launchError? send with
  | none => return attempt
  | some e =>
    match left with
    | 0 => throw (.forwarding e attempt)
    | left + 1 =>
      if e.retryable then
        Act.note (.attemptFailed attempt port e.message)
        pause delay
        retry send port delay left (attempt + 1)
      else throw (.forwarding e attempt)

/-- Launches. `prepare` makes the variables that go with a request out of the overrides. -/
def run (l : Launch α) (prepare : List α → Act Value) (request : Asking := byExchange) :
    Act (Launched α) := do
  let host ← match l.host with
    | some host => pure host
    | none => Act.environ
  let command ← Act.ofExcept (Request.commandName l.command)
  let args ← Act.ofExcept (Request.itemsOf l.args)
  let runtimeDir ← match l.runtimeDir with
    | some base => pure (some base)
    | none =>
      if l.interactive then
        some <$> Act.ofExcept (host.runtimeDir (← Act.environ) (← Act.users))
      else pure none
  match ← Act.ofExcept host.serverPort with
  | some known =>
    let env ← prepare l.overrides
    match ← launchError? (l.deliver request runtimeDir known command args env) with
    | none => return .requested known 1
    | some e => throw (.forwarding e 1)
  | none =>
    let lock ← match l.lock with
      | some lock => pure lock
      | none => Election.lockOf host
    match ← Election.stand l.serverPort (pure lock) with
    | .elected handle lock port =>
      Act.note (.elected lock port)
      return .leading { handle, lock, port, command, args, overrides := l.overrides }
    | .led lock none => throw (.leaderWithoutPort lock)
    | .led _ (some port) =>
      Act.note (.forwarding command port)
      let env ← prepare l.overrides
      let attempts ← retry (l.deliver request runtimeDir port command args env) port
        l.retryDelay (attemptLimit - 1) 1
      return .requested port attempts

end Launch

end SharedVm
