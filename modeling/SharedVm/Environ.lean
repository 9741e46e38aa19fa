import SharedVm.Bindings
import SharedVm.Port
import SharedVm.System

/-!
# Environments

What the variables of a process mean for a launch: where the runtime directory is, which server
runs already, and which variables a command is given, in the virtual machine or beside it.
-/

namespace SharedVm

/-- The variables of a process. A variable that is bound to nothing counts as absent. -/
abbrev Environ := Bindings Value

/-- A variable for a command, with its value. One that is bound to nothing is taken from the
host. -/
abbrev Override := Text × Value

namespace Environ

def var? (env : Environ) (name : Text) : Option Value :=
  match env.get? name with
  | some .null => none
  | v => v

/-- The text of a variable without blanks at its ends; a variable without a value is empty. -/
def stripped (env : Environ) (name : Text) : Text :=
  match env.get? name with
  | some v => if v.isTruthy then v.display.strip else []
  | none => []

def serverPortVar : Text := "KRUN_SERVER_PORT"

def runtimeDirVar : Text := "XDG_RUNTIME_DIR"

def serverPort (env : Environ) : Except Failure (Option Nat) :=
  match env.var? serverPortVar with
  | none => .ok none
  | some raw => match Port.announced? raw.display with
    | some n => .ok (some n)
    | none => .error (.misconfigured (.serverPortInvalid raw))

/-- The home directory of a user as it is on record. No name stands for the user of the process,
whose home a variable may name instead. -/
def homeOnRecord? (env : Environ) (users : Users) (user : Text) : Option Text :=
  if user.isEmpty then ((env.get? "HOME").map Value.display).or users.own else users.named user

/-- A home directory without slashes at its end; the topmost directory keeps one. -/
def trimHome (home : Text) : Text :=
  match (home.reverse.dropWhile (· = .char '/')).reverse with
  | [] => "/"
  | t => t

/-- The home directory that `~` with the name of a user behind it stands for. A home that begins
with `~` itself leads nowhere. -/
def homeOf (env : Environ) (users : Users) (user : Text) : Except Failure Text :=
  match Failure.ofName? user, env.homeOnRecord? users user with
  | some f, _ => .error f
  | none, none => .error .homeUnknown
  | none, some home =>
    if (trimHome home).head? = some (.char '~') then .error .homeUnknown else .ok (trimHome home)

def expandHome (env : Environ) (users : Users) (p : Path) : Except Failure Path :=
  match p.start, p.names with
  | .here, (.char '~' :: user) :: rest =>
    (env.homeOf users user).map fun home =>
      let base := Path.ofText home
      ⟨base.start, base.names ++ rest⟩
  | _, _ => .ok p

/-- The runtime directory that `env` names; `~` is the home of the process. -/
def runtimeDir (env process : Environ) (users : Users) : Except Failure Path :=
  match env.stripped runtimeDirVar with
  | [] => .error (.misconfigured .runtimeDirUnset)
  | raw => process.expandHome users (.ofText raw)

def lockPath (env process : Environ) (users : Users) : Except Failure Path :=
  (env.runtimeDir process users).map (·.child "krun.lock")

/-- Passed to the virtual machine when the host has them. -/
def wellKnownVars : List Text :=
  ["LD_LIBRARY_PATH", "LIBGL_DRIVERS_PATH", "MESA_LOADER_DRIVER_OVERRIDE", "PATH", "RUST_LOG"]

def driverVar : Text := "MESA_LOADER_DRIVER_OVERRIDE"

def asksDeviceTree (host : Environ) : Bool := (host.var? driverVar).isNone

/-- Whether the names in a device tree file, with a zero byte between neighbours, include the
platform that needs a driver of its own. -/
def isAsahi (compatible : Bytes) : Bool :=
  ((Utf8.decode compatible).splitOn (.char '\x00')).contains "apple,arm-platform"

def hostVars (host : Environ) (asahi : Bool) : Bindings Value :=
  wellKnownVars.filterMap fun name =>
    match host.var? name with
    | some v => some (name, v)
    | none => if name = driverVar && asahi then some (name, .text "asahi") else none

def withOverrides (host : Environ) (b : Bindings Value) :
    List Override → Except Failure (Bindings Value)
  | [] => .ok b
  | (name, .null) :: rest => match host.var? name with
    | some v => withOverrides host (b.set name v) rest
    | none => .error (.misconfigured (.variableMissing name))
  | (name, v) :: rest => withOverrides host (b.set name v) rest

/-- The host's display under the name that the guest expects, with its authority file. -/
def withDisplay (host : Environ) (b : Bindings Value) : Bindings Value :=
  match host.var? "DISPLAY" with
  | none => b
  | some display =>
    let b := b.set "HOST_DISPLAY" display
    match host.var? "XAUTHORITY" with
    | some authority => b.set "XAUTHORITY" authority
    | none => b

def forVm (host : Environ) (asahi : Bool) (overrides : List Override) :
    Except Failure (Bindings Value) :=
  (withOverrides host (host.hostVars asahi) overrides).map host.withDisplay

/-- Variables of the host's session that a server beside it must not see. -/
def sessionVars : List Text := [
  "DBUS_SESSION_BUS_ADDRESS", "DISPLAY", "ICEAUTHORITY", "KONSOLE_DBUS_SERVICE",
  "KONSOLE_DBUS_SESSION", "KONSOLE_DBUS_WINDOW", "MANAGERPID", "PAM_KWALLET5_LOGIN",
  "SESSION_MANAGER", "SYSTEMD_EXEC_PID", "WAYLAND_DISPLAY", "XAUTHORITY", "XDG_RUNTIME_DIR",
  "XDG_SEAT", "XDG_SEAT_PATH", "XDG_SESSION_PATH", "XDG_VTNR"]

/-- The variables of a command that runs beside the virtual machine: the host's as text, with the
overrides that have a value, less those of the session. -/
def forProcess (host : Environ) (overrides : List Override) : Bindings Value :=
  let copied : Bindings Value := host.map fun (name, v) => (name, .text v.display)
  let overridden := overrides.foldl (fun b (name, v) => match v with
    | .null => b
    | v => b.set name v) copied
  overridden.filter fun (name, _) => !sessionVars.contains name

end Environ

end SharedVm
