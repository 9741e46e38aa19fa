import SharedVm.World

/-!
# Variables for the guest

The variables that a request carries into the virtual machine. The device tree is read only where
the host does not choose a graphics driver itself.
-/

namespace SharedVm.Guest

/-- Whether a device tree file names the platform that needs a driver of its own; a file that is
not there does not. -/
def isAsahi (compatible : Path) : Act Bool :=
  tryCatch (Environ.isAsahi <$> Act.readFile compatible) fun f => match f with
    | .report r =>
      if r.isNotFound then return false
      else if r.isSystem then Act.misconfigured (.deviceTreeNotRead compatible r)
      else throw f
    | _ => throw f

def gather (host : Environ) (compatible : Path) (overrides : List Override) :
    Act (Bindings Value) := do
  let asahi ← if host.asksDeviceTree then isAsahi compatible else pure false
  Act.ofExcept (host.forVm asahi overrides)

def vars (host : Environ) (compatible : Path) (overrides : List Override) :
    Act (Bindings Value) := do
  let found ← gather host compatible overrides
  Act.note (.guestVars (found.sorted.map (·.1)))
  return found

def ownVars (overrides : List Override) : Act (Bindings Value) := do
  vars (← Act.environ) (← get).deviceTree overrides

def asValue (vars : Bindings Value) : Value := .mapping (vars.map fun (k, v) => (.text k, v))

end SharedVm.Guest
