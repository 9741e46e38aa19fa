import SharedVm.Bindings
import SharedVm.Failure

/-!
# Requests

A request asks the leader to run a command. `Request.check` accepts exactly the fields that are
text, lists of text and mappings from text to text, changes none of them, and lists every flaw of
fields that it refuses. Texts may hold lone surrogates; where a flaw is placed, a name shows without
them.
-/

namespace SharedVm

structure Request where
  command : Text
  args : List Text := []
  env : Bindings Text := []
  deriving DecidableEq, Repr

namespace Request

def isText : Value → Bool
  | .text _ => true
  | _ => false

def nameText : Value → Text
  | .text t => Utf8.lossy t
  | .bool b => if b then "1" else "0"
  | v => v.literal

def commandFlaws : Option Value → List Detail
  | none => [⟨["command"], .missing⟩]
  | some (.text _) => []
  | some _ => [⟨["command"], .notText⟩]

/-- The flaws of arguments, the first of which has the number `i`. -/
def itemFlaws (i : Nat) : List Value → List Detail
  | [] => []
  | .text _ :: rest => itemFlaws (i + 1) rest
  | _ :: rest => ⟨["command_args", Decimal.ofNat i], .notText⟩ :: itemFlaws (i + 1) rest

def argsFlaws : Option Value → List Detail
  | none => []
  | some (.list items) => itemFlaws 0 items
  | some _ => [⟨["command_args"], .notList⟩]

/-- The flaws of one variable: of its name, then of its value. -/
def entryFlaws (entry : Value × Value) : List Detail :=
  (if isText entry.1 then [] else [⟨["env", nameText entry.1, "[key]"], .notText⟩]) ++
    (if isText entry.2 then [] else [⟨["env", nameText entry.1], .notText⟩])

def envFlaws : Option Value → List Detail
  | none => []
  | some (.mapping entries) => entries.flatMap entryFlaws
  | some _ => [⟨["env"], .notMapping⟩]

def fieldNames : List Text := ["command", "command_args", "env"]

def areNamed (fields : Bindings Value) : Bool := fields.all fun f => !f.1.any Utf8.isLone

/-- The flaws of fields: of the command, the arguments, the variables, and fields of other names. A
name that is no Unicode text is the only flaw that is told. -/
def flaws (fields : Bindings Value) : List Detail :=
  if !areNamed fields then [⟨[], .notUnicode⟩]
  else
    commandFlaws (fields.get? "command") ++ argsFlaws (fields.get? "command_args") ++
      envFlaws (fields.get? "env") ++
      (fields.filter fun f => !fieldNames.contains f.1).map fun f => ⟨[f.1], .extra⟩

def textOf : Value → Text
  | .text t => t
  | _ => []

def argsOf : Option Value → List Text
  | some (.list items) => items.map textOf
  | _ => []

def envOf : Option Value → Bindings Text
  | some (.mapping entries) => entries.map fun (k, v) => (textOf k, textOf v)
  | _ => []

def ofFields (fields : Bindings Value) : Request where
  command := ((fields.get? "command").map textOf).getD []
  args := argsOf (fields.get? "command_args")
  env := envOf (fields.get? "env")

/-- The request that the fields hold, or every flaw of them. -/
def check (fields : Bindings Value) : Except (List Detail) Request :=
  match flaws fields with
  | [] => .ok (ofFields fields)
  | details => .error details

/-- The request that the fields of a mapping hold. Fields that are given at once have text for
names. -/
def ofValue (given : Value) : Except Failure Request :=
  match given with
  | .mapping entries =>
    if entries.any (!isText ·.1) then .error .namesNotText
    else (check (Assignment.named entries)).mapError .invalid
  | _ => (check []).mapError .invalid

def commandName : Value → Except Failure Value
  | .text t => .ok (.text t)
  | .bytes bs => .ok (.bytes bs)
  | .path p => .ok (.text p.text)
  | v => .error (.notPathLike v.kindName)

def itemsOf (v : Value) : Except Failure (List Value) :=
  match v.items? with
  | some items => .ok items
  | none => .error (.notIterable v.kindName)

def build (command args env : Value) : Except Failure Request := do
  let unfit (f : Failure) : Failure := .launch (.serialization f.message)
  let command ← (commandName command).mapError unfit
  let args ← (itemsOf args).mapError unfit
  match env with
  | .mapping entries =>
    (check [("command", command), ("command_args", .list args), ("env", .mapping entries)]).mapError
      fun details => .launch (.invalid details)
  | v => .error (.noEntries v.kindName)

end Request

end SharedVm
