import SharedVm.Failure

/-!
# Relay addresses

The address that tells the relay in the guest which command to run. Marks of the address language
in the command are quoted by a backslash, so the command stays one part of the address.
-/

namespace SharedVm.Relay

def program : Text := "socat"

/-- The host, seen from the guest. -/
def hostCid : Nat := 2

def marks : Text := ":,!\"'\\([\x7b"

def escape (t : Text) : Text :=
  t.flatMap fun s => if marks.contains s then [.char '\\', s] else [s]

/-- The texts of values that all have to be text. `i` is the number of the first one. -/
def textsFrom (i : Nat) : List Value → Except Failure (List Text)
  | [] => .ok []
  | .text t :: rest => (textsFrom (i + 1) rest).map (t :: ·)
  | v :: _ => .error (.notJoinable i v.kindName)

def texts (values : List Value) : Except Failure (List Text) := textsFrom 0 values

def socketAddress (port : Value) : Text := "vsock:" ++ Decimal.ofNat hostCid ++ ":" ++ port.display

/-- What the guest runs in a terminal of its own. -/
def commandAddress (line : Text) : Text := "exec:" ++ escape line ++ ",pty,setsid,stderr"

/-- The command and its arguments by which a guest connects a command to the relay. -/
def wrap (command args port : Value) : Except Failure (Text × List Text) := do
  match args.items? with
  | none => .error (.notSpreadable args.kindName)
  | some items =>
    (texts (command :: items)).map fun ts =>
      (program, [socketAddress port, commandAddress (Text.join " " ts)])

end SharedVm.Relay
