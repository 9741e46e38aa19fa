import SharedVm.Failure

/-!
# Notices

What the parts of a launch tell the log, as data. The wording, the level and the part that speaks
are functions of the notice.
-/

namespace SharedVm

inductive Notice where
  | malformedPort (t : Text)
  | reservedPort (n : Nat)
  | portPastLast (n : Nat)
  | lockHeld (lock : Path) (port : Option Nat)
  | lockAcquired (lock : Path) (port : Int)
  | requesting (command : Text) (port : Value)
  | requestFailed (port : Value) (reason : Text)
  | elected (lock : Path) (port : Int)
  | forwarding (command : Value) (port : Int)
  | attemptFailed (attempt : Nat) (port : Int) (reason : Text)
  | relayListening (pid : Int) (socket : Path)
  | relayExited (port : Int) (code : Int)
  | guestVars (names : List Text)
  deriving Repr

namespace Notice

def debug : Int := 10

def info : Int := 20

def level : Notice → Int
  | elected .. => info
  | _ => debug

def logger : Notice → Text
  | malformedPort _ | reservedPort _ | portPastLast _ | lockHeld .. | lockAcquired .. =>
    "krun_launch.lock"
  | requesting .. | requestFailed .. => "krun_launch.client"
  | elected .. | forwarding .. | attemptFailed .. | relayExited .. => "krun_launch.launch"
  | relayListening .. => "krun_launch.relay"
  | guestVars _ => "krun_launch.env"

def message : Notice → Text
  | malformedPort t => "ignoring malformed published port " ++ t.quoted
  | reservedPort n => "ignoring published port " ++ Decimal.ofNat n ++ " in the reserved range"
  | portPastLast n => "ignoring published port " ++ Decimal.ofNat n ++ " past the last TCP port"
  | lockHeld lock port =>
    "lock " ++ lock.text ++ " is held, published port=" ++
      (match port with
        | some n => Decimal.ofNat n
        | none => "None")
  | lockAcquired lock port =>
    "acquired lock " ++ lock.text ++ ", published port=" ++ Decimal.ofInt port
  | requesting command port =>
    "requesting launch of " ++ command ++ " on port " ++ port.display
  | requestFailed port reason =>
    "launch request to port " ++ port.display ++ " failed: " ++ reason
  | elected _ port => "became krun server leader on port " ++ Decimal.ofInt port
  | forwarding command port =>
    "forwarding " ++ command.display ++ " to leader on port " ++ Decimal.ofInt port
  | attemptFailed attempt port reason =>
    "attempt " ++ Decimal.ofNat attempt ++ "/4 to reach port " ++ Decimal.ofInt port ++
      " failed: " ++ reason
  | relayListening pid socket =>
    "relay pid=" ++ Decimal.ofInt pid ++ " listening on " ++ socket.text
  | relayExited port code =>
    "relay on vsock port " ++ Decimal.ofInt port ++ " exited with " ++ Decimal.ofInt code
  | guestVars names => "vm env vars: " ++ (Value.list (names.map .text)).literal

/-- The marks by which the records of one election or one forwarding belong together. -/
def marks : Notice → List (Text × Value)
  | elected lock port => [("op", .text "elect"), ("port", .int port), ("lock_path", .text lock.text)]
  | attemptFailed attempt port _ =>
    [("op", .text "forward"), ("port", .int port), ("attempt", .int attempt)]
  | _ => []

end Notice

end SharedVm
