import SharedVm.Decimal
import SharedVm.Text.Utf8

/-!
# Ports

A port is read in three places, each with a rule of its own: the contents of a lock file, the
variable that announces a running server, and the command line.
-/

namespace SharedVm

namespace Port

/-- Lower ports are never trusted as the port of a leader. -/
def minPublished : Nat := 1025

def last : Nat := 65535

def isPublishable (n : Int) : Bool := minPublished ≤ n && n ≤ last

end Port

/-- What the contents of a lock file say. -/
inductive Published where
  | port (n : Nat)
  | blank
  | malformed (t : Text)
  | reserved (n : Nat)
  | pastLast (n : Nat)
  deriving DecidableEq, Repr

namespace Published

/-- Reads the contents of a lock file: ASCII digits between blanks, in the range of publishable
ports. Only too many digits are an error; anything else is contents without a usable port. -/
def ofText (t : Text) : Except NumberError Published :=
  let body := t.strip
  if body.isEmpty then .ok blank
  else match body.mapM Symbol.asciiDigit? with
    | none => .ok (malformed body)
    | some digits =>
      if digits.length > Decimal.limit then .error (.tooLong digits.length)
      else
        let n := Decimal.value digits
        if n < Port.minPublished then .ok (reserved n)
        else if n > Port.last then .ok (pastLast n)
        else .ok (port n)

def ofBytes (bs : Bytes) : Except NumberError Published := ofText (Utf8.decode bs)

def port? : Published → Option Nat
  | port n => some n
  | _ => none

end Published

inductive PortError where
  | invalid (raw : Text)
  | outOfRange (n : Int)
  deriving DecidableEq, Repr

namespace Port

/-- The port that the variable of a running server announces: any TCP port, zero included. -/
def announced? (t : Text) : Option Nat :=
  match Decimal.read t.strip with
  | .ok (.ofNat n) => if n ≤ last then some n else none
  | _ => none

def chosen (t : Text) : Except PortError Nat :=
  match Decimal.read t with
  | .ok n => if isPublishable n then .ok n.toNat else .error (.outOfRange n)
  | .error _ => .error (.invalid t)

end Port

end SharedVm
