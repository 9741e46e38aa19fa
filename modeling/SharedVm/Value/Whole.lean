import SharedVm.Value

/-!
# Whole numbers

The whole number that a value stands for where one is needed: a number with a point loses what is
behind it, a text or bytes are read as decimal digits.
-/

namespace SharedVm

inductive WholeError where
  | malformed (literal : Text)
  | tooLong (digits : Nat)
  | notFinite (x : Binary64)
  | notNumber (kind : Text)
  deriving DecidableEq, Repr

namespace WholeError

def message : WholeError → Text
  | malformed literal => "invalid literal for int() with base 10: " ++ literal.take 200
  | tooLong digits =>
    "Exceeds the limit (4300 digits) for integer string conversion: value has " ++
      Decimal.ofNat digits ++ " digits; use sys.set_int_max_str_digits() to increase the limit"
  | notFinite .nan => "cannot convert float NaN to integer"
  | notFinite _ => "cannot convert float infinity to integer"
  | notNumber kind =>
    "int() argument must be a string, a bytes-like object or a real number, not '" ++ kind ++ "'"

end WholeError

namespace Value

/-- Reads digits; `v` is what they are the text of. -/
def readWhole (v : Value) (t : Text) : Except WholeError Int :=
  match Decimal.read t with
  | .ok n => .ok n
  | .error .malformed => .error (.malformed v.literal)
  | .error (.tooLong n) => .error (.tooLong n)

/-- The whole number that a value stands for. A byte outside ASCII is no digit. -/
def whole (v : Value) : Except WholeError Int :=
  match v with
  | int n => .ok n
  | bool b => .ok (if b then 1 else 0)
  | real (.finite negative m e) =>
    let n : Int := Binary64.wholePart m e
    .ok (if negative then -n else n)
  | real x => .error (.notFinite x)
  | text t => v.readWhole t
  | bytes bs => v.readWhole (bs.map fun b => .ofCode (if b < 0x80 then b.toNat else 0xFFFD))
  | v => .error (.notNumber v.kindName)

end Value

end SharedVm
