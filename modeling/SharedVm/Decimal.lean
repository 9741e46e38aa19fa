import SharedVm.Text.Blank
import SharedVm.Text.Digit

/-!
# Whole numbers in decimal

Writing and reading whole numbers. Reading takes the digits of any script, a sign, single
underscores between digits and spacing around them; it refuses more digits than `Decimal.limit`,
whatever follows them, and so does writing.
-/

namespace SharedVm

inductive NumberError where
  | malformed
  | tooLong (digits : Nat)
  deriving DecidableEq, Repr

namespace Decimal

/-- The most digits that a number may have where it is read or written. -/
def limit : Nat := 4300

def ofNat (n : Nat) : Text := (Nat.toDigits 10 n).map .char

def ofInt : Int → Text
  | .ofNat n => ofNat n
  | .negSucc n => .char '-' :: ofNat (n + 1)

/-- What is said about a number that has more digits than the limit where it would be written. -/
def unwritableText : Text :=
  "Exceeds the limit (4300 digits) for integer string conversion; " ++
    "use sys.set_int_max_str_digits() to increase the limit"

/-- The decimal text of a number that has no more digits than the limit. -/
def write? (n : Int) : Option Text :=
  if (ofNat n.natAbs).length ≤ limit then some (ofInt n) else none

/-- The number whose digits these are, the most significant one first. -/
def value (digits : List Nat) : Nat := digits.foldl (fun n d => n * 10 + d) 0

/-- Digits with at most one underscore between neighbours, and what follows them. -/
def digitRun : Text → List Nat × Text
  | [] => ([], [])
  | [s] => match s.digit? with
    | some d => ([d], [])
    | none => ([], [s])
  | s :: u :: rest => match s.digit? with
    | some d =>
      let tail :=
        if u = .char '_' && (rest.head?.bind Symbol.digit?).isSome then digitRun rest
        else digitRun (u :: rest)
      (d :: tail.1, tail.2)
    | none => ([], s :: u :: rest)

/-- A sign, if there is one: whether it is a minus, and the text after it. -/
def sign : Text → Bool × Text
  | .char '-' :: rest => (true, rest)
  | .char '+' :: rest => (false, rest)
  | t => (false, t)

/-- Reads a whole number that fills the text but for spacing at its ends. -/
def read (t : Text) : Except NumberError Int :=
  let (negative, body) := sign (t.trim Symbol.isSpacing)
  let (ds, rest) := digitRun body
  if ds.isEmpty || rest.head? = some (.char '_') then .error .malformed
  else if ds.length > limit then .error (.tooLong ds.length)
  else if !rest.isEmpty then .error .malformed
  else .ok (if negative then -(value ds : Int) else value ds)

end Decimal

end SharedVm
