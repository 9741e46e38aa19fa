import SharedVm.Failure

/-!
# Timestamps

The date and time of a count of seconds since 1970, in universal time, to the microsecond.
-/

namespace SharedVm.Journal

/-- A moment: whole seconds since 1970 and microseconds. -/
structure Moment where
  seconds : Int
  micros : Nat
  deriving DecidableEq, Repr

inductive MomentError where
  | notNumber
  | notInteger (kind : Text)
  | outOfRange
  | yearTooLarge
  /-- The year as a count of 32 bits shows it. -/
  | year (n : Int)
  deriving DecidableEq, Repr

namespace MomentError

def message : MomentError → Text
  | notNumber => "Invalid value NaN (not a number)"
  | notInteger kind => "'" ++ kind ++ "' object cannot be interpreted as an integer"
  | outOfRange => "timestamp out of range for platform time_t"
  | yearTooLarge => "[Errno 75] Value too large for defined data type"
  | year n => "year " ++ Decimal.ofInt n ++ " is out of range"

end MomentError

/-- 2^63: the first count of seconds past those that are told apart. -/
def secondsLimit : Int := 9223372036854775808

/-- 2^32: years so far apart show as the same one. -/
def yearCycle : Nat := 4294967296

namespace Moment

/-- The moment of a finite number of seconds, the microseconds rounded half to even after the
fraction has been scaled. -/
def ofFinite (negative : Bool) (m : Nat) (e : Int) : Moment :=
  let (num, den) := Binary64.magnitude m e
  let whole : Int := num / den
  let whole := if negative then -whole else whole
  let micros := match Binary64.ofRatio false (num % den * 1000000) den with
    | .finite _ m e =>
      let (num, den) := Binary64.magnitude m e
      roundHalfEven num den
    | _ => 0
  if negative && micros ≠ 0 then
    if micros < 1000000 then ⟨whole - 1, 1000000 - micros⟩ else ⟨whole - 1, 0⟩
  else if micros < 1000000 then ⟨whole, micros⟩
  else ⟨whole + 1, 0⟩

def bounded (t : Moment) : Except MomentError Moment :=
  if -secondsLimit ≤ t.seconds && t.seconds < secondsLimit then .ok t else .error .outOfRange

def ofValue : Value → Except MomentError Moment
  | .int n => bounded ⟨n, 0⟩
  | .bool b => .ok ⟨if b then 1 else 0, 0⟩
  | .real .nan => .error .notNumber
  | .real (.infinite _) => .error .outOfRange
  | .real (.finite negative m e) =>
    let t := ofFinite negative m e
    if t.seconds = secondsLimit then .error .yearTooLarge else bounded t
  | v => .error (.notInteger v.kindName)

/-- Year, month and day of a count of days since 1970. Years are counted from March, in cycles of
four hundred. -/
def civil (days : Int) : Int × Nat × Nat :=
  let z := days + 719468
  let cycle := z / 146097
  let dayOfCycle := (z % 146097).toNat
  let yearOfCycle :=
    (dayOfCycle - dayOfCycle / 1460 + dayOfCycle / 36524 - dayOfCycle / 146096) / 365
  let dayOfYear := dayOfCycle - (365 * yearOfCycle + yearOfCycle / 4 - yearOfCycle / 100)
  let month := (5 * dayOfYear + 2) / 153
  let day := dayOfYear - (153 * month + 2) / 5 + 1
  let month := if month < 10 then month + 3 else month - 9
  (yearOfCycle + cycle * 400 + (if month ≤ 2 then 1 else 0), month, day)

def padded (width n : Nat) : Text :=
  let ds := Decimal.ofNat n
  List.replicate (width - ds.length) (.char '0') ++ ds

/-- Date and time of a moment, the fraction only if there is one. -/
def text (t : Moment) : Except MomentError Text :=
  let (year, month, day) := civil (t.seconds / 86400)
  let time := (t.seconds % 86400).toNat
  if year < -2147481748 || 2147485547 < year then .error .yearTooLarge
  else if year < 1 || 9999 < year then .error (.year (year.bmod yearCycle))
  else .ok <|
    padded 4 year.toNat ++ "-" ++ padded 2 month ++ "-" ++ padded 2 day ++ "T" ++
      padded 2 (time / 3600) ++ ":" ++ padded 2 (time / 60 % 60) ++ ":" ++ padded 2 (time % 60) ++
      (if t.micros = 0 then [] else .char '.' :: padded 6 t.micros) ++ "Z"

end Moment

end SharedVm.Journal
