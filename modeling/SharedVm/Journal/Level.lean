import SharedVm.Environ

/-!
# Levels

How much a record of the log matters, and how little may matter and still be written.
-/

namespace SharedVm.Journal

def usualLevel : Int := 30

/-- The names of levels; of two names for one level the first one is shown. -/
def levelNames : List (Text × Int) := [
  ("CRITICAL", 50), ("FATAL", 50), ("ERROR", 40), ("WARNING", 30), ("WARN", 30), ("INFO", 20),
  ("DEBUG", 10), ("NOTSET", 0)]

def levelName (n : Int) : Text :=
  match levelNames.find? (·.2 = n) with
  | some (name, _) => name
  | none => "Level " ++ Decimal.ofInt n

/-- The capital letter of a letter of the names of levels, which two letters outside ASCII have
as well. -/
def capital (s : Symbol) : Symbol :=
  if 0x61 ≤ s.code && s.code ≤ 0x7A then .ofCode (s.code - 0x20)
  else if s = .char 'ſ' then .char 'S'
  else if s = .char 'ı' then .char 'I'
  else s

def levelNumber? (t : Text) : Option Int := (levelNames.find? (·.1 = t)).map (·.2)

def levelVar : Text := "KRUN_LOG_LEVEL"

def chosenLevel? (env : Environ) : Option Int :=
  levelNumber? ((env.stripped levelVar).map capital)

/-- The level that a variable chooses by name; without a known name the usual one. -/
def levelOf (env : Environ) : Int := (chosenLevel? env).getD usualLevel

inductive LevelError where
  | unknown (name : Text)
  | unfit (v : Value)
  | notName (kind : Text)
  | notNumber
  | digits
  deriving Repr

namespace LevelError

def message : LevelError → Text
  | unknown name => "Unknown level: " ++ name.quoted
  | unfit v => "Level not an integer or a valid string: " ++ v.literal
  | notName kind => "unhashable type: '" ++ kind ++ "'"
  | notNumber => "level must be an integer"
  | digits => Decimal.unwritableText

end LevelError

/-- What a record shows as its level: the name of a number, or the number of a name. -/
def shownLevel (v : Value) : Except LevelError Value :=
  match v.asName with
  | .int n => match levelNames.find? (·.2 = n) with
    | some (name, _) => .ok (.text name)
    | none => if v.isShowable then .ok (.text ("Level " ++ v.display)) else .error .digits
  | .text t => match levelNumber? t with
    | some n => .ok (.int n)
    | none => .ok (.text ("Level " ++ t))
  | .list _ | .mapping _ => .error (.notName v.kindName)
  | _ => .ok (.text ("Level " ++ v.display))

/-- The level that a value sets: a number, or the number of a name in capital letters. -/
def levelSet : Value → Except LevelError Int
  | .int n => .ok n
  | .bool b => .ok (if b then 1 else 0)
  | .text t => match levelNumber? t with
    | some n => .ok n
    | none => .error (.unknown t)
  | v => .error (.unfit v)

def levelGiven : Value → Except LevelError (Int × Text)
  | .int n => .ok (n, levelName n)
  | .bool false => .ok (0, levelName 0)
  | .bool true => .ok (1, "Level " ++ Value.display (.bool true))
  | _ => .error .notNumber

/-- Whether records of a level are written where `threshold` is set; zero leaves the usual level
in force. -/
def isWritten (threshold level : Int) : Bool :=
  0 < level && (if threshold = 0 then usualLevel else threshold) ≤ level

end SharedVm.Journal
