import SharedVm.Port
import SharedVm.Text.Quoted

/-!
# Options

The options of the command line, and how one argument reads: as an option, by its full name or by
the front of a long one, as an option nobody knows, as a separator, or as itself. A short option
may have others, or its value, in the same argument.
-/

namespace SharedVm.CommandLine

/-- The command line has parts with options of their own. -/
inductive Part where
  | whole | launch | status
  deriving DecidableEq, Repr

inductive Opt where
  | help | version | port | interactive | env | retryDelay
  deriving DecidableEq, Repr

namespace Opt

def names : Opt → List Text
  | help => ["-h", "--help"]
  | version => ["--version"]
  | port => ["--port"]
  | interactive => ["-i", "--interactive"]
  | env => ["-e", "--env"]
  | retryDelay => ["--retry-delay"]

def takesValue : Opt → Bool
  | port | env | retryDelay => true
  | help | version | interactive => false

def title (o : Opt) : Text := Text.join "/" o.names

end Opt

def Part.options : Part → List Opt
  | .whole => [.help, .version]
  | .launch => [.help, .port, .interactive, .env, .retryDelay]
  | .status => [.help]

def Part.optionNames (p : Part) : List (Text × Opt) :=
  p.options.flatMap fun o => o.names.map fun name => (name, o)

def Part.option? (p : Part) (name : Text) : Option Opt :=
  (p.optionNames.find? (·.1 = name)).map (·.2)

inductive Complaint where
  | commandMissing
  | commandUnknown (raw : Text)
  | ambiguous (raw : Text) (names : List Text)
  | valueIgnored (o : Opt) (value : Text)
  | valueMissing (o : Opt)
  | port (cause : PortError)
  | override (raw : Text)
  | delay (raw : Text)
  | unrecognized (args : List Text)
  deriving DecidableEq, Repr

def portMessage : PortError → Text
  | .invalid raw => "invalid port: " ++ raw.quoted
  | .outOfRange n =>
    "port must be in " ++ Decimal.ofNat Port.minPublished ++ "-" ++ Decimal.ofNat Port.last ++
      ", got " ++ Decimal.ofInt n

def overrideMessage (raw : Text) : Text := "invalid env override: " ++ raw.quoted

def Complaint.message : Complaint → Text
  | commandMissing => "the following arguments are required: cmd"
  | commandUnknown raw =>
    "argument cmd: invalid choice: " ++ raw.quoted ++ " (choose from 'launch', 'status')"
  | ambiguous raw names =>
    "ambiguous option: " ++ raw ++ " could match " ++ Text.join ", " names
  | valueIgnored o value => "argument " ++ o.title ++ ": ignored explicit argument " ++ value.quoted
  | valueMissing o => "argument " ++ o.title ++ ": expected one argument"
  | port cause => "argument " ++ Opt.port.title ++ ": " ++ portMessage cause
  | override raw => "argument " ++ Opt.env.title ++ ": " ++ overrideMessage raw
  | delay raw => "argument " ++ Opt.retryDelay.title ++ ": invalid float value: " ++ raw.quoted
  | unrecognized args => "unrecognized arguments: " ++ Text.join " " args

/-- How one argument reads. -/
inductive Mark where
  | plain
  | separator
  | unknown
  /-- An option, whether it was named by a single letter, and the value in the same argument. -/
  | option (o : Opt) (short : Bool) (value : Option Text)
  deriving DecidableEq, Repr

def dash : Symbol := .char '-'

def isShort (name : Text) : Bool := name[1]? ≠ some dash

def splitValue (a : Text) : Text × Option Text :=
  let name := a.takeWhile (· ≠ .char '=')
  (name, match a.drop name.length with
    | [] => none
    | _ :: value => some value)

/-- The options whose names an argument may stand for: those that it is the front of, or the short
one that it starts with. -/
def candidates (p : Part) (a : Text) : List (Text × Mark) :=
  p.optionNames.filterMap fun (name, o) =>
    if isShort a then
      if name = a.take 2 then some (name, .option o true (some (a.drop 2)))
      else if a.isPrefixOf name then some (name, .option o (isShort name) none)
      else none
    else
      let (front, value) := splitValue a
      if front.isPrefixOf name then some (name, .option o (isShort name) value) else none

def isDigit (s : Symbol) : Bool := s.digit?.isSome

def isNegativeNumber (a : Text) : Bool :=
  let body := match a.getLast? with
    | some (.char '\n') => a.dropLast.drop 1
    | _ => a.drop 1
  let whole := body.takeWhile isDigit
  match body.drop whole.length with
  | [] => !whole.isEmpty
  | s :: fraction => s = .char '.' && !fraction.isEmpty && fraction.all isDigit

/-- The part of an argument up to an equals sign as the full name of an option. -/
def named? (p : Part) (a : Text) : Option Mark :=
  match p.option? a with
  | some o => some (.option o (isShort a) none)
  | none => match splitValue a with
    | (name, some value) => (p.option? name).map fun o => .option o (isShort name) (some value)
    | (_, none) => none

def mark (p : Part) (a : Text) : Except Complaint Mark :=
  if a.head? ≠ some dash || a = "-" then .ok .plain
  else match named? p a with
    | some m => .ok m
    | none => match candidates p a with
      | [(_, m)] => .ok m
      | [] => .ok (if isNegativeNumber a || a.contains (.char ' ') then .plain else .unknown)
      | several => .error (.ambiguous a (several.map (·.1)))

/-- Arguments with how they read; after a separator each one reads as itself. -/
def marks (p : Part) : List Text → Except Complaint (List (Text × Mark))
  | [] => .ok []
  | a :: rest =>
    if a = "--" then .ok ((a, .separator) :: rest.map fun b => (b, .plain))
    else do
      let m ← mark p a
      return (a, m) :: (← marks p rest)

/-- The options in one argument: those without a value, and the last one with the value that the
argument holds for it. `value` follows the name of `o`. -/
def cluster (p : Part) (o : Opt) (short : Bool) (value : Text) :
    Except Complaint (List Opt × Opt × Option Text) :=
  if o.takesValue then .ok ([], o, some value)
  else if !short then .error (.valueIgnored o value)
  else match value with
    | [] => .error (.valueIgnored o [])
    | s :: rest => match p.option? [dash, s] with
      | none => .error (.valueIgnored o (s :: rest))
      | some next =>
        if rest.isEmpty then .ok ([o], next, none)
        else (cluster p next true rest).map fun (flags, last, value) => (o :: flags, last, value)

def optionsOf (p : Part) (o : Opt) (short : Bool) :
    Option Text → Except Complaint (List Opt × Opt × Option Text)
  | none => .ok ([], o, none)
  | some value => cluster p o short value

end SharedVm.CommandLine
