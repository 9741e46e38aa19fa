import SharedVm.Bindings
import SharedVm.Value

/-!
# JSON

JSON values and their text. Requests and log records are written with the same escapes, which
leave no control character in a text; they differ in the blanks around the marks and in how they
write numbers with a point.
-/

namespace SharedVm

inductive Json where
  | null
  | bool (b : Bool)
  | int (n : Int)
  | real (x : Binary64)
  | text (t : Text)
  | array (items : List Json)
  | object (members : List (Text × Json))
  deriving Repr, Inhabited

namespace Json

def escape (s : Symbol) : Text :=
  if s = .char '"' then "\\\""
  else if s = .char '\\' then "\\\\"
  else if s = .char '\n' then "\\n"
  else if s = .char '\r' then "\\r"
  else if s = .char '\t' then "\\t"
  else if s = .char '\x08' then "\\b"
  else if s = .char '\x0C' then "\\f"
  else if s.code < 0x20 then "\\u" ++ hexDigits 4 s.code
  else [s]

def quote (t : Text) : Text := [.char '"'] ++ t.flatMap escape ++ [.char '"']

structure Style where
  comma : Text
  colon : Text
  /-- How far each level is indented, if each part has a line of its own. -/
  indent : Option Nat
  reals : Binary64.Form

/-- Nothing but the marks, as on the wire. -/
def compact : Style := ⟨",", ":", none, .terse⟩

/-- A blank after each mark, as in the log. -/
def spaced : Style := ⟨", ", ": ", none, .plain⟩

/-- A line for each part, as on a terminal. -/
def indented : Style := ⟨",", ": ", some 2, .plain⟩

def Style.gap (style : Style) (depth : Nat) : Text :=
  match style.indent with
  | none => []
  | some n => .char '\n' :: List.replicate (n * depth) (.char ' ')

def Style.enclose (style : Style) (depth : Nat) (opening closing : Char) (parts : List Text) : Text :=
  if parts.isEmpty then [.char opening, .char closing]
  else
    [.char opening] ++ style.gap (depth + 1) ++
      Text.join (style.comma ++ style.gap (depth + 1)) parts ++
      style.gap depth ++ [.char closing]

def realText (f : Binary64.Form) : Binary64 → Text
  | .nan => "NaN"
  | .infinite negative => if negative then "-Infinity" else "Infinity"
  | x => x.write f

mutual

def writeAt (style : Style) (depth : Nat) : Json → Text
  | null => "null"
  | bool b => if b then "true" else "false"
  | int n => Decimal.ofInt n
  | real x => realText style.reals x
  | text t => quote t
  | array items => style.enclose depth '[' ']' (writeItems style (depth + 1) items)
  | object members => style.enclose depth '{' '}' (writeMembers style (depth + 1) members)

def writeItems (style : Style) (depth : Nat) : List Json → List Text
  | [] => []
  | v :: rest => writeAt style depth v :: writeItems style depth rest

def writeMembers (style : Style) (depth : Nat) : List (Text × Json) → List Text
  | [] => []
  | (k, v) :: rest =>
    (quote k ++ style.colon ++ writeAt style depth v) :: writeMembers style depth rest

end

def write (style : Style) (v : Json) : Text := writeAt style 0 v

/-- The member of an object that a name has; the last one counts. -/
def member? (v : Json) (name : Text) : Option Json :=
  match v with
  | object members => (members.reverse.find? (·.1 = name)).map (·.2)
  | _ => none

end Json

end SharedVm
