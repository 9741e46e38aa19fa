import SharedVm.Binary64
import SharedVm.Path

/-!
# Values

The values that a caller may hand over as a command, an argument or a variable before anything has
been checked, and the two ways in which messages show them: `display` for plain showing, `literal`
with quotes around text.
-/

namespace SharedVm

inductive Value where
  | null
  | bool (b : Bool)
  | int (n : Int)
  | real (x : Binary64)
  | text (t : Text)
  | bytes (bs : Bytes)
  | path (p : Path)
  | list (items : List Value)
  | mapping (entries : List (Value × Value))
  deriving Repr, Inhabited

namespace Value

/-- The name by which messages call the kind of a value. -/
def kindName : Value → Text
  | null => "NoneType"
  | bool _ => "bool"
  | int _ => "int"
  | real _ => "float"
  | text _ => "str"
  | bytes _ => "bytes"
  | path _ => "PosixPath"
  | list _ => "list"
  | mapping _ => "dict"

mutual

/-- The value as messages show it inside other values. -/
def literal : Value → Text
  | null => "None"
  | bool b => if b then "True" else "False"
  | int n => Decimal.ofInt n
  | real x => x.toText
  | text t => t.quoted
  | bytes bs => quotedBytes bs
  | path p => "PosixPath(" ++ p.text.quoted ++ ")"
  | list items => "[" ++ Text.join ", " (literals items) ++ "]"
  | mapping entries => "\x7b" ++ Text.join ", " (entryLiterals entries) ++ "\x7d"

def literals : List Value → List Text
  | [] => []
  | v :: rest => v.literal :: literals rest

def entryLiterals : List (Value × Value) → List Text
  | [] => []
  | (k, v) :: rest => (k.literal ++ ": " ++ v.literal) :: entryLiterals rest

end

mutual

/-- Whether no whole number in a value has too many digits to be shown. -/
def isShowable : Value → Bool
  | int n => (Decimal.write? n).isSome
  | list items => areShowable items
  | mapping entries => areEntriesShowable entries
  | _ => true

def areShowable : List Value → Bool
  | [] => true
  | v :: rest => v.isShowable && areShowable rest

def areEntriesShowable : List (Value × Value) → Bool
  | [] => true
  | (k, v) :: rest => k.isShowable && v.isShowable && areEntriesShowable rest

end

/-- The value as messages show it on its own: text and paths without quotes. -/
def display : Value → Text
  | text t => t
  | path p => p.text
  | v => v.literal

/-- Whether a number is greater than zero; other values cannot be compared with it. -/
def isPositive? : Value → Option Bool
  | bool b => some b
  | int n => some (0 < n)
  | real x => some x.isPositive
  | _ => none

/-- Whether a value is a number, a truth value included. -/
def isNumber (v : Value) : Bool := v.isPositive?.isSome

/-- A value as it stands for a name: truth values and whole numbers of either kind are the same
names. -/
def asName : Value → Value
  | bool b => int (if b then 1 else 0)
  | real (.finite negative m e) =>
    let (num, den) := Binary64.magnitude m e
    if num % den = 0 then int (if negative then -(num / den : Nat) else (num / den : Nat))
    else real (.finite negative m e)
  | v => v

def sameName (a b : Value) : Bool :=
  match a.asName, b.asName with
  | null, null => true
  | int n, int k => n = k
  | real x, real y => x ≠ .nan && x = y
  | text t, text u => t = u
  | bytes bs, bytes cs => bs = cs
  | path p, path q => p = q
  | _, _ => false

def setEntry (entries : List (Value × Value)) (k v : Value) : List (Value × Value) :=
  match entries with
  | [] => [(k, v)]
  | (k', v') :: rest => if sameName k' k then (k', v) :: rest else (k', v') :: setEntry rest k v

/-- The mapping that setting entries in order makes: a name that comes again keeps its first place
and has its last value. -/
def ofEntries (entries : List (Value × Value)) : Value :=
  mapping (entries.foldl (fun m e => setEntry m e.1 e.2) [])

/-- Whether a value counts as something rather than nothing. -/
def isTruthy : Value → Bool
  | null => false
  | bool b => b
  | int n => n ≠ 0
  | real (.finite _ 0 _) => false
  | real _ => true
  | text t => !t.isEmpty
  | bytes bs => !bs.isEmpty
  | path _ => true
  | list items => !items.isEmpty
  | mapping entries => !entries.isEmpty

/-- What going through a value gives: items, symbols, bytes or names. -/
def items? : Value → Option (List Value)
  | list items => some items
  | text t => some (t.map fun s => text [s])
  | bytes bs => some (bs.map fun b => int b.toNat)
  | mapping entries => some (entries.map (·.1))
  | _ => none

end Value

end SharedVm
