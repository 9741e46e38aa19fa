import SharedVm.Json

/-!
# JSON from values

A value that has not been checked as JSON. Lists and mappings become arrays and objects wherever
JSON is written; what becomes of the other kinds of values, of those that are names in a mapping, and
how deep values may be nested is up to a `Coding`. The first value that the coding refuses stops
everything.
-/

namespace SharedVm.Json

/-- How values other than lists and mappings are written, and values that are names. -/
structure Coding (ε : Type) where
  leaf : Value → Except ε Json
  name : Value → Except ε Text
  enter : Nat → Except ε Unit := fun _ => .ok ()

variable {ε : Type}

mutual

/-- The JSON of a value that `depth` others are around. -/
def ofValue (c : Coding ε) (depth : Nat) (v : Value) : Except ε Json :=
  match c.enter depth with
  | .error e => .error e
  | .ok () => match v with
    | .list items => (ofItems c (depth + 1) items).map .array
    | .mapping entries => (ofEntries c (depth + 1) entries).map .object
    | v => c.leaf v

def ofItems (c : Coding ε) (depth : Nat) : List Value → Except ε (List Json)
  | [] => .ok []
  | v :: rest => do
    let item ← ofValue c depth v
    return item :: (← ofItems c depth rest)

/-- The name of an entry is looked at before its value. -/
def ofEntries (c : Coding ε) (depth : Nat) :
    List (Value × Value) → Except ε (List (Text × Json))
  | [] => .ok []
  | (k, v) :: rest => do
    let name ← c.name k
    let value ← ofValue c depth v
    return (name, value) :: (← ofEntries c depth rest)

end

end SharedVm.Json
