import SharedVm.Value

/-!
# Items

What a value holds at a place. A text holds symbols, bytes hold numbers, and a mapping holds what the
number of the place names in it.
-/

namespace SharedVm

inductive ItemError where
  | pastEnd (what : Text)
  | noEntry (place : Nat)
  | noPlaces (kind : Text)
  deriving DecidableEq, Repr

namespace ItemError

def message : ItemError → Text
  | pastEnd what => what ++ "index out of range"
  | noEntry place => Decimal.ofNat place
  | noPlaces kind => "'" ++ kind ++ "' object is not subscriptable"

end ItemError

namespace Value

def item (v : Value) (place : Nat) : Except ItemError Value :=
  match v with
  | text t => match t[place]? with
    | some s => .ok (text [s])
    | none => .error (.pastEnd "string ")
  | bytes bs => match bs[place]? with
    | some b => .ok (int b.toNat)
    | none => .error (.pastEnd [])
  | list items => match items[place]? with
    | some v => .ok v
    | none => .error (.pastEnd "list ")
  | mapping entries => match entries.find? fun e => sameName e.1 (int place) with
    | some (_, v) => .ok v
    | none => .error (.noEntry place)
  | v => .error (.noPlaces v.kindName)

end Value

end SharedVm
