import SharedVm.Bindings
import SharedVm.Value

/-!
# Slots

Setting values by name on a thing that keeps its values by name, as a request and a record of the log
do. Almost any name may be set, but a few names stand for the thing itself and not for one of its
values.
-/

namespace SharedVm

/-- Why a value cannot be set, or is not there. `thing` is what messages call the thing. -/
inductive SlotError where
  | notName (kind : Text)
  /-- All values at once have to be a mapping. -/
  | notMapping (kind : Text)
  /-- No value is the kind of a thing. -/
  | notKind (kind : Text)
  /-- A name that is never set. -/
  | fixed (thing name : Text)
  /-- A name that stands for something that follows from the values. -/
  | derived (thing name : Text)
  | shared (thing name : Text)
  | missing (thing name : Text)
  deriving DecidableEq, Repr

namespace SlotError

def message : SlotError → Text
  | notName kind => "attribute name must be string, not '" ++ kind ++ "'"
  | notMapping kind => "__dict__ must be set to a dictionary, not a '" ++ kind ++ "'"
  | notKind kind => "__class__ must be set to a class, not '" ++ kind ++ "' object"
  | fixed thing name => "attribute '" ++ name ++ "' of '" ++ thing ++ "' objects is not writable"
  | derived thing name => "property '" ++ name ++ "' of '" ++ thing ++ "' object has no setter"
  | shared thing name =>
    name.quoted ++ " is a ClassVar of `" ++ thing ++ "` and cannot be set on an instance. " ++
      "If you want to set a value on the class, use `" ++ thing ++ "." ++ name ++ " = value`."
  | missing thing name => "'" ++ thing ++ "' object has no attribute " ++ name.quoted

end SlotError

/-- What setting a value comes to. -/
inductive Assignment where
  | all (values : Bindings Value)
  | one (name : Text) (v : Value)
  deriving Repr

namespace Assignment

def named (entries : List (Value × Value)) : Bindings Value :=
  entries.filterMap fun e => match e.1 with
    | .text name => some (name, e.2)
    | _ => none

def ofEntry (thing : Text) (name v : Value) : Except SlotError Assignment :=
  match name with
  | .text name =>
    if name = "__dict__" then
      match v with
      | .mapping entries => .ok (.all (named entries))
      | v => .error (.notMapping v.kindName)
    else if name = "__class__" then .error (.notKind v.kindName)
    else if name = "__weakref__" then .error (.fixed thing name)
    else .ok (.one name v)
  | name => .error (.notName name.kindName)

end Assignment

end SharedVm
