import SharedVm.Text

/-!
# Bindings

Names with values, in the order in which the names first came up. Setting a name that is bound
already keeps its place. `get?_set` and `get?_erase` say what a name is bound to afterwards.
-/

namespace SharedVm

abbrev Bindings (α : Type) := List (Text × α)

namespace Bindings

variable {α : Type}

def get? : Bindings α → Text → Option α
  | [], _ => none
  | (k, v) :: rest, key => if k = key then some v else get? rest key

def set : Bindings α → Text → α → Bindings α
  | [], key, value => [(key, value)]
  | (k, v) :: rest, key, value =>
    if k = key then (k, value) :: rest else (k, v) :: set rest key value

def erase (b : Bindings α) (key : Text) : Bindings α := b.filter (·.1 ≠ key)

def ofList (pairs : List (Text × α)) : Bindings α := pairs.foldl (fun b p => b.set p.1 p.2) []

@[simp] theorem get?_nil (key : Text) : get? ([] : Bindings α) key = none := rfl

theorem get?_set (b : Bindings α) (key : Text) (value : α) (k : Text) :
    (b.set key value).get? k = if key = k then some value else b.get? k := by
  induction b with
  | nil => simp [set, get?]
  | cons p rest ih =>
    obtain ⟨k', v'⟩ := p
    by_cases h : k' = key <;> by_cases hk : key = k <;> simp_all [set, get?]

theorem get?_erase (b : Bindings α) (key k : Text) :
    (b.erase key).get? k = if key = k then none else b.get? k := by
  induction b with
  | nil => simp [erase, get?]
  | cons p rest ih =>
    obtain ⟨k', v'⟩ := p
    by_cases h : k' = key <;> by_cases hk : key = k <;> simp_all [erase, get?]

def sorted (b : Bindings α) : Bindings α := b.mergeSort fun p q => Text.le p.1 q.1

end Bindings

end SharedVm
