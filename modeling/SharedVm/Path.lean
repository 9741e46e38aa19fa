import SharedVm.Text.Quoted

/-!
# Paths

A path in its plain form: names between slashes, without empty names and without single dots.
`..` stays, since what it means depends on the directories. A path starts at the working
directory, at the root, or, with exactly two slashes in front, at a root of its own.
-/

namespace SharedVm

inductive PathRoot where
  | here
  | root
  | doubleRoot
  deriving DecidableEq, Repr

structure Path where
  start : PathRoot
  names : List Text
  deriving DecidableEq, Repr

namespace Path

def startOf : Text → PathRoot
  | .char '/' :: .char '/' :: .char '/' :: _ => .root
  | .char '/' :: .char '/' :: _ => .doubleRoot
  | .char '/' :: _ => .root
  | _ => .here

def namesOf (t : Text) : List Text :=
  (t.splitOn (.char '/')).filter fun name => name ≠ [] && name ≠ "."

def ofText (t : Text) : Path := ⟨startOf t, namesOf t⟩

instance : Coe String Path := ⟨fun s => ofText s⟩

def rootText : PathRoot → Text
  | .here => ""
  | .root => "/"
  | .doubleRoot => "//"

/-- The text of a path; the working directory is `.`. -/
def text (p : Path) : Text :=
  if p.start = .here && p.names.isEmpty then "."
  else rootText p.start ++ Text.join "/" p.names

/-- The path below `p` that a text names; a text with a slash in front starts anew. -/
def child (p : Path) (t : Text) : Path :=
  match startOf t with
  | .here => ⟨p.start, p.names ++ namesOf t⟩
  | _ => ofText t

/-- The directory that holds the path; the topmost path holds itself. -/
def parent (p : Path) : Path := ⟨p.start, p.names.dropLast⟩

def back : Text := ".."

/-- The path that one name more leads to. A name that leads back takes the last name away; it stays
where there is none to take away. -/
def along (p : Path) (name : Text) : Path :=
  if name ≠ back then ⟨p.start, p.names ++ [name]⟩
  else if p.start = .here && p.names.getLast?.getD back = back then ⟨.here, p.names ++ [back]⟩
  else p.parent

end Path

end SharedVm
