import SharedVm.Text

/-!
# Lines

The lines of a text. A line ends at a line feed, a carriage return with or without a line feed after
it, or at one of the other line boundaries of Unicode; what is behind the last boundary is a line
only if it is not empty.
-/

namespace SharedVm

def Symbol.endsLine (s : Symbol) : Bool :=
  let n := s.code
  (0x0A ≤ n && n ≤ 0x0D) || (0x1C ≤ n && n ≤ 0x1E) || n = 0x85 || n = 0x2028 || n = 0x2029

namespace Text

/-- The lines from the next symbol on; `line` is what the current one has so far, the last symbol
first. -/
def linesFrom (line : Text) : Text → List Text
  | [] => if line.isEmpty then [] else [line.reverse]
  | .char '\r' :: .char '\n' :: rest => line.reverse :: linesFrom [] rest
  | s :: rest => if s.endsLine then line.reverse :: linesFrom [] rest else linesFrom (s :: line) rest

def lines (t : Text) : List Text := linesFrom [] t

end Text

end SharedVm
