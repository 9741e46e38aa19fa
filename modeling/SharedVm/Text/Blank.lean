import SharedVm.Text

/-!
# Blanks

The white space of Unicode, with the four information separators, and texts without it at their
ends.
-/

namespace SharedVm

/-- White space, the information separators U+001C to U+001F included. -/
def Symbol.isBlank (s : Symbol) : Bool :=
  let n := s.code
  (0x09 ≤ n && n ≤ 0x0D) || (0x1C ≤ n && n ≤ 0x20) || n = 0x85 || n = 0xA0 || n = 0x1680 ||
    (0x2000 ≤ n && n ≤ 0x200A) || n = 0x2028 || n = 0x2029 || n = 0x202F || n = 0x205F || n = 0x3000

/-- White space without the information separators: what may surround a number. -/
def Symbol.isSpacing (s : Symbol) : Bool :=
  s.isBlank && !(0x1C ≤ s.code && s.code ≤ 0x1F)

namespace Text

def trim (p : Symbol → Bool) (t : Text) : Text :=
  ((t.dropWhile p).reverse.dropWhile p).reverse

/-- The text without blanks at either end. -/
def strip (t : Text) : Text := t.trim Symbol.isBlank

end Text

end SharedVm
