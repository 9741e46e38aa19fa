import SharedVm.Text.Printable

/-!
# Quoted text

How messages show a text that may hold anything: between quotes, with a backslash sequence for each
symbol that is not printable. The quote is an apostrophe unless the text holds one and no double
quote.
-/

namespace SharedVm

/-- The digits of a number in base sixteen, small letters, with leading zeros up to a width. -/
def hexDigits (width n : Nat) : Text :=
  let digits := (Nat.toDigits 16 n).map Symbol.char
  List.replicate (width - digits.length) (.char '0') ++ digits

namespace Quoted

/-- The shortest numeric sequence for a code point: two, four or eight digits. -/
def escapeCode (n : Nat) : Text :=
  if n ≤ 0xFF then "\\x" ++ hexDigits 2 n
  else if n ≤ 0xFFFF then "\\u" ++ hexDigits 4 n
  else "\\U" ++ hexDigits 8 n

def symbol (quote : Char) (plain : Symbol → Bool) (s : Symbol) : Text :=
  if s = .char quote || s = .char '\\' then [.char '\\', s]
  else if s = .char '\t' then "\\t"
  else if s = .char '\n' then "\\n"
  else if s = .char '\r' then "\\r"
  else if plain s then [s]
  else escapeCode s.code

def quoteFor (t : Text) : Char :=
  if t.contains (.char '\'') && !t.contains (.char '"') then '"' else '\''

end Quoted

def Text.quoted (t : Text) : Text :=
  let q := Quoted.quoteFor t
  [.char q] ++ t.flatMap (Quoted.symbol q Symbol.isPrintable) ++ [.char q]

/-- Bytes between quotes after a `b`: printable ASCII as it is, any other byte by number. -/
def quotedBytes (bs : Bytes) : Text :=
  let t : Text := bs.map fun b => .ofCode b.toNat
  let q := Quoted.quoteFor t
  [.char 'b', .char q] ++
    t.flatMap (Quoted.symbol q fun s => s.isPrintable && s.isAscii) ++ [.char q]

end SharedVm
