/-!
# Text

A text is a list of symbols. Names and variables that come from the operating system may hold
bytes that are not UTF-8; each of them shows as a surrogate on its own, so a symbol is a character
or a lone surrogate. `Symbol.ofCode_code` says that a symbol and its code point determine each
other.
-/

namespace SharedVm

/-- One position of a text: a character, or a surrogate that stands alone. -/
inductive Symbol where
  | char (c : Char)
  | lone (k : Fin 0x800)
  deriving DecidableEq, Repr, Inhabited

abbrev Text := List Symbol

abbrev Bytes := List UInt8

namespace Symbol

def code : Symbol → Nat
  | char c => c.toNat
  | lone k => 0xD800 + k.val

/-- The symbol of a code point; U+FFFD past the last one. -/
def ofCode (n : Nat) : Symbol :=
  if 0xD800 ≤ n ∧ n < 0xE000 then lone (Fin.ofNat 0x800 (n - 0xD800))
  else if n < 0x110000 then char (Char.ofNat n)
  else char '\uFFFD'

theorem ofCode_code (s : Symbol) : ofCode s.code = s := by
  cases s with
  | char c =>
    have hv : c.toNat < 0xD800 ∨ (0xDFFF < c.toNat ∧ c.toNat < 0x110000) := c.valid
    have hs : ¬(0xD800 ≤ (char c).code ∧ (char c).code < 0xE000) := by simp only [code]; omega
    have hl : (char c).code < 0x110000 := by simp only [code]; omega
    rw [ofCode, if_neg hs, if_pos hl, code, Char.ofNat_toNat]
  | lone k =>
    have hk := k.isLt
    have hs : 0xD800 ≤ (lone k).code ∧ (lone k).code < 0xE000 := by simp only [code]; omega
    have hf : Fin.ofNat 0x800 ((lone k).code - 0xD800) = k := by
      apply Fin.ext
      rw [Fin.val_ofNat, code, Nat.add_sub_cancel_left, Nat.mod_eq_of_lt hk]
    rw [ofCode, if_pos hs, hf]

theorem code_injective {s t : Symbol} (h : s.code = t.code) : s = t := by
  rw [← ofCode_code s, ← ofCode_code t, h]

/-- Whether the symbol lies in U+0000 to U+007F. -/
def isAscii (s : Symbol) : Bool := s.code < 0x80

end Symbol

namespace Text

def ofString (s : String) : Text := s.toList.map .char

instance : Coe String Text := ⟨ofString⟩

/-- The pieces of a text between the occurrences of a symbol. -/
def splitOn (sep : Symbol) (t : Text) : List Text :=
  t.foldr (fun s parts =>
    if s = sep then [] :: parts
    else match parts with
      | [] => [[s]]
      | p :: rest => (s :: p) :: rest) [[]]

def join (sep : Text) : List Text → Text
  | [] => []
  | [t] => t
  | t :: rest => t ++ sep ++ join sep rest

/-- Order of texts by the code points of their symbols. -/
def le : Text → Text → Bool
  | [], _ => true
  | _ :: _, [] => false
  | a :: s, b :: t => a.code < b.code || (a.code = b.code && le s t)

end Text

end SharedVm
