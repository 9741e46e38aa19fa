import SharedVm.Text

/-!
# UTF-8

Writing text as UTF-8 and reading it back. A lone surrogate has no bytes, so a text is written in its
`lossy` form; reading never fails either: a maximal run of bytes that starts no character becomes one
U+FFFD. `fault?` says where bytes stop being UTF-8. Operating-system text is the exception on both
sides: there a byte `b` that is not part of a character is the surrogate U+DC00 + `b`, and such a
surrogate is written as its byte.
-/

namespace SharedVm

/-- Where reading stands between two bytes: between characters, or with continuation bytes owed.
`seen` holds the bytes of the character under way, the last one first. -/
inductive Utf8State where
  | start
  | within (owed low high value : Nat) (seen : Bytes)
  deriving DecidableEq, Repr

namespace Utf8

/-- The bytes of a symbol; a lone surrogate has none. -/
def symbol : Symbol → Bytes
  | .char c => String.utf8EncodeChar c
  | .lone _ => []

def isLone : Symbol → Bool
  | .lone _ => true
  | .char _ => false

/-- The first lone surrogate of a kind and those right after it: the position and the symbols. -/
def firstLone? (kind : Symbol → Bool) (t : Text) : Option (Nat × Text) :=
  let front := t.takeWhile (!kind ·)
  match (t.drop front.length).takeWhile isLone with
  | [] => none
  | run => some (front.length, run)

/-- The text with U+FFFD in the place of each of the three bytes that a lone surrogate would take. -/
def lossy (t : Text) : Text :=
  t.flatMap fun s => if isLone s then List.replicate 3 (.char '\uFFFD') else [s]

theorem lossy_eq_self {t : Text} (h : t.any isLone = false) : lossy t = t := by
  induction t with
  | nil => rfl
  | cons s rest ih =>
    rw [List.any_cons, Bool.or_eq_false_iff] at h
    rw [lossy, List.flatMap_cons, ← lossy, ih h.2, h.1]
    rfl

/-- The bytes of a text, in its lossy form. -/
def encode (t : Text) : Bytes := (lossy t).flatMap symbol

/-- Whether a symbol is a surrogate that stands for no byte of operating-system text. -/
def isStray : Symbol → Bool
  | .lone k => !(0x480 ≤ k.val && k.val < 0x500)
  | .char _ => false

/-- The state after the first byte of a character; `none` if no character starts with it. -/
def first (b : UInt8) : Option Utf8State :=
  let n := b.toNat
  let owe := fun owed low high value => some (Utf8State.within owed low high value [b])
  if 0xC2 ≤ n && n ≤ 0xDF then owe 1 0x80 0xBF (n - 0xC0)
  else if n = 0xE0 then owe 2 0xA0 0xBF 0
  else if n = 0xED then owe 2 0x80 0x9F (n - 0xE0)
  else if 0xE1 ≤ n && n ≤ 0xEF then owe 2 0x80 0xBF (n - 0xE0)
  else if n = 0xF0 then owe 3 0x90 0xBF 0
  else if 0xF1 ≤ n && n ≤ 0xF3 then owe 3 0x80 0xBF (n - 0xF0)
  else if n = 0xF4 then owe 3 0x80 0x8F 4
  else none

/-- Reads one byte between characters. `bad` says what bytes outside a character become. -/
def stepStart (bad : Bytes → Text) (b : UInt8) (out : Text) : Utf8State × Text :=
  if b.toNat < 0x80 then (.start, .ofCode b.toNat :: out)
  else match first b with
    | some state => (state, out)
    | none => (.start, bad [b] ++ out)

/-- Reads one byte; `out` is what has been read, the last symbol first. -/
def step (bad : Bytes → Text) : Utf8State × Text → UInt8 → Utf8State × Text
  | (.start, out), b => stepStart bad b out
  | (.within owed low high value seen, out), b =>
    if low ≤ b.toNat && b.toNat ≤ high then
      let value := value * 64 + (b.toNat - 0x80)
      if owed ≤ 1 then (.start, .ofCode value :: out)
      else (.within (owed - 1) 0x80 0xBF value (b :: seen), out)
    else stepStart bad b (bad seen ++ out)

def decodeWith (bad : Bytes → Text) (bs : Bytes) : Text :=
  match bs.foldl (step bad) (.start, []) with
  | (.start, out) => out.reverse
  | (.within _ _ _ _ seen, out) => (bad seen ++ out).reverse

/-- Reads UTF-8; a maximal run of bytes that starts no character becomes one U+FFFD. -/
def decode (bs : Bytes) : Text := decodeWith (fun _ => [.char '\uFFFD']) bs

/-- Reads UTF-8 that has to be valid. -/
def decode? (bs : Bytes) : Option Text :=
  let t := decodeWith (fun _ => [.ofCode 0xD800]) bs
  if t.any isLone then none else some t

inductive Fault where
  /-- So many bytes from a position on are part of no character. -/
  | invalid (position count : Nat)
  /-- The bytes from a position on are a character that lacks its end. -/
  | incomplete (position : Nat)
  deriving DecidableEq, Repr

/-- The first fault of bytes that are read on from a state; `position` is that of the next byte. -/
def faultFrom? (position : Nat) : Utf8State → Bytes → Option Fault
  | .start, [] => none
  | .within _ _ _ _ seen, [] => some (.incomplete (position - seen.length))
  | .start, b :: rest =>
    if b.toNat < 0x80 then faultFrom? (position + 1) .start rest
    else match first b with
      | some state => faultFrom? (position + 1) state rest
      | none => some (.invalid position 1)
  | .within owed low high value seen, b :: rest =>
    if low ≤ b.toNat && b.toNat ≤ high then
      faultFrom? (position + 1)
        (if owed ≤ 1 then .start
        else .within (owed - 1) 0x80 0xBF (value * 64 + (b.toNat - 0x80)) (b :: seen)) rest
    else some (.invalid (position - seen.length) seen.length)

def fault? (bs : Bytes) : Option Fault := faultFrom? 0 .start bs

/-- Reads operating-system text: each byte outside a character becomes a surrogate of its own. -/
def decodeOs (bs : Bytes) : Text :=
  decodeWith (·.map fun b => .ofCode (0xDC00 + b.toNat)) bs

/-- The bytes of operating-system text, unless it holds a surrogate that stands for no byte. -/
def encodeOs? (t : Text) : Option Bytes :=
  t.foldr (fun s rest => rest.bind fun out => match s with
    | .char c => some (String.utf8EncodeChar c ++ out)
    | .lone k => if isStray s then none else some (.ofNat (k.val - 0x400) :: out))
    (some [])

end Utf8

end SharedVm
