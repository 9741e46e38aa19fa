import SharedVm.Decimal

/-!
# Binary floating-point numbers

Numbers of 64 bits as exact values: a finite number is `m · 2^e`. Everything is computed in exact
natural arithmetic and rounded once, to the nearest number and of two to the even one.
`shortest` gives the fewest decimal digits that read back as the number.
-/

namespace SharedVm

/-- A binary floating-point number; a finite one is `m · 2^e` with `m < 2^53`. -/
inductive Binary64 where
  | nan
  | infinite (negative : Bool)
  | finite (negative : Bool) (m : Nat) (e : Int)
  deriving DecidableEq, Repr

def roundHalfEven (num den : Nat) : Nat :=
  let q := num / den
  let r := num % den
  if 2 * r < den then q
  else if den < 2 * r then q + 1
  else if q % 2 = 0 then q else q + 1

/-- A fraction equal to `num / den / base^k`. -/
def scaleDown (base num den : Nat) : Int → Nat × Nat
  | .ofNat k => (num, den * Nat.pow base k)
  | .negSucc k => (num * Nat.pow base (k + 1), den)

namespace Binary64

/-- 2^53: the significand of a number stays below it. -/
def significandBound : Nat := 9007199254740992

/-- The number nearest to `num / den`. -/
def ofRatio (negative : Bool) (num den : Nat) : Binary64 :=
  if num = 0 then finite negative 0 (-1074)
  else
    let low : Int := max ((num.log2 : Int) - den.log2 - 53) (-1074)
    let (n, d) := scaleDown 2 num den low
    let e := if n / d < significandBound then low else low + 1
    let (n, d) := scaleDown 2 num den e
    let m := roundHalfEven n d
    let (m, e) := if m = significandBound then (significandBound / 2, e + 1) else (m, e)
    if e > 971 then infinite negative else finite negative m e

/-- The number nearest to `digits · 10^k`. -/
def ofDecimal (negative : Bool) (digits : Nat) (k : Int) : Binary64 :=
  let places : Int := (Nat.toDigits 10 digits).length + k
  if digits = 0 || places < -400 then finite negative 0 (-1074)
  else if places > 400 then infinite negative
  else
    let (n, d) := scaleDown 10 digits 1 (-k)
    ofRatio negative n d

def ofInt (n : Int) : Binary64 := ofRatio (n < 0) n.natAbs 1

def isNegative : Binary64 → Bool
  | nan => false
  | infinite negative => negative
  | finite negative _ _ => negative

def isPositive : Binary64 → Bool
  | nan => false
  | infinite negative => !negative
  | finite negative m _ => !negative && m ≠ 0

/-- The size of a finite number as a fraction. -/
def magnitude (m : Nat) (e : Int) : Nat × Nat := scaleDown 2 m 1 (-e)

/-- The exponent `p` with `10^(p-1) ≤ num / den < 10^p`, for a positive fraction. -/
def decimalPoint (num den : Nat) : Int :=
  if den ≤ num then (Nat.toDigits 10 (num / den)).length
  else
    let l := (Nat.toDigits 10 (den / num)).length
    if num * Nat.pow 10 (l - 1) = den then 2 - (l : Int) else 1 - (l : Int)

/-- The neighbours of `num / den` on the grid of multiples of `10^k`, the nearer one first. -/
def neighbours (num den : Nat) (k : Int) : List Nat :=
  let (n, d) := scaleDown 10 num den k
  let low := n / d
  if n % d = 0 then [low]
  else if 2 * (n % d) < d || (2 * (n % d) = d && low % 2 = 0) then [low, low + 1]
  else [low + 1, low]

/-- The fewest digits that read back as `m · 2^e`, and the exponent of the last of them. -/
def shortest (m : Nat) (e : Int) : Nat × Int :=
  let (num, den) := magnitude m e
  let p := decimalPoint num den
  let found := (List.range 17).findSome? fun (i : Nat) =>
    let k := p - ((i : Int) + 1)
    (neighbours num den k).findSome? fun c =>
      if ofDecimal false c k = finite false m e then some (c, k) else none
  found.getD (0, 0)

/-- The digits of `c · 10^k` without zeros at the end, and the position of the point in them. -/
def pointed (c : Nat) (k : Int) : Text × Int :=
  let ds := Decimal.ofNat c
  ((ds.reverse.dropWhile (· = .char '0')).reverse, ds.length + k)

def zeros (n : Nat) : Text := List.replicate n (.char '0')

def minus (negative : Bool) : Text := if negative then "-" else ""

def exponentText (least : Nat) (x : Int) : Text :=
  let ds := Decimal.ofNat x.natAbs
  (if x < 0 then "-" else "+") ++ zeros (least - ds.length) ++ ds

/-- What shortest texts leave open. -/
structure Form where
  /-- Numbers below 10^16 are positional if the zeros behind the point are fewer than this. -/
  leadingZeros : Nat
  /-- An exponent has no fewer digits than this. -/
  exponentDigits : Nat
  deriving DecidableEq, Repr

/-- In messages and in the log: `0.0001`, `1e-05`, `1e+16`. -/
def Form.plain : Form := ⟨4, 2⟩

/-- On the wire: `0.00001`, `1e-6`, `1e+16`. -/
def Form.terse : Form := ⟨5, 1⟩

/-- The shortest text that reads back; a whole number keeps `.0` where it is positional. -/
def write (f : Form) : Binary64 → Text
  | nan => "nan"
  | infinite negative => minus negative ++ "inf"
  | finite negative 0 _ => minus negative ++ "0.0"
  | finite negative m e =>
    let (c, k) := shortest m e
    let (ds, p) := pointed c k
    minus negative ++
      if -(f.leadingZeros : Int) < p && p ≤ 16 then
        if p ≤ 0 then "0." ++ zeros p.natAbs ++ ds
        else if ds.length ≤ p.toNat then ds ++ zeros (p.toNat - ds.length) ++ ".0"
        else ds.take p.toNat ++ "." ++ ds.drop p.toNat
      else
        ds.take 1 ++ (if ds.length = 1 then [] else .char '.' :: ds.drop 1) ++ "e" ++
          exponentText f.exponentDigits (p - 1)

def toText (x : Binary64) : Text := x.write .plain

/-- No finite number has more places after its point or more digits behind its first one. -/
def exactPlaces : Nat := 1074

def fixedText (m : Nat) (e : Int) (places : Nat) : Text :=
  let (num, den) := magnitude m e
  let exact := min places exactPlaces
  let ds := Decimal.ofNat (roundHalfEven (num * Nat.pow 10 exact) den)
  let ds := zeros (exact + 1 - ds.length) ++ ds
  let whole := ds.length - exact
  ds.take whole ++
    (if places = 0 then [] else .char '.' :: ds.drop whole ++ zeros (places - exact))

/-- One digit, `places` more after the point, and the exponent of the first digit. -/
def scientificDigits (m : Nat) (e : Int) (places : Nat) : Text × Int :=
  let exact := min places exactPlaces
  let rest := zeros (places - exact)
  if m = 0 then (zeros (exact + 1) ++ rest, 0)
  else
    let (num, den) := magnitude m e
    let p := decimalPoint num den
    let (n, d) := scaleDown 10 num den (p - ((exact : Int) + 1))
    let c := roundHalfEven n d
    if c = Nat.pow 10 (exact + 1) then (Decimal.ofNat (c / 10) ++ rest, p)
    else (Decimal.ofNat c ++ rest, p - 1)

def wholePart (m : Nat) (e : Int) : Nat :=
  let (num, den) := magnitude m e
  num / den

def lower (s : Symbol) : Symbol :=
  if 0x41 ≤ s.code && s.code ≤ 0x5A then .ofCode (s.code + 0x20) else s

/-- The exponent at the end of a number: an `e`, a sign, and digits; nothing means zero. -/
def readExponent : Text → Option Int
  | [] => some 0
  | s :: rest =>
    if lower s = .char 'e' then
      let (negative, body) := Decimal.sign rest
      match Decimal.digitRun body with
      | ([], _) => none
      | (ds, []) =>
        let n := Decimal.value ds
        some (if negative then -(n : Int) else n)
      | (_, _ :: _) => none
    else none

def readDigits (negative : Bool) (body : Text) : Option Binary64 :=
  let (whole, rest) := Decimal.digitRun body
  let (fraction, rest) := match rest with
    | .char '.' :: rest => Decimal.digitRun rest
    | rest => ([], rest)
  if whole.isEmpty && fraction.isEmpty then none
  else (readExponent rest).map fun x =>
    ofDecimal negative (Decimal.value (whole ++ fraction)) (x - fraction.length)

/-- Reads a number that fills the text but for spacing at its ends; `inf`, `infinity` and `nan`
count, in letters of either case. -/
def read (t : Text) : Option Binary64 :=
  let (negative, body) := Decimal.sign (t.trim Symbol.isSpacing)
  let name := body.map lower
  if name = "inf" || name = "infinity" then some (infinite negative)
  else if name = "nan" then some nan
  else readDigits negative body

end Binary64

end SharedVm
