import SharedVm.Json

/-!
# Reading JSON

Reads a value from the front of a text. Each step takes at least one symbol, so as many steps as
the text has symbols are enough.
-/

namespace SharedVm.Json

def isGap (s : Symbol) : Bool :=
  s = .char ' ' || s = .char '\n' || s = .char '\r' || s = .char '\t'

def skipGap (t : Text) : Text := t.dropWhile isGap

def hexDigit? (s : Symbol) : Option Nat :=
  let n := s.code
  if 0x30 ≤ n && n ≤ 0x39 then some (n - 0x30)
  else if 0x41 ≤ n && n ≤ 0x46 then some (n - 0x37)
  else if 0x61 ≤ n && n ≤ 0x66 then some (n - 0x57)
  else none

def unit? (a b c d : Symbol) : Option Nat :=
  match hexDigit? a, hexDigit? b, hexDigit? c, hexDigit? d with
  | some a, some b, some c, some d => some (((a * 16 + b) * 16 + c) * 16 + d)
  | _, _, _, _ => none

/-- The symbols read so far, the last one first, with one more code unit; the two halves of a
surrogate pair make one symbol. -/
def pushUnit (n : Nat) : Text → Text
  | .lone k :: seen =>
    if k.val < 0x400 && 0xDC00 ≤ n && n < 0xE000 then
      .ofCode (0x10000 + k.val * 0x400 + (n - 0xDC00)) :: seen
    else .ofCode n :: .lone k :: seen
  | seen => .ofCode n :: seen

def unescape? (s : Symbol) : Option Symbol :=
  if s = .char '"' || s = .char '\\' || s = .char '/' then some s
  else if s = .char 'n' then some (.char '\n')
  else if s = .char 'r' then some (.char '\r')
  else if s = .char 't' then some (.char '\t')
  else if s = .char 'b' then some (.char '\x08')
  else if s = .char 'f' then some (.char '\x0C')
  else none

def readText (seen : Text) : Text → Option (Text × Text)
  | [] => none
  | s :: rest =>
    if s = .char '"' then some (seen.reverse, rest)
    else if s = .char '\\' then
      match rest with
      | [] => none
      | e :: rest =>
        if e = .char 'u' then
          match rest with
          | a :: b :: c :: d :: rest => match unit? a b c d with
            | some n => readText (pushUnit n seen) rest
            | none => none
          | _ => none
        else match unescape? e with
          | some s => readText (s :: seen) rest
          | none => none
    else if s.code < 0x20 then none
    else readText (s :: seen) rest

def digits (t : Text) : List Nat × Text :=
  let ds := t.takeWhile fun s => s.asciiDigit?.isSome
  (ds.filterMap Symbol.asciiDigit?, t.drop ds.length)

/-- The exponent that follows the digits of a number; none is zero. -/
def readExponent (t : Text) : Option (Option Int × Text) :=
  match t with
  | s :: rest =>
    if s = .char 'e' || s = .char 'E' then
      let (negative, rest) := Decimal.sign rest
      match digits rest with
      | ([], _) => none
      | (ds, rest) =>
        let n : Int := Decimal.value ds
        some (some (if negative then -n else n), rest)
    else some (none, t)
  | [] => some (none, [])

def readNumber (t : Text) : Option (Json × Text) :=
  let (negative, body) := match t with
    | .char '-' :: rest => (true, rest)
    | _ => (false, t)
  match digits body with
  | ([], _) => none
  | (whole, rest) =>
    if whole.length > 1 && whole.head? = some 0 then none
    else
      let (fraction, rest) := match rest with
        | .char '.' :: more => match digits more with
          | ([], _) => ([], rest)
          | found => found
        | _ => ([], rest)
      match readExponent rest with
      | none => none
      | some (exponent, rest) =>
        if fraction.isEmpty && exponent.isNone then
          let n : Int := Decimal.value whole
          some (int (if negative then -n else n), rest)
        else
          some (real (.ofDecimal negative (Decimal.value (whole ++ fraction))
            (exponent.getD 0 - fraction.length)), rest)

def word? (w t : Text) : Option Text := if w.isPrefixOf t then some (t.drop w.length) else none

def readScalar (t : Text) : Option (Json × Text) :=
  match word? "null" t with
  | some rest => some (null, rest)
  | none => match word? "true" t with
    | some rest => some (bool true, rest)
    | none => match word? "false" t with
      | some rest => some (bool false, rest)
      | none => match word? "NaN" t with
        | some rest => some (real .nan, rest)
        | none => match word? "Infinity" t with
          | some rest => some (real (.infinite false), rest)
          | none => match word? "-Infinity" t with
            | some rest => some (real (.infinite true), rest)
            | none => readNumber t

mutual

def readValue : Nat → Text → Option (Json × Text)
  | 0, _ => none
  | fuel + 1, t => match skipGap t with
    | [] => none
    | s :: rest =>
      if s = .char '"' then (readText [] rest).map fun (t, rest) => (text t, rest)
      else if s = .char '[' then
        match skipGap rest with
        | .char ']' :: rest => some (array [], rest)
        | rest => readItems fuel [] rest
      else if s = .char '{' then
        match skipGap rest with
        | .char '}' :: rest => some (object [], rest)
        | rest => readMembers fuel [] rest
      else readScalar (s :: rest)

def readItems : Nat → List Json → Text → Option (Json × Text)
  | 0, _, _ => none
  | fuel + 1, seen, t => match readValue fuel t with
    | none => none
    | some (v, rest) => match skipGap rest with
      | .char ',' :: rest => readItems fuel (v :: seen) rest
      | .char ']' :: rest => some (array (v :: seen).reverse, rest)
      | _ => none

def readMembers : Nat → List (Text × Json) → Text → Option (Json × Text)
  | 0, _, _ => none
  | fuel + 1, seen, t => match skipGap t with
    | .char '"' :: rest => match readText [] rest with
      | none => none
      | some (name, rest) => match skipGap rest with
        | .char ':' :: rest => match readValue fuel rest with
          | none => none
          | some (v, rest) => match skipGap rest with
            | .char ',' :: rest => readMembers fuel ((name, v) :: seen) rest
            | .char '}' :: rest => some (object ((name, v) :: seen).reverse, rest)
            | _ => none
        | _ => none
    | _ => none

end

def read? (t : Text) : Option Json :=
  match readValue (t.length + 1) t with
  | some (v, rest) => if (skipGap rest).isEmpty then some v else none
  | none => none

end SharedVm.Json
