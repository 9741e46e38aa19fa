import SharedVm.Value

/-!
# Templates

The text of a log record with values in the places of its conversions. A conversion is a percent
sign, an optional name in parentheses, flags, a width, a precision and a letter. Values come in
order, or out of one value, which may be asked by name if it is a mapping.
-/

namespace SharedVm.Journal

inductive TemplateError where
  | tooFewValues
  | tooManyValues
  | incomplete
  | incompleteName
  | needsMapping
  | nameUnknown (name : Text)
  /-- A name was asked of what has positions alone. -/
  | noPosition (kind : Text)
  | sizeNotInteger
  | sizeTooLarge (kind : Text)
  | widthTooLarge
  | precisionTooLarge
  /-- A precision that leaves no room for the marks of a whole number. -/
  | wholeTooPrecise
  | unsupported (s : Symbol) (position : Nat)
  | notNumber (letter : Symbol) (kind : Text)
  | notInteger (letter : Symbol) (kind : Text)
  | notReal (kind : Text)
  | notFinite (x : Binary64)
  | tooLargeForReal
  | notSymbol
  | symbolOutOfRange
  | digits
  | noRoom
  deriving DecidableEq, Repr

namespace TemplateError

def message : TemplateError → Text
  | tooFewValues => "not enough arguments for format string"
  | tooManyValues => "not all arguments converted during string formatting"
  | incomplete => "incomplete format"
  | incompleteName => "incomplete format key"
  | needsMapping => "format requires a mapping"
  | nameUnknown name => name.quoted
  | noPosition kind => kind ++ " indices must be integers or slices, not str"
  | sizeNotInteger => "* wants int"
  | sizeTooLarge kind => "Python int too large to convert to C " ++ kind
  | widthTooLarge => "width too big"
  | precisionTooLarge => "precision too big"
  | wholeTooPrecise => "precision too large"
  | unsupported s position =>
    let shown : Text := if 31 ≤ s.code && s.code ≤ 126 then [s] else "?"
    "unsupported format character '" ++ shown ++ "' (0x" ++ hexDigits 1 s.code ++ ") at index " ++
      Decimal.ofNat position
  | notNumber letter kind =>
    "%" ++ [letter] ++ " format: a real number is required, not " ++ kind
  | notInteger letter kind =>
    "%" ++ [letter] ++ " format: an integer is required, not " ++ kind
  | notReal kind => "must be real number, not " ++ kind
  | notFinite .nan => "cannot convert float NaN to integer"
  | notFinite _ => "cannot convert float infinity to integer"
  | tooLargeForReal => "int too large to convert to float"
  | notSymbol => "%c requires int or char"
  | symbolOutOfRange => "%c arg not in range(0x110000)"
  | digits => Decimal.unwritableText
  | noRoom => []

end TemplateError

/-- The values for the conversions of a template: one after the other, or a single one as a whole. -/
inductive Values where
  | inOrder (rest : List Value)
  | whole (v : Value)
  deriving Repr

namespace Values

/-- A single mapping that is not empty gives its values by name. -/
def ofList : List Value → Values
  | [.mapping (e :: entries)] => whole (.mapping (e :: entries))
  | values => inOrder values

def isNothing : Values → Bool
  | inOrder values => values.isEmpty
  | whole v => !v.isTruthy

end Values

namespace Template

/-- What a conversion says besides its letter. -/
structure Layout where
  left : Bool := false
  plus : Bool := false
  blank : Bool := false
  alternate : Bool := false
  zero : Bool := false
  width : Option Nat := none
  precision : Option Nat := none
  deriving DecidableEq, Repr

/-- Where the values for conversions come from. By name, a value that has been chosen is used once,
and the whole that is asked once where none has been chosen. -/
structure Supply where
  asked : Option Value
  rest : List Value

def Supply.ofValues : Values → Supply
  | .inOrder values => ⟨none, values⟩
  | .whole v => match v with
    | .mapping _ | .list _ | .bytes _ => ⟨some v, [v]⟩
    | v => ⟨none, [v]⟩

def Supply.next (s : Supply) : Except TemplateError (Value × Supply) :=
  match s.rest with
  | [] => .error .tooFewValues
  | v :: rest => .ok (v, { s with rest })

/-- A name up to the parenthesis that closes it. `depth` counts those still open inside it. -/
def readName (depth : Nat) (seen : Text) : Text → Except TemplateError (Text × Text)
  | [] => .error .incompleteName
  | s :: rest =>
    if s = .char ')' then
      match depth with
      | 0 => .ok (seen.reverse, rest)
      | depth + 1 => readName depth (s :: seen) rest
    else if s = .char '(' then readName (depth + 1) (s :: seen) rest
    else readName depth (s :: seen) rest

def choose (s : Supply) (name : Text) : Except TemplateError Supply :=
  match s.asked with
  | some (.mapping entries) =>
    match entries.find? fun e => Value.sameName e.1 (.text name) with
    | some (_, v) => .ok { s with rest := [v] }
    | none => .error (.nameUnknown name)
  | some (.list _) => .error (.noPosition "list")
  | some (.bytes _) => .error (.noPosition "byte")
  | _ => .error .needsMapping

def readFlags (l : Layout) : Text → Layout × Text
  | [] => (l, [])
  | s :: rest =>
    if s = .char '-' then readFlags { l with left := true } rest
    else if s = .char '+' then readFlags { l with plus := true } rest
    else if s = .char ' ' then readFlags { l with blank := true } rest
    else if s = .char '#' then readFlags { l with alternate := true } rest
    else if s = .char '0' then readFlags { l with zero := true } rest
    else (l, s :: rest)

/-- The bound of a kind of size and the complaints about sizes that reach it, written in digits or
given as a value. -/
structure SizeLimit where
  bound : Int
  written : TemplateError
  given : TemplateError

/-- Widths stay below 2^63. -/
def widthLimit : SizeLimit := ⟨9223372036854775808, .widthTooLarge, .sizeTooLarge "ssize_t"⟩

/-- Precisions stay below 2^31. -/
def precisionLimit : SizeLimit := ⟨2147483648, .precisionTooLarge, .sizeTooLarge "int"⟩

def readSize (limit : SizeLimit) (s : Supply) (t : Text) :
    Except TemplateError (Option Int × Supply × Text) :=
  let checked (n : Int) (e : TemplateError) (s : Supply) (rest : Text) :=
    if -limit.bound ≤ n && n < limit.bound then .ok (some n, s, rest) else .error e
  match t with
  | .char '*' :: rest => do
    let (v, s) ← s.next
    match v with
    | .int n => checked n limit.given s rest
    | .bool b => checked (if b then 1 else 0) limit.given s rest
    | _ => .error .sizeNotInteger
  | _ =>
    let ds := t.takeWhile fun c => c.asciiDigit?.isSome
    if ds.isEmpty then .ok (none, s, t)
    else
      checked (Decimal.value (ds.filterMap Symbol.asciiDigit?)) limit.written s (t.drop ds.length)

def readWidth (l : Layout) (s : Supply) (t : Text) :
    Except TemplateError (Layout × Supply × Text) := do
  match ← readSize widthLimit s t with
  | (none, s, rest) => .ok (l, s, rest)
  | (some n, s, rest) => .ok ({ l with width := some n.natAbs, left := l.left || n < 0 }, s, rest)

def readPrecision (l : Layout) (s : Supply) (t : Text) :
    Except TemplateError (Layout × Supply × Text) :=
  match t with
  | .char '.' :: rest => do
    let (n, s, rest) ← readSize precisionLimit s rest
    .ok ({ l with precision := some (n.getD 0).toNat }, s, rest)
  | _ => .ok (l, s, t)

def skipLength (t : Text) : Text :=
  match t with
  | s :: rest => if s = .char 'h' || s = .char 'l' || s = .char 'L' then rest else t
  | [] => []

def blanks (n : Nat) : Text := List.replicate n (.char ' ')

def layText (l : Layout) (t : Text) : Text :=
  let t := match l.precision with
    | some n => t.take n
    | none => t
  let gap := blanks (l.width.getD 0 - t.length)
  if l.left then t ++ gap else gap ++ t

/-- A number in its width: a sign, a mark of its base and its digits. Zeros go between the mark and
the digits, blanks before the sign. -/
def layNumber (l : Layout) (negative : Bool) (mark digits : Text) : Text :=
  let sign : Text :=
    if negative then [.char '-'] else if l.plus then [.char '+'] else if l.blank then [.char ' ']
    else []
  let gap := l.width.getD 0 - (sign.length + mark.length + digits.length)
  if l.left then sign ++ mark ++ digits ++ blanks gap
  else if l.zero then sign ++ mark ++ List.replicate gap (.char '0') ++ digits
  else blanks gap ++ sign ++ mark ++ digits

def upper (s : Symbol) : Symbol :=
  if 0x61 ≤ s.code && s.code ≤ 0x7A then .ofCode (s.code - 0x20) else s

def wholeOf (letter : Symbol) : Value → Except TemplateError Int
  | .int n => .ok n
  | .bool b => .ok (if b then 1 else 0)
  | .real x =>
    if letter = .char 'o' || letter = .char 'x' || letter = .char 'X' then
      .error (.notInteger letter "float")
    else match x with
      | .finite negative m e =>
        let n : Int := Binary64.wholePart m e
        .ok (if negative then -n else n)
      | x => .error (.notFinite x)
  | v =>
    if letter = .char 'o' || letter = .char 'x' || letter = .char 'X' then
      .error (.notInteger letter v.kindName)
    else .error (.notNumber letter v.kindName)

def wholePrecision : Nat := 2147483644

def layWhole (l : Layout) (letter : Symbol) (n : Int) : Text :=
  let (base, mark) : Nat × Text :=
    if letter = .char 'o' then (8, "0o")
    else if letter = .char 'x' then (16, "0x")
    else if letter = .char 'X' then (16, "0X")
    else (10, [])
  let digits : Text := (Nat.toDigits base n.natAbs).map .char
  let digits := if letter = .char 'X' then digits.map upper else digits
  let digits := Binary64.zeros (l.precision.getD 0 - digits.length) ++ digits
  layNumber l (n < 0) (if l.alternate then mark else []) digits

def realOf : Value → Except TemplateError Binary64
  | .real x => .ok x
  | .bool b => .ok (.ofInt (if b then 1 else 0))
  | .int n => match Binary64.ofInt n with
    | .infinite _ => .error .tooLargeForReal
    | x => .ok x
  | v => .error (.notReal v.kindName)

/-- Digits after the first one behind a point; a bare point only if the layout asks for it. -/
def pointed (l : Layout) (fraction : Text) : Text :=
  if fraction.isEmpty then (if l.alternate then [.char '.'] else []) else .char '.' :: fraction

def scientific (l : Layout) (ds : Text) (exponent : Int) : Text :=
  ds.take 1 ++ pointed l (ds.drop 1) ++ [.char 'e'] ++ Binary64.exponentText 2 exponent

def withoutZeros (l : Layout) (ds : Text) : Text :=
  if l.alternate then ds else (ds.reverse.dropWhile (· = .char '0')).reverse

/-- As many digits as the precision says, with an exponent where it is small or larger than the
precision. -/
def general (l : Layout) (m : Nat) (e : Int) (precision : Nat) : Text :=
  let p := max precision 1
  let places := if l.alternate then p - 1 else min (p - 1) Binary64.exactPlaces
  let (ds, x) := Binary64.scientificDigits m e places
  if x < -4 || (p : Int) ≤ x then
    scientific l (ds.take 1 ++ withoutZeros l (ds.drop 1)) x
  else if x < 0 then
    [.char '0'] ++ pointed l (withoutZeros l (Binary64.zeros (x.natAbs - 1) ++ ds))
  else
    ds.take (x.toNat + 1) ++ pointed l (withoutZeros l (ds.drop (x.toNat + 1)))

/-- The greatest precision there is; with an exponent it leaves one digit. -/
def mostPrecise : Nat := 2147483647

def realText (l : Layout) (letter : Symbol) (m : Nat) (e : Int) : Text :=
  let precision := l.precision.getD 6
  if letter = .char 'f' then
    Binary64.fixedText m e precision ++ (if precision = 0 then pointed l [] else [])
  else if letter = .char 'e' then
    let (ds, x) := Binary64.scientificDigits m e (if precision = mostPrecise then 0 else precision)
    scientific l ds x
  else general l m e precision

def layReal (l : Layout) (letter : Symbol) (x : Binary64) : Text :=
  let small := Binary64.lower letter
  let body : Text := match x with
    | .nan => "nan"
    | .infinite _ => "inf"
    | .finite _ m e => realText l small m e
  layNumber l x.isNegative [] (if small = letter then body else body.map upper)

def symbolOf : Value → Except TemplateError Symbol
  | .text [s] => .ok s
  | .int n => if 0 ≤ n && n < 0x110000 then .ok (.ofCode n.toNat) else .error .symbolOutOfRange
  | .bool b => .ok (.ofCode (if b then 1 else 0))
  | _ => .error .notSymbol

def asciiLiteral (v : Value) : Text :=
  v.literal.flatMap fun s => if s.isAscii then [s] else Quoted.escapeCode s.code

/-- The digits of a whole number are bounded where they are decimal. -/
def isBounded (letter : Symbol) : Bool :=
  [Symbol.char 'd', .char 'i', .char 'u'].contains letter

def layOut (l : Layout) (letter : Symbol) (position : Nat) (v : Value) :
    Except TemplateError Text :=
  if [Symbol.char 's', .char 'r', .char 'a'].contains letter && !v.isShowable then .error .digits
  else if letter = .char 's' then .ok (layText l v.display)
  else if letter = .char 'r' then .ok (layText l v.literal)
  else if letter = .char 'a' then .ok (layText l (asciiLiteral v))
  else if letter = .char 'c' then
    (symbolOf v).map fun s => layText { l with precision := none } [s]
  else if [Symbol.char 'd', .char 'i', .char 'u', .char 'o', .char 'x', .char 'X'].contains letter then
    (wholeOf letter v).bind fun n =>
      if l.precision.getD 0 > wholePrecision then .error .wholeTooPrecise
      else if isBounded letter && (Decimal.write? n).isNone then .error .digits
      else .ok (layWhole l letter n)
  else if [Symbol.char 'e', .char 'E', .char 'f', .char 'F', .char 'g', .char 'G'].contains letter then
    (realOf v).map (layReal l letter)
  else .error (.unsupported letter position)

/-- 2^36: there is room for no wider text. -/
def roomiest : Nat := 68719476736

def convert (l : Layout) (letter : Symbol) (position : Nat) (v : Value) :
    Except TemplateError Text :=
  if l.width.getD 0 ≤ roomiest then layOut l letter position v
  else (layOut { l with width := none } letter position v).bind fun _ => .error .noRoom

/-- Reads one conversion after its percent sign. `length` is the length of the whole template. -/
def conversion (length : Nat) (s : Supply) (t : Text) :
    Except TemplateError (Text × Supply × Text) :=
  match t with
  | .char '%' :: rest => .ok ([.char '%'], s, rest)
  | _ => do
    let (s, t) ← match t with
      | .char '(' :: rest =>
        if s.asked.isNone then .error .needsMapping
        else do
          let (name, rest) ← readName 0 [] rest
          let s ← choose s name
          .ok (s, rest)
      | _ => .ok (s, t)
    let (l, t) := readFlags {} t
    let (l, s, t) ← readWidth l s t
    let (l, s, t) ← readPrecision l s t
    match skipLength t with
    | [] => .error .incomplete
    | letter :: rest => do
      let (v, s) ← s.next
      let shown ← convert l letter (length - rest.length - 1) v
      .ok (shown, s, rest)

/-- Fills the places in a template from the next symbol on; `fuel` bounds how many symbols and
conversions are left. -/
def fillFrom (length : Nat) : Nat → Supply → Text → Text → Except TemplateError Text
  | 0, _, _, _ => .error .incomplete
  | _ + 1, s, out, [] =>
    if s.asked.isNone && !s.rest.isEmpty then .error .tooManyValues else .ok out.reverse
  | fuel + 1, s, out, c :: rest =>
    if c = .char '%' then do
      let (shown, s, rest) ← conversion length s rest
      fillFrom length fuel s (shown.reverse ++ out) rest
    else fillFrom length fuel s (c :: out) rest

def fill (t : Text) (values : Values) : Except TemplateError Text :=
  fillFrom t.length (t.length + 1) (.ofValues values) [] t

end Template

/-- The message of a record: its template as it is if there is nothing to put into it. -/
def message (template : Text) (values : Values) : Except TemplateError Text :=
  if values.isNothing then .ok template else Template.fill template values

end SharedVm.Journal
