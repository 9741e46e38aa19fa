import SharedVm.Json.Read
import SharedVm.Proofs.Decimal

/-!
# Reading back texts and numbers in JSON

A text is written symbol by symbol, and each escape is read back as the symbol it stands for, so a
text comes back whatever it holds. A whole number comes back if nothing follows that could belong
to it.
-/

namespace SharedVm.Json

mutual

/-- Whether a value holds no number with a point. -/
def isExact : Json → Bool
  | real _ => false
  | array items => areExact items
  | object members => areExactMembers members
  | _ => true

def areExact : List Json → Bool
  | [] => true
  | v :: rest => isExact v && areExact rest

def areExactMembers : List (Text × Json) → Bool
  | [] => true
  | (_, v) :: rest => isExact v && areExactMembers rest

end

/-! ### Texts -/

def hexDigit (n place : Nat) : Symbol := (hexDigits 4 n).getD place (.char '0')

lemma unit?_hexDigits : ∀ n < 0x20, ∃ a b c d,
    hexDigits 4 n = [a, b, c, d] ∧ unit? a b c d = some n ∧
      ([a, b, c, d].all fun u => 0x20 ≤ u.code && u.code < 0x80) = true := by
  have h : ∀ n < 0x20,
      hexDigits 4 n = [hexDigit n 0, hexDigit n 1, hexDigit n 2, hexDigit n 3] ∧
        unit? (hexDigit n 0) (hexDigit n 1) (hexDigit n 2) (hexDigit n 3) = some n ∧
        ([hexDigit n 0, hexDigit n 1, hexDigit n 2, hexDigit n 3].all fun u =>
          0x20 ≤ u.code && u.code < 0x80) = true := by decide
  exact fun n hn => ⟨_, _, _, _, h n hn⟩

lemma pushUnit_of_lt {n : Nat} (hn : n < 0x20) (seen : Text) :
    pushUnit n seen = .ofCode n :: seen := by
  unfold pushUnit
  split
  · rw [if_neg]
    simp only [Bool.and_eq_true, decide_eq_true_eq]
    omega
  · rfl

lemma readText_unescape {e s : Symbol} (he : e ≠ .char 'u') (hs : unescape? e = some s)
    (seen rest : Text) :
    readText seen (.char '\\' :: e :: rest) = readText (s :: seen) rest := by
  rw [readText.eq_def]
  simp [he, hs]

lemma readText_escape (s : Symbol) (seen rest : Text) :
    readText seen (escape s ++ rest) = readText (s :: seen) rest := by
  have short : ∀ e, e ≠ .char 'u' → unescape? e = some s →
      readText seen ([.char '\\', e] ++ rest) = readText (s :: seen) rest :=
    fun e he hs => readText_unescape he hs seen rest
  unfold escape
  split
  · exact short (.char '"') (by decide) (by subst s; decide)
  split
  · exact short (.char '\\') (by decide) (by subst s; decide)
  split
  · exact short (.char 'n') (by decide) (by subst s; decide)
  split
  · exact short (.char 'r') (by decide) (by subst s; decide)
  split
  · exact short (.char 't') (by decide) (by subst s; decide)
  split
  · exact short (.char 'b') (by decide) (by subst s; decide)
  split
  · exact short (.char 'f') (by decide) (by subst s; decide)
  split
  · rename_i hlt
    obtain ⟨a, b, c, d, hd, hu, -⟩ := unit?_hexDigits s.code hlt
    have hp := pushUnit_of_lt hlt seen
    rw [Symbol.ofCode_code] at hp
    rw [hd, ← hp]
    change readText seen (.char '\\' :: .char 'u' :: a :: b :: c :: d :: rest) = _
    rw [readText]
    simp [hu]
  · rename_i hq hb _ _ _ _ _ hlt
    rw [List.singleton_append, readText.eq_def]
    dsimp only
    rw [if_neg hq, if_neg hb, if_neg hlt]

/-- A written text is read back up to its closing quote, whatever it holds. -/
lemma readText_flatMap_escape (t seen rest : Text) :
    readText seen (t.flatMap escape ++ .char '"' :: rest) = some (seen.reverse ++ t, rest) := by
  induction t generalizing seen with
  | nil =>
    rw [List.flatMap_nil, List.nil_append, readText.eq_def]
    dsimp only
    rw [if_pos rfl, List.append_nil]
  | cons s t ih =>
    rw [List.flatMap_cons, List.append_assoc, readText_escape, ih, List.reverse_cons,
      List.append_assoc, List.singleton_append]

/-- An escape is printable ASCII; what needs none stands for itself and is no control character. -/
lemma mem_escape {s u : Symbol} (h : u ∈ escape s) :
    0x20 ≤ u.code ∧ u.code < 0x80 ∨ u = s ∧ 0x20 ≤ u.code := by
  have hfix : ∀ t : Text, (t.all fun u => 0x20 ≤ u.code && u.code < 0x80) = true → u ∈ t →
      0x20 ≤ u.code ∧ u.code < 0x80 := by
    intro t ht hu
    have h := List.all_eq_true.1 ht u hu
    rwa [Bool.and_eq_true, decide_eq_true_eq, decide_eq_true_eq] at h
  unfold escape at h
  split at h
  · exact .inl (hfix "\\\"" (by decide) h)
  split at h
  · exact .inl (hfix "\\\\" (by decide) h)
  split at h
  · exact .inl (hfix "\\n" (by decide) h)
  split at h
  · exact .inl (hfix "\\r" (by decide) h)
  split at h
  · exact .inl (hfix "\\t" (by decide) h)
  split at h
  · exact .inl (hfix "\\b" (by decide) h)
  split at h
  · exact .inl (hfix "\\f" (by decide) h)
  split at h
  · rename_i hlt
    obtain ⟨a, b, c, d, hd, -, hascii⟩ := unit?_hexDigits s.code hlt
    rcases List.mem_append.1 h with h | h
    · exact .inl (hfix "\\u" (by decide) h)
    · exact .inl (hfix _ hascii (hd ▸ h))
  · rename_i hlt
    obtain rfl := List.mem_singleton.1 h
    exact .inr ⟨rfl, Nat.not_lt.1 hlt⟩

/-! ### Numbers and words -/

/-- What may follow a value: nothing, a blank, a comma, or a closing mark. -/
def Ends (t : Text) : Prop :=
  ∀ s ∈ t.head?, isGap s = true ∨ s = .char ',' ∨ s = .char ']' ∨ s = .char '}'

lemma Ends.ne {s : Symbol} {t : Text} (h : Ends (s :: t)) :
    s.asciiDigit? = none ∧ s ≠ .char '.' ∧ s ≠ .char 'e' ∧ s ≠ .char 'E' := by
  have hg : isGap s = true → s = .char ' ' ∨ s = .char '\n' ∨ s = .char '\r' ∨ s = .char '\t' := by
    intro hs
    simpa [isGap, or_assoc] using hs
  rcases h s rfl with hs | rfl | rfl | rfl
  · rcases hg hs with rfl | rfl | rfl | rfl <;> decide
  · decide
  · decide
  · decide

lemma digits_map_digit {ds : List Nat} (hd : ∀ d ∈ ds, d < 10) {rest : Text} (hr : Ends rest) :
    digits (ds.map Decimal.digit ++ rest) = (ds, rest) := by
  have hp : ∀ s ∈ ds.map Decimal.digit, s.asciiDigit?.isSome = true := by
    intro s hs
    obtain ⟨d, hm, rfl⟩ := List.mem_map.1 hs
    rw [Decimal.asciiDigit?_digit (hd d hm)]
    rfl
  have hstop : rest.takeWhile (fun s => s.asciiDigit?.isSome) = [] := by
    cases rest with
    | nil => rfl
    | cons s t =>
      rw [List.takeWhile_cons, if_neg]
      rw [hr.ne.1]
      exact Bool.false_ne_true
  have htake : (ds.map Decimal.digit ++ rest).takeWhile (fun s => s.asciiDigit?.isSome) =
      ds.map Decimal.digit := by
    rw [List.takeWhile_append_of_pos hp, hstop, List.append_nil]
  have hread : (ds.map Decimal.digit).filterMap Symbol.asciiDigit? = ds := by
    rw [List.filterMap_map]
    calc ds.filterMap (Symbol.asciiDigit? ∘ Decimal.digit)
        = ds.filterMap some :=
          List.filterMap_congr fun d hm => Decimal.asciiDigit?_digit (hd d hm)
      _ = ds := List.filterMap_some
  unfold digits
  dsimp only
  rw [htake, hread, List.drop_left]

lemma readExponent_of_ends {rest : Text} (hr : Ends rest) :
    readExponent rest = some (none, rest) := by
  cases rest with
  | nil => rfl
  | cons s t =>
    obtain ⟨-, -, he, hE⟩ := hr.ne
    simp [readExponent, he, hE]

lemma digit_ne_minus {d : Nat} (hd : d < 10) : Decimal.digit d ≠ .char '-' := by
  revert d
  decide

lemma readNumber_digits {ds : List Nat} (hd : ∀ d ∈ ds, d < 10) (hne : ds ≠ [])
    (hz : ds.head? = some 0 → ds = [0]) {rest : Text} (hr : Ends rest) :
    readNumber (ds.map Decimal.digit ++ rest) = some (int (Decimal.value ds), rest) ∧
      readNumber (.char '-' :: (ds.map Decimal.digit ++ rest)) =
        some (int (-Decimal.value ds), rest) := by
  have hlead : ¬((decide (ds.length > 1) && decide (ds.head? = some 0)) = true) := by
    rw [Bool.and_eq_true, decide_eq_true_eq, decide_eq_true_eq]
    rintro ⟨hlen, h0⟩
    rw [hz h0] at hlen
    exact Nat.lt_irrefl 1 hlen
  have hpoint : ∀ more, rest ≠ .char '.' :: more := by
    rintro more rfl
    exact hr.ne.2.1 rfl
  have hminus : ∀ more, ds.map Decimal.digit ++ rest ≠ .char '-' :: more := by
    cases ds with
    | nil => exact absurd rfl hne
    | cons d ds' =>
      intro more h
      exact digit_ne_minus (hd d List.mem_cons_self) (List.cons.inj h).1
  refine ⟨?_, ?_⟩ <;> unfold readNumber
  · split
    rename_i hs
    split at hs
    · exact absurd ‹_› (hminus _)
    · obtain ⟨rfl, rfl⟩ := Prod.mk.inj hs
      simp [digits_map_digit hd hr, hlead, readExponent_of_ends hr]
  · simp [digits_map_digit hd hr, hlead, readExponent_of_ends hr]

/-- A written number is read back if nothing follows that could belong to it. -/
lemma readNumber_ofInt (n : Int) {rest : Text} (hr : Ends rest) :
    readNumber (Decimal.ofInt n ++ rest) = some (int n, rest) := by
  cases n with
  | ofNat m =>
    obtain ⟨ds, hds, hd, hv, hne, hz⟩ := Decimal.ofNat_digits m
    have h := (readNumber_digits hd hne hz hr).1
    rw [← hds, hv] at h
    exact h
  | negSucc m =>
    obtain ⟨ds, hds, hd, hv, hne, hz⟩ := Decimal.ofNat_digits (m + 1)
    have h := (readNumber_digits hd hne hz hr).2
    rw [← hds, hv] at h
    exact h

/-- The values that have a name, and the starts of numbers that are no numbers. -/
def words : List Text := ["null", "true", "false", "NaN", "Infinity", "-Infinity"]

lemma readScalar_eq_readNumber {t : Text} (h : ∀ w ∈ words, w.isPrefixOf t = false) :
    readScalar t = readNumber t := by
  have hw : ∀ w ∈ words, word? w t = none := by
    intro w hm
    rw [word?, h w hm, if_neg Bool.false_ne_true]
  unfold readScalar
  rw [hw "null" (by decide), hw "true" (by decide), hw "false" (by decide), hw "NaN" (by decide),
    hw "Infinity" (by decide), hw "-Infinity" (by decide)]

/-- No word begins with what a number begins with. -/
lemma readScalar_ofInt (n : Int) {rest : Text} (hr : Ends rest) :
    readScalar (Decimal.ofInt n ++ rest) = some (int n, rest) := by
  have hdigit : ∀ m : Nat, ∃ d more, d < 10 ∧ Decimal.ofNat m = Decimal.digit d :: more := by
    intro m
    obtain ⟨ds, hds, hd, -, hne, -⟩ := Decimal.ofNat_digits m
    cases ds with
    | nil => exact absurd rfl hne
    | cons d ds' => exact ⟨d, _, hd d List.mem_cons_self, hds⟩
  have hplain : ∀ d < 10, ∀ w ∈ words, 1 < w.length ∧ w[0]? ≠ some (Decimal.digit d) ∧
      w[1]? ≠ some (Decimal.digit d) := by
    decide
  rw [readScalar_eq_readNumber, readNumber_ofInt n hr]
  intro w hw
  rw [← Bool.not_eq_true, List.isPrefixOf_iff_prefix]
  rintro ⟨s, hs⟩
  cases n with
  | ofNat m =>
    obtain ⟨d, more, hd, hm⟩ := hdigit m
    obtain ⟨hlen, h, -⟩ := hplain d hd w hw
    refine h ?_
    calc w[0]? = (w ++ s)[0]? := (List.getElem?_append_left (Nat.zero_lt_of_lt hlen)).symm
      _ = (Decimal.ofNat m ++ rest)[0]? := congrArg (·[0]?) hs
      _ = some (Decimal.digit d) := by rw [hm]; rfl
  | negSucc m =>
    obtain ⟨d, more, hd, hm⟩ := hdigit (m + 1)
    obtain ⟨hlen, -, h⟩ := hplain d hd w hw
    refine h ?_
    calc w[1]? = (w ++ s)[1]? := (List.getElem?_append_left hlen).symm
      _ = (.char '-' :: Decimal.ofNat (m + 1) ++ rest)[1]? := congrArg (·[1]?) hs
      _ = some (Decimal.digit d) := by rw [hm]; rfl

end SharedVm.Json
