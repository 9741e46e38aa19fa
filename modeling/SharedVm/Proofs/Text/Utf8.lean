import SharedVm.Text.Utf8
import Mathlib.Tactic.Lemma

/-!
# Reading back what is written as UTF-8

Each character has one to four bytes, and the states between them lead from the start back to the
start. So reading the bytes of a text gives its lossy form, whatever bytes outside characters would
become, and a text without lone surrogates comes back as it was. No bytes but those of an ASCII text
are read as that text.
-/

namespace SharedVm.Utf8

variable {bad : Bytes → Text} {out : Text}

lemma toNat_ofNat {n : Nat} (h : n < 256) : (UInt8.ofNat n).toNat = n := by
  rw [UInt8.toNat_ofNat']
  exact Nat.mod_eq_of_lt h

lemma step_ascii {b : UInt8} (h : b.toNat < 0x80) :
    step bad (.start, out) b = (.start, .ofCode b.toNat :: out) := by
  rw [step, stepStart, if_pos h]

lemma step_first {b : UInt8} {state : Utf8State} (h : 0x80 ≤ b.toNat) (hf : first b = some state) :
    step bad (.start, out) b = (state, out) := by
  rw [step, stepStart, if_neg (Nat.not_lt.2 h), hf]

lemma step_last {low high value : Nat} {seen : Bytes} {b : UInt8} (hl : low ≤ b.toNat)
    (hh : b.toNat ≤ high) :
    step bad (.within 1 low high value seen, out) b =
      (.start, .ofCode (value * 64 + (b.toNat - 0x80)) :: out) := by
  simp [step, hl, hh]

lemma step_more {owed low high value : Nat} {seen : Bytes} {b : UInt8} (hl : low ≤ b.toNat)
    (hh : b.toNat ≤ high) :
    step bad (.within (owed + 2) low high value seen, out) b =
      (.within (owed + 1) 0x80 0xBF (value * 64 + (b.toNat - 0x80)) (b :: seen), out) := by
  simp [step, hl, hh]

lemma first_two {b : UInt8} (hl : 0xC2 ≤ b.toNat) (hh : b.toNat ≤ 0xDF) :
    first b = some (.within 1 0x80 0xBF (b.toNat - 0xC0) [b]) := by
  simp [first, hl, hh]

/-- The first of three bytes. The range of the second one depends on it. -/
lemma first_three {b : UInt8} (hl : 0xE0 ≤ b.toNat) (hh : b.toNat ≤ 0xEF) :
    first b = some (.within 2 (if b.toNat = 0xE0 then 0xA0 else 0x80)
      (if b.toNat = 0xED then 0x9F else 0xBF) (b.toNat - 0xE0) [b]) := by
  have h₂ : ¬(0xC2 ≤ b.toNat ∧ b.toNat ≤ 0xDF) := by omega
  by_cases h₀ : b.toNat = 0xE0
  · simp [first, h₀]
  · by_cases hd : b.toNat = 0xED
    · simp [first, hd]
    · have hl' : 0xE1 ≤ b.toNat := by omega
      simp [first, h₂, h₀, hd, hl', hh]

lemma first_four {b : UInt8} (hl : 0xF0 ≤ b.toNat) (hh : b.toNat ≤ 0xF4) :
    first b = some (.within 3 (if b.toNat = 0xF0 then 0x90 else 0x80)
      (if b.toNat = 0xF4 then 0x8F else 0xBF) (b.toNat - 0xF0) [b]) := by
  have h₂ : ¬(0xC2 ≤ b.toNat ∧ b.toNat ≤ 0xDF) := by omega
  have h₃ : ¬(0xE1 ≤ b.toNat ∧ b.toNat ≤ 0xEF) := by omega
  have he : ¬ b.toNat = 0xE0 := by omega
  have hd : ¬ b.toNat = 0xED := by omega
  by_cases h₀ : b.toNat = 0xF0
  · simp [first, h₀]
  · by_cases h₄ : b.toNat = 0xF4
    · simp [first, h₄]
    · have hl' : 0xF1 ≤ b.toNat := by omega
      have hh' : b.toNat ≤ 0xF3 := by omega
      simp [first, h₂, h₃, he, hd, h₀, h₄, hl', hh']

lemma foldl_utf8EncodeChar (c : Char) :
    (String.utf8EncodeChar c).foldl (step bad) (.start, out) = (.start, .char c :: out) := by
  have hc : Symbol.ofCode c.val.toNat = .char c := Symbol.ofCode_code (.char c)
  have hv : c.val.toNat < 0xD800 ∨ 0xDFFF < c.val.toNat ∧ c.val.toNat < 0x110000 := c.valid
  unfold String.utf8EncodeChar
  generalize c.val.toNat = n at hc hv
  dsimp only
  -- characters of one, two, three and four bytes
  split
  · have hb : (UInt8.ofNat n).toNat = n := toNat_ofNat (by omega)
    rw [List.foldl_cons, List.foldl_nil, step_ascii (by omega), hb, hc]
  · split
    · have h₀ : (UInt8.ofNat (n / 64 % 0x20 + 0xC0)).toNat = n / 64 + 0xC0 := by
        rw [toNat_ofNat (by omega)]; omega
      have h₁ : (UInt8.ofNat (n % 0x40 + 0x80)).toNat = n % 64 + 0x80 := toNat_ofNat (by omega)
      rw [List.foldl_cons, step_first (by omega) (first_two (by omega) (by omega)), List.foldl_cons,
        step_last (by omega) (by omega), h₀, h₁, List.foldl_nil,
        show (n / 64 + 0xC0 - 0xC0) * 64 + (n % 64 + 0x80 - 0x80) = n by omega, hc]
    · split
      · have h₀ : (UInt8.ofNat (n / 4096 % 0x10 + 0xE0)).toNat = n / 4096 + 0xE0 := by
          rw [toNat_ofNat (by omega)]; omega
        have h₁ : (UInt8.ofNat (n / 64 % 0x40 + 0x80)).toNat = n / 64 % 64 + 0x80 :=
          toNat_ofNat (by omega)
        have h₂ : (UInt8.ofNat (n % 0x40 + 0x80)).toNat = n % 64 + 0x80 := toNat_ofNat (by omega)
        rw [List.foldl_cons, step_first (by omega) (first_three (by omega) (by omega)), h₀,
          List.foldl_cons, step_more (by split <;> omega) (by split <;> omega), List.foldl_cons,
          step_last (by omega) (by omega), h₁, h₂, List.foldl_nil,
          show ((n / 4096 + 0xE0 - 0xE0) * 64 + (n / 64 % 64 + 0x80 - 0x80)) * 64 +
            (n % 64 + 0x80 - 0x80) = n by omega, hc]
      · have h₀ : (UInt8.ofNat (n / 262144 % 0x08 + 0xF0)).toNat = n / 262144 + 0xF0 := by
          rw [toNat_ofNat (by omega)]; omega
        have h₁ : (UInt8.ofNat (n / 4096 % 0x40 + 0x80)).toNat = n / 4096 % 64 + 0x80 :=
          toNat_ofNat (by omega)
        have h₂ : (UInt8.ofNat (n / 64 % 0x40 + 0x80)).toNat = n / 64 % 64 + 0x80 :=
          toNat_ofNat (by omega)
        have h₃ : (UInt8.ofNat (n % 0x40 + 0x80)).toNat = n % 64 + 0x80 := toNat_ofNat (by omega)
        rw [List.foldl_cons, step_first (by omega) (first_four (by omega) (by omega)), h₀,
          List.foldl_cons, step_more (by split <;> omega) (by split <;> omega), List.foldl_cons,
          step_more (by omega) (by omega), List.foldl_cons, step_last (by omega) (by omega), h₁, h₂,
          h₃, List.foldl_nil,
          show (((n / 262144 + 0xF0 - 0xF0) * 64 + (n / 4096 % 64 + 0x80 - 0x80)) * 64 +
            (n / 64 % 64 + 0x80 - 0x80)) * 64 + (n % 64 + 0x80 - 0x80) = n by omega, hc]

lemma any_isLone_lossy (t : Text) : (lossy t).any isLone = false := by
  rw [List.any_eq_false]
  intro s hs
  obtain ⟨u, -, hu⟩ := List.mem_flatMap.1 hs
  cases u with
  | char c =>
    rw [show isLone (.char c) = false from rfl, if_neg Bool.false_ne_true,
      List.mem_singleton] at hu
    rw [hu]
    exact Bool.false_ne_true
  | lone k =>
    rw [show isLone (.lone k) = true from rfl, if_pos rfl] at hu
    rw [List.eq_of_mem_replicate hu]
    exact Bool.false_ne_true

lemma foldl_flatMap_symbol {t : Text} (h : t.any isLone = false) (out : Text) :
    (t.flatMap symbol).foldl (step bad) (.start, out) = (.start, t.reverse ++ out) := by
  induction t generalizing out with
  | nil => rfl
  | cons s rest ih =>
    rw [List.any_cons, Bool.or_eq_false_iff] at h
    cases s with
    | char c =>
      have hs : symbol (.char c) = String.utf8EncodeChar c := rfl
      rw [List.flatMap_cons, List.foldl_append, hs, foldl_utf8EncodeChar, ih h.2, List.reverse_cons,
        List.append_assoc, List.singleton_append]
    | lone k => cases h.1

/-- What bytes outside characters would become plays no part. -/
lemma decodeWith_encode (bad : Bytes → Text) (t : Text) : decodeWith bad (encode t) = lossy t := by
  unfold decodeWith encode
  rw [foldl_flatMap_symbol (any_isLone_lossy t)]
  simp

theorem decode_encode (t : Text) : decode (encode t) = lossy t := decodeWith_encode _ t

theorem decode?_encode (t : Text) : decode? (encode t) = some (lossy t) := by
  unfold decode?
  dsimp only
  rw [decodeWith_encode, any_isLone_lossy]
  rfl

lemma encode_append (s t : Text) : encode (s ++ t) = encode s ++ encode t := by
  unfold encode lossy
  rw [List.flatMap_append, List.flatMap_append]

/-! ### Bytes of characters -/

/-- A byte of a character is the character itself, if that is ASCII, or no ASCII. -/
lemma toNat_of_mem_utf8EncodeChar {c : Char} {b : UInt8} (h : b ∈ String.utf8EncodeChar c) :
    b.toNat = c.toNat ∨ 0x80 ≤ b.toNat := by
  have hv : c.val.toNat < 0xD800 ∨ 0xDFFF < c.val.toNat ∧ c.val.toNat < 0x110000 := c.valid
  change b.toNat = c.val.toNat ∨ _
  unfold String.utf8EncodeChar at h
  generalize c.val.toNat = n at h hv
  dsimp only at h
  split at h
  · obtain rfl := List.mem_singleton.1 h
    exact .inl (toNat_ofNat (by omega))
  · right
    have hb : ∃ k, b = UInt8.ofNat k ∧ 0x80 ≤ k ∧ k < 256 := by
      split at h
      · simp only [List.mem_cons, List.not_mem_nil, or_false] at h
        rcases h with rfl | rfl <;> exact ⟨_, rfl, by omega, by omega⟩
      · split at h
        · simp only [List.mem_cons, List.not_mem_nil, or_false] at h
          rcases h with rfl | rfl | rfl <;> exact ⟨_, rfl, by omega, by omega⟩
        · simp only [List.mem_cons, List.not_mem_nil, or_false] at h
          rcases h with rfl | rfl | rfl | rfl <;> exact ⟨_, rfl, by omega, by omega⟩
    obtain ⟨k, rfl, hk, hlt⟩ := hb
    rw [toNat_ofNat hlt]
    exact hk

lemma le_of_mem_encode {t : Text} (ht : ∀ s ∈ t, 0x20 ≤ s.code) {b : UInt8} (hb : b ∈ encode t) :
    0x20 ≤ b.toNat := by
  obtain ⟨s, hs, hb⟩ := List.mem_flatMap.1 hb
  obtain ⟨u, hu, hs⟩ := List.mem_flatMap.1 hs
  have hcode : 0x20 ≤ s.code := by
    split at hs
    · rw [List.eq_of_mem_replicate hs]
      decide
    · rw [List.mem_singleton.1 hs]
      exact ht u hu
  cases s with
  | char c =>
    rcases toNat_of_mem_utf8EncodeChar hb with he | hge
    · rw [he]
      exact hcode
    · omega
  | lone k => cases hb

/-! ### Surrogates that stop a text -/

lemma firstLone?_eq_none_iff {kind : Symbol → Bool} (hk : ∀ s, kind s = true → isLone s = true)
    (t : Text) : firstLone? kind t = none ↔ t.any kind = false := by
  have hrun : (t.drop (t.takeWhile (!kind ·)).length).takeWhile isLone = [] ↔
      t.any kind = false := by
    induction t with
    | nil => simp
    | cons s t ih =>
      cases hs : kind s with
      | false => simp [hs, ih]
      | true => simp [hs, hk s hs]
  rw [← hrun]
  unfold firstLone?
  dsimp only
  split
  · rename_i h
    exact ⟨fun _ => h, fun _ => rfl⟩
  · rename_i hne
    exact ⟨fun h => (by cases h), fun h => absurd h hne⟩

lemma isLone_of_isStray {s : Symbol} (h : isStray s = true) : isLone s = true := by
  cases s with
  | char c => cases h
  | lone k => rfl

/-! ### Bytes that are no ASCII -/

lemma le_code_ofCode {n : Nat} (h : 0x80 ≤ n) : 0x80 ≤ (Symbol.ofCode n).code := by
  unfold Symbol.ofCode
  split
  · exact Nat.le_trans (by decide : 0x80 ≤ 0xD800) (Nat.le_add_right _ _)
  · split
    · have hv : n.isValidChar := by unfold Nat.isValidChar; omega
      rw [Char.ofNat, dif_pos hv]
      exact h
    · decide

/-- A symbol that is no ASCII has been read, or the bytes of one are under way. -/
def IsForeign : Utf8State × Text → Prop
  | (.start, out) => ∃ s ∈ out, 0x80 ≤ s.code
  | (.within owed low _ value _, _) => 0x80 ≤ low ∧ 2 ≤ value * 64 + (low - 0x80) ∧
    (owed ≤ 1 → 0x80 ≤ value * 64 + (low - 0x80))

lemma isForeign_first {b : UInt8} {state : Utf8State} (h : first b = some state) (out : Text) :
    IsForeign (state, out) := by
  unfold first at h
  grind [IsForeign]

/-- What is no character is read as `U+FFFD`. -/
abbrev replaced : Bytes → Text := fun _ => [.char '\uFFFD']

lemma isForeign_stepStart {b : UInt8} {out : Text}
    (h : 0x80 ≤ b.toNat ∨ ∃ s ∈ out, 0x80 ≤ s.code) : IsForeign (stepStart replaced b out) := by
  unfold stepStart
  split
  · obtain ⟨s, hs, hc⟩ := h.resolve_left (Nat.not_le.2 ‹_›)
    exact ⟨s, List.mem_cons_of_mem _ hs, hc⟩
  · split
    · exact isForeign_first ‹_› out
    · exact ⟨_, List.mem_cons_self, by decide⟩

lemma isForeign_step {st : Utf8State × Text} (h : IsForeign st) (b : UInt8) :
    IsForeign (step replaced st b) := by
  obtain ⟨state, out⟩ := st
  cases state with
  | start => exact isForeign_stepStart (.inr h)
  | within owed low high value seen =>
    obtain ⟨hlow, htwo, hone⟩ := h
    rw [step]
    split
    · rename_i hb
      rw [Bool.and_eq_true, decide_eq_true_eq, decide_eq_true_eq] at hb
      dsimp only
      split
      · have hvalue := hone ‹_›
        exact ⟨_, List.mem_cons_self, le_code_ofCode (by omega)⟩
      · exact ⟨Nat.le_refl _, by omega, fun _ => by omega⟩
    · exact isForeign_stepStart (.inr ⟨.char '\uFFFD', List.mem_cons_self, by decide⟩)

lemma isForeign_foldl {st : Utf8State × Text} (h : IsForeign st) (bs : Bytes) :
    IsForeign (bs.foldl (step replaced) st) := by
  induction bs generalizing st with
  | nil => exact h
  | cons b rest ih => exact ih (isForeign_step h b)

lemma isForeign_of_mem {bs : Bytes} {b : UInt8} (hb : b ∈ bs) (h : 0x80 ≤ b.toNat) (out : Text) :
    IsForeign (bs.foldl (step replaced) (.start, out)) := by
  induction bs generalizing out with
  | nil => cases hb
  | cons c rest ih =>
    rw [List.foldl_cons]
    by_cases hc : c.toNat < 0x80
    · have hne : b ≠ c := by
        rintro rfl
        omega
      rw [step_ascii hc]
      exact ih ((List.mem_cons.1 hb).resolve_left hne) _
    · exact isForeign_foldl (isForeign_stepStart (.inl (Nat.not_lt.1 hc))) rest

/-- Bytes that are not all ASCII are read as a text that is not. -/
lemma exists_foreign_of_mem {bs : Bytes} {b : UInt8} (hb : b ∈ bs) (h : 0x80 ≤ b.toNat) :
    ∃ s ∈ decode bs, 0x80 ≤ s.code := by
  have hforeign := isForeign_of_mem hb h []
  unfold decode decodeWith
  rcases hr : bs.foldl (step replaced) (.start, []) with ⟨_ | ⟨owed, low, high, value, seen⟩, out⟩
  · rw [hr] at hforeign
    obtain ⟨s, hs, hc⟩ := hforeign
    exact ⟨s, List.mem_reverse.2 hs, hc⟩
  · exact ⟨.char '\uFFFD', List.mem_reverse.2 List.mem_cons_self, by decide⟩

lemma foldl_ascii {bs : Bytes} (h : ∀ b ∈ bs, b.toNat < 0x80) (out : Text) :
    bs.foldl (step replaced) (.start, out) =
      (.start, (bs.map fun b => .ofCode b.toNat).reverse ++ out) := by
  induction bs generalizing out with
  | nil => rfl
  | cons b rest ih =>
    rw [List.foldl_cons, step_ascii (h b List.mem_cons_self),
      ih fun c hc => h c (List.mem_cons_of_mem b hc)]
    simp

/-- Bytes that are ASCII are read one by one. -/
lemma decode_ascii {bs : Bytes} (h : ∀ b ∈ bs, b.toNat < 0x80) :
    decode bs = bs.map fun b => .ofCode b.toNat := by
  unfold decode decodeWith
  rw [foldl_ascii h]
  simp

lemma code_ofCode_of_ascii {b : UInt8} (h : b.toNat < 0x80) :
    (Symbol.ofCode b.toNat).code = b.toNat := by
  have hv : b.toNat.isValidChar := .inl (by omega)
  rw [Symbol.ofCode, if_neg (by omega), if_pos (by omega), Symbol.code, Char.ofNat, dif_pos hv]
  rfl

/-- Nothing but ASCII bytes is read as an ASCII text, and no two of them alike. -/
lemma decode_eq_iff {bs : Bytes} {t : Text} (ht : ∀ s ∈ t, s.code < 0x80) :
    decode bs = t ↔ bs = t.map fun s => .ofNat s.code := by
  constructor
  · rintro rfl
    have hbs : ∀ b ∈ bs, b.toNat < 0x80 := by
      intro b hb
      refine Nat.not_le.1 fun hge => ?_
      obtain ⟨s, hs, hc⟩ := exists_foreign_of_mem hb hge
      exact absurd (ht s hs) (Nat.not_lt.2 hc)
    rw [decode_ascii hbs, List.map_map]
    refine (List.map_id bs).symm.trans (List.map_congr_left fun b hb => ?_)
    rw [Function.comp_apply, code_ofCode_of_ascii (hbs b hb), UInt8.ofNat_toNat, id]
  · rintro rfl
    have hcode : ∀ s ∈ t, (UInt8.ofNat s.code).toNat = s.code := fun s hs =>
      toNat_ofNat (Nat.lt_trans (ht s hs) (by decide))
    have hbs : ∀ b ∈ t.map fun s => UInt8.ofNat s.code, b.toNat < 0x80 :=
      List.forall_mem_map.2 fun s hs => (hcode s hs).symm ▸ ht s hs
    rw [decode_ascii hbs, List.map_map]
    refine (List.map_congr_left fun s hs => ?_).trans (List.map_id t)
    rw [Function.comp_apply, hcode s hs, Symbol.ofCode_code, id]

end SharedVm.Utf8
