import SharedVm.Proofs.Decimal
import SharedVm.Proofs.LockFile
import Mathlib.Data.Nat.Digits.Defs

/-!
# What the contents of a lock file come to

The texts that a reader of lock files takes for a port are the decimal texts of the usable ports,
with any leading zeros and any blanks around them. Contents that are a run of ASCII digits between
blanks, more than a number may have, are the only ones that a reader fails on. Everything else says
no port.
-/

namespace SharedVm

/-! ### Digits -/

namespace Decimal

lemma mapM_asciiDigit?_eq_some_iff {t : Text} {ds : List Nat} :
    t.mapM Symbol.asciiDigit? = some ds ↔ t.map Symbol.asciiDigit? = ds.map some := by
  induction t generalizing ds with
  | nil => cases ds <;> simp
  | cons s rest ih =>
    rw [List.mapM_cons, List.map_cons]
    cases s.asciiDigit? with
    | none => cases ds <;> simp
    | some d =>
      cases ds with
      | nil => cases rest.mapM Symbol.asciiDigit? <;> simp
      | cons e es =>
        rw [List.map_cons, List.cons.injEq, ← ih]
        cases rest.mapM Symbol.asciiDigit? <;> simp

/-- A text has so many digits and nothing else just when they all have values. -/
lemma exists_digits_iff {t : Text} {n : Nat} :
    (∃ ds, t.mapM Symbol.asciiDigit? = some ds ∧ ds.length = n) ↔
      (∀ s ∈ t, s.asciiDigit?.isSome = true) ∧ t.length = n := by
  simp only [mapM_asciiDigit?_eq_some_iff]
  constructor
  · rintro ⟨ds, hds, rfl⟩
    refine ⟨fun s hs => ?_, ?_⟩
    · have hmem : s.asciiDigit? ∈ ds.map some := hds ▸ List.mem_map_of_mem hs
      obtain ⟨d, -, hd⟩ := List.mem_map.1 hmem
      rw [← hd]
      rfl
    · have hlength := congrArg List.length hds
      rwa [List.length_map, List.length_map] at hlength
  · rintro ⟨hall, rfl⟩
    refine ⟨t.map fun s => s.asciiDigit?.getD 0, ?_, List.length_map _⟩
    rw [List.map_map]
    refine List.map_congr_left fun s hs => ?_
    obtain ⟨d, hd⟩ := Option.isSome_iff_exists.1 (hall s hs)
    rw [Function.comp_apply, hd, Option.getD_some]

lemma value_eq_ofDigits (ds : List Nat) : value ds = Nat.ofDigits 10 ds.reverse := by
  induction ds using List.reverseRecOn with
  | nil => rfl
  | append_singleton ds d ih =>
    rw [value_append, ih, List.reverse_append, List.reverse_singleton, List.singleton_append,
      Nat.ofDigits_cons, Nat.add_comm, Nat.mul_comm]

lemma asciiDigit?_eq_some_iff {s : Symbol} {d : Nat} :
    s.asciiDigit? = some d ↔ s = digit d ∧ d < 10 := by
  constructor
  · intro h
    unfold Symbol.asciiDigit? at h
    split at h
    · rename_i hs
      simp only [Bool.and_eq_true, decide_eq_true_eq] at hs
      have hd : d = s.code - 0x30 := (Option.some.inj h).symm
      have hlt : d < 10 := by omega
      have hcode : ∀ d < 10, (digit d).code = 0x30 + d := by decide
      refine ⟨Symbol.code_injective ?_, hlt⟩
      rw [hcode d hlt]
      omega
    · cases h
  · rintro ⟨rfl, hd⟩
    exact asciiDigit?_digit hd

lemma mapM_asciiDigit?_iff {t : Text} {ds : List Nat} :
    t.mapM Symbol.asciiDigit? = some ds ↔ t = ds.map digit ∧ ∀ d ∈ ds, d < 10 := by
  rw [mapM_asciiDigit?_eq_some_iff]
  induction t generalizing ds with
  | nil => cases ds <;> simp
  | cons s rest ih =>
    cases ds with
    | nil => simp
    | cons d ds =>
      rw [List.map_cons, List.map_cons, List.map_cons, List.cons.injEq, List.cons.injEq, ih,
        asciiDigit?_eq_some_iff, List.forall_mem_cons]
      tauto

end Decimal

/-! ### Texts that are read as ports -/

lemma Port.isPublishable_iff {n : Int} : isPublishable n = true ↔ 1025 ≤ n ∧ n ≤ 65535 := by
  rw [isPublishable, Bool.and_eq_true, decide_eq_true_iff, decide_eq_true_iff]
  exact Iff.rfl

lemma Port.usable?_eq (n : Int) :
    usable? n = if 1025 ≤ n ∧ n ≤ 65535 then some n.toNat else none :=
  if_congr isPublishable_iff rfl rfl

lemma Port.usable?_eq_some_iff {m p : Nat} :
    usable? m = some p ↔ m = p ∧ 1025 ≤ p ∧ p ≤ 65535 := by
  rw [usable?_eq]
  split
  · rw [Int.toNat_natCast, Option.some.injEq]
    omega
  · exact iff_of_false (by rintro ⟨⟩) fun hp => by omega

lemma Port.usable?_eq_none_iff {m : Nat} : usable? m = none ↔ ¬ (1025 ≤ m ∧ m ≤ 65535) := by
  rw [Option.eq_none_iff_forall_ne_some]
  simp only [ne_eq, usable?_eq_some_iff]
  exact ⟨fun h hm => h m ⟨rfl, hm⟩, fun h p ⟨hp, hle⟩ => h (hp ▸ hle)⟩

namespace Published

/-- The text is these digits between blanks. -/
def Spells (t : Text) (ds : List Nat) : Prop :=
  ∃ front back, t = front ++ ds.map Decimal.digit ++ back ∧ (∀ s ∈ front, s.isBlank = true) ∧
    (∀ s ∈ back, s.isBlank = true) ∧ ds ≠ [] ∧ ∀ d ∈ ds, d < 10

/-- What a text comes to as the contents of a lock file: the port that it spells, no port, or too
many digits for a number. -/
structure Parses {ε : Type} (tooLong : Nat → ε) (t : Text) (r : Except ε (Option Nat)) : Prop where
  port : ∀ p, r = .ok (some p) ↔ ∃ ds, Spells t ds ∧ ds.length ≤ 4300 ∧
    Nat.ofDigits 10 ds.reverse = p ∧ 1025 ≤ p ∧ p ≤ 65535
  unusable : r = .ok none ↔ ∀ ds, Spells t ds → ds.length ≤ 4300 ∧
    ¬ (1025 ≤ Nat.ofDigits 10 ds.reverse ∧ Nat.ofDigits 10 ds.reverse ≤ 65535)
  error : ∀ e, r = .error e ↔ ∃ ds, Spells t ds ∧ 4300 < ds.length ∧ e = tooLong ds.length

variable {t : Text} {ds : List Nat}

lemma spells_iff : Spells t ds ↔ t.strip.mapM Symbol.asciiDigit? = some ds ∧ ds ≠ [] := by
  rw [Decimal.mapM_asciiDigit?_iff]
  constructor
  · rintro ⟨front, back, rfl, hfront, hback, hne, hlt⟩
    refine ⟨⟨Text.trim_append hfront hback fun s hs => ?_, hlt⟩, hne⟩
    obtain ⟨d, hd, rfl⟩ := List.mem_map.1 hs
    exact Decimal.isBlank_digit (hlt d hd)
  · rintro ⟨⟨hstrip, hlt⟩, hne⟩
    obtain ⟨front, back, ht, hfront, hback⟩ := Text.exists_trim Symbol.isBlank t
    rw [← Text.strip, hstrip] at ht
    exact ⟨front, back, ht, hfront, hback, hne, hlt⟩

lemma Spells.unique {es : List Nat} (hd : Spells t ds) (he : Spells t es) : ds = es :=
  Option.some.inj ((spells_iff.1 hd).1.symm.trans (spells_iff.1 he).1)

lemma ofText_of_spells (h : Spells t ds) : (ofText t).map port? =
    if 4300 < ds.length then .error (.tooLong ds.length)
    else .ok (Port.usable? (Nat.ofDigits 10 ds.reverse : Nat)) := by
  obtain ⟨hm, hne⟩ := spells_iff.1 h
  have hsome : ¬ t.strip.isEmpty = true := by
    intro he
    rw [List.isEmpty_iff.1 he, List.mapM_nil] at hm
    exact hne (Option.some.inj hm).symm
  have husable := Port.usable?_ofNat (Nat.ofDigits 10 ds.reverse)
  rw [← Decimal.value_eq_ofDigits] at husable ⊢
  unfold ofText
  dsimp only
  rw [if_neg hsome, hm]
  dsimp only
  by_cases hlong : 4300 < ds.length
  · rw [if_pos (show ds.length > Decimal.limit from hlong), if_pos hlong]
    rfl
  · rw [if_neg (show ¬ ds.length > Decimal.limit from hlong), if_neg hlong]
    change _ = Except.ok (Port.usable? (Int.ofNat _))
    rw [husable]
    split
    · rw [if_neg (by omega)]
      rfl
    · split
      · rw [if_neg (by omega)]
        rfl
      · rw [if_pos (by omega)]
        rfl

lemma ofText_of_not_spells (h : ∀ ds, ¬ Spells t ds) : (ofText t).map port? = .ok none := by
  unfold ofText
  dsimp only
  split
  · rfl
  · rename_i hsome
    cases hm : t.strip.mapM Symbol.asciiDigit? with
    | none => rfl
    | some ds =>
      refine absurd (spells_iff.2 ⟨hm, ?_⟩) (h ds)
      rintro rfl
      have hstrip := (Decimal.mapM_asciiDigit?_iff.1 hm).1
      exact hsome (List.isEmpty_iff.2 hstrip)

lemma Parses.of_spells {ε : Type} {tooLong : Nat → ε} (h : Spells t ds) :
    Parses tooLong t (if 4300 < ds.length then .error (tooLong ds.length)
      else .ok (Port.usable? (Nat.ofDigits 10 ds.reverse : Nat))) := by
  have hall : ∀ {P : List Nat → Prop}, (∃ es, Spells t es ∧ P es) ↔ P ds := fun {P} =>
    ⟨fun ⟨es, he, hp⟩ => h.unique he ▸ hp, fun hp => ⟨ds, h, hp⟩⟩
  have hevery : ∀ {P : List Nat → Prop}, (∀ es, Spells t es → P es) ↔ P ds := fun {P} =>
    ⟨fun hp => hp ds h, fun hp es he => h.unique he ▸ hp⟩
  by_cases hlong : 4300 < ds.length
  · rw [if_pos hlong]
    refine ⟨fun p => ?_, ?_, fun e => ?_⟩
    · rw [hall]
      exact iff_of_false (by rintro ⟨⟩) fun hp => Nat.not_lt.2 hp.1 hlong
    · rw [hevery]
      exact iff_of_false (by rintro ⟨⟩) fun hp => Nat.not_lt.2 hp.1 hlong
    · rw [hall, Except.error.injEq, eq_comm]
      exact (and_iff_right hlong).symm
  · rw [if_neg hlong]
    refine ⟨fun p => ?_, ?_, fun e => ?_⟩
    · rw [hall, and_iff_right (Nat.not_lt.1 hlong), Except.ok.injEq]
      exact Port.usable?_eq_some_iff
    · rw [hevery, and_iff_right (Nat.not_lt.1 hlong), Except.ok.injEq]
      exact Port.usable?_eq_none_iff
    · rw [hall]
      exact iff_of_false (by rintro ⟨⟩) fun he => hlong he.1

lemma Parses.of_not_spells {ε : Type} {tooLong : Nat → ε} (h : ∀ ds, ¬ Spells t ds) :
    Parses tooLong t (.ok none) where
  port p := iff_of_false (by rintro ⟨⟩) fun ⟨ds, hds, _⟩ => h ds hds
  unusable := iff_of_true rfl fun ds hds => absurd hds (h ds)
  error e := iff_of_false (by rintro ⟨⟩) fun ⟨ds, hds, _⟩ => h ds hds

lemma ofText_parses (t : Text) : Parses .tooLong t ((ofText t).map port?) := by
  by_cases h : ∃ ds, Spells t ds
  · obtain ⟨ds, hds⟩ := h
    rw [ofText_of_spells hds]
    exact .of_spells hds
  · have hnone : ∀ ds, ¬ Spells t ds := fun ds hds => h ⟨ds, hds⟩
    rw [ofText_of_not_spells hnone]
    exact .of_not_spells hnone

/-- The contents are a run of so many ASCII digits between blanks, more than a number may have. -/
def IsOverlong (bs : Bytes) (n : Nat) : Prop :=
  ∃ front digits back, Utf8.decode bs = front ++ digits ++ back ∧
    (∀ s ∈ front, s.isBlank = true) ∧ (∀ s ∈ back, s.isBlank = true) ∧
    (∀ s ∈ digits, s.asciiDigit?.isSome = true) ∧ digits.length = n ∧ Decimal.limit < n

lemma isOverlong_iff {bs : Bytes} {n : Nat} :
    IsOverlong bs n ↔ ∃ ds, Spells (Utf8.decode bs) ds ∧ ds.length = n ∧ Decimal.limit < n := by
  constructor
  · rintro ⟨front, digits, back, ht, hfront, hback, hdigits, hlength, hlimit⟩
    obtain ⟨ds, hm, rfl⟩ := Decimal.exists_digits_iff.2 ⟨hdigits, hlength⟩
    obtain ⟨rfl, hlt⟩ := Decimal.mapM_asciiDigit?_iff.1 hm
    have hne : ds ≠ [] := by
      rintro rfl
      exact Nat.not_lt_zero _ hlimit
    exact ⟨ds, ⟨front, back, ht, hfront, hback, hne, hlt⟩, rfl, hlimit⟩
  · rintro ⟨ds, ⟨front, back, ht, hfront, hback, -, hlt⟩, rfl, hlimit⟩
    refine ⟨front, ds.map Decimal.digit, back, ht, hfront, hback, fun s hs => ?_, List.length_map _,
      hlimit⟩
    obtain ⟨d, hd, rfl⟩ := List.mem_map.1 hs
    rw [Decimal.asciiDigit?_digit (hlt d hd)]
    rfl

end Published

namespace LockFile

lemma portOf_parses (bs : Bytes) :
    Published.Parses (fun n => Failure.notWhole (.tooLong n)) (Utf8.decode bs) (portOf bs) := by
  have hport : portOf bs = match (Published.ofBytes bs).map Published.port? with
      | .error (.tooLong n) => .error (.notWhole (.tooLong n))
      | .error .malformed => .ok none
      | .ok p => .ok p := by
    unfold portOf
    cases Published.ofBytes bs with
    | ok p => rfl
    | error x => cases x <;> rfl
  rw [hport, Published.ofBytes]
  by_cases h : ∃ ds, Published.Spells (Utf8.decode bs) ds
  · obtain ⟨ds, hds⟩ := h
    have hparses : Published.Parses (fun n => Failure.notWhole (.tooLong n)) _ _ := .of_spells hds
    rw [Published.ofText_of_spells hds]
    split_ifs at hparses ⊢
    · exact hparses
    · exact hparses
  · have hnone : ∀ ds, ¬ Published.Spells (Utf8.decode bs) ds := fun ds hds => h ⟨ds, hds⟩
    rw [Published.ofText_of_not_spells hnone]
    exact .of_not_spells hnone

/-- A reader fails on contents just when they are too many digits. -/
theorem portOf_eq_error_iff {bs : Bytes} {f : Failure} :
    portOf bs = .error f ↔ ∃ n, Published.IsOverlong bs n ∧ f = .notWhole (.tooLong n) := by
  rw [(portOf_parses bs).error]
  constructor
  · rintro ⟨ds, hds, hlimit, rfl⟩
    exact ⟨_, Published.isOverlong_iff.2 ⟨ds, hds, rfl, hlimit⟩, rfl⟩
  · rintro ⟨n, hn, rfl⟩
    obtain ⟨ds, hds, rfl, hlimit⟩ := Published.isOverlong_iff.1 hn
    exact ⟨ds, hds, hlimit, rfl⟩

end LockFile

end SharedVm
