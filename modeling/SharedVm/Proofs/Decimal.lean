import SharedVm.Port
import SharedVm.Proofs.Text.Blank
import SharedVm.Proofs.Text.Utf8
import Mathlib.Data.List.Basic

/-!
# Decimal digits and their values

A number is written as digits without leading zeros, and their value is the number, so it is read
again as it was written. What a reader of a lock file makes of such a text depends on the number
alone: it is a usable port just when a port in that range was written.
-/

namespace SharedVm.Decimal

def digit (d : Nat) : Symbol := .char (Nat.digitChar d)

lemma asciiDigit?_digit {d : Nat} (hd : d < 10) : (digit d).asciiDigit? = some d := by
  revert d
  decide

lemma isBlank_digit {d : Nat} (hd : d < 10) : (digit d).isBlank = false := by
  revert d
  decide

lemma value_append (ds : List Nat) (d : Nat) : value (ds ++ [d]) = value ds * 10 + d := by
  unfold value
  rw [List.foldl_append, List.foldl_cons, List.foldl_nil]

/-- The digits of a number: at least one, without leading zeros. -/
lemma ofNat_digits (n : Nat) :
    ∃ ds, ofNat n = ds.map digit ∧ (∀ d ∈ ds, d < 10) ∧ value ds = n ∧ ds ≠ [] ∧
      (ds.head? = some 0 → ds = [0]) := by
  induction n using Nat.strongRecOn with
  | ind n ih =>
    by_cases hn : n < 10
    · refine ⟨[n], ?_, fun d hd => List.mem_singleton.1 hd ▸ hn, ?_, List.cons_ne_nil _ _, ?_⟩
      · unfold ofNat
        rw [Nat.toDigits_of_lt_base hn]
        rfl
      · simp [value]
      · simp
    · obtain ⟨ds, hds, hlt, hv, hne, hz⟩ := ih (n / 10) (by omega)
      refine ⟨ds ++ [n % 10], ?_, ?_, ?_, by simp, ?_⟩
      · unfold ofNat at hds ⊢
        rw [Nat.toDigits_of_base_le (by decide) (by omega), List.map_append, hds, List.map_append]
        rfl
      · intro d hd
        rcases List.mem_append.1 hd with hd | hd
        · exact hlt d hd
        · rw [List.mem_singleton.1 hd]
          omega
      · rw [value_append, hv]
        omega
      · intro hh
        rw [List.head?_append_of_ne_nil _ hne] at hh
        rw [hz hh] at hv
        simp only [value, List.foldl_cons, List.foldl_nil] at hv
        omega

lemma length_ofNat_pos (n : Nat) : 0 < (ofNat n).length := by
  obtain ⟨ds, hds, -, -, hne, -⟩ := ofNat_digits n
  rw [hds, List.length_map]
  exact List.length_pos_of_ne_nil hne

lemma any_isLone_ofInt (n : Int) : (ofInt n).any Utf8.isLone = false := by
  have h : ∀ m : Nat, (ofNat m).any Utf8.isLone = false := by
    intro m
    unfold ofNat
    rw [List.any_map, List.any_eq_false]
    intro c _
    exact Bool.false_ne_true
  cases n with
  | ofNat m => exact h m
  | negSucc m => exact h (m + 1)

lemma mapM_asciiDigit?_ofNat (n : Nat) :
    ∃ ds, (ofNat n).mapM Symbol.asciiDigit? = some ds ∧ value ds = n ∧
      ds.length = (ofNat n).length := by
  obtain ⟨ds, hds, hlt, hv, -, -⟩ := ofNat_digits n
  refine ⟨ds, ?_, hv, by rw [hds, List.length_map]⟩
  rw [hds]
  clear hds hv
  induction ds with
  | nil => rfl
  | cons d rest ih =>
    rw [List.map_cons, List.mapM_cons, asciiDigit?_digit (hlt d List.mem_cons_self),
      ih fun x hx => hlt x (List.mem_cons_of_mem _ hx)]
    rfl

lemma ofNat_injective : Function.Injective ofNat := by
  intro n n' h
  obtain ⟨ds, hds, hv, -⟩ := mapM_asciiDigit?_ofNat n
  obtain ⟨ds', hds', hv', -⟩ := mapM_asciiDigit?_ofNat n'
  rw [h, hds'] at hds
  rw [← hv, ← hv', Option.some.inj hds]

lemma digit_ne_minus {d : Nat} (hd : d < 10) : digit d ≠ .char '-' := by
  revert d
  decide

/-- Whether a number is negative shows in the first symbol of its text. -/
lemma ofInt_injective : Function.Injective ofInt := by
  have hminus : ∀ n m, ofNat n ≠ .char '-' :: ofNat m := by
    intro n m h
    obtain ⟨ds, hds, hlt, -⟩ := ofNat_digits n
    have hmem : Symbol.char '-' ∈ ds.map digit := by
      rw [← hds, h]
      exact List.mem_cons_self
    obtain ⟨d, hd, he⟩ := List.mem_map.1 hmem
    exact digit_ne_minus (hlt d hd) he
  intro n n' h
  cases n with
  | ofNat n =>
    cases n' with
    | ofNat n' => exact congrArg Int.ofNat (ofNat_injective h)
    | negSucc n' => exact absurd h (hminus n (n' + 1))
  | negSucc n =>
    cases n' with
    | ofNat n' => exact absurd h.symm (hminus n' (n + 1))
    | negSucc n' =>
      exact congrArg Int.negSucc (Nat.succ.inj (ofNat_injective (List.cons.inj h).2))

/-- What holds of the digits and of the sign holds of each symbol in the text of a number. -/
lemma forall_mem_ofInt {P : Symbol → Prop} (hd : ∀ d < 10, P (digit d)) (hs : P (.char '-'))
    (n : Int) : ∀ s ∈ ofInt n, P s := by
  have hn : ∀ m : Nat, ∀ s ∈ ofNat m, P s := by
    intro m s hm
    obtain ⟨ds, hds, hlt, -⟩ := ofNat_digits m
    rw [hds] at hm
    obtain ⟨d, hmem, rfl⟩ := List.mem_map.1 hm
    exact hd d (hlt d hmem)
  cases n with
  | ofNat m => exact hn m
  | negSucc m => exact List.forall_mem_cons.2 ⟨hs, hn (m + 1)⟩

lemma isBlank_of_mem_ofInt {n : Int} {s : Symbol} (h : s ∈ ofInt n) : s.isBlank = false :=
  forall_mem_ofInt (P := (·.isBlank = false)) (fun _ => isBlank_digit) (by decide) n s h

lemma write?_eq_some_iff (n : Int) :
    write? n = some (ofInt n) ↔ (ofNat n.natAbs).length ≤ limit := by
  unfold write?
  split <;> simp_all

lemma length_ofNat_le_iff {n k : Nat} (hk : 0 < k) : (ofNat n).length ≤ k ↔ n < Nat.pow 10 k := by
  rw [ofNat, List.length_map]
  exact Nat.length_toDigits_le_iff (by decide) hk

lemma write?_eq_none {n : Nat} (hn : Nat.pow 10 limit ≤ n) : write? n = none := by
  refine if_neg fun hle => ?_
  rw [Int.natAbs_natCast, length_ofNat_le_iff (by decide)] at hle
  exact Nat.not_lt.2 hn hle

/-! ### Reading what has been written -/

lemma digit?_digit {d : Nat} (hd : d < 10) : (digit d).digit? = some d := by
  revert d
  decide

lemma digitRun_map_digit {ds : List Nat} (h : ∀ d ∈ ds, d < 10) :
    digitRun (ds.map digit) = (ds, []) := by
  induction ds with
  | nil => rfl
  | cons d rest ih =>
    have hd := digit?_digit (h d List.mem_cons_self)
    have hrest := ih fun x hx => h x (List.mem_cons_of_mem d hx)
    cases rest with
    | nil => simp [digitRun, hd]
    | cons e rest =>
      have he : ∀ e < 10, digit e ≠ .char '_' := by decide
      have hne : digit e ≠ .char '_' := he e (h e (by simp))
      rw [List.map_cons] at hrest
      simp [digitRun, hd, hne, hrest]

lemma sign_map_digit {ds : List Nat} (h : ∀ d ∈ ds, d < 10) :
    sign (ds.map digit) = (false, ds.map digit) := by
  cases ds with
  | nil => rfl
  | cons d rest =>
    have hmarks : ∀ d < 10, digit d ≠ .char '-' ∧ digit d ≠ .char '+' := by decide
    obtain ⟨hminus, hplus⟩ := hmarks d (h d List.mem_cons_self)
    simp [sign, hminus, hplus]

lemma trim_isSpacing_eq_self {t : Text} (h : ∀ s ∈ t, s.isBlank = false) :
    t.trim Symbol.isSpacing = t := by
  apply Text.trim_eq_self
  intro s hs
  rw [Symbol.isSpacing, h s hs, Bool.false_and]

lemma read_eq_ok_iff {t : Text} {n : Int} : read t = .ok n ↔
    ∃ ds, digitRun (sign (t.trim Symbol.isSpacing)).2 = (ds, []) ∧ ds ≠ [] ∧ ds.length ≤ limit ∧
      n = if (sign (t.trim Symbol.isSpacing)).1 then -(value ds : Int) else value ds := by
  unfold read
  rcases sign (t.trim Symbol.isSpacing) with ⟨negative, body⟩
  dsimp only
  rcases digitRun body with ⟨ds, rest⟩
  simp only [Prod.mk.injEq]
  constructor
  · intro h
    by_cases hmalformed : (ds.isEmpty || decide (rest.head? = some (.char '_'))) = true
    · simp [hmalformed] at h
    · by_cases hlong : ds.length > limit
      · simp [hmalformed, hlong] at h
      · by_cases hrest : (!rest.isEmpty) = true
        · simp [hmalformed, hlong, hrest] at h
        · rw [if_neg hmalformed, if_neg hlong, if_neg hrest] at h
          simp only [Bool.or_eq_true, not_or, List.isEmpty_iff] at hmalformed
          refine ⟨ds, ⟨rfl, ?_⟩, hmalformed.1, Nat.not_lt.1 hlong, (Except.ok.inj h).symm⟩
          simpa using hrest
  · rintro ⟨ds, ⟨rfl, rfl⟩, hne, hlen, rfl⟩
    simp [hne, Nat.not_lt.2 hlen]

lemma read_of_sign {t : Text} {ds : List Nat} {negative : Bool} (ht : ∀ s ∈ t, s.isBlank = false)
    (hs : sign t = (negative, ds.map digit)) (hlt : ∀ d ∈ ds, d < 10) (hne : ds ≠ [])
    (hlen : ds.length ≤ limit) :
    read t = .ok (if negative then -(value ds : Int) else value ds) := by
  apply read_eq_ok_iff.2
  rw [trim_isSpacing_eq_self ht, hs]
  exact ⟨ds, digitRun_map_digit hlt, hne, hlen, rfl⟩

/-- A number that is written out is read as that number. -/
theorem read_ofInt {n : Int} (hn : (ofNat n.natAbs).length ≤ limit) : read (ofInt n) = .ok n := by
  have hblank : ∀ s ∈ ofInt n, s.isBlank = false := fun _ => isBlank_of_mem_ofInt
  obtain ⟨ds, hds, hlt, hval, hne, -⟩ := ofNat_digits n.natAbs
  rw [hds, List.length_map] at hn
  cases n with
  | ofNat m =>
    have hs : sign (ofInt (.ofNat m)) = (false, ds.map digit) := by
      rw [show ofInt (.ofNat m) = ofNat m from rfl, show ofNat m = ds.map digit from hds]
      exact sign_map_digit hlt
    rw [read_of_sign hblank hs hlt hne hn, hval]
    rfl
  | negSucc m =>
    have hs : sign (ofInt (.negSucc m)) = (true, ds.map digit) := congrArg (true, ·) hds
    rw [read_of_sign hblank hs hlt hne hn, hval]
    rfl

end SharedVm.Decimal

namespace SharedVm

open Decimal

/-- The usable port of a leader that has published a number. -/
def Port.usable? (n : Int) : Option Nat := if Port.isPublishable n then some n.toNat else none

lemma Port.exists_usable? {n : Int} (h : isPublishable n = true) :
    ∃ m : Nat, n = m ∧ usable? n = some m := by
  refine ⟨n.toNat, ?_, if_pos h⟩
  simp only [isPublishable, Bool.and_eq_true, decide_eq_true_eq] at h
  omega

lemma Port.usable?_ofNat (m : Nat) :
    usable? (.ofNat m) = if minPublished ≤ m ∧ m ≤ last then some m else none := by
  simp [usable?, isPublishable]

lemma Port.usable?_negSucc (m : Nat) : usable? (.negSucc m) = none := by
  have h : isPublishable (.negSucc m) = false := by
    rw [isPublishable, Bool.and_eq_false_iff, decide_eq_false_iff_not]
    omega
  rw [usable?, h, if_neg Bool.false_ne_true]

lemma Port.write?_of_isPublishable {n : Int} (h : isPublishable n = true) :
    write? n = some (ofInt n) := by
  have hlt : n.natAbs < 10 ^ 5 := by
    obtain ⟨hl, hh⟩ := Bool.and_eq_true_iff.1 h
    have hl : ((1025 : Nat) : Int) ≤ n := of_decide_eq_true hl
    have hh : n ≤ ((65535 : Nat) : Int) := of_decide_eq_true hh
    omega
  rw [write?_eq_some_iff]
  exact Nat.le_trans ((length_ofNat_le_iff (by decide)).2 hlt) (by decide)

/-- A publishable port that is written into the variable of a running server is announced by it. -/
lemma Port.announced?_ofInt {n : Int} (h : isPublishable n = true) :
    announced? (ofInt n) = some n.toNat := by
  have hstrip : (ofInt n).strip = ofInt n := Text.trim_eq_self fun _ => isBlank_of_mem_ofInt
  have hread : read (ofInt n) = .ok n :=
    read_ofInt ((write?_eq_some_iff n).1 (write?_of_isPublishable h))
  obtain ⟨m, rfl, -⟩ := exists_usable? h
  have hle : m ≤ last := by
    simp only [isPublishable, Bool.and_eq_true, decide_eq_true_eq] at h
    omega
  unfold announced?
  rw [hstrip, hread]
  exact if_pos hle

/-- What a lock file says into which a number has been written. -/
theorem Published.ofBytes_encode_ofInt (n : Int) (hn : (ofNat n.natAbs).length ≤ limit) :
    ∃ p, Published.ofBytes (Utf8.encode (ofInt n)) = .ok p ∧ p.port? = Port.usable? n := by
  have hstrip : (ofInt n).strip = ofInt n := Text.trim_eq_self fun _ => isBlank_of_mem_ofInt
  have hdecode : Utf8.decode (Utf8.encode (ofInt n)) = ofInt n := by
    rw [Utf8.decode_encode, Utf8.lossy_eq_self (any_isLone_ofInt n)]
  unfold Published.ofBytes Published.ofText
  rw [hdecode]
  dsimp only
  rw [hstrip]
  cases n with
  | ofNat m =>
    obtain ⟨ds, hds, hv, hlen⟩ := mapM_asciiDigit?_ofNat m
    have hne : (ofNat m).isEmpty = false := by
      rw [List.isEmpty_eq_false_iff]
      exact List.ne_nil_of_length_pos (length_ofNat_pos m)
    have hlim : ¬ ds.length > limit := by
      rw [hlen]
      exact Nat.not_lt.2 hn
    rw [show ofInt (.ofNat m) = ofNat m from rfl, hne, if_neg Bool.false_ne_true, hds]
    dsimp only
    rw [if_neg hlim, hv, Port.usable?_ofNat]
    split
    · exact ⟨_, rfl, (if_neg (by omega)).symm⟩
    · split
      · exact ⟨_, rfl, (if_neg (by omega)).symm⟩
      · exact ⟨_, rfl, (if_pos (by omega)).symm⟩
  | negSucc m =>
    have hm : ((.char '-' : Symbol) :: ofNat (m + 1)).mapM Symbol.asciiDigit? = none := by
      rw [List.mapM_cons]
      rfl
    rw [show ofInt (.negSucc m) = .char '-' :: ofNat (m + 1) from rfl, hm, Port.usable?_negSucc]
    exact ⟨_, rfl, rfl⟩

end SharedVm
