import SharedVm.Proofs.Environ
import SharedVm.Proofs.Publishing

/-!
# The readers of ports agree

A port is read from the contents of a lock file, from the variable that announces a running server
and from the command line, by rules that differ in the blanks, the digits, the signs and the ranges
they take. A text that two of them take for a usable port is the same port to both.
-/

namespace SharedVm

/-! ### Numbers between blanks -/

/-- No run of digits meets the blanks. -/
lemma Symbol.isBlank_of_digit? {s : Symbol} (h : s.digit?.isSome = true) : s.isBlank = false := by
  have hruns : ∀ run ∈ digitRuns, 0x20 < run.1 ∧ run.1 + run.2 ≤ 0x85 ∨
      0xA0 < run.1 ∧ run.1 + run.2 ≤ 0x1680 ∨ 0x1680 < run.1 ∧ run.1 + run.2 ≤ 0x2000 ∨
      0x3000 < run.1 := by decide
  rw [digit?, Option.isSome_map, List.find?_isSome] at h
  obtain ⟨run, hmem, hrun⟩ := h
  simp only [Bool.and_eq_true, decide_eq_true_eq] at hrun
  have hapart := hruns run hmem
  unfold isBlank
  simp only [Bool.or_eq_false_iff, Bool.and_eq_false_iff, decide_eq_false_iff_not]
  omega

namespace Decimal

variable {t : Text} {n : Int} {p : Nat}

/-- Digits and the underscores between them are not blank. -/
lemma isBlank_of_digitRun (h : (digitRun t).2 = []) : ∀ s ∈ t, s.isBlank = false := by
  have hdigit : ∀ {s : Symbol} {d : Nat}, s.digit? = some d → s.isBlank = false := fun hs =>
    Symbol.isBlank_of_digit? (Option.isSome_iff_exists.2 ⟨_, hs⟩)
  fun_induction digitRun t with
  | case1 => simp
  | case2 s d hs => simp [hdigit hs]
  | case3 s hs => cases h
  | case4 s u rest d hs tail ih1 ih2 =>
    change tail.2 = [] at h
    refine List.forall_mem_cons.2 ⟨hdigit hs, ?_⟩
    by_cases hu : (decide (u = .char '_') && (rest.head?.bind Symbol.digit?).isSome) = true
    · rw [show tail = digitRun rest from if_pos hu] at h
      obtain rfl : u = .char '_' := by simp_all
      exact List.forall_mem_cons.2 ⟨by decide, ih1 h⟩
    · rw [show tail = digitRun (u :: rest) from if_neg hu] at h
      exact ih2 h
  | case5 s u rest hs => cases h

lemma isBlank_of_sign (h : (digitRun (sign t).2).2 = []) : ∀ s ∈ t, s.isBlank = false := by
  unfold sign at h
  split at h
  · exact List.forall_mem_cons.2 ⟨by decide, isBlank_of_digitRun h⟩
  · exact List.forall_mem_cons.2 ⟨by decide, isBlank_of_digitRun h⟩
  · exact isBlank_of_digitRun h

/-- What surrounds a number that is read is spacing, so that it is also read where the blanks around
it have been taken off. -/
lemma read_strip (h : read t = .ok n) : read t.strip = .ok n := by
  obtain ⟨front, back, ht, hfront, hback⟩ := Text.exists_trim Symbol.isSpacing t
  obtain ⟨ds, hrun, hnumber⟩ := read_eq_ok_iff.1 h
  have hbody : ∀ s ∈ t.trim Symbol.isSpacing, s.isBlank = false :=
    isBlank_of_sign (congrArg Prod.snd hrun)
  have hspacing : ∀ {s : Symbol}, s.isSpacing = true → s.isBlank = true := fun hs =>
    (Bool.and_eq_true_iff.1 hs).1
  have hstrip : t.strip = t.trim Symbol.isSpacing := by
    conv_lhs => rw [ht]
    apply Text.trim_append _ _ hbody
    · exact fun s hs => hspacing (hfront s hs)
    · exact fun s hs => hspacing (hback s hs)
  apply read_eq_ok_iff.2
  rw [hstrip, trim_isSpacing_eq_self hbody]
  exact ⟨ds, hrun, hnumber⟩

end Decimal

/-! ### What a text says to each reader -/

/-- What three readers make of a text: as the variable that announces a server, as the contents of a
lock file, and on the command line. -/
structure Port.Agree (t : Text) (announced : Except Failure (Option Nat))
    (said : Except NumberError (Option Nat)) (given : Except PortError Nat) : Prop where
  answers : (∃ p, announced = .ok (some p) ∧ p ≤ 65535) ∨
    announced = .error (.misconfigured (.serverPortInvalid (.text t)))
  published : ∀ p, said = .ok (some p) → announced = .ok (some p)
  chosen : ∀ p, given = .ok p → announced = .ok (some p) ∧ 1025 ≤ p ∧ p ≤ 65535
  refused : ∀ p, announced = .ok (some p) → 1025 ≤ p → given = .ok p ∨ given = .error (.invalid t)
  digits : (∀ s ∈ t.strip, s.asciiDigit?.isSome = true) → t.strip.length ≤ 4300 →
    ∀ p, said = .ok (some p) ↔ announced = .ok (some p) ∧ 1025 ≤ p

namespace Port

variable {t : Text} {p : Nat}

lemma announced?_eq_some_iff :
    announced? t = some p ↔ Decimal.read t.strip = .ok (p : Int) ∧ p ≤ 65535 := by
  unfold announced?
  split
  · rename_i m hm
    rw [hm, Option.ite_none_right_eq_some, Option.some.injEq, Except.ok.injEq, Int.ofNat_eq_natCast,
      Int.natCast_inj]
    constructor
    · rintro ⟨hle, rfl⟩
      exact ⟨rfl, hle⟩
    · rintro ⟨rfl, hle⟩
      exact ⟨hle, rfl⟩
  · rename_i hm
    exact iff_of_false (by rintro ⟨⟩) fun h => hm p h.1

lemma chosen_eq_ok_iff :
    chosen t = .ok p ↔ Decimal.read t = .ok (p : Int) ∧ 1025 ≤ p ∧ p ≤ 65535 := by
  unfold chosen
  cases Decimal.read t with
  | error x => simp
  | ok n =>
    dsimp only
    rw [Except.ok.injEq]
    by_cases hn : isPublishable n = true
    · rw [if_pos hn, Except.ok.injEq]
      have hrange := isPublishable_iff.1 hn
      omega
    · rw [if_neg hn]
      refine iff_of_false (by rintro ⟨⟩) fun h => hn (isPublishable_iff.2 ?_)
      omega

lemma chosen_of_error {x : NumberError} (h : Decimal.read t = .error x) :
    chosen t = .error (.invalid t) := by
  rw [chosen, h]

end Port

namespace Published

variable {t : Text} {ds : List Nat} {p : Nat}

lemma Spells.read (h : Spells t ds) (hlen : ds.length ≤ 4300) :
    Decimal.read t.strip = .ok (Nat.ofDigits 10 ds.reverse : Nat) := by
  obtain ⟨hm, hne⟩ := spells_iff.1 h
  obtain ⟨hstrip, hlt⟩ := Decimal.mapM_asciiDigit?_iff.1 hm
  have hblank : ∀ s ∈ ds.map Decimal.digit, s.isBlank = false := by
    intro s hs
    obtain ⟨d, hd, rfl⟩ := List.mem_map.1 hs
    exact Decimal.isBlank_digit (hlt d hd)
  rw [hstrip, Decimal.read_of_sign hblank (Decimal.sign_map_digit hlt) hlt hne hlen,
    Decimal.value_eq_ofDigits]
  rfl

/-- What is a port as the contents of a lock file is a number. -/
lemma read_of_port (h : (ofText t).map port? = .ok (some p)) :
    Decimal.read t.strip = .ok (p : Int) ∧ 1025 ≤ p ∧ p ≤ 65535 := by
  obtain ⟨ds, hds, hlen, rfl, hrange⟩ := ((ofText_parses t).port p).1 h
  exact ⟨hds.read hlen, hrange⟩

/-- A usable number is a port as the contents of a lock file, if it is digits and nothing else. -/
lemma port_of_read (hdigits : ∀ s ∈ t.strip, s.asciiDigit?.isSome = true)
    (hlen : t.strip.length ≤ 4300) (hread : Decimal.read t.strip = .ok (p : Int))
    (hrange : 1025 ≤ p ∧ p ≤ 65535) : (ofText t).map port? = .ok (some p) := by
  obtain ⟨ds, hm, hlength⟩ := Decimal.exists_digits_iff.2 ⟨hdigits, rfl⟩
  rw [← hlength] at hlen
  have hne : ds ≠ [] := by
    rintro rfl
    rw [List.length_eq_zero_iff.1 hlength.symm] at hread
    cases hread
  have hspells : Spells t ds := spells_iff.2 ⟨hm, hne⟩
  have hvalue := (hspells.read hlen).symm.trans hread
  rw [Except.ok.injEq, Int.natCast_inj] at hvalue
  exact ((ofText_parses t).port p).2 ⟨ds, hspells, hlen, hvalue, hrange⟩

end Published

namespace Port

lemma agree {t : Text} {announced : Except Failure (Option Nat)}
    (h : announced = match announced? t with
      | some p => .ok (some p)
      | none => .error (.misconfigured (.serverPortInvalid (.text t)))) :
    Agree t announced ((Published.ofText t).map Published.port?) (chosen t) := by
  have hannounced : ∀ p : Nat, announced = .ok (some p) ↔
      Decimal.read t.strip = .ok (p : Int) ∧ p ≤ 65535 := by
    intro p
    rw [h, ← announced?_eq_some_iff]
    cases announced? t <;> simp
  have hsaid : ∀ p, (Published.ofText t).map Published.port? = .ok (some p) →
      announced = .ok (some p) ∧ 1025 ≤ p := by
    intro p hp
    obtain ⟨hread, hleast, hlast⟩ := Published.read_of_port hp
    exact ⟨(hannounced p).2 ⟨hread, hlast⟩, hleast⟩
  refine ⟨?_, fun p hp => (hsaid p hp).1, fun p hp => ?_, fun p hp hleast => ?_,
    fun hdigits hlen p => ⟨hsaid p, fun ⟨hp, hleast⟩ => ?_⟩⟩
  · cases ha : announced? t with
    | none => exact .inr (by rw [h, ha])
    | some p => exact .inl ⟨p, by rw [h, ha], (announced?_eq_some_iff.1 ha).2⟩
  · obtain ⟨hread, hrange⟩ := chosen_eq_ok_iff.1 hp
    exact ⟨(hannounced p).2 ⟨Decimal.read_strip hread, hrange.2⟩, hrange⟩
  · -- The command line takes no number but the one that is left without the blanks.
    obtain ⟨hread, hlast⟩ := (hannounced p).1 hp
    cases ht : Decimal.read t with
    | error x => exact .inr (chosen_of_error ht)
    | ok n =>
      obtain rfl : n = p := Except.ok.inj ((Decimal.read_strip ht).symm.trans hread)
      exact .inl (chosen_eq_ok_iff.2 ⟨ht, hleast, hlast⟩)
  · obtain ⟨hread, hlast⟩ := (hannounced p).1 hp
    exact Published.port_of_read hdigits hlen hread ⟨hleast, hlast⟩

/-- A text that the variable of a running server is set to announces a TCP port or is refused. Where
it is taken for a port in a lock file or on the command line, it announces that port. The command
line takes a usable port that it announces for that port or for no number. A text of no more digits
than a number may have, between blanks, is taken in a lock file for the port that it announces, unless
that is too low. -/
theorem readers_agree (env : Environ) (t : Text) :
    Agree t (Environ.serverPort (env.set Environ.serverPortVar (.text t)))
      ((Published.ofText t).map Published.port?) (chosen t) := by
  apply agree
  apply Environ.serverPort_of_get?
  rw [Bindings.get?_set, if_pos rfl]

/-- Information separators are blanks around a port everywhere but on the command line. -/
example : announced? "\x1c4444" = some 4444 ∧ chosen "\x1c4444" = .error (.invalid "\x1c4444") := by
  decide

/-- Digits of another script are no port in a lock file. -/
example : announced? "\u0664\u0664\u0664\u0664" = some 4444 ∧
    (Published.ofText "\u0664\u0664\u0664\u0664").map Published.port? = .ok none := ⟨rfl, rfl⟩

end Port

end SharedVm
