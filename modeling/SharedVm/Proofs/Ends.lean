import SharedVm.Proofs.Act

/-!
# How operations end

What is known of the world and the result once an operation is over, and of the world and the
failure if it failed. An operation that is made up of others ends as the last of them that is
reached.
-/

namespace SharedVm.Act

variable {α β : Type} {I I' : World → Prop} {J J' : α → World → Prop} {K K' : Failure → World → Prop}
  {P Q : Failure → Prop}

/-- Started in a world with `I`, the operation ends with a result as `J` says or a failure as `K`
says. -/
def Ends (I : World → Prop) (J : α → World → Prop) (K : Failure → World → Prop) (a : Act α) : Prop :=
  ∀ w, I w → match a.run w with
    | (.ok x, v) => J x v
    | (.error f, v) => K f v

/-- Whether it fails or not, the operation keeps `I`, and it fails only as `P` says. -/
def Only (I : World → Prop) (P : Failure → Prop) (a : Act α) : Prop :=
  Ends I (fun _ => I) (fun f v => I v ∧ P f) a

namespace Ends

lemma pure {x : α} (h : ∀ w, I w → J x w) : Ends I J K (Pure.pure x : Act α) := h

lemma throw {f : Failure} (h : ∀ w, I w → K f w) : Ends I J K (MonadExcept.throw f : Act α) := h

lemma mono {a : Act α} (h : Ends I J K a) (hI : ∀ w, I' w → I w) (hJ : ∀ x w, J x w → J' x w)
    (hK : ∀ f w, K f w → K' f w) : Ends I' J' K' a := by
  intro w hw
  have hends := h w (hI w hw)
  rcases hr : a.run w with ⟨f | x, v⟩ <;> rw [hr] at hends
  · exact hK f v hends
  · exact hJ x v hends

lemma bind {M : α → World → Prop} {J : β → World → Prop} {a : Act α} {f : α → Act β}
    (h : Ends I M K a) (hf : ∀ x, Ends (M x) J K (f x)) : Ends I J K (a >>= f) := by
  intro w hw
  have hends := h w hw
  rw [run_bind]
  rcases hr : a.run w with ⟨e | x, v⟩ <;> rw [hr] at hends
  · exact hends
  · exact hf x v hends

lemma tryCatch {M : Failure → World → Prop} {a : Act α} {f : Failure → Act α} (h : Ends I J M a)
    (hf : ∀ e, Ends (M e) J K (f e)) : Ends I J K (MonadExcept.tryCatch a f) := by
  intro w hw
  have hends := h w hw
  have hcaught : (MonadExcept.tryCatch a f).run w = _ := run_tryCatch a f w
  rw [hcaught]
  rcases hr : a.run w with ⟨e | x, v⟩ <;> rw [hr] at hends
  · exact hf e v hends
  · exact hends

/-- What is known beside the world may be assumed. -/
lemma assume {c : Prop} {a : Act α} (h : c → Ends I J K a) : Ends (fun w => I w ∧ c) J K a :=
  fun w hw => h hw.2 w hw.1

/-- The operation looks at the world first. -/
lemma bind_look {J : β → World → Prop} {look : Act α} {seen : World → α} {f : α → Act β}
    (hl : ∀ w, look.run w = (.ok (seen w), w)) (hf : ∀ w, I w → Ends I J K (f (seen w))) :
    Ends I J K (look >>= f) := by
  intro w hw
  rw [run_bind_of_ok (hl w)]
  exact hf w hw w hw

lemma ofExcept {r : Except Failure α} (hok : ∀ x, r = .ok x → ∀ w, I w → J x w)
    (herror : ∀ f, r = .error f → ∀ w, I w → K f w) : Ends I J K (Act.ofExcept r) := by
  cases r with
  | ok x => exact pure (hok x rfl)
  | error f => exact throw (herror f rfl)

end Ends

end SharedVm.Act

namespace SharedVm

/-- The operating system reports the failure. -/
def Failure.IsSystem (f : Failure) : Prop := ∃ r, f = .report r ∧ r.isSystem = true

namespace Act

variable {α β : Type} {I : World → Prop} {J : α → World → Prop} {K : Failure → World → Prop}
  {P Q : Failure → Prop}

lemma Ends.ensuring {M I' : World → Prop} {a : Act α} {c : Act Unit}
    (h : Ends I (fun _ => M) (fun f v => M v ∧ P f) a)
    (hc : Ends M (fun _ => I') (fun f v => I' v ∧ P f) c) :
    Ends I (fun _ => I') (fun f v => I' v ∧ P f) (Act.ensuring a c) := by
  intro w hw
  have hends := h w hw
  rw [run_ensuring]
  rcases hr : a.run w with ⟨f | x, v⟩ <;> rw [hr] at hends
  · have hcleaned := hc v hends.1
    dsimp only
    rcases hc' : c.run v with ⟨g | y, u⟩ <;> rw [hc'] at hcleaned
    · exact hcleaned
    · exact ⟨hcleaned, hends.2⟩
  · have hcleaned := hc v hends
    dsimp only
    rcases hc' : c.run v with ⟨g | y, u⟩ <;> rw [hc'] at hcleaned
    · exact hcleaned
    · exact hcleaned

/-- What the operating system reports is turned into another failure. -/
lemma Ends.orReport {M : World → Prop} {a : Act α} {f : Report → Act α}
    (h : Ends I J (fun e v => M v ∧ e.IsSystem) a) (hf : ∀ r, Ends M J K (f r)) :
    Ends I J K (Act.orReport a f) := by
  refine tryCatch h fun e w hw => ?_
  obtain ⟨hM, r, rfl, hr⟩ := hw
  dsimp only
  rw [if_pos hr]
  exact hf r w hM

namespace Only

lemma pure (x : α) : Only I P (Pure.pure x : Act α) := Ends.pure fun _ h => h

lemma throw {f : Failure} (hf : P f) : Only I P (MonadExcept.throw f : Act α) :=
  Ends.throw fun _ h => ⟨h, hf⟩

lemma mono {a : Act α} (h : Only I P a) (hP : ∀ f, P f → Q f) : Only I Q a :=
  Ends.mono h (fun _ => id) (fun _ _ => id) fun f _ hf => ⟨hf.1, hP f hf.2⟩

lemma bind {a : Act α} {f : α → Act β} (h : Only I P a) (hf : ∀ x, Only I P (f x)) :
    Only I P (a >>= f) := Ends.bind h hf

lemma map (g : α → β) {a : Act α} (h : Only I P a) : Only I P (g <$> a) := by
  rw [map_eq_pure_bind]
  exact bind h fun _ => pure _

lemma tryCatch {a : Act α} {f : Failure → Act α} (h : Only I Q a)
    (hf : ∀ e, Q e → Only I P (f e)) : Only I P (MonadExcept.tryCatch a f) :=
  Ends.tryCatch h fun e w hw => hf e hw.2 w hw.1

lemma orReport {a : Act α} {f : Report → Act α} (h : Only I Failure.IsSystem a)
    (hf : ∀ r, Only I P (f r)) : Only I P (Act.orReport a f) := Ends.orReport h hf

lemma ofExcept {r : Except Failure α} (h : ∀ f, r = .error f → P f) : Only I P (Act.ofExcept r) :=
  Ends.ofExcept (fun _ _ _ hw => hw) fun f hf _ hw => ⟨hw, h f hf⟩

lemma guard {c : Prop} [Decidable c] {a : Act Unit} {f : Unit → Act α} (h : Only I P a)
    (hf : ∀ x, Only I P (f x)) : Only I P (if c then a >>= f else f ()) := by
  split
  · exact bind h hf
  · exact hf ()

/-- An operation that stays within a relation keeps what the relation keeps. -/
lemma of_within {R : World → World → Prop} {a : Act α} (ha : Within R a)
    (hI : ∀ w v, I w → R w v → I v) (hP : ∀ w f, I w → (a.run w).1 = .error f → P f) :
    Only I P a := by
  intro w hw
  have hkeeps := hI w _ hw (ha w)
  have hfails := hP w
  rcases hr : a.run w with ⟨f | x, v⟩ <;> rw [hr] at hkeeps hfails
  · exact ⟨hkeeps, hfails f hw rfl⟩
  · exact hkeeps

end Only

end Act

end SharedVm
