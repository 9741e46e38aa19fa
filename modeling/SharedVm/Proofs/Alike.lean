import SharedVm.Proofs.Act

/-!
# Two runs side by side

Two operations are alike under a relation between worlds if, started in related worlds, they come to
the same and leave related worlds. What is made up of parts that are alike is alike itself.
-/

namespace SharedVm.Act

variable {α β : Type} {R : World → World → Prop}

/-- From these two worlds the operations come to the same, and the worlds after them are related. -/
structure AlikeAt (R : World → World → Prop) (a b : Act α) (w v : World) : Prop where
  result : (a.run w).1 = (b.run v).1
  world : R (a.run w).2 (b.run v).2

/-- Started in related worlds, the operations come to the same and leave related worlds. -/
def Alike (R : World → World → Prop) (a b : Act α) : Prop := ∀ w v, R w v → AlikeAt R a b w v

namespace AlikeAt

variable {a b : Act α} {f g : α → Act β} {w v : World}

lemma of_run {r : Except Failure α} {w' v' : World} (ha : a.run w = (r, w')) (hb : b.run v = (r, v'))
    (h : R w' v') : AlikeAt R a b w v where
  result := by rw [ha, hb]
  world := by
    rw [ha, hb]
    exact h

lemma congr_run {a' b' : Act α} {w' v' : World} (ha : a.run w = a'.run w')
    (hb : b.run v = b'.run v') (h : AlikeAt R a' b' w' v') : AlikeAt R a b w v where
  result := by
    rw [ha, hb]
    exact h.result
  world := by
    rw [ha, hb]
    exact h.world

lemma bind (h : AlikeAt R a b w v) (hf : ∀ x, Alike R (f x) (g x)) :
    AlikeAt R (a >>= f) (b >>= g) w v := by
  obtain ⟨hr, hw⟩ := h
  rcases ha : a.run w with ⟨e | x, w'⟩ <;> rcases hb : b.run v with ⟨e' | y, v'⟩ <;>
    rw [ha, hb] at hr hw
  · cases hr
    exact .of_run (run_bind_of_error ha f) (run_bind_of_error hb g) hw
  · cases hr
  · cases hr
  · cases hr
    exact .congr_run (run_bind_of_ok ha f) (run_bind_of_ok hb g) (hf x w' v' hw)

lemma tryCatch {f g : Failure → Act α} (h : AlikeAt R a b w v) (hf : ∀ e, Alike R (f e) (g e)) :
    AlikeAt R (MonadExcept.tryCatch a f) (MonadExcept.tryCatch b g) w v := by
  obtain ⟨hr, hw⟩ := h
  rcases ha : a.run w with ⟨e | x, w'⟩ <;> rcases hb : b.run v with ⟨e' | y, v'⟩ <;>
    rw [ha, hb] at hr hw
  · cases hr
    exact .congr_run (run_tryCatch_of_error ha f) (run_tryCatch_of_error hb g) (hf e w' v' hw)
  · cases hr
  · cases hr
  · cases hr
    exact .of_run (run_tryCatch_of_ok ha f) (run_tryCatch_of_ok hb g) hw

lemma map (f : α → β) (h : AlikeAt R a b w v) : AlikeAt R (f <$> a) (f <$> b) w v where
  result := by
    rw [run_map, run_map, h.result]
  world := by
    rw [run_map, run_map]
    exact h.world

end AlikeAt

namespace Alike

variable {a b : Act α} {f g : α → Act β}

lemma pure (x : α) : Alike R (Pure.pure x : Act α) (Pure.pure x) :=
  fun _ _ h => ⟨rfl, h⟩

lemma throw (e : Failure) : Alike R (MonadExcept.throw e : Act α) (MonadExcept.throw e) :=
  fun _ _ h => ⟨rfl, h⟩

lemma misconfigured (m : Misconfiguration) :
    Alike R (Act.misconfigured m : Act α) (Act.misconfigured m) := throw _

lemma ofExcept (r : Except Failure α) : Alike R (Act.ofExcept r) (Act.ofExcept r) :=
  fun w v h => .of_run (run_ofExcept r w) (run_ofExcept r v) h

lemma bind (h : Alike R a b) (hf : ∀ x, Alike R (f x) (g x)) : Alike R (a >>= f) (b >>= g) :=
  fun w v hw => (h w v hw).bind hf

/-- The operations look at the worlds first, and may see something different. -/
lemma bind_look {look : Act α} {seen : World → α} (hl : ∀ w, look.run w = (.ok (seen w), w))
    (hf : ∀ w v, R w v → AlikeAt R (f (seen w)) (g (seen v)) w v) :
    Alike R (look >>= f) (look >>= g) :=
  fun w v h => .congr_run (run_bind_of_ok (hl w) f) (run_bind_of_ok (hl v) g) (hf w v h)

lemma tryCatch {f g : Failure → Act α} (h : Alike R a b) (hf : ∀ e, Alike R (f e) (g e)) :
    Alike R (MonadExcept.tryCatch a f) (MonadExcept.tryCatch b g) :=
  fun w v hw => (h w v hw).tryCatch hf

lemma map (f : α → β) (h : Alike R a b) : Alike R (f <$> a) (f <$> b) :=
  fun w v hw => (h w v hw).map f

lemma orReport {f g : Report → Act α} (h : Alike R a b) (hf : ∀ r, Alike R (f r) (g r)) :
    Alike R (Act.orReport a f) (Act.orReport b g) := by
  refine tryCatch h fun e => ?_
  split
  · split
    · exact hf _
    · exact throw _
  · exact throw _

lemma ensuring {c d : Act Unit} (h : Alike R a b) (hc : Alike R c d) :
    Alike R (Act.ensuring a c) (Act.ensuring b d) := by
  refine bind (tryCatch (map _ h) fun _ => pure _) fun r => bind hc fun _ => ofExcept r

lemma guard {c : Prop} [Decidable c] {a b : Act Unit} {f g : Unit → Act α} (h : Alike R a b)
    (hf : ∀ x, Alike R (f x) (g x)) :
    Alike R (if c then a >>= f else f ()) (if c then b >>= g else g ()) := by
  split
  · exact bind h hf
  · exact hf ()

lemma checkPath (t : Text) : Alike R (Act.checkPath t) (Act.checkPath t) := by
  unfold Act.checkPath
  split
  · exact throw _
  · exact pure _

lemma absent (r : Report) : Alike R (Act.absent r) (Act.absent r) := by
  unfold Act.absent
  split
  · exact pure _
  · exact throw _

end Alike

end SharedVm.Act
