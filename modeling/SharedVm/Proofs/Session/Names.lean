import SharedVm.Proofs.Session.Run

/-!
# What names stand for

A session gives a name to the handle of a candidate that is elected, and to no other. So a name
stands for a handle that has been opened, and no name stands for the handle of a leader that was
elected without one, such as the leader of a run of the command line.
-/

namespace SharedVm.Session

open Act

/-- Names stand for handles that have been opened. -/
def State.Knows (s : State) : Prop :=
  ∀ name h, s.handles.get? name = some h → h < s.world.disk.handles.length

lemma knows_initial (env : Environ) : (initial env).Knows := fun _ _ h => (nomatch h)

/-! ### Names that are given -/

lemma get?_nameHandle {s : State} {given : Option Text} {h : Nat} {name : Text} {k : Nat}
    (hk : (s.nameHandle given h).handles.get? name = some k) :
    s.handles.get? name = some k ∨ k = h := by
  unfold State.nameHandle at hk
  cases given with
  | none => exact .inl hk
  | some n =>
    dsimp only at hk
    rw [Bindings.get?_set] at hk
    split at hk
    · exact .inr (Option.some.inj hk).symm
    · exact .inl hk

lemma get?_remember {s : State} {given : Option Text} {r : Result} {name : Text} {k : Nat}
    (hk : (s.remember given r).handles.get? name = some k) :
    s.handles.get? name = some k ∨ ∃ t, r.tenure? = some t ∧ t.handle = k := by
  cases r with
  | standing x =>
    cases x with
    | elected h lock port => exact (get?_nameHandle hk).imp_right fun he => ⟨_, rfl, he.symm⟩
    | led lock port => exact .inl hk
  | launched l =>
    cases l with
    | leading leader => exact (get?_nameHandle hk).imp_right fun he => ⟨_, rfl, he.symm⟩
    | requested port attempts => exact .inl hk
  | relay r => cases given <;> exact .inl hk
  | _ => exact .inl hk

/-- What is done with a named handle does not elect. -/
lemma tenure?_of_withHandle {s : State} {name : Text} {a : Nat → Act Unit} {f : Nat → Act Result}
    (hf : ∀ h w x v, (f h).run w = (.ok x, v) → x.tenure? = none) {w v : World} {r : Result}
    (h : (withHandle s name fun h => do a h; f h).run w = (.ok r, v)) : r.tenure? = none := by
  unfold withHandle at h
  cases hn : s.handles.get? name with
  | none =>
    rw [hn] at h
    cases h
  | some k =>
    rw [hn] at h
    dsimp only at h
    rw [run_bind] at h
    rcases hr : (a k).run w with ⟨e | u, x⟩ <;> rw [hr] at h
    · cases h
    · exact hf k x r v h

/-- A tenure that an operation begins comes after those from before. -/
lemma tenuresAfter_of_tenure? {s : State} {ts : List Tenure} {o : Operation} {r : Result} {t : Tenure}
    {w v : World} (h : (perform s o).run w = (.ok r, v)) (ht : r.tenure? = some t) :
    tenuresAfter s ts o (.ok r) = ts ++ [t] := by
  have hwith : tenuresWith ts (.ok r) = ts ++ [t] := by
    rw [tenuresWith, ht]
    rfl
  cases o with
  | release name closeFails =>
    have hnone := tenure?_of_withHandle (a := fun h => LockFile.release h closeFails)
      (fun h w x v hx => by
        cases hx
        rfl) h
    rw [ht] at hnone
    cases hnone
  | publish name port =>
    have hnone := tenure?_of_withHandle (a := fun h => LockFile.publish h port)
      (fun h w x v hx => by
        cases hx
        rfl) h
    rw [ht] at hnone
    cases hnone
  | _ => exact hwith

/-- A name stands for what it stood for, or for the handle of a tenure that begins now. -/
lemma Move.get? {allowed : State → Operation → Prop} {m n : Moment} (h : Move allowed m n)
    {name : Text} {k : Nat} (hk : n.state.handles.get? name = some k) :
    m.state.handles.get? name = some k ∨ ∃ t, n.tenures = m.tenures ++ [t] ∧ t.handle = k := by
  cases h with
  | starts args => exact .inl hk
  | finishes leader ending => exact .inl hk
  | surrounds peers relays events notices => exact .inl hk
  | performs given o ho =>
    unfold Moment.perform at hk ⊢
    dsimp only at hk ⊢
    rcases hr : (Session.perform m.state o).run m.world with ⟨f | r, v⟩ <;> rw [hr] at hk
    · exact .inl hk
    · refine (get?_remember hk).imp_right ?_
      rintro ⟨t, ht, he⟩
      exact ⟨t, tenuresAfter_of_tenure? hr ht, he⟩

/-! ### Handles that have been opened -/

/-- Names stand for handles that have been opened, in every run. -/
theorem Runs.knows {allowed : State → Operation → Prop} {m n : Moment} (h : Runs allowed m n)
    (ho : ∀ s o, allowed s o → o.IsOrdinary) (hm : Ruled m.world m.tenures)
    (hs : m.state.Knows) : n.state.Knows := by
  induction h with
  | refl => exact hs
  | @tail b c hruns hmove ih =>
    have hr := Runs.ruled hruns ho hm
    have hturn := hmove.turn hr.toSound ho
    intro name k hk
    rcases hmove.get? hk with hk | ⟨t, hts, rfl⟩
    · exact Nat.lt_of_lt_of_le (ih name k hk) hturn.handles
    · have hmem : t ∈ c.tenures := by
        rw [hts]
        exact List.mem_append_right _ List.mem_cons_self
      exact (hr.turn hturn).lt_of_mem hmem

end SharedVm.Session
