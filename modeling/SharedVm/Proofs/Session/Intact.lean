import SharedVm.Proofs.Session.Within

/-!
# Disks stay well-formed

Whatever a session does, and whatever fails while it does, every name on its disk goes on to lead
through directories, and every number to be that of something.
-/

namespace SharedVm

namespace Disk.WellFormed

variable {d e : Disk}

lemma lock (hd : d.WellFormed) {h : Nat} (hl : d.lock h = some e) : e.WellFormed := by
  unfold Disk.lock at hl
  cases hx : d.handle? h with
  | none =>
    rw [hx] at hl
    cases hl
  | some x =>
    have hlt : h < d.handles.length := by
      unfold handle? at hx
      exact (List.getElem?_eq_some_iff.1 hx).1
    rw [hx] at hl
    dsimp only at hl
    split at hl
    · split at hl
      · exact Option.some.inj hl ▸ hd
      · cases hl
    · refine Option.some.inj hl ▸ hd.modifyInode x.inode fun y k hk => .inr ?_
      exact Option.some.inj hk ▸ hlt

end Disk.WellFormed

namespace Disk

/-- A disk that was well-formed is so still. -/
def Intact (d e : Disk) : Prop := d.WellFormed → e.WellFormed

instance : IsPreorder Disk Intact where
  refl _ := id
  trans _ _ _ h k := k ∘ h

lemma intact_governs : Governs Intact where
  becomes h := h.wellFormed
  openInode hi hd := by
    obtain ⟨place, -, hp⟩ := file_eq_ok_iff.1 hi
    exact hd.openInode (hd.file hp)
  lock _ hl hd := hd.lock hl
  unlock _ h hd := hd.unlock h
  close _ h hd := hd.close h

end Disk

namespace Session

/-- The states of sessions: between two steps, and while the command of a leader runs. -/
inductive Reached : State → Prop
  | initial (env : Environ) (system : System) : Reached (initial env system)
  | step {s : State} (step : Step) (h : Reached s) : Reached (step.run s).state
  | running {s : State} {setting : Setting} {args : List Text} {leader : Leader (Option Override)}
      {w : World} (h : Reached s)
      (hs : (CommandLine.start args).run (enter s.world setting) = (.ok (.running leader), w)) :
      Reached { s with world := { w with notices := [] } }

lemma Reached.exists_later {s : State} (h : Reached s) :
    ∃ env system, Later (Session.initial env system) s := by
  induction h with
  | initial env system => exact ⟨env, system, .refl⟩
  | step step _ ih =>
    obtain ⟨env, system, hl⟩ := ih
    exact ⟨env, system, hl.step step⟩
  | running _ hs ih =>
    obtain ⟨env, system, hl⟩ := ih
    exact ⟨env, system, hl.running hs⟩

theorem Reached.wellFormed {s : State} (h : Reached s) : s.world.disk.WellFormed := by
  obtain ⟨env, system, hl⟩ := h.exists_later
  exact hl.governed Disk.intact_governs Disk.wellFormed_empty

end Session

end SharedVm
