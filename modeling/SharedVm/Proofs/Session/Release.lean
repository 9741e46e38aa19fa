import SharedVm.Proofs.Disk.Footprint
import SharedVm.Proofs.Session.Prediction

/-!
# Giving up a lock

In every state of a session a lock is held by an open handle, and a handle that has been closed stays
closed. So giving up concerns one handle only, and giving up once more nothing at all, whoever has the
lock by then.
-/

namespace SharedVm

open Act

namespace Disk

variable {d e : Disk} {h : Nat}

/-- A lock is held only by a handle that is open on its file. -/
def Anchored (d : Disk) : Prop := ∀ i h, d.holder? i = some h → d.openOn? h = some i

/-- Locks are anchored if they were, and handles that were closed stay closed. -/
structure Secures (d e : Disk) : Prop where
  handles : d.handles.length ≤ e.handles.length
  anchored : d.Anchored → e.Anchored
  closed : ∀ h < d.handles.length, d.openOn? h = none → e.openOn? h = none

instance : IsPreorder Disk Secures where
  refl _ := ⟨Nat.le_refl _, id, fun _ _ => id⟩
  trans _ _ _ h k := ⟨Nat.le_trans h.handles k.handles, k.anchored ∘ h.anchored, fun i hi ho =>
    k.closed i (Nat.lt_of_lt_of_le hi h.handles) (h.closed i hi ho)⟩

lemma holder?_unlock (d : Disk) (h j : Nat) :
    (d.unlock h).holder? j =
      if (d.handle? h).map (·.inode) = some j ∧ d.holder? j = some h then none
      else d.holder? j := holder?_close d h j

lemma openOn?_unlock (d : Disk) (h : Nat) : (d.unlock h).openOn? = d.openOn? := by
  funext k
  rw [openOn?, handle?_unlock, ← openOn?]

lemma openOn?_eq_none_iff : d.openOn? h = none ↔ d.isOpen h = false := by
  rw [← Bool.not_eq_true, isOpen_iff, Option.eq_none_iff_forall_ne_some, not_exists]

lemma modifyHandle_eq_self {f : Handle → Handle} (hf : ∀ x, d.handle? h = some x → f x = x) :
    d.modifyHandle h f = d := by
  unfold modifyHandle
  congr 1
  refine List.ext_getElem? fun k => ?_
  rw [List.getElem?_modify]
  cases hx : d.handles[k]? with
  | none => rfl
  | some x =>
    by_cases hk : h = k
    · subst hk
      simp [hf x hx]
    · simp [hk]

namespace Anchored

lemma holder?_unlock_ne (ha : d.Anchored) (h i : Nat) : (d.unlock h).holder? i ≠ some h := by
  intro hh
  rw [holder?_unlock] at hh
  split at hh
  · cases hh
  · rename_i hn
    obtain ⟨x, hx, -, hi⟩ := handle?_of_openOn? (ha i h hh)
    exact hn ⟨by rw [hx, Option.map_some, hi], hh⟩

lemma unlock (ha : d.Anchored) (h : Nat) : (d.unlock h).Anchored := by
  intro i k hk
  rw [openOn?_unlock]
  rw [holder?_unlock] at hk
  split at hk
  · cases hk
  · exact ha i k hk

lemma close (ha : d.Anchored) (h : Nat) : (d.close h).Anchored := by
  intro i k hk
  have hne : k ≠ h := fun he => ha.holder?_unlock_ne h i (he ▸ hk)
  rw [openOn?_close, if_neg hne, ← openOn?_unlock d h]
  exact ha.unlock h i k hk

lemma lock (ha : d.Anchored) (ho : d.isOpen h = true) (hl : d.lock h = some e) : e.Anchored := by
  obtain ⟨i, hi⟩ := isOpen_iff.1 ho
  obtain ⟨x, hx, -, rfl⟩ := handle?_of_openOn? hi
  unfold Disk.lock at hl
  rw [hx] at hl
  dsimp only at hl
  split at hl
  · split at hl
    · exact Option.some.inj hl ▸ ha
    · cases hl
  · obtain rfl := Option.some.inj hl
    intro j k hk
    rw [holder?_modifyInode] at hk
    split at hk
    · rename_i hj
      obtain ⟨y, -, hy⟩ := Option.bind_eq_some_iff.1 hk
      obtain rfl := Option.some.inj hy
      exact hj ▸ hi
    · exact ha j k hk

lemma openInode (ha : d.Anchored) (i : Nat) : (d.openInode i).2.Anchored := by
  intro j k hk
  have hopen := ha j k hk
  have hne : k ≠ d.handles.length := by
    rintro rfl
    rw [openOn?_of_ge (Nat.le_refl _)] at hopen
    cases hopen
  rw [openOn?_openInode, if_neg hne, hopen]

/-- Nothing is left to do about a handle that is closed. -/
lemma close_eq_self (ha : d.Anchored) (ho : d.openOn? h = none) : d.close h = d := by
  have hunlock : d.unlock h = d := by
    unfold Disk.unlock
    split
    · rfl
    · rw [if_neg]
      intro hh
      rw [ha _ h hh] at ho
      cases ho
  rw [Disk.close, hunlock]
  refine modifyHandle_eq_self fun x hx => ?_
  rw [openOn?, hx, Option.bind_some] at ho
  split at ho
  · cases ho
  · rename_i hc
    rw [← Bool.eq_false_iff.2 hc]

end Anchored

lemma anchored_empty : empty.Anchored := fun _ _ hh => nomatch hh

lemma secures_governs : Governs Secures where
  becomes hb := by
    refine ⟨hb.handles, fun ha i h hh => ?_, fun h _ ho => ?_⟩
    · rw [hb.holder] at hh
      rw [hb.openOn]
      exact ha i h hh
    · rw [hb.openOn]
      exact ho
  openInode {d _ i} _ := by
    refine ⟨?_, fun ha => ha.openInode i, fun h hh ho => ?_⟩
    · rw [openInode, List.length_append]
      exact Nat.le_add_right _ _
    · rw [openOn?_openInode, if_neg (Nat.ne_of_lt hh), ho]
  lock {d e h} ho hl := by
    have hsame : e.handles = d.handles := by
      unfold Disk.lock at hl
      split at hl
      · cases hl
      · split at hl
        · split at hl
          · exact Option.some.inj hl ▸ rfl
          · cases hl
        · exact Option.some.inj hl ▸ rfl
    refine ⟨Nat.le_of_eq (hsame ▸ rfl), fun ha => ha.lock ho hl, fun k _ hk => ?_⟩
    unfold openOn? handle? at hk ⊢
    rw [hsame, hk]
  unlock d h := by
    refine ⟨?_, fun ha => ha.unlock h, fun k _ hk => ?_⟩
    · rw [← handles_close d h, Disk.close, length_handles_modifyHandle]
    · rw [openOn?_unlock, hk]
  close d h := by
    refine ⟨Nat.le_of_eq (handles_close d h).symm, fun ha => ha.close h, fun k _ hk => ?_⟩
    rw [openOn?_close, hk, ite_self]

end Disk

namespace LockFile

variable {w : World} {h : Nat}

/-- Whatever fails but an interrupt, a handle that is given up is closed. -/
lemma run_release_of_fault (hf : ∀ r ∈ w.faults.lock, r.isInterrupt = false) (h : Nat) :
    (release h).run w = (.ok (), { w with disk := w.disk.close h }) := by
  cases hr : w.faults.lock with
  | none => exact run_release hr h
  | some r =>
    unfold release
    refine (run_bind_of_ok (x := ()) (v := w) ?_ _).trans (run_tolerant_of_ok (run_close h w))
    cases ho : w.disk.isOpen h with
    | false =>
      refine run_tolerant_of_error (f := .useClosed) ?_ rfl
      rw [run_bind_of_ok (run_disk w), ho]
      rfl
    | true =>
      refine run_tolerant_of_error (f := .report r) ?_ (hf r hr)
      rw [run_bind_of_ok (run_disk w), ho]
      dsimp only
      rw [if_neg (by decide), run_bind_of_error (run_mayFail_of_some hr)]

/-- Giving up a closed handle comes to nothing before any call is made that could fail. -/
lemma run_release_closed (ha : w.disk.Anchored) (ho : w.disk.openOn? h = none) :
    (release h).run w = (.ok (), w) := by
  have hclosed := Disk.openOn?_eq_none_iff.1 ho
  unfold release
  refine (run_bind_of_ok (run_tolerant_of_error (f := .useClosed) (v := w) ?_ rfl) _).trans ?_
  · rw [run_bind_of_ok (run_disk w), hclosed]
    rfl
  · refine run_tolerant_of_ok ((run_close h w).trans ?_)
    rw [ha.close_eq_self ho]

end LockFile

namespace World

/-- One handle is closed and holds no lock. Nothing else is different. -/
structure Releases (w v : World) (h : Nat) : Prop where
  world : v = { w with disk := v.disk }
  files : v.disk.files = w.disk.files
  closed : v.disk.isOpen h = false
  unheld : ∀ i, v.disk.holder? i ≠ some h
  handle : ∀ k, k ≠ h → v.disk.handle? k = w.disk.handle? k
  lock : ∀ i k, k ≠ h → (v.disk.holder? i = some k ↔ w.disk.holder? i = some k)

/-- Nothing can be done any more with a handle that was given up. -/
structure Spent (w : World) (h : Nat) : Prop where
  closed : w.disk.isOpen h = false
  unheld : ∀ i, w.disk.holder? i ≠ some h
  release : (LockFile.release h).run w = (.ok (), w)
  finish : ∀ (leader : Leader (Option Override)) ending, leader.handle = h →
    ((CommandLine.finish leader ending).run w).2 = w
  publish : ∀ port, (LockFile.publish h port).run w = (.error .seekClosed, w)

lemma releases_close {w : World} (ha : w.disk.Anchored) (h : Nat) :
    w.Releases { w with disk := w.disk.close h } h where
  world := rfl
  files := Disk.files_unlock w.disk h
  closed := Disk.isOpen_close w.disk h
  unheld := ha.holder?_unlock_ne h
  handle k hk := by
    rw [Disk.close, Disk.handle?_modifyHandle, if_neg hk.symm, Disk.handle?_unlock]
  lock i k hk := by
    rw [Disk.holder?_close]
    split
    · rename_i hh
      rw [hh.2]
      exact iff_of_false (Option.some_ne_none k).symm fun he => hk (Option.some.inj he).symm
    · exact Iff.rfl

lemma spent_of_closed {w : World} {h : Nat} (ha : w.disk.Anchored) (ho : w.disk.openOn? h = none) :
    w.Spent h := by
  have hclosed := Disk.openOn?_eq_none_iff.1 ho
  have hrelease := LockFile.run_release_closed ha ho
  refine ⟨hclosed, fun i hh => ?_, hrelease, fun leader ending hl => ?_,
    LockFile.run_publish_closed hclosed⟩
  · rw [ha i h hh] at ho
    cases ho
  · subst hl
    unfold CommandLine.finish
    rw [run_bind_of_ok hrelease]
    cases ending with
    | exited code => rfl
    | failed r =>
      dsimp only
      split <;> rfl

end World

namespace Session

lemma Reached.anchored {s : State} (h : Reached s) : s.world.disk.Anchored := by
  obtain ⟨env, system, hl⟩ := h.exists_later
  exact (hl.governed Disk.secures_governs).anchored Disk.anchored_empty

/-- In every state of a session, and whether or not the lock can be given up, any handle that was ever
opened can be released: it is closed then and holds no lock, and nothing else is different. In every
state that comes after, releasing it again or leaving the command of its leader changes nothing,
whoever has the lock, and nothing can be published through it. -/
theorem release_frames {s : State} (hs : Reached s) {w : World} (hw : w.disk = s.world.disk) {h : Nat}
    (hh : h < w.disk.handles.length) (hf : ∀ r ∈ w.faults.lock, r.isInterrupt = false) :
    ∃ v, (LockFile.release h).run w = (.ok (), v) ∧ w.Releases v h ∧
      (∀ name, s.handles.get? name = some h →
        (perform s (.release name none)).run w = (.ok (.isClosed true), v)) ∧
      ∀ (t t' : State) (u : World), t.world.disk = v.disk → Later t t' → u.disk = t'.world.disk →
        u.Spent h := by
  have ha : w.disk.Anchored := hw ▸ hs.anchored
  have hrun := LockFile.run_release_of_fault hf h
  refine ⟨_, hrun, World.releases_close ha h, fun name hn => ?_, fun t t' u ht hl hu => ?_⟩
  · have hclosed := Disk.isOpen_close w.disk h
    rw [perform, withHandle, hn]
    dsimp only
    rw [run_bind_of_ok hrun, run_bind_of_ok (run_disk _), hclosed]
    rfl
  · have hsecures := hl.governed Disk.secures_governs
    rw [ht, ← hu] at hsecures
    refine World.spent_of_closed (hsecures.anchored (ha.close h)) (hsecures.closed h ?_ ?_)
    · rwa [Disk.handles_close]
    · rw [Disk.openOn?_close, if_pos rfl]

def unlockless : World :=
  { presentLeader.world with faults := { lock := some (.ofNumber 5 "Input/output error") } }

def takeover : Step := .one {} (.stand (.int 4444) (some "run/krun.lock"))

/-- The unlocking fails, and another leader takes over the lock file that was given up. -/
theorem release_frames_takeover :
    Reached presentLeader ∧ unlockless.disk.holder? 0 = some 0 ∧ ∃ v,
      (LockFile.release 0).run unlockless = (.ok (), v) ∧ v.disk.holder? 0 = none ∧
      let t : State := { presentLeader with world := leave presentLeader.world v }
      let u := (Step.run t takeover).state.world
      u.disk.holder? 0 = some 1 ∧ (LockFile.release 0).run u = (.ok (), u) ∧
        (LockFile.publish 0 (.int 3333)).run u = (.error .seekClosed, u) := by
  have hs : Reached presentLeader := .step _ (.initial [] {})
  obtain ⟨v, hrun, -, -, hlater⟩ := release_frames (w := unlockless) (h := 0) hs rfl (by decide)
    fun r hr => by cases hr; rfl
  have hspent := hlater { presentLeader with world := leave presentLeader.world v } _ _ rfl
    (.step takeover .refl) rfl
  obtain rfl : { unlockless with disk := unlockless.disk.close 0 } = v := congrArg Prod.snd hrun
  exact ⟨hs, rfl, _, hrun, rfl, rfl, hspent.release, hspent.publish _⟩

end Session

end SharedVm
