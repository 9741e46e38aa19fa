import SharedVm.Proofs.LockFile
import SharedVm.Proofs.Ordinary

/-!
# Elections of ordinary processes

Whatever the operating system reports about a lock file, a candidate is told of. Only a number of too
many digits in the file is not.
-/

namespace SharedVm

open Act

/-- A number in a file has too many digits. -/
def Failure.IsOfDigits (f : Failure) : Prop :=
  ∃ bs n, Published.ofBytes bs = .error (.tooLong n) ∧ f = .notWhole (.tooLong n)

lemma Disk.isOpen_openInode (d : Disk) (i : Nat) :
    (d.openInode i).2.isOpen d.handles.length = true := by
  rw [isOpen_iff]
  exact ⟨i, by rw [openOn?_openInode, if_pos rfl]⟩

/-- The process goes on with the handle open. -/
def World.Holds (w : World) (h : Nat) (v : World) : Prop := w.Onward v ∧ v.disk.isOpen h = true

lemma World.Onward.of_disk {w v : World} (hv : w.Onward v) (d : Disk) :
    w.Onward { v with disk := d } :=
  ⟨hv.system, hv.environ, hv.deviceTree, hv.faults, hv.peers, hv.relays⟩

namespace LockFile

section Onward

variable {w : World} {P : Failure → Prop} {lock : Path}

/-- What is given up is given up whatever the operating system reports about it. -/
lemma only_tolerant {a : Act Unit} (ha : Only w.Onward (·.isInterrupt = false) a) :
    Only w.Onward P (tolerant a) := by
  refine .tryCatch ha fun f hf => ?_
  rw [if_neg (by rw [hf]; decide)]
  exact .pure _

lemma only_close (h : Nat) : Only w.Onward P (close h) := fun _ hv => hv.of_disk _

lemma only_release (hw : w.Ordinary) (h : Nat) : Only w.Onward P (release h) := by
  refine .bind (only_tolerant fun v hv => ?_) fun _ => only_tolerant (only_close h)
  rw [run_bind_of_ok (run_disk v)]
  cases v.disk.isOpen h with
  | false => exact ⟨hv, rfl⟩
  | true =>
    dsimp only
    rw [if_neg (by decide), mayFail, run_bind, run_bind_of_ok (run_get v)]
    cases hl : v.faults.lock with
    | none => exact hv.of_disk _
    | some r =>
      have hr := (hv.ordinary hw).faults.lock r hl
      refine ⟨hv, ?_⟩
      change r.isInterrupt = false
      unfold Report.isSystem at hr
      unfold Report.isInterrupt
      cases hk : r.kind <;> rw [hk] at hr <;> simp at hr ⊢

lemma only_port (bs : Bytes) : Only w.Onward Failure.IsOfDigits (port bs) := by
  refine .of_onward (within_port onward_talks.note bs) fun v f _ hf => ?_
  obtain ⟨ns, hr⟩ := run_port bs v
  rw [hr] at hf
  exact ⟨bs, tooLong_of_portOf hf⟩

/-- A lock file is opened, or the operating system says why not. -/
lemma ends_openAt (hw : w.Ordinary) (hp : lock.Native) :
    Ends w.Onward w.Holds (fun f v => w.Onward v ∧ f.IsSystem) (openAt lock) := by
  have hmake : Only w.Onward Failure.IsSystem (makeDirectories lock.parent) :=
    .makeDirectories hp.parent (fun _ _ _ hf => hf.isSystem) fun r hr =>
      ⟨r, rfl, hr.elim (hw.faults.stat _ r) (hw.faults.making _ r)⟩
  have hopen : Only w.Onward Failure.IsSystem (mayFail (·.opening lock)) :=
    .mayFail fun r hr => ⟨r, rfl, hw.faults.opening lock r hr⟩
  refine .bind hmake fun _ v hv => ?_
  rw [run_bind_of_ok (run_checkPath_of_name hp.ofName? v)]
  refine Ends.bind hopen (fun _ u hu => ?_) v hv
  rw [run_bind_of_ok (run_disk u)]
  cases u.disk.touch lock with
  | error x => exact ⟨hu, _, rfl, rfl⟩
  | ok found => exact ⟨hu.of_disk _, found.2.isOpen_openInode _⟩

/-- A port that can be published is published, or the operating system says why not. -/
lemma ends_publish (hw : w.Ordinary) (h : Nat) {n : Int} (hn : Port.isPublishable n = true) :
    Ends (w.Holds h) (fun _ => w.Onward) (fun f v => w.Onward v ∧ f.IsSystem)
      (publish h (.int n)) := by
  rintro v ⟨hv, ho⟩
  unfold publish
  rw [run_bind_of_ok (run_disk v), ho]
  dsimp only
  rw [if_neg (by decide), run_bind_of_ok (run_disk v), run_bind_of_ok (run_setDisk _ v),
    run_bind_of_ok (run_whole_of_ok rfl _), Port.write?_of_isPublishable hn]
  dsimp only
  rw [run_bind_of_ok (run_disk _), run_bind_of_ok (run_setDisk _ _), mayFail,
    run_bind_of_ok (run_get _)]
  dsimp only
  cases hs : v.faults.sync with
  | none => exact hv.of_disk _
  | some r => exact ⟨hv.of_disk _, r, rfl, (hv.ordinary hw).faults.sync r hs⟩

end Onward

end LockFile

namespace Election

open LockFile

section Ordinary

variable {w : World} (hw : w.Ordinary) {lock : Path}

include hw

lemma ends_seek (h : Nat) (lock : Path) : Ends (w.Holds h) (fun _ => w.Holds h)
    (fun f v => w.Onward v ∧ f.IsMisconfigured) (seek h lock) := by
  rintro v ⟨hv, ho⟩
  unfold seek
  rcases run_take_cases ho with ⟨m, ht⟩ | ⟨r, hf, -, ht⟩ | ⟨d, -, hd, ht⟩
  · rw [run_tryCatch_of_error (run_bind_of_error ht _)]
    exact ⟨hv, ho⟩
  · rw [run_tryCatch_of_error (run_bind_of_error ht _), run_bind_of_ok (run_close h v)]
    dsimp only
    rw [if_pos ((hv.ordinary hw).faults.lock r hf)]
    exact ⟨hv.of_disk _, _, rfl⟩
  · rw [run_tryCatch_of_ok (run_bind_of_ok ht _)]
    exact ⟨hv.of_disk d, hd⟩

lemma ends_lead (h : Nat) (lock : Path) {n : Int} (hn : Port.isPublishable n = true) :
    Ends (w.Holds h) (fun _ => w.Onward) (fun f v => w.Onward v ∧ f.IsMisconfigured)
      (lead h lock (.int n)) := by
  refine .tryCatch (ends_publish hw h hn) fun f v hv => ?_
  obtain ⟨hv, r, rfl, hr⟩ := hv
  dsimp only
  rw [if_pos hr]
  exact Only.bind (only_release hw h) (fun _ => .throw ⟨_, rfl⟩) v hv

lemma only_follow (h : Nat) (lock : Path) :
    Only w.Onward (fun f => f.IsMisconfigured ∨ f.IsOfDigits) (follow h lock) := by
  have hread : Only w.Onward Failure.IsSystem (do mayFail (·.read); contents h) :=
    .bind (.mayFail fun r hr => ⟨r, rfl, hw.faults.read r hr⟩) fun _ =>
      .of_onward (within_contents h) fun _ _ _ => nofun
  refine .bind (.ensuring (.orReport hread fun r => Only.throw (.inl ⟨_, rfl⟩)) (only_close h))
    fun bs => (only_port bs).mono fun _ => .inr

/-- Whatever the operating system reports, a candidate is told of. -/
lemma only_stand (hp : lock.Native) (n : Int) :
    Only w.Onward (fun f => f.IsMisconfigured ∨ f.IsOfDigits) (stand (.int n) (pure lock)) := by
  have htold : ∀ (f : Failure) v, w.Onward v ∧ f.IsMisconfigured →
      w.Onward v ∧ (f.IsMisconfigured ∨ f.IsOfDigits) := fun _ _ h => ⟨h.1, .inl h.2⟩
  intro v hv
  unfold stand
  rw [run_bind_of_ok (run_whole_of_ok rfl v)]
  cases hn : Port.isPublishable n with
  | false => exact ⟨hv, .inl ⟨_, rfl⟩⟩
  | true =>
    dsimp only
    rw [if_neg (by decide), run_bind_of_ok (run_pure lock v)]
    have hopen : Ends w.Onward w.Holds (fun f v => w.Onward v ∧ (f.IsMisconfigured ∨ f.IsOfDigits))
        (orReport (openAt lock) fun r => misconfigured (.lockNotOpened lock r)) :=
      .orReport (ends_openAt hw hp) fun r => .throw fun _ hu => ⟨hu, .inl ⟨_, rfl⟩⟩
    refine Ends.bind hopen (fun h => ?_) v hv
    refine .bind ((ends_seek hw h lock).mono (fun _ => id) (fun _ _ => id) htold) fun b => ?_
    cases b with
    | true =>
      refine .bind ((ends_lead hw h lock hn).mono (fun _ => id) (fun _ _ => id) htold) fun _ => ?_
      exact Only.guard (.note _) fun _ => .pure _
    | false =>
      refine Ends.mono (I := w.Onward) ?_ (fun _ h => h.1) (fun _ _ => id) (fun _ _ => id)
      exact Only.bind (only_follow hw h lock) fun _ => .bind (.note _) fun _ => .pure _

end Ordinary

end Election

end SharedVm
