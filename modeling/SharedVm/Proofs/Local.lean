import SharedVm.Election
import SharedVm.Proofs.Act

/-!
# Operations on the disk and the log

What is done about lock files stays on the disk and in the log: nothing happens at the edges of the
process, and its variables and what its surroundings are going to do are as they were.
-/

namespace SharedVm

/-- Nothing but the disk and the log is different. -/
def World.Local (w v : World) : Prop := v = { w with disk := v.disk, notices := v.notices }

namespace World.Local

variable {w v : World}

lemma events (h : w.Local v) : v.events = w.events := by rw [h]

lemma environ (h : w.Local v) : v.environ = w.environ := by rw [h]

lemma system (h : w.Local v) : v.system = w.system := by rw [h]

lemma faults (h : w.Local v) : v.faults = w.faults := by rw [h]

lemma traced (h : w.Local v) (es : List Event) :
    { w with events := w.events ++ es }.Local { v with events := v.events ++ es } := by
  rw [h]
  rfl

instance : IsPreorder World World.Local where
  refl _ := rfl
  trans _ _ _ h k := by rw [World.Local, k, h]

end World.Local

namespace Act.Within

lemma local_setDisk (d : Disk) : Within World.Local (Act.setDisk d) := fun _ => rfl

lemma local_note (n : Notice) : Within World.Local (Act.note n) := fun _ => rfl

lemma local_makeDirectories (p : Path) : Within World.Local (Act.makeDirectories p) :=
  makeDirectories fun _ => rfl

lemma local_openFile (p : Path) : Within World.Local (Act.openFile p) :=
  bind (ask _ _ _) fun _ => bind disk fun _ => bind (local_setDisk _) fun _ => pure _

end Act.Within

namespace LockFile

open Act Act.Within

lemma local_openAt (lock : Path) : Within World.Local (openAt lock) := by
  refine bind (local_makeDirectories _) fun _ => bind (checkPath _) fun _ =>
    bind (mayFail _) fun _ => bind disk fun d => ?_
  split
  · exact throw _
  · exact bind (local_setDisk _) fun _ => pure _

lemma local_close (h : Nat) : Within World.Local (close h) :=
  bind disk fun _ => local_setDisk _

section Within

variable {R : World → World → Prop} [IsPreorder World R] {h : Nat}

lemma within_take
    (hlock : ∀ w d, w.disk.isOpen h = true → w.disk.lock h = some d → R w { w with disk := d })
    (blocking : Bool) : Within R (take h blocking) := by
  have hrefuse : ∀ r : Report, Within R
      (if (r.isRefusal && !blocking) = true then throw (.lockUnavailable r.message)
        else throw (.report r) : Act Unit) := by
    intro r
    split
    · exact throw _
    · exact throw _
  intro w
  unfold take
  rw [run_bind_of_ok (run_disk w)]
  cases ho : w.disk.isOpen h with
  | false => exact refl_of R w
  | true =>
    dsimp only
    rw [if_neg (by decide), run_bind_of_ok (run_get w)]
    split
    · exact hrefuse _ w
    · rw [run_bind_of_ok (run_disk w)]
      cases hl : w.disk.lock h with
      | none => exact hrefuse _ w
      | some d => exact hlock w d ho hl

/-- A port is published by cutting off what the file says and then by writing. -/
lemma within_publish (hcut : ∀ w : World, R w { w with disk := (w.disk.rewind h).truncate h })
    (hwrite : ∀ (w : World) (bs : Bytes), R w { w with disk := w.disk.write h bs }) (port : Value) :
    Within R (publish h port) := by
  refine bind disk fun d => guard (throw _) fun _ => update hcut fun _ => ?_
  refine bind (ofExcept _) fun n => ?_
  split
  · exact throw _
  · exact update (fun w => hwrite w _) fun _ => mayFail _

lemma within_tolerant {a : Act Unit} (ha : Within R a) : Within R (tolerant a) := by
  refine tryCatch ha fun f => ?_
  split
  · exact throw _
  · exact pure _

lemma within_release (hunlock : ∀ w : World, R w { w with disk := w.disk.unlock h })
    (hclose : Within R (close h)) (closeFails : Option Report) : Within R (release h closeFails) := by
  refine bind (within_tolerant ?_) fun _ => within_tolerant ?_
  · exact bind disk fun d => guard (throw _) fun _ => bind (mayFail _) fun _ => hunlock
  · split
    · exact throw _
    · exact hclose

end Within

/-- What everything that is done to look at a lock file keeps to. -/
structure Looks (R : World → World → Prop) : Prop where
  note : ∀ n, Within R (Act.note n)
  openFile : ∀ p, Within R (Act.openFile p)
  close : ∀ h, Within R (close h)
  take : ∀ h blocking, Within R (take h blocking)

/-- What everything that is done with one handle keeps to. -/
structure Tends (R : World → World → Prop) (h : Nat) : Prop where
  note : ∀ n, Within R (Act.note n)
  close : Within R (close h)
  take : ∀ blocking, Within R (take h blocking)
  publish : ∀ port, Within R (publish h port)
  release : ∀ closeFails, Within R (release h closeFails)

/-- What everything that is done about a lock file keeps to. -/
structure Respects (R : World → World → Prop) : Prop extends Looks R where
  openAt : ∀ lock, Within R (openAt lock)
  publish : ∀ h port, Within R (publish h port)
  release : ∀ h closeFails, Within R (release h closeFails)

lemma Respects.tends {R : World → World → Prop} (hR : Respects R) (h : Nat) : Tends R h where
  note := hR.note
  close := hR.close h
  take := hR.take h
  publish := hR.publish h
  release := hR.release h

lemma local_respects : Respects World.Local where
  note := local_note
  openAt := local_openAt
  openFile := local_openFile
  close := local_close
  take h := within_take (h := h) fun _ _ _ _ => rfl
  publish h := within_publish (h := h) (fun _ => rfl) fun _ _ => rfl
  release h := within_release (h := h) (fun _ => rfl) (local_close h)

section Within

variable {R : World → World → Prop} [IsPreorder World R]

lemma within_contents (h : Nat) : Within R (contents h) :=
  bind disk fun _ => pure _

lemma within_port (hn : ∀ n, Within R (Act.note n)) (bs : Bytes) : Within R (port bs) := by
  unfold port
  split
  · exact throw _
  · exact pure _
  · dsimp only
    split
    · exact bind (hn _) fun _ => pure _
    · exact bind (hn _) fun _ => pure _
    · exact bind (hn _) fun _ => pure _
    · exact pure _
    · exact pure _

end Within

end LockFile

namespace Election

open Act Act.Within LockFile

lemma run_lockOf (env : Environ) (w : World) :
    (lockOf env).run w = (env.lockPath w.environ w.system.users, w) := by
  rw [lockOf, run_bind_of_ok (run_environ w), run_bind_of_ok (run_users w), run_ofExcept]

section Within

variable {R : World → World → Prop} [IsPreorder World R]

section Tends

variable {h : Nat} (hR : Tends R h)

include hR

lemma within_seek (lock : Path) : Within R (seek h lock) := by
  refine tryCatch (bind (hR.take false) fun _ => pure _) fun f => ?_
  split
  · exact pure _
  · refine bind hR.close fun _ => ?_
    split
    · split
      · exact misconfigured _
      · exact throw _
    · exact throw _

lemma within_lead (lock : Path) (candidate : Value) : Within R (lead h lock candidate) := by
  refine tryCatch (hR.publish candidate) fun f => ?_
  split
  · split
    · exact bind (hR.release none) fun _ => misconfigured _
    · exact bind hR.close fun _ => throw _
  · exact bind hR.close fun _ => throw _

lemma within_follow (lock : Path) : Within R (follow h lock) := by
  refine bind (ensuring (orReport ?_ fun r => misconfigured _) hR.close) (within_port hR.note)
  exact bind (mayFail _) fun _ => within_contents h

end Tends

lemma within_stand (hR : Respects R) (candidate : Value) {lock : Act Path} (hl : Within R lock) :
    Within R (stand candidate lock) := by
  refine bind (ofExcept _) fun port => guard (misconfigured _) fun _ =>
    bind hl fun p => bind (orReport (hR.openAt p) fun _ => misconfigured _) fun h =>
      bind (within_seek (hR.tends h) p) fun b => ?_
  split
  · exact bind (within_lead (hR.tends h) p candidate) fun _ => guard (hR.note _) fun _ => pure _
  · exact bind (within_follow (hR.tends h) p) fun _ => bind (hR.note _) fun _ => pure _

lemma within_inspect (hR : Looks R) {lock : Act Path} (hl : Within R lock) :
    Within R (inspect lock) := by
  refine bind hl fun p => bind (isThere p) fun b => ?_
  split
  · exact pure _
  · refine bind (hR.openFile p) fun h => ensuring (tryCatch ?_ fun f => ?_) (hR.close h)
    · exact bind (hR.take h false) fun _ => pure _
    · split
      · exact bind (mayFail _) fun _ => bind (within_contents h) fun bs =>
          bind (within_port hR.note bs) fun _ => pure _
      · exact throw _

end Within

lemma local_stand (candidate : Value) {lock : Act Path} (hl : Within World.Local lock) :
    Within World.Local (stand candidate lock) := within_stand local_respects candidate hl

end Election

end SharedVm
