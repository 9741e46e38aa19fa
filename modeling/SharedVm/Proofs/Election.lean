import SharedVm.Proofs.LockFile

/-!
# Elections where no call fails of itself

A candidate is elected just when nobody holds the lock of the file that its path leads to, and then
it holds the lock and the file says its port. A candidate that is not elected, and an inspection,
leave everything as it was.
-/

namespace SharedVm

open Act

/-- A handle of an elected candidate, the path it was elected at, and the port it published last. -/
structure Tenure where
  handle : Nat
  lock : Path
  port : Int
  deriving DecidableEq, Repr

namespace World

/-- No call fails of itself, and a handle is open on a file just when it holds its lock. -/
structure Sound (w : World) : Prop where
  faults : w.faults = {}
  wellFormed : w.disk.WellFormed
  settled : w.disk.Settled

lemma Sound.quiet {w v : World} (hw : w.Sound) (h : w.Quiet v) : v.Sound where
  faults := h.faults.trans hw.faults
  wellFormed := h.disk.wellFormed hw.wellFormed
  settled := h.disk.toBecomes.settled hw.settled

/-- A new handle takes the free lock of a file, and the file says a port. -/
structure Elects (w v : World) (t : Tenure) (i : Nat) : Prop where
  faults : v.faults = w.faults
  usable : Port.isPublishable t.port = true
  name : Failure.ofName? t.lock.text = none
  free : w.disk.holder? i = none
  new : w.disk.handles.length ≤ t.handle
  disk : w.disk.Becomes v.disk (Function.update w.disk.holder? i (some t.handle))
    (Function.update w.disk.openOn? t.handle (some i))
    (Function.update w.disk.content i (Utf8.encode (Decimal.ofInt t.port)))
  entry : w.disk.Keeps v.disk
  file : v.disk.file t.lock = .ok i

namespace Elects

variable {u w v : World} {t : Tenure} {i : Nat}

lemma written (h : w.Elects v t i) : Decimal.write? t.port = some (Decimal.ofInt t.port) :=
  Port.write?_of_isPublishable h.usable

lemma fresh (h : w.Elects v t i) : w.disk.openOn? t.handle = none := Disk.openOn?_of_ge h.new

lemma of_quiet (hu : u.Quiet w) (h : w.Elects v t i) : u.Elects v t i where
  faults := h.faults.trans hu.faults
  usable := h.usable
  name := h.name
  free := by
    rw [← hu.disk.holder]
    exact h.free
  new := Nat.le_trans hu.disk.handles h.new
  disk := by
    have hb := hu.disk.trans_becomes h.disk
    rwa [hu.disk.holder, hu.disk.openOn, hu.disk.content] at hb
  entry := Disk.Keeps.trans hu.disk.entry h.entry
  file := h.file

lemma trans_quiet (h : u.Elects w t i) (hv : w.Quiet v) : u.Elects v t i where
  faults := hv.faults.trans h.faults
  usable := h.usable
  name := h.name
  free := h.free
  new := h.new
  disk := h.disk.trans_quiet hv.disk
  entry := Disk.Keeps.trans h.entry hv.disk.entry
  file := Disk.Keeps.file hv.disk.entry hv.disk.workDir h.file

lemma sound (h : u.Elects w t i) (hu : u.Sound) : w.Sound where
  faults := h.faults.trans hu.faults
  wellFormed := h.disk.wellFormed hu.wellFormed
  settled := h.disk.settled_of_elect hu.settled h.free h.fresh

end Elects

end World

namespace Election

variable {w : World} {lock : Path} {e : Disk} {i : Nat}

def opened (w : World) (e : Disk) (i : Nat) : World := { w with disk := (e.openInode i).2 }

def taken (w : World) (e : Disk) (i : Nat) : World :=
  let d := (e.openInode i).2
  { w with disk := d.modifyInode i ({ · with holder := some e.handles.length }) }

/-- The disk of a candidate that has the lock and has written its port. -/
def published (e : Disk) (i : Nat) (n : Int) : Disk :=
  let h := e.handles.length
  let d := (e.openInode i).2.modifyInode i ({ · with holder := some h })
  ((d.rewind h).truncate h).write h (Utf8.encode (Decimal.ofInt n))

lemma isOpen_opened (w : World) (e : Disk) (i : Nat) :
    (opened w e i).disk.isOpen e.handles.length = true := by
  rw [Disk.isOpen_iff]
  exact ⟨i, by rw [opened, Disk.openOn?_openInode, if_pos rfl]⟩

lemma isOpen_taken (w : World) (e : Disk) (i : Nat) :
    (taken w e i).disk.isOpen e.handles.length = true := isOpen_opened w e i

lemma run_take_opened (hf : w.faults.lock = none) (he : e.WellFormed) :
    (LockFile.take e.handles.length false).run (opened w e i) =
      if e.holder? i = none then (.ok (), taken w e i)
      else (.error (.lockUnavailable Report.contended.message), opened w e i) := by
  rw [LockFile.run_take (w := opened w e i) hf (isOpen_opened w e i), opened, Disk.lock_openInode he]
  by_cases hh : e.holder? i = none
  · rw [if_pos hh, if_pos hh]
    rfl
  · rw [if_neg hh, if_neg hh]

lemma run_seek (lock : Path) (hf : w.faults.lock = none) (he : e.WellFormed) :
    (seek e.handles.length lock).run (opened w e i) =
      if e.holder? i = none then (.ok true, taken w e i) else (.ok false, opened w e i) := by
  have ht := run_take_opened (i := i) hf he
  unfold seek
  by_cases hh : e.holder? i = none
  · rw [if_pos hh] at ht ⊢
    exact run_tryCatch_of_ok (run_bind_of_ok ht _) _
  · rw [if_neg hh] at ht ⊢
    rw [run_tryCatch_of_error (run_bind_of_error ht _)]
    rfl

section Lead

variable {candidate : Value} {n : Int} (hn : candidate.whole = .ok n)
  (hw : Decimal.write? n = some (Decimal.ofInt n))

include hn hw

lemma run_lead (hf : w.faults.sync = none) :
    (lead e.handles.length lock candidate).run (taken w e i) =
      (.ok (), { w with disk := published e i n }) := by
  unfold lead
  exact run_tryCatch_of_ok
    (LockFile.run_publish (w := taken w e i) (isOpen_taken w e i) hn hw hf) _

/-- A port that is written but cannot be made to last is left in the file, and the lock is given
up. -/
lemma run_lead_of_fault (hl : w.faults.lock = none) {r : Report} (hf : w.faults.sync = some r) :
    (lead e.handles.length lock candidate).run (taken w e i) =
      (.error (if r.isSystem then .misconfigured (.portNotPublished lock r) else .report r),
        { w with disk := (published e i n).close e.handles.length }) := by
  unfold lead
  rw [run_tryCatch_of_error
    (LockFile.run_publish_of_fault (w := taken w e i) (isOpen_taken w e i) hn hw hf)]
  dsimp only
  cases r.isSystem with
  | true =>
    rw [if_pos rfl, if_pos rfl, run_bind_of_ok (LockFile.run_release (by exact hl) _)]
    rfl
  | false =>
    rw [if_neg Bool.false_ne_true, if_neg Bool.false_ne_true, run_bind_of_ok (LockFile.run_close _ _)]
    rfl

end Lead

lemma unread_opened (w : World) (e : Disk) (i : Nat) :
    (opened w e i).disk.unread e.handles.length = e.content i := by
  have hx : (opened w e i).disk.handle? e.handles.length = some { inode := i } := by
    simp [opened, Disk.openInode, Disk.handle?]
  unfold Disk.unread
  rw [hx]
  rfl

lemma run_follow (hf : w.faults.read = none) :
    (follow e.handles.length lock).run (opened w e i) =
      (LockFile.port (e.content i)).run
        { w with disk := (e.openInode i).2.close e.handles.length } := by
  have hread : (orReport (do Act.mayFail (·.read); LockFile.contents e.handles.length) fun r =>
      Act.misconfigured (.lockNotRead lock r)).run (opened w e i) =
        (.ok (e.content i), opened w e i) := by
    refine run_tryCatch_of_ok ?_ _
    have hfail : (Act.mayFail (·.read)).run (opened w e i) = (.ok (), opened w e i) :=
      run_mayFail_of_none hf
    rw [run_bind_of_ok hfail, LockFile.contents, run_bind_of_ok (run_disk _), unread_opened]
    rfl
  unfold follow
  rw [run_bind_of_ok (x := e.content i)
    (v := { w with disk := (e.openInode i).2.close e.handles.length })]
  rw [run_ensuring, hread]
  rfl

section Stand

variable {u : World} {candidate : Value} {n : Int} {lockAct : Act Path}

/-- A candidate without a port to publish does nothing. -/
lemma run_stand_rejected (h : ∀ n, candidate.whole = .ok n → Port.isPublishable n = false)
    (lockAct : Act Path) (w : World) : ∃ f, (stand candidate lockAct).run w = (.error f, w) := by
  unfold stand
  cases hn : candidate.whole with
  | error x => exact ⟨.notWhole x, run_bind_of_error (run_whole hn w) _⟩
  | ok n =>
    refine ⟨.misconfigured (.portUnpublishable candidate), ?_⟩
    rw [run_bind_of_ok (run_whole_of_ok hn w), h n hn]
    rfl

lemma run_stand_unplaced {f : Failure} (hn : candidate.whole = .ok n)
    (hp : Port.isPublishable n = true) (hl : lockAct.run w = (.error f, u)) :
    (stand candidate lockAct).run w = (.error f, u) := by
  unfold stand
  rw [run_bind_of_ok (run_whole_of_ok hn w), hp]
  dsimp only
  rw [if_neg (by decide), run_bind_of_error hl]

/-- A candidate whose lock file is open is elected if it gets the lock, and follows if not. -/
lemma run_stand_opened (hn : candidate.whole = .ok n) (hp : Port.isPublishable n = true)
    (hl : lockAct.run w = (.ok lock, u))
    (ho : (LockFile.openAt lock).run u = (.ok e.handles.length, opened u e i)) :
    (stand candidate lockAct).run w =
      (do
        if ← seek e.handles.length lock then
          lead e.handles.length lock candidate
          if candidate.isNumber then Act.note (.lockAcquired lock n)
          return .elected e.handles.length lock n
        else
          let port ← follow e.handles.length lock
          Act.note (.lockHeld lock port)
          return .led lock port : Act Standing).run (opened u e i) := by
  have hopen : (Act.orReport (LockFile.openAt lock) fun r =>
      Act.misconfigured (.lockNotOpened lock r)).run u = (.ok e.handles.length, opened u e i) :=
    run_tryCatch_of_ok ho _
  unfold stand
  rw [run_bind_of_ok (run_whole_of_ok hn w), hp]
  dsimp only
  rw [if_neg (by decide), run_bind_of_ok hl, run_bind_of_ok hopen]

lemma run_stand_unopened {f : Failure} {v : World} (hn : candidate.whole = .ok n)
    (hp : Port.isPublishable n = true) (hl : lockAct.run w = (.ok lock, u))
    (ho : (LockFile.openAt lock).run u = (.error f, v)) :
    ∃ g, (stand candidate lockAct).run w = (.error g, v) := by
  have hopen : ∃ g, (Act.orReport (LockFile.openAt lock) fun r =>
      Act.misconfigured (.lockNotOpened lock r)).run u = (.error g, v) := by
    unfold Act.orReport
    rw [run_tryCatch_of_error ho]
    split
    · split
      · exact ⟨_, rfl⟩
      · exact ⟨_, rfl⟩
    · exact ⟨_, rfl⟩
  obtain ⟨g, hg⟩ := hopen
  refine ⟨g, ?_⟩
  unfold stand
  rw [run_bind_of_ok (run_whole_of_ok hn w), hp]
  dsimp only
  rw [if_neg (by decide), run_bind_of_ok hl, run_bind_of_error hg]

section Free

variable (hn : candidate.whole = .ok n) (hp : Port.isPublishable n = true)
  (hl : lockAct.run w = (.ok lock, u))
  (ho : (LockFile.openAt lock).run u = (.ok e.handles.length, opened u e i))
  (hf : u.faults.lock = none) (he : e.WellFormed) (hh : e.holder? i = none)

include hn hp hl ho hf he hh

/-- A candidate that opens a lock file nobody holds leads. -/
lemma run_stand_taken : (stand candidate lockAct).run w =
    (do
      lead e.handles.length lock candidate
      if candidate.isNumber then Act.note (.lockAcquired lock n)
      return .elected e.handles.length lock n : Act Standing).run (taken u e i) := by
  have hseek := run_seek (i := i) lock hf he
  rw [if_pos hh] at hseek
  rw [run_stand_opened hn hp hl ho, run_bind_of_ok hseek]
  dsimp only
  rw [if_pos rfl]

lemma run_stand_free (hs : u.faults.sync = none) :
    (stand candidate lockAct).run w = (.ok (.elected e.handles.length lock n), { u with
      disk := published e i n
      notices := u.notices ++ if candidate.isNumber then [.lockAcquired lock n] else [] }) := by
  rw [run_stand_taken hn hp hl ho hf he hh,
    run_bind_of_ok (run_lead hn (Port.write?_of_isPublishable hp) hs)]
  cases candidate.isNumber with
  | true => rfl
  | false =>
    rw [if_neg Bool.false_ne_true, if_neg Bool.false_ne_true, List.append_nil]
    rfl

lemma run_stand_unsynced {r : Report} (hs : u.faults.sync = some r) :
    (stand candidate lockAct).run w =
      (.error (if r.isSystem then .misconfigured (.portNotPublished lock r) else .report r),
        { u with disk := (published e i n).close e.handles.length }) := by
  rw [run_stand_taken hn hp hl ho hf he hh]
  exact run_bind_of_error (run_lead_of_fault hn (Port.write?_of_isPublishable hp) hf hs) _

end Free

/-- A candidate that opens a lock file somebody holds learns what the file says. -/
lemma run_stand_held (hn : candidate.whole = .ok n) (hp : Port.isPublishable n = true)
    (hl : lockAct.run w = (.ok lock, u))
    (ho : (LockFile.openAt lock).run u = (.ok e.handles.length, opened u e i))
    (hf : u.faults.lock = none) (hs : u.faults.read = none) (he : e.WellFormed)
    (hh : e.holder? i ≠ none) :
    ∃ ns, (stand candidate lockAct).run w = ((LockFile.portOf (e.content i)).map (.led lock),
      { u with
        disk := (e.openInode i).2.close e.handles.length
        notices := u.notices ++ ns }) := by
  have hseek := run_seek (i := i) lock hf he
  obtain ⟨ns, hport⟩ := LockFile.run_port (e.content i)
    { u with disk := (e.openInode i).2.close e.handles.length }
  rw [if_neg hh] at hseek
  rw [run_stand_opened hn hp hl ho, run_bind_of_ok hseek]
  dsimp only
  rw [if_neg Bool.false_ne_true, run_bind, run_follow hs, hport]
  cases LockFile.portOf (e.content i) with
  | error f => exact ⟨ns, rfl⟩
  | ok port => exact ⟨ns ++ [.lockHeld lock port], by rw [← List.append_assoc]; rfl⟩

section Opened

variable (hn : candidate.whole = .ok n) (hp : Port.isPublishable n = true)
  (hl : lockAct.run w = (.ok lock, w)) (hf : w.faults = {}) (hd : w.disk.WellFormed)

include hn hp hl hf hd

/-- A candidate whose lock file can be opened is elected if nobody holds the lock of the file that its
path leads to. -/
lemma stand_of_unheld {h : Nat} {v : World} (ho : (LockFile.openAt lock).run w = (.ok h, v))
    (hfree : (w.disk.lockFile? lock).bind w.disk.holder? = none) :
    ∃ h v, (stand candidate lockAct).run w = (.ok (.elected h lock n), v) := by
  rcases LockFile.run_openAt_cases lock w with ⟨f, u, hfail, -⟩ | ⟨i, e, ht, hok⟩
  · rw [hfail] at ho
    cases ho
  · have hnone : e.holder? i = none := by rw [ht.quiet.holder, ht.holder?, hfree]
    exact ⟨_, _, run_stand_free hn hp hl hok (by rw [hf]) (ht.quiet.wellFormed hd) hnone (by rw [hf])⟩

/-- A candidate learns what the file says whose lock somebody holds. -/
lemma stand_of_held {h : Nat} {v : World} (ho : (LockFile.openAt lock).run w = (.ok h, v)) {i : Nat}
    (hi : w.disk.lockFile? lock = some i) (hheld : w.disk.holder? i ≠ none) :
    ∃ v, (stand candidate lockAct).run w =
      ((LockFile.portOf (w.disk.content i)).map (.led lock), v) := by
  rcases LockFile.run_openAt_cases lock w with ⟨f, u, hfail, -⟩ | ⟨j, e, ht, hok⟩
  · rw [hfail] at ho
    cases ho
  · obtain rfl : i = j := by
      rcases ht.origin with hj | ⟨hj, -⟩
      · exact Option.some.inj (hi.symm.trans hj)
      · rw [hi] at hj
        cases hj
    have hsome : e.holder? i ≠ none := by rwa [ht.quiet.holder]
    obtain ⟨ns, hstand⟩ :=
      run_stand_held hn hp hl hok (by rw [hf]) (by rw [hf]) (ht.quiet.wellFormed hd) hsome
    rw [ht.quiet.content] at hstand
    exact ⟨_, hstand⟩

end Opened

end Stand

/-! ### Inspections -/

lemma run_openFile_cases (p : Path) (w : World) :
    (∃ f, (openFile p).run w = (.error f, w)) ∨
      ∃ i, w.disk.file p = .ok i ∧
        (openFile p).run w = (.ok w.disk.handles.length, opened w w.disk i) := by
  rw [run_openFile]
  cases Failure.ofName? p.text with
  | some f => exact .inl ⟨f, rfl⟩
  | none =>
    cases w.faults.opening p with
    | some r => exact .inl ⟨_, rfl⟩
    | none =>
      cases w.disk.file p with
      | error x => exact .inl ⟨_, rfl⟩
      | ok i => exact .inr ⟨i, rfl, rfl⟩

/-- An inspection that opens the lock file says whether somebody holds it, and what it says then. -/
lemma run_inspect {u : World} {lockAct : Act Path} (hl : lockAct.run w = (.ok lock, u))
    (ht : (isThere lock).run u = (.ok true, u))
    (ho : (openFile lock).run u = (.ok u.disk.handles.length, opened u u.disk i))
    (hf : u.faults = {}) (hd : u.disk.WellFormed) :
    (u.disk.holder? i = none → (inspect lockAct).run w = (.ok ⟨false, none, lock⟩,
      { u with disk := (taken u u.disk i).disk.close u.disk.handles.length })) ∧
    (u.disk.holder? i ≠ none → ∃ ns, (inspect lockAct).run w =
      ((LockFile.portOf (u.disk.content i)).map (⟨true, ·, lock⟩),
        { u with
          disk := (u.disk.openInode i).2.close u.disk.handles.length
          notices := u.notices ++ ns })) := by
  have htake := run_take_opened (w := u) (i := i) (by rw [hf]) hd
  unfold inspect
  rw [run_bind_of_ok hl, run_bind_of_ok ht, if_neg (by decide), run_bind_of_ok ho, run_ensuring,
    run_tryCatch, run_bind]
  constructor
  · intro hh
    rw [if_pos hh] at htake
    rw [htake]
    rfl
  · intro hh
    rw [if_neg hh] at htake
    obtain ⟨ns, hport⟩ := LockFile.run_port (u.disk.content i) (opened u u.disk i)
    have hreads : (opened u u.disk i).faults.inspect = none := congrArg Faults.inspect hf
    rw [htake]
    dsimp only
    rw [run_bind_of_ok (run_mayFail_of_none hreads), LockFile.contents, run_bind,
      run_bind_of_ok (run_disk _), unread_opened, run_pure]
    dsimp only
    rw [run_bind, hport]
    cases LockFile.portOf (u.disk.content i) with
    | error f => exact ⟨ns, rfl⟩
    | ok port => exact ⟨ns, rfl⟩

end Election

end SharedVm
