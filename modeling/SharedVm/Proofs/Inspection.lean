import SharedVm.Proofs.Election

/-!
# Inspections

An inspection says what the disk says: whether somebody holds the lock of the file at a path, and
which port the file announces then. It takes the lock for a moment if nobody has it. All that is
left of it is a handle that is closed.
-/

namespace SharedVm

open Act

namespace Disk

/-- Nothing that was there is different, and nothing is new but handles that are closed. -/
structure Untouched (d e : Disk) : Prop extends Quiet d e where
  same : e = { d with handles := e.handles }

variable {d e : Disk} {p : Path} {i : Nat}

lemma Untouched.refl (d : Disk) : d.Untouched d := ⟨.refl d, rfl⟩

lemma follow_congr (he : e.entryAt? = d.entryAt?) (names : List Text) (here : Location) :
    e.follow here names = d.follow here names := by
  induction names generalizing here with
  | nil => rfl
  | cons name rest ih => rw [follow, follow, he, ih]

lemma Untouched.entryAt? (h : d.Untouched e) : e.entryAt? = d.entryAt? := by
  rw [h.same]
  rfl

lemma Untouched.origin (h : d.Untouched e) : e.origin = d.origin := by
  rw [h.same]
  rfl

lemma Untouched.file (h : d.Untouched e) : e.file p = d.file p := by
  unfold Disk.file stat locate look
  rw [follow_congr h.entryAt?, h.origin, h.entryAt?]

lemma Untouched.leadsDown (h : d.Untouched e) (hp : d.LeadsDown p) : e.LeadsDown p := by
  obtain ⟨front, rest, place, hnames, hfront, hrest⟩ := hp
  refine ⟨front, rest, place, hnames, ?_, hrest⟩
  rw [follow_congr h.entryAt?, h.origin, hfront]

/-- A lock that is taken and given up was free before and is free again. -/
lemma modify_lock_unlock {xs : List Inode} (hf : xs[i]?.bind (·.holder) = none) (h : Nat) :
    (xs.modify i ({ · with holder := some h })).modify i ({ · with holder := none }) = xs := by
  refine List.ext_getElem? fun j => ?_
  rw [List.getElem?_modify, List.getElem?_modify]
  by_cases hj : i = j
  · subst hj
    cases hx : xs[i]? with
    | none => simp
    | some x =>
      rw [hx, Option.bind_some] at hf
      simp [← hf]
  · simp [hj]

lemma untouched_openInode_close (hd : d.WellFormed) (hi : i < d.inodes.length) :
    d.Untouched ((d.openInode i).2.close d.handles.length) where
  toQuiet := quiet_openInode_close hd hi
  same := by
    have hx : (d.openInode i).2.handle? d.handles.length = some { inode := i } := by
      simp [openInode, handle?]
    have hn : (d.openInode i).2.holder? i ≠ some d.handles.length := fun hh =>
      Nat.lt_irrefl _ (hd.holder (i := i) hh)
    rw [close, unlock, hx]
    dsimp only
    rw [if_neg hn]
    rfl

lemma untouched_openInode_lock_close (hd : d.WellFormed) (hi : i < d.inodes.length)
    (hf : d.holder? i = none) :
    d.Untouched (((d.openInode i).2.modifyInode i ({ · with holder := some d.handles.length })).close
      d.handles.length) where
  toQuiet := quiet_openInode_lock_close hd hi hf
  same := by
    have hx : (d.openInode i).2.handle? d.handles.length = some { inode := i } := by
      simp [openInode, handle?]
    obtain ⟨y, hy⟩ := inode?_of_lt hi
    have hh : ((d.openInode i).2.modifyInode i
        ({ · with holder := some d.handles.length })).holder? i = some d.handles.length := by
      rw [holder?_modifyInode, if_pos rfl]
      change (d.inode? i).bind _ = _
      rw [hy]
      rfl
    have hfree : d.inodes[i]?.bind (·.holder) = none := hf
    rw [close, unlock, handle?_modifyInode, hx]
    dsimp only
    rw [if_pos hh]
    unfold modifyHandle modifyInode openInode
    dsimp only
    rw [modify_lock_unlock hfree]

/-- What an inspection of a path says. -/
def leadership (d : Disk) (lock : Path) : Except Failure Leadership :=
  match d.file lock with
  | .error _ => .ok ⟨false, none, lock⟩
  | .ok i =>
    if d.holder? i = none then .ok ⟨false, none, lock⟩
    else (LockFile.portOf (d.content i)).map (⟨true, ·, lock⟩)

/-- Before a file is touched it is there, or nothing is there. -/
lemma Touched.stat (ht : d.Touched e p i) :
    d.stat p = .ok (.file i) ∨ ∃ x, d.stat p = .error x ∧ x ≠ .nameTooLong := by
  obtain ⟨place, hl, hp⟩ := file_eq_ok_iff.1 ht.file
  cases hd : d.locate p with
  | error x =>
    refine .inr ⟨x, by simp [Disk.stat, hd, bind, Except.bind], ?_⟩
    rintro rfl
    have he := locate_eq_of_directories (fun _ hq => ht.quiet.entry hq) ht.quiet.workDir hd
      (by simp) (by simp)
    rw [hl] at he
    cases he
  | ok q =>
    obtain rfl : q = place := Except.ok.inj
      ((locate_of_directories ht.quiet.workDir (fun _ hq => ht.quiet.entry hq) hd).symm.trans hl)
    cases hq : d.entryAt? q with
    | none =>
      refine .inr ⟨.notFound, ?_, by decide⟩
      simp [Disk.stat, hd, look, hq, bind, Except.bind]
    | some x =>
      obtain rfl : x = .file i := Option.some.inj ((ht.quiet.entry hq).symm.trans hp)
      exact .inl (by simp [Disk.stat, hd, look, hq, bind, Except.bind])

lemma file_of_stat (h : d.stat p = .ok (.file i)) : d.file p = .ok i := by
  rw [file, h]
  rfl

lemma stat_of_file (h : d.file p = .ok i) : d.stat p = .ok (.file i) := by
  unfold file at h
  cases hs : d.stat p with
  | error x => simp [hs, bind, Except.bind] at h
  | ok x =>
    cases x with
    | directory => simp [hs, bind, Except.bind] at h
    | file j =>
      simp only [hs, bind, Except.bind, Except.ok.injEq] at h
      rw [h]

end Disk

section There

variable {w : World} {p : Path} {i : Nat} (hn : Failure.ofName? p.text = none)
  (hf : w.disk.file p = .ok i)

include hn hf

lemma Act.run_isThere_of_file (hs : w.faults.stat p = none) :
    (isThere p).run w = (.ok true, w) := by
  rw [run_isThere, hn, hs]
  dsimp only
  rw [Disk.stat_of_file hf]

lemma Act.run_openFile_of_file (ho : w.faults.opening p = none) :
    (openFile p).run w = (.ok w.disk.handles.length, Election.opened w w.disk i) := by
  rw [run_openFile, hn, ho]
  dsimp only
  rw [hf]
  rfl

end There

lemma Act.isThere_cases {p : Path} (hn : Failure.ofName? p.text = none) (w : World) :
    (∃ r, w.faults.stat p = some r ∧ r.isAbsence = false ∧
        (isThere p).run w = (.error (.report r), w)) ∨
      (isThere p).run w = (.error (.report (DiskError.nameTooLong.report p.text)), w) ∧
        w.disk.file p = .error .nameTooLong ∨
      (isThere p).run w = (.ok false, w) ∨
      (isThere p).run w = (.ok true, w) ∧ ∃ e, w.disk.stat p = .ok e := by
  rw [run_isThere, hn]
  cases w.faults.stat p with
  | some r =>
    cases ha : r.isAbsence with
    | true => exact .inr (.inr (.inl (by dsimp only; rw [if_pos ha])))
    | false => exact .inl ⟨r, rfl, ha, by dsimp only; rw [if_neg (Bool.eq_false_iff.1 ha)]⟩
  | none =>
    cases hs : w.disk.stat p with
    | ok e => exact .inr (.inr (.inr ⟨rfl, e, rfl⟩))
    | error x =>
      cases x with
      | nameTooLong => exact .inr (.inl ⟨rfl, by rw [Disk.file, hs]; rfl⟩)
      | _ => exact .inr (.inr (.inl rfl))

namespace Disk

/-- There is a file at the path, or one can be made there with the directories above it. -/
def Admits (d : Disk) (lock : Path) : Prop :=
  Failure.ofName? lock.text = none ∧ ((∃ i, d.file lock = .ok i) ∨
    (d.makeDirectories lock.parent).1 = none ∧
      ∃ found, (d.makeDirectories lock.parent).2.touch lock = .ok found)

/-- Nobody holds the lock of the file that the path leads to once the directories above it have been
made. -/
def IsFree (d : Disk) (lock : Path) : Prop := (d.lockFile? lock).bind d.holder? = none

variable {d e : Disk} {lock : Path} {found : Leadership}

lemma Admits.opens {w : World} (h : w.disk.Admits lock) (hf : w.faults = {})
    (hd : w.disk.WellFormed) : ∃ k v, (LockFile.openAt lock).run w = (.ok k, v) := by
  obtain ⟨hn, ⟨i, hi⟩ | ⟨hm, touched, ht⟩⟩ := h
  · exact ⟨_, _, LockFile.run_openAt_of_file hf hd hn hi⟩
  · have hmake : (Act.makeDirectories lock.parent).run w =
        (.ok (), { w with disk := (w.disk.makeDirectories lock.parent).2 }) := by
      have hmaking : w.faults.making lock.parent = none := by rw [hf]
      unfold Act.makeDirectories
      rw [run_bind_of_ok (run_checkPath_of_name (Path.ofName?_parent hn) w),
        run_bind_of_ok (run_get w), hmaking]
      dsimp only
      rw [run_bind_of_ok (run_disk w)]
      rcases hr : w.disk.makeDirectories lock.parent with ⟨failed, e⟩
      rw [hr] at hm
      subst hm
      rfl
    have hopen : w.faults.opening lock = none := by rw [hf]
    unfold LockFile.openAt
    rw [run_bind_of_ok hmake, run_bind_of_ok (run_checkPath_of_name hn _),
      run_bind_of_ok (run_mayFail_of_none hopen), run_bind_of_ok (run_disk _), ht]
    exact ⟨_, _, rfl⟩

lemma admits_of_opens {w v : World} {k : Nat}
    (hopen : (LockFile.openAt lock).run w = (.ok k, v)) : w.disk.Admits lock := by
  have hname := LockFile.name_of_openAt hopen
  rcases run_makeDirectories_cases lock.parent w with ⟨f, u, hm, -⟩ | ⟨hnone, hm⟩
  · unfold LockFile.openAt at hopen
    rw [run_bind_of_error hm] at hopen
    cases hopen
  · refine ⟨hname, .inr ⟨hnone, ?_⟩⟩
    unfold LockFile.openAt at hopen
    rw [run_bind_of_ok hm, run_bind_of_ok (run_checkPath_of_name hname _)] at hopen
    cases hr : w.faults.opening lock with
    | some r =>
      rw [run_bind_of_error (run_mayFail_of_some hr)] at hopen
      cases hopen
    | none =>
      rw [run_bind_of_ok (run_mayFail_of_none hr), run_bind_of_ok (run_disk _)] at hopen
      cases ht : (w.disk.makeDirectories lock.parent).2.touch lock with
      | error x =>
        rw [ht] at hopen
        cases hopen
      | ok found => exact ⟨found, rfl⟩

lemma leadership_cases (h : d.leadership lock = .ok found) :
    found = ⟨false, none, lock⟩ ∧ (∀ i, d.file lock = .ok i → d.holder? i = none) ∨
      ∃ i port, found = ⟨true, port, lock⟩ ∧ d.file lock = .ok i ∧ d.holder? i ≠ none ∧
        LockFile.portOf (d.content i) = .ok port := by
  unfold leadership at h
  cases hfile : d.file lock with
  | error x =>
    rw [hfile] at h
    exact .inl ⟨(Except.ok.inj h).symm, fun _ => nofun⟩
  | ok i =>
    rw [hfile] at h
    dsimp only at h
    by_cases hh : d.holder? i = none
    · rw [if_pos hh] at h
      refine .inl ⟨(Except.ok.inj h).symm, fun j hj => ?_⟩
      rwa [← Except.ok.inj hj]
    · rw [if_neg hh] at h
      cases hp : LockFile.portOf (d.content i) with
      | error f =>
        rw [hp] at h
        cases h
      | ok port =>
        rw [hp] at h
        exact .inr ⟨i, port, (Except.ok.inj h).symm, rfl, hh, hp⟩

lemma Untouched.leadership (h : d.Untouched e) : e.leadership lock = d.leadership lock := by
  unfold Disk.leadership
  rw [h.file, h.holder, h.content]

/-- A file with too many digits in it is the only one that tells nothing. -/
lemma exists_leadership
    (hs : ∀ i n, d.file lock = .ok i → Published.ofBytes (d.content i) ≠ .error (.tooLong n)) :
    ∃ found, d.leadership lock = .ok found := by
  unfold leadership
  cases hfile : d.file lock with
  | error x => exact ⟨_, rfl⟩
  | ok i =>
    dsimp only
    split
    · exact ⟨_, rfl⟩
    · obtain ⟨announced, hport⟩ := LockFile.exists_portOf fun n => hs i n hfile
      rw [hport]
      exact ⟨_, rfl⟩

/-- Where nobody leads, the lock is free that a candidate takes, unless the path leads back out of a
directory that is not there yet. -/
lemma free_of_leadership (hd : d.WellFormed) (h : d.leadership lock = .ok found)
    (hl : found.leader = false) (hp : d.LeadsDown lock) : d.IsFree lock := by
  rcases leadership_cases h with ⟨-, hfree⟩ | ⟨i, port, rfl, -⟩
  · unfold IsFree
    rw [lockFile?_of_leadsDown hd hp]
    cases hfile : d.file lock with
    | error x => rfl
    | ok i => exact hfree i hfile
  · cases hl

end Disk

namespace Election

variable {w : World} {lock : Path} {path : Act Path}

/-- What an inspection of a lock file fails with instead of telling it. -/
inductive Uninspected (w : World) (lock : Path) : Failure → Prop where
  | asking {r : Report} (fault : w.faults.stat lock = some r) (reason : r.isAbsence = false) :
      Uninspected w lock (.report r)
  | place {x : DiskError} (blocked : w.disk.file lock = .error x)
      (reason : x = .isDirectory ∨ x = .nameTooLong) :
      Uninspected w lock (.report (x.report lock.text))
  | opening {e : Entry} {r : Report} (there : w.disk.stat lock = .ok e)
      (fault : w.faults.opening lock = some r) : Uninspected w lock (.report r)
  | lock {i : Nat} {r : Report} (file : w.disk.file lock = .ok i) (fault : w.faults.lock = some r)
      (refusal : r.isRefusal = false) : Uninspected w lock (.report r)
  | reading {i : Nat} {r : Report} (file : w.disk.file lock = .ok i)
      (fault : w.faults.inspect = some r) : Uninspected w lock (.report r)
  | digits {i n : Nat} (file : w.disk.file lock = .ok i)
      (tooLong : Published.ofBytes (w.disk.content i) = .error (.tooLong n)) :
      Uninspected w lock (.notWhole (.tooLong n))

variable {f : Failure}

/-- What an inspection does with the lock file that it has opened. -/
def look (h : Nat) (lock : Path) : Act Leadership :=
  tryCatch (do LockFile.take h false; return ⟨false, none, lock⟩) fun f => match f with
    | .lockUnavailable _ => do
      Act.mayFail (·.inspect)
      return ⟨true, ← LockFile.port (← LockFile.contents h), lock⟩
    | f => throw f

lemma uninspected_of_open {i : Nat} (hf : w.disk.file lock = .ok i)
    (h : ((look w.disk.handles.length lock).run (opened w w.disk i)).1 = .error f) :
    Uninspected w lock f := by
  unfold look at h
  rw [run_tryCatch, run_bind] at h
  rcases LockFile.run_take_cases (isOpen_opened w w.disk i) with
    ⟨m, ht⟩ | ⟨r, hr, hrefusal, ht⟩ | ⟨d, -, -, ht⟩
  · rw [ht] at h
    dsimp only at h
    cases hread : w.faults.inspect with
    | some r =>
      have hreads : (opened w w.disk i).faults.inspect = some r := hread
      rw [run_bind_of_error (run_mayFail_of_some hreads)] at h
      cases h
      exact .reading hf hread
    | none =>
      have hreads : (opened w w.disk i).faults.inspect = none := hread
      obtain ⟨ns, hport⟩ := LockFile.run_port (w.disk.content i) (opened w w.disk i)
      rw [run_bind_of_ok (run_mayFail_of_none hreads), LockFile.contents, run_bind,
        run_bind_of_ok (run_disk _), unread_opened, run_pure] at h
      dsimp only at h
      rw [run_bind, hport] at h
      cases hp : LockFile.portOf (w.disk.content i) with
      | ok announced =>
        rw [hp] at h
        cases h
      | error g =>
        rw [hp] at h
        cases h
        obtain ⟨n, hn, rfl⟩ := LockFile.tooLong_of_portOf hp
        exact .digits hf hn
  · rw [ht] at h
    cases h
    exact .lock hf hr hrefusal
  · rw [ht] at h
    cases h

/-- An inspection fails because the lock file cannot be asked for, opened or read, because of what is
in its place, because the lock cannot be tried, or because of too many digits. -/
theorem uninspected (hn : Failure.ofName? lock.text = none) (hl : path.run w = (.ok lock, w))
    (h : ((inspect path).run w).1 = .error f) : Uninspected w lock f := by
  unfold inspect at h
  rw [run_bind_of_ok hl] at h
  rcases isThere_cases hn w with ⟨r, hfault, hr, hrun⟩ | ⟨hrun, hf⟩ | hrun | ⟨hrun, e, hs⟩
  · rw [run_bind_of_error hrun] at h
    cases h
    exact .asking hfault hr
  · rw [run_bind_of_error hrun] at h
    cases h
    exact .place hf (.inr rfl)
  · rw [run_bind_of_ok hrun] at h
    cases h
  · rw [run_bind_of_ok hrun, if_neg (by decide), run_bind, run_openFile, hn] at h
    cases hopen : w.faults.opening lock with
    | some r =>
      rw [hopen] at h
      cases h
      exact .opening hs hopen
    | none =>
      rw [hopen] at h
      dsimp only at h
      cases e with
      | directory =>
        have hf : w.disk.file lock = .error .isDirectory := by
          rw [Disk.file, hs]
          rfl
        rw [hf] at h
        cases h
        exact .place hf (.inl rfl)
      | file i =>
        have hf := Disk.file_of_stat hs
        rw [hf] at h
        dsimp only at h
        rw [run_ensuring] at h
        exact uninspected_of_open hf h

/-- An inspection says what is on the disk, and changes nothing there. -/
theorem inspect_faithful (hf : w.faults = {}) (hd : w.disk.WellFormed)
    (hl : path.run w = (.ok lock, w)) (ha : w.disk.Admits lock) :
    ∃ v, (inspect path).run w = (w.disk.leadership lock, v) ∧ w.Local v ∧
      w.disk.Untouched v.disk ∧ v.disk.Admits lock := by
  obtain ⟨hn, hadmits⟩ := ha
  unfold Disk.leadership
  cases hfile : w.disk.file lock with
  | ok i =>
    have hi : i < w.disk.inodes.length := by
      obtain ⟨place, -, hp⟩ := Disk.file_eq_ok_iff.1 hfile
      exact hd.file hp
    have hstill : ∀ e, w.disk.Untouched e → e.Admits lock := fun e he =>
      ⟨hn, .inl ⟨i, he.file.trans hfile⟩⟩
    have hthere := run_isThere_of_file hn hfile (by rw [hf])
    have hopen := run_openFile_of_file hn hfile (by rw [hf])
    obtain ⟨hfree, hheld⟩ := run_inspect hl hthere hopen hf hd
    dsimp only
    by_cases hh : w.disk.holder? i = none
    · rw [if_pos hh]
      have hsame := Disk.untouched_openInode_lock_close hd hi hh
      exact ⟨_, hfree hh, rfl, hsame, hstill _ hsame⟩
    · rw [if_neg hh]
      obtain ⟨ns, hrun⟩ := hheld hh
      have hsame := Disk.untouched_openInode_close hd hi
      exact ⟨_, hrun, rfl, hsame, hstill _ hsame⟩
  | error x =>
    obtain ⟨⟨i, e⟩, ht⟩ : ∃ found, (w.disk.makeDirectories lock.parent).2.touch lock = .ok found := by
      rcases hadmits with ⟨i, hi⟩ | ⟨-, htouch⟩
      · rw [hi] at hfile
        cases hfile
      · exact htouch
    have hthere : (isThere lock).run w = (.ok false, w) := by
      rcases (Disk.touched_of_touch ht).stat with hs | ⟨y, hs, hy⟩
      · rw [Disk.file_of_stat hs] at hfile
        cases hfile
      · rw [run_isThere, hn, hf]
        dsimp only
        rw [hs]
        cases y with
        | nameTooLong => exact absurd rfl hy
        | _ => rfl
    refine ⟨w, ?_, refl_of World.Local w, .refl w.disk, hn, hadmits⟩
    unfold inspect
    rw [run_bind_of_ok hl, run_bind_of_ok hthere]
    rfl

end Election

end SharedVm
