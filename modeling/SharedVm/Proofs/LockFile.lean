import SharedVm.Proofs.Decimal
import SharedVm.Proofs.Disk.Reopen
import SharedVm.Proofs.Quiet

/-!
# What is done with lock files

Opening, taking, publishing and giving up, each as an equation between the worlds before and after,
where no call fails of itself. A lock file that is opened is the one that its path led to, or a new
one that nobody holds.
-/

namespace SharedVm

open Act

variable {w : World} {h : Nat}

/-- The disk of a world with a file that has been touched, and the file. -/
structure Disk.Touched (d e : Disk) (lock : Path) (i : Nat) : Prop where
  quiet : d.Quiet e
  file : e.file lock = .ok i
  origin : d.lockFile? lock = some i ∨ d.lockFile? lock = none ∧ d.inodes.length ≤ i

lemma Disk.Touched.holder? {d e : Disk} {lock : Path} {i : Nat} (ht : d.Touched e lock i) :
    d.holder? i = (d.lockFile? lock).bind d.holder? := by
  rcases ht.origin with ho | ⟨ho, hi⟩
  · rw [ho, Option.bind_some]
  · rw [ho, holder?_of_ge hi]
    rfl

lemma Act.run_checkPath_cases (t : Text) (w : World) :
    (∃ f, (checkPath t).run w = (.error f, w)) ∨ (checkPath t).run w = (.ok (), w) := by
  unfold checkPath
  split
  · exact .inl ⟨_, rfl⟩
  · exact .inr rfl

lemma Act.run_checkPath_of_name {t : Text} (hn : Failure.ofName? t = none) (w : World) :
    (checkPath t).run w = (.ok (), w) := by
  unfold checkPath
  rw [hn]
  rfl

lemma Act.run_makeDirectories_cases (p : Path) (w : World) :
    (∃ f v, (makeDirectories p).run w = (.error f, v) ∧ w.Quiet v) ∨
      (w.disk.makeDirectories p).1 = none ∧
        (makeDirectories p).run w = (.ok (), { w with disk := (w.disk.makeDirectories p).2 }) := by
  unfold makeDirectories
  rcases run_checkPath_cases p.text w with ⟨f, hc⟩ | hc
  · exact .inl ⟨f, w, run_bind_of_error hc _, refl_of World.Quiet w⟩
  · rw [run_bind_of_ok hc, run_bind_of_ok (run_get w)]
    cases hr : w.faults.making p with
    | some r =>
      rcases run_settleDirectory p r w with hs | ⟨r', -, hs⟩ | ⟨hdir, hs⟩
      · exact .inl ⟨_, w, hs, refl_of World.Quiet w⟩
      · exact .inl ⟨_, w, hs, refl_of World.Quiet w⟩
      · rw [Disk.makeDirectories_of_isDirectory hdir]
        exact .inr ⟨rfl, hs⟩
    | none =>
      dsimp only
      rw [run_bind_of_ok (run_disk w)]
      have hq : w.Quiet { w with disk := (w.disk.makeDirectories p).2 } :=
        ⟨Disk.quiet_makeDirectories w.disk p, rfl⟩
      rcases hm : w.disk.makeDirectories p with ⟨failed, d⟩
      rw [hm] at hq
      cases failed with
      | none => exact .inr ⟨rfl, rfl⟩
      | some x => exact .inl ⟨_, _, rfl, hq⟩

lemma Disk.touched_of_touch {d e : Disk} {lock : Path} {i : Nat}
    (ht : (d.makeDirectories lock.parent).2.touch lock = .ok (i, e)) : d.Touched e lock i := by
  have hq := quiet_makeDirectories d lock.parent
  obtain ⟨place, hl, he, hquiet, ⟨hp, rfl⟩ | ⟨hp, rfl⟩⟩ := touch_cases ht
  · refine ⟨hq, file_eq_ok_iff.2 ⟨place, hl, he⟩, .inl ?_⟩
    exact lockFile?_eq_some_iff.2 (file_eq_ok_iff.2 ⟨place, hl, hp⟩)
  · refine ⟨hq.trans hquiet, file_eq_ok_iff.2 ⟨place, ?_, he⟩, .inr ⟨?_, hq.inodes⟩⟩
    · exact locate_of_directories hquiet.workDir (fun _ h => hquiet.entry h) hl
    · rw [Option.eq_none_iff_forall_ne_some]
      intro j hj
      obtain ⟨place', hl', hp'⟩ := file_eq_ok_iff.1 (lockFile?_eq_some_iff.1 hj)
      obtain rfl : place = place' := Except.ok.inj (hl.symm.trans hl')
      rw [hp] at hp'
      cases hp'

lemma Disk.isOpen_of_lock {d e : Disk} {h : Nat} (hl : d.lock h = some e) :
    e.isOpen h = d.isOpen h := by
  unfold lock at hl
  split at hl
  · cases hl
  · split at hl
    · split at hl
      · cases hl
        rfl
      · cases hl
    · cases hl
      rfl

namespace LockFile

/-- A lock file is opened where its path leads to once the directories above it have been made. -/
lemma run_openAt_cases (lock : Path) (w : World) :
    (∃ f v, (openAt lock).run w = (.error f, v) ∧ w.Quiet v) ∨
      ∃ i e, w.disk.Touched e lock i ∧
        (openAt lock).run w = (.ok e.handles.length, { w with disk := (e.openInode i).2 }) := by
  unfold openAt
  rcases run_makeDirectories_cases lock.parent w with ⟨f, v, hm, hv⟩ | ⟨-, hm⟩
  · exact .inl ⟨f, v, run_bind_of_error hm _, hv⟩
  · have hq : w.Quiet { w with disk := (w.disk.makeDirectories lock.parent).2 } :=
      ⟨Disk.quiet_makeDirectories w.disk lock.parent, rfl⟩
    rw [run_bind_of_ok hm]
    rcases run_checkPath_cases lock.text _ with ⟨f, hc⟩ | hc
    · exact .inl ⟨f, _, run_bind_of_error hc _, hq⟩
    · rw [run_bind_of_ok hc]
      cases hr : w.faults.opening lock with
      | some r => exact .inl ⟨_, _, run_bind_of_error (run_mayFail_of_some hr) _, hq⟩
      | none =>
        rw [run_bind_of_ok (run_mayFail_of_none hr), run_bind_of_ok (run_disk _)]
        cases ht : (w.disk.makeDirectories lock.parent).2.touch lock with
        | error x => exact .inl ⟨_, _, rfl, hq⟩
        | ok found => exact .inr ⟨found.1, found.2, Disk.touched_of_touch ht, rfl⟩

/-- A lock file that is there can be opened again. -/
lemma run_openAt_of_file {lock : Path} {i : Nat} (hfaults : w.faults = {})
    (hd : w.disk.WellFormed) (hn : Failure.ofName? lock.text = none)
    (hf : w.disk.file lock = .ok i) :
    (openAt lock).run w = (.ok w.disk.handles.length, { w with disk := (w.disk.openInode i).2 }) := by
  obtain ⟨q, hl, hq⟩ := Disk.directory_of_file hd hn hf
  have hmake : (makeDirectories lock.parent).run w = (.ok (), w) := by
    unfold makeDirectories
    rw [run_bind_of_ok (run_checkPath_of_name (Path.ofName?_parent hn) w),
      run_bind_of_ok (run_get w), hfaults]
    dsimp only
    rw [run_bind_of_ok (run_disk w), Disk.makeDirectories_of_directory hl hq]
    rfl
  have hopen : w.faults.opening lock = none := by rw [hfaults]
  unfold openAt
  rw [run_bind_of_ok hmake, run_bind_of_ok (run_checkPath_of_name hn w),
    run_bind_of_ok (run_mayFail_of_none hopen), run_bind_of_ok (run_disk w), Disk.touch_of_file hf]
  rfl

/-- What can be opened has a name that the operating system takes. -/
lemma name_of_openAt {lock : Path} {k : Nat} {v : World} (h : (openAt lock).run w = (.ok k, v)) :
    Failure.ofName? lock.text = none := by
  unfold openAt at h
  rcases run_makeDirectories_cases lock.parent w with ⟨f, u, hm, -⟩ | ⟨-, hm⟩
  · rw [run_bind_of_error hm] at h
    cases h
  · rw [run_bind_of_ok hm, run_bind] at h
    cases hn : Failure.ofName? lock.text with
    | none => rfl
    | some f =>
      unfold checkPath at h
      rw [hn] at h
      cases h

/-- What the contents of a lock file come to. -/
def portOf (bs : Bytes) : Except Failure (Option Nat) :=
  match Published.ofBytes bs with
  | .error (.tooLong n) => .error (.notWhole (.tooLong n))
  | .error .malformed => .ok none
  | .ok p => .ok p.port?

/-- Contents with too many digits in them are the only ones that tell nothing. -/
lemma tooLong_of_portOf {bs : Bytes} {f : Failure} (h : portOf bs = .error f) :
    ∃ n, Published.ofBytes bs = .error (.tooLong n) ∧ f = .notWhole (.tooLong n) := by
  unfold portOf at h
  cases hp : Published.ofBytes bs with
  | ok p =>
    rw [hp] at h
    cases h
  | error x =>
    rw [hp] at h
    cases x with
    | malformed => cases h
    | tooLong n => exact ⟨n, rfl, (Except.error.inj h).symm⟩

lemma exists_portOf {bs : Bytes} (h : ∀ n, Published.ofBytes bs ≠ .error (.tooLong n)) :
    ∃ announced, portOf bs = .ok announced := by
  cases hp : portOf bs with
  | ok announced => exact ⟨announced, rfl⟩
  | error f =>
    obtain ⟨n, hn, -⟩ := tooLong_of_portOf hp
    exact absurd hn (h n)

lemma portOf_encode {n : Int} (hn : Decimal.write? n = some (Decimal.ofInt n)) :
    portOf (Utf8.encode (Decimal.ofInt n)) = .ok (Port.usable? n) := by
  obtain ⟨p, hp, husable⟩ := Published.ofBytes_encode_ofInt n ((Decimal.write?_eq_some_iff n).1 hn)
  rw [portOf, hp, ← husable]

lemma run_port (bs : Bytes) (w : World) :
    ∃ ns, (port bs).run w = (portOf bs, { w with notices := w.notices ++ ns }) := by
  have hsame : w = { w with notices := w.notices ++ [] } := by rw [List.append_nil]
  unfold port portOf
  cases Published.ofBytes bs with
  | error x =>
    cases x with
    | tooLong n => exact ⟨[], congrArg _ hsame⟩
    | malformed => exact ⟨[], congrArg _ hsame⟩
  | ok p =>
    cases p with
    | malformed t => exact ⟨_, rfl⟩
    | reserved n => exact ⟨_, rfl⟩
    | pastLast n => exact ⟨_, rfl⟩
    | port n => exact ⟨[], congrArg _ hsame⟩
    | blank => exact ⟨[], congrArg _ hsame⟩

lemma run_close (h : Nat) (w : World) :
    (close h).run w = (.ok (), { w with disk := w.disk.close h }) := rfl

lemma run_take (hf : w.faults.lock = none) (ho : w.disk.isOpen h = true) :
    (take h false).run w = match w.disk.lock h with
      | some d => (.ok (), { w with disk := d })
      | none => (.error (.lockUnavailable Report.contended.message), w) := by
  unfold take
  rw [run_bind_of_ok (run_disk w), ho]
  dsimp only
  rw [if_neg (by decide), run_bind_of_ok (run_get w), hf]
  dsimp only
  rw [run_bind_of_ok (run_disk w)]
  cases w.disk.lock h with
  | none => rfl
  | some d => rfl

lemma run_take_cases (ho : w.disk.isOpen h = true) :
    (∃ m, (take h false).run w = (.error (.lockUnavailable m), w)) ∨
      (∃ r, w.faults.lock = some r ∧ r.isRefusal = false ∧
        (take h false).run w = (.error (.report r), w)) ∨
      ∃ d, w.faults.lock = none ∧ d.isOpen h = true ∧
        (take h false).run w = (.ok (), { w with disk := d }) := by
  unfold take
  rw [run_bind_of_ok (run_disk w), ho]
  dsimp only
  rw [if_neg (by decide), run_bind_of_ok (run_get w)]
  cases hf : w.faults.lock with
  | some r =>
    dsimp only
    cases hr : r.isRefusal with
    | true => exact .inl ⟨_, rfl⟩
    | false => exact .inr (.inl ⟨r, rfl, hr, rfl⟩)
  | none =>
    dsimp only
    rw [run_bind_of_ok (run_disk w)]
    cases hl : w.disk.lock h with
    | some d => exact .inr (.inr ⟨d, rfl, (Disk.isOpen_of_lock hl).trans ho, rfl⟩)
    | none => exact .inl ⟨_, rfl⟩

lemma run_publish_closed (ho : w.disk.isOpen h = false) (port : Value) :
    (publish h port).run w = (.error .seekClosed, w) := by
  unfold publish
  rw [run_bind_of_ok (run_disk w), ho]
  rfl

section Publish

variable (ho : w.disk.isOpen h = true) {port : Value} {n : Int}

include ho

lemma run_publish_of_error {x : WholeError} (hn : port.whole = .error x) :
    (publish h port).run w =
      (.error (.notWhole x), { w with disk := (w.disk.rewind h).truncate h }) := by
  unfold publish
  rw [run_bind_of_ok (run_disk w), ho]
  dsimp only
  rw [if_neg (by decide), run_bind_of_ok (run_disk w), run_bind_of_ok (run_setDisk _ w),
    run_bind_of_error (run_whole hn _)]

lemma run_publish_of_none (hn : port.whole = .ok n) (hw : Decimal.write? n = none) :
    (publish h port).run w =
      (.error .digitsToWrite, { w with disk := (w.disk.rewind h).truncate h }) := by
  unfold publish
  rw [run_bind_of_ok (run_disk w), ho]
  dsimp only
  rw [if_neg (by decide), run_bind_of_ok (run_disk w), run_bind_of_ok (run_setDisk _ w),
    run_bind_of_ok (run_whole_of_ok hn _), hw]
  rfl

section Written

variable (hn : port.whole = .ok n) (hw : Decimal.write? n = some (Decimal.ofInt n))

include hn hw

lemma run_publish_writes : (publish h port).run w = (mayFail (·.sync)).run
    { w with disk := ((w.disk.rewind h).truncate h).write h (Utf8.encode (Decimal.ofInt n)) } := by
  unfold publish
  rw [run_bind_of_ok (run_disk w), ho]
  dsimp only
  rw [if_neg (by decide), run_bind_of_ok (run_disk w), run_bind_of_ok (run_setDisk _ w),
    run_bind_of_ok (run_whole_of_ok hn _), hw]
  dsimp only
  rw [run_bind_of_ok (run_disk _), run_bind_of_ok (run_setDisk _ _)]

lemma run_publish (hf : w.faults.sync = none) :
    (publish h port).run w = (.ok (),
      { w with disk := ((w.disk.rewind h).truncate h).write h (Utf8.encode (Decimal.ofInt n)) }) := by
  rw [run_publish_writes ho hn hw, run_mayFail_of_none (by exact hf)]

/-- What has been written stays written if it cannot be made to last. -/
lemma run_publish_of_fault {r : Report} (hf : w.faults.sync = some r) :
    (publish h port).run w = (.error (.report r),
      { w with disk := ((w.disk.rewind h).truncate h).write h (Utf8.encode (Decimal.ofInt n)) }) := by
  rw [run_publish_writes ho hn hw, run_mayFail_of_some (by exact hf)]

end Written

end Publish

lemma run_tolerant_of_ok {a : Act Unit} {v : World} (ha : a.run w = (.ok (), v)) :
    (tolerant a).run w = (.ok (), v) := run_tryCatch_of_ok ha _

lemma run_tolerant_of_error {a : Act Unit} {v : World} {f : Failure} (ha : a.run w = (.error f, v))
    (hf : f.isInterrupt = false) : (tolerant a).run w = (.ok (), v) := by
  unfold tolerant
  rw [run_tryCatch_of_error ha, hf]
  rfl

lemma close_unlock (d : Disk) (h : Nat) : (d.unlock h).close h = d.close h := by
  have hunlock : (d.unlock h).unlock h = d.unlock h := by
    have hk := Disk.handle?_unlock d h h
    cases hx : d.handle? h with
    | none =>
      rw [Disk.unlock, hk, hx]
    | some x =>
      have hn : (d.unlock h).holder? x.inode ≠ some h := by
        rw [Disk.unlock, hx]
        dsimp only
        split
        · rw [Disk.holder?_modifyInode, if_pos rfl]
          cases d.inode? x.inode <;> simp
        · assumption
      rw [Disk.unlock, hk, hx]
      dsimp only
      rw [if_neg hn]
  rw [Disk.close, hunlock, Disk.close]

/-- Whether it is open or not, a handle that is given up is closed. -/
lemma run_release (hf : w.faults.lock = none) (h : Nat) :
    (release h).run w = (.ok (), { w with disk := w.disk.close h }) := by
  unfold release
  cases ho : w.disk.isOpen h with
  | false =>
    refine (run_bind_of_ok (run_tolerant_of_error (f := .useClosed) (v := w) ?_ rfl) _).trans ?_
    · rw [run_bind_of_ok (run_disk w), ho]
      rfl
    · exact run_tolerant_of_ok (run_close h w)
  | true =>
    refine (run_bind_of_ok (run_tolerant_of_ok (v := { w with disk := w.disk.unlock h }) ?_) _).trans ?_
    · rw [run_bind_of_ok (run_disk w), ho]
      dsimp only
      rw [if_neg (by decide), run_bind_of_ok (run_mayFail_of_none hf)]
      rfl
    · rw [run_tolerant_of_ok (run_close h _), close_unlock]

end LockFile

end SharedVm
