import SharedVm.Proofs.Published

/-!
# Ports are read as they are published

What is published is the decimal text of a number and nothing else, whatever was there before. So it
is read as that number if it is a usable port, and as no port if it is not.
-/

namespace SharedVm

namespace LockFile

open Act

/-- What reading a lock file comes to when opening it may fail, and what it says otherwise. -/
def readOr (opening : Option Report) (port : Except Failure (Option Nat)) :
    Except Failure (Option Nat) :=
  match opening with
  | none => port
  | some r => if r.isNotFound then .ok none else .error (.report r)

/-- What comes of publishing a number in a file: its decimal text is all that the file holds, and
whoever can open the file is told the number if it is a usable port. -/
structure Publishes (n : Int) (i : Nat) (w : World) (r : Except Failure Unit) (v : World) :
    Prop where
  outcome : r = match w.faults.sync with
    | none => .ok ()
    | some fault => .error (.report fault)
  others : v = { w with disk := v.disk }
  content : v.disk.content = Function.update w.disk.content i (Utf8.encode (Decimal.ofInt n))
  told : ∀ lock, Failure.ofName? lock.text = none → w.disk.file lock = .ok i →
    ∃ ns, (readPort lock).run v =
      (readOr (w.faults.opening lock) (.ok (if 1025 ≤ n ∧ n ≤ 65535 then some n.toNat else none)),
        { v with notices := v.notices ++ ns })

lemma run_readPort_of_file {lock : Path} {i : Nat} {w : World}
    (hn : Failure.ofName? lock.text = none) (hf : w.disk.file lock = .ok i) :
    ∃ ns, (readPort lock).run w =
      (readOr (w.faults.opening lock) (portOf (w.disk.content i)),
        { w with notices := w.notices ++ ns }) := by
  have hread := run_readFile lock w
  rw [hn, hf] at hread
  unfold readPort
  cases hr : w.faults.opening lock with
  | none =>
    rw [hr] at hread
    have hsome : (some <$> readFile lock).run w = (.ok (some (w.disk.content i)), w) := by
      rw [run_map, hread]
      rfl
    rw [run_bind_of_ok (run_tryCatch_of_ok hsome _)]
    exact run_port (w.disk.content i) w
  | some r =>
    rw [hr] at hread
    have hfails : (some <$> readFile lock).run w = (.error (.report r), w) := by
      rw [run_map, hread]
      rfl
    have hsame : w = { w with notices := w.notices ++ [] } := by rw [List.append_nil]
    refine ⟨[], ?_⟩
    rw [run_bind, run_tryCatch_of_error hfails, ← hsame]
    dsimp only [readOr]
    cases r.isNotFound <;> rfl

section Publishes

variable {w : World} {h : Nat} {x : Handle} {n : Int} (hx : w.disk.handle? h = some x)
  (hlt : x.inode < w.disk.inodes.length) (hw : Decimal.write? n = some (Decimal.ofInt n))

include hx hlt hw

lemma run_readPort_of_published {lock : Path} (hlock : Failure.ofName? lock.text = none)
    (hfile : w.disk.file lock = .ok x.inode) :
    let d := ((w.disk.rewind h).truncate h).write h (Utf8.encode (Decimal.ofInt n))
    ∃ ns, (readPort lock).run { w with disk := d } =
      (readOr (w.faults.opening lock) (.ok (if 1025 ≤ n ∧ n ≤ 65535 then some n.toNat else none)),
        { w with disk := d, notices := w.notices ++ ns }) := by
  intro d
  have hsteady : w.disk.Steady d := Disk.steady_refill _ _ _
  have hkept : d.file lock = .ok x.inode := Disk.Keeps.file hsteady.entry hsteady.workDir hfile
  obtain ⟨ns, hrun⟩ := run_readPort_of_file (w := { w with disk := d }) hlock hkept
  refine ⟨ns, hrun.trans ?_⟩
  dsimp only
  rw [Disk.content_refill hx hlt, Function.update_self, portOf_encode hw, Port.usable?_eq]

lemma run_publish_publishes (hopen : x.isOpen = true) :
    ∃ r v, (publish h (.int n)).run w = (r, v) ∧ Publishes n x.inode w r v := by
  have ho : w.disk.isOpen h = true := by
    rw [Disk.isOpen, hx]
    exact hopen
  have hcontent := Disk.content_refill hx hlt (Utf8.encode (Decimal.ofInt n))
  have htold := fun lock => @run_readPort_of_published w h x n hx hlt hw lock
  cases hs : w.faults.sync with
  | none =>
    refine ⟨_, _, run_publish ho rfl hw hs, ?_, rfl, hcontent, htold⟩
    rw [hs]
  | some fault =>
    refine ⟨_, _, run_publish_of_fault ho rfl hw hs, ?_, rfl, hcontent, htold⟩
    rw [hs]

end Publishes

end LockFile

/-- Contents of a lock file are a port just when they are one to 4300 digits between blanks that
spell a usable port, and they fail a reader just when there are more digits. A number that is
published through an open handle, whatever the file held and wherever the handle stood, is all that
the file holds afterwards, and is read again if it is a usable port. -/
theorem Published.spelled_as_published :
    (∀ t, Parses .tooLong t ((ofText t).map port?)) ∧
    (∀ bs w, ∃ r ns, (LockFile.port bs).run w = (r, { w with notices := w.notices ++ ns }) ∧
      Parses (fun n => Failure.notWhole (.tooLong n)) (Utf8.decode bs) r) ∧
    ∀ (w : World) h x y n, w.disk.handle? h = some x → x.isOpen = true →
      w.disk.inode? x.inode = some y → (Decimal.ofNat n.natAbs).length ≤ 4300 →
      ∃ r v, (LockFile.publish h (.int n)).run w = (r, v) ∧ LockFile.Publishes n x.inode w r v := by
  refine ⟨ofText_parses, fun bs w => ?_, fun w h x y n hx hopen hy hn => ?_⟩
  · obtain ⟨ns, hrun⟩ := LockFile.run_port bs w
    exact ⟨_, ns, hrun, LockFile.portOf_parses bs⟩
  · have hlt : x.inode < w.disk.inodes.length := (List.getElem?_eq_some_iff.1 hy).1
    exact LockFile.run_publish_publishes hx hlt ((Decimal.write?_eq_some_iff n).2 hn) hopen

/-- A handle at the end of a lock file, whose lock it holds and which has a longer number in it. -/
def LockFile.stale : World where
  disk := {
    workDir := ["work"]
    entries := [(["work"], .directory), (["work", "krun.lock"], .file 0)]
    inodes := [{ content := Utf8.encode "12345678", holder := some 0 }]
    handles := [{ inode := 0, position := 8 }] }

theorem Published.spelled_as_published_stale :
    (ofText " 0003333\n").map port? = .ok (some 3333) ∧
    LockFile.stale.disk.content 0 = Utf8.encode "12345678" ∧
    ∃ v ns, (LockFile.publish 0 (.int 3333)).run LockFile.stale = (.ok (), v) ∧
      v.disk.content 0 = Utf8.encode "3333" ∧
      (LockFile.readPort "krun.lock").run v =
        (.ok (some 3333), { v with notices := v.notices ++ ns }) := by
  obtain ⟨htext, -, hpublish⟩ := spelled_as_published
  have hspells : Spells " 0003333\n" [0, 0, 0, 3, 3, 3, 3] :=
    ⟨" ", "\n", rfl, by decide, by decide, by decide, by decide⟩
  obtain ⟨r, v, hrun, hpublishes⟩ := hpublish LockFile.stale 0 _ _ 3333 rfl rfl rfl (by decide)
  obtain ⟨ns, htold⟩ := hpublishes.told "krun.lock" rfl rfl
  have hport := ((htext _).port 3333).2 ⟨_, hspells, by decide, rfl, by decide, by decide⟩
  refine ⟨hport, rfl, v, ns, ?_, ?_, htold⟩
  · rw [hrun, hpublishes.outcome]
    rfl
  · rw [hpublishes.content, Function.update_self]
    rfl

end SharedVm
