import SharedVm.Proofs.Disk.Way
import SharedVm.Proofs.Leading

/-!
# Ways out of an election

There are four ways out for a candidate with a usable port once its lock file is known: the file
cannot be opened, the lock is not got, the port is not made to last, or it is elected. Only an
elected candidate has a handle afterwards, and only one that has got the lock has written to a file.
Standing adds nothing to the disk but directories above the lock file and the lock file itself.
-/

namespace SharedVm

namespace Disk

/-- Besides what `d` had, the disk `e` has at most directories on the way to the lock file, and the
lock file as a file that `d` did not have. -/
structure Adds (lock : Path) (d e : Disk) : Prop where
  workDir : e.workDir = d.workDir
  inodes : d.inodes.length ≤ e.inodes.length
  keeps : d.Keeps e
  made : ∀ ⦃place x⦄, e.entryAt? place = some x → d.entryAt? place = some x ∨
    x = .directory ∧ (∃ q, q.OnWay lock.parent ∧ e.locate q = .ok place) ∨
    ∃ i, x = .file i ∧ d.inodes.length ≤ i ∧ e.locate lock = .ok place

variable {lock : Path} {d e : Disk} {i : Nat}

instance (lock : Path) : IsPreorder Disk (Adds lock) where
  refl d := ⟨rfl, Nat.le_refl _, .refl d, fun _ _ => .inl⟩
  trans _ _ _ h k := {
    workDir := k.workDir.trans h.workDir
    inodes := Nat.le_trans h.inodes k.inodes
    keeps := h.keeps.trans k.keeps
    made := fun place x hx => by
      rcases k.made hx with hx | hx | ⟨i, hx, hi, hl⟩
      · rcases h.made hx with hx | ⟨hx, q, hq, hl⟩ | ⟨i, hx, hi, hl⟩
        · exact .inl hx
        · exact .inr (.inl ⟨hx, q, hq, k.keeps.locate k.workDir hl⟩)
        · exact .inr (.inr ⟨i, hx, hi, k.keeps.locate k.workDir hl⟩)
      · exact .inr (.inl hx)
      · exact .inr (.inr ⟨i, hx, Nat.le_trans h.inodes hi, hl⟩) }

lemma Adds.of_entries (hw : e.workDir = d.workDir) (he : e.entries = d.entries)
    (hi : d.inodes.length ≤ e.inodes.length) : Adds lock d e := by
  have hentry : e.entryAt? = d.entryAt? := by
    funext place
    unfold entryAt?
    rw [he]
  exact ⟨hw, hi, fun place x hx => by rwa [hentry], fun place x hx => .inl (by rwa [hentry] at hx)⟩

lemma Paves.adds (h : Paves lock.parent d e) : Adds lock d e where
  workDir := h.workDir
  inodes := Nat.le_of_eq (by rw [h.inodes])
  keeps := h.keeps
  made _ _ hx := (h.paved hx).imp_right .inl

lemma adds_touch (ht : d.touch lock = .ok (i, e)) : Adds lock d e := by
  obtain ⟨place, hl, hf, hq, ⟨-, rfl⟩ | ⟨hn, hi⟩⟩ := touch_cases ht
  · exact refl_of (Adds lock) e
  · refine ⟨hq.workDir, hq.inodes, hq.entry, fun at' x hx => ?_⟩
    by_cases hat : at' = place
    · obtain rfl : x = .file i := by rwa [hat, hf, Option.some.injEq, eq_comm] at hx
      exact .inr (.inr ⟨i, rfl, Nat.le_of_eq hi.symm, hat ▸ hq.entry.locate hq.workDir hl⟩)
    · rw [touch_of_none hl hn] at ht
      obtain ⟨-, rfl⟩ := Prod.mk.inj (Except.ok.inj ht)
      rw [entryAt?_append d hn, if_neg hat] at hx
      exact .inl hx

/-! ### Operations that add no entries -/

lemma entries_unlock (d : Disk) (h : Nat) : (d.unlock h).entries = d.entries := by
  unfold unlock
  split
  · rfl
  · split <;> rfl

lemma entries_truncate (d : Disk) (h : Nat) : (d.truncate h).entries = d.entries := by
  unfold truncate
  split <;> rfl

lemma entries_write (d : Disk) (h : Nat) (bs : Bytes) : (d.write h bs).entries = d.entries := by
  unfold write
  split <;> rfl

lemma adds_close (d : Disk) (h : Nat) : Adds lock d (d.close h) :=
  .of_entries (workDir_close d h) (entries_unlock d h) (Nat.le_of_eq (inodes_close d h).symm)

end Disk

/-- What an operation adds to the disk is what standing for election adds. -/
def World.Adds (lock : Path) (w v : World) : Prop := w.disk.Adds lock v.disk

instance (lock : Path) : IsPreorder World (World.Adds lock) where
  refl w := refl_of (Disk.Adds lock) w.disk
  trans _ _ _ h k := trans_of (Disk.Adds lock) h k

open Act Act.Within

lemma Act.Within.adds_makeDirectories (lock : Path) :
    Within (World.Adds lock) (Act.makeDirectories lock.parent) :=
  makeDirectories fun w => (Disk.paves_makeDirectories w.disk lock.parent).adds

lemma LockFile.adds_openAt (lock : Path) : Within (World.Adds lock) (openAt lock) := by
  refine bind (adds_makeDirectories lock) fun _ => bind (checkPath _) fun _ =>
    bind (mayFail _) fun _ w => ?_
  rw [run_bind_of_ok (run_disk w)]
  cases ht : w.disk.touch lock with
  | error x => exact refl_of (World.Adds lock) w
  | ok found =>
    have hopen : found.2.Adds lock (found.2.openInode found.1).2 := .of_entries rfl rfl (Nat.le_refl _)
    exact trans_of (Disk.Adds lock) (Disk.adds_touch ht) hopen

namespace Election

variable {w : World} {lock : Path} {e : Disk} {i : Nat}

/-! ### Ways out -/

/-- Nobody is elected. -/
def Fruitless (r : Except Failure Standing) : Prop := ∀ s, r = .ok s → s.tenure? = none

lemma adds_published (lock : Path) (e : Disk) (i : Nat) (n : Int) :
    (e.openInode i).2.Adds lock (published e i n) := by
  have hrewind : ∀ (d : Disk) h, (d.rewind h).entries = d.entries := fun _ _ => rfl
  have hlock : ∀ (d : Disk) j f, (d.modifyInode j f).entries = d.entries := fun _ _ _ => rfl
  have hsteady := Disk.steady_refill ((e.openInode i).2.modifyInode i
    ({ · with holder := some e.handles.length })) e.handles.length (Utf8.encode (Decimal.ofInt n))
  refine .of_entries hsteady.workDir ?_ (Nat.le_trans ?_ hsteady.inodes)
  · rw [published, Disk.entries_write, Disk.entries_truncate, hrewind, hlock]
  · rw [Disk.length_inodes_modifyInode]

/-- A candidate that does not get the lock closes its handle, whether the lock is held or taking it
fails. -/
lemma run_seek_of_missed (lock : Path) (he : e.WellFormed)
    (hm : w.faults.lock = none → e.holder? i ≠ none) :
    (seek e.handles.length lock).run (opened w e i) = (.ok false, opened w e i) ∨
      ∃ f, (seek e.handles.length lock).run (opened w e i) =
        (.error f, { w with disk := (e.openInode i).2.close e.handles.length }) := by
  cases hf : w.faults.lock with
  | none => exact .inl (by rw [run_seek lock hf he, if_neg (hm hf)])
  | some r =>
    unfold seek
    rcases LockFile.run_take_cases (isOpen_opened w e i) with ⟨m, ht⟩ | ⟨r, -, -, ht⟩ | ⟨d, hnone, -⟩
    · exact .inl (by rw [run_tryCatch_of_error (run_bind_of_error ht _)]; rfl)
    · rw [run_tryCatch_of_error (run_bind_of_error ht _), run_bind_of_ok (LockFile.run_close _ _)]
      dsimp only
      cases r.isSystem with
      | true => exact .inr ⟨_, rfl⟩
      | false => exact .inr ⟨_, rfl⟩
    · have hsome : (opened w e i).faults.lock = some r := hf
      rw [hnone] at hsome
      cases hsome

/-- Whether what the file says can be read or not, the handle of a follower is closed. -/
lemma run_follow_closes (lock : Path) (w : World) (e : Disk) (i : Nat) :
    ∃ r ns, (follow e.handles.length lock).run (opened w e i) =
      (r, { w with
        disk := (e.openInode i).2.close e.handles.length
        notices := w.notices ++ ns }) := by
  have hread : ∃ r, (orReport (do mayFail (·.read); LockFile.contents e.handles.length) fun r =>
      misconfigured (.lockNotRead lock r)).run (opened w e i) = (r, opened w e i) := by
    unfold Act.orReport
    cases hf : w.faults.read with
    | none =>
      exact ⟨_, run_tryCatch_of_ok (run_bind_of_ok (run_mayFail_of_none (by exact hf)) _) _⟩
    | some r =>
      have hfail : (mayFail (·.read)).run (opened w e i) = (.error (.report r), opened w e i) :=
        run_mayFail_of_some hf
      rw [run_tryCatch_of_error (run_bind_of_error hfail _)]
      dsimp only
      cases r.isSystem with
      | true => exact ⟨_, rfl⟩
      | false => exact ⟨_, rfl⟩
  obtain ⟨r, hr⟩ := hread
  unfold follow
  rw [run_bind, run_ensuring, hr, LockFile.run_close]
  dsimp only
  cases r with
  | error f => exact ⟨.error f, [], by rw [List.append_nil]; rfl⟩
  | ok bs =>
    obtain ⟨ns, hport⟩ := LockFile.run_port bs
      { w with disk := (e.openInode i).2.close e.handles.length }
    exact ⟨_, ns, hport⟩

/-- The candidate gets the lock of the file that it has opened. -/
def Takes (w : World) (lock : Path) (i : Nat) : Prop :=
  ∃ h u v, (LockFile.openAt lock).run w = (.ok h, u) ∧ u.disk.file lock = .ok i ∧
    (LockFile.take h false).run u = (.ok (), v)

lemma Takes.unique {j : Nat} (hi : Takes w lock i) (hj : Takes w lock j) : i = j := by
  obtain ⟨h, u, v, ho, hfile, -⟩ := hi
  obtain ⟨h', u', v', ho', hfile', -⟩ := hj
  obtain rfl : u = u' := (Prod.mk.inj (ho.symm.trans ho')).2
  exact Except.ok.inj (hfile.symm.trans hfile')

/-- How standing for election ends, and in which world, once port and path are known. -/
inductive Exits (w : World) (lock : Path) (n : Int) : Except Failure Standing → World → Prop
  | missed {r : Except Failure Standing} {v : World} (hr : Fruitless r) (hq : w.Quiet v)
      (hm : ∀ i, ¬ Takes w lock i) : Exits w lock n r v
  | unpublished {v : World} {i : Nat} {r : Report} (ht : Takes w lock i)
      (hf : w.faults.sync = some r) (hs : w.disk.Steady v.disk) (hi : v.disk.file lock = .ok i)
      (hc : v.disk.content = Function.update w.disk.content i (Utf8.encode (Decimal.ofInt n))) :
      Exits w lock n
        (.error (if r.isSystem then .misconfigured (.portNotPublished lock r) else .report r)) v
  | elected {v : World} {h i : Nat} (ht : Takes w lock i) (hf : w.faults.sync = none)
      (he : w.Elects v ⟨h, lock, n⟩ i) : Exits w lock n (.ok (.elected h lock n)) v

lemma takes_iff (ht : w.disk.Touched e lock i) (hd : w.disk.WellFormed)
    (ho : (LockFile.openAt lock).run w = (.ok e.handles.length, opened w e i)) {j : Nat} :
    Takes w lock j ↔ j = i ∧ w.faults.lock = none ∧ e.holder? i = none := by
  have hkeeps : e.Keeps (opened w e i).disk := .refl e
  have hfile : (opened w e i).disk.file lock = .ok i := hkeeps.file rfl ht.file
  constructor
  · rintro ⟨h, u, v, ho', hj, htake⟩
    obtain ⟨rfl, rfl⟩ : e.handles.length = h ∧ opened w e i = u := by
      rw [ho] at ho'
      exact ⟨Except.ok.inj (Prod.mk.inj ho').1, (Prod.mk.inj ho').2⟩
    obtain rfl : i = j := Except.ok.inj (hfile.symm.trans hj)
    refine ⟨rfl, ?_⟩
    rcases LockFile.run_take_cases (isOpen_opened w e i) with ⟨m, hm⟩ | ⟨r, -, -, hm⟩ | ⟨d, hf, -⟩
    · rw [hm] at htake
      cases htake
    · rw [hm] at htake
      cases htake
    · refine ⟨hf, ?_⟩
      rw [run_take_opened (w := w) hf (ht.quiet.wellFormed hd)] at htake
      by_contra hh
      rw [if_neg hh] at htake
      cases htake
  · rintro ⟨rfl, hf, hh⟩
    have htake := run_take_opened (i := j) hf (ht.quiet.wellFormed hd)
    rw [if_pos hh] at htake
    exact ⟨_, _, _, ho, hfile, htake⟩

section Stand

variable {candidate : Value} {path : Act Path} {n : Int} (hn : candidate.whole = .ok n)
  (hp : Port.isPublishable n = true) (hl : path.run w = (.ok lock, w))

include hn hp hl

/-- A candidate that does not get the lock has its handle closed whatever becomes of it. -/
lemma run_stand_missed (ho : (LockFile.openAt lock).run w = (.ok e.handles.length, opened w e i))
    (he : e.WellFormed) (hm : w.faults.lock = none → e.holder? i ≠ none) :
    ∃ r ns, Fruitless r ∧ (stand candidate path).run w =
      (r, { w with
        disk := (e.openInode i).2.close e.handles.length
        notices := w.notices ++ ns }) := by
  rw [run_stand_opened hn hp hl ho]
  rcases run_seek_of_missed lock he hm with hseek | ⟨f, hseek⟩
  · obtain ⟨r, ns, hfollow⟩ := run_follow_closes lock w e i
    rw [run_bind_of_ok hseek]
    dsimp only
    rw [if_neg Bool.false_ne_true, run_bind, hfollow]
    cases r with
    | error f => exact ⟨.error f, ns, nofun, rfl⟩
    | ok port =>
      refine ⟨.ok (.led lock port), ns ++ [.lockHeld lock port], ?_, ?_⟩
      · rintro s ⟨⟩
        rfl
      · rw [← List.append_assoc]
        rfl
  · rw [run_bind_of_error hseek]
    exact ⟨.error f, [], nofun, by rw [List.append_nil]⟩

theorem stand_exits (hd : w.disk.WellFormed) :
    Exits w lock n ((stand candidate path).run w).1 ((stand candidate path).run w).2 ∧
      w.disk.Adds lock ((stand candidate path).run w).2.disk := by
  have hadds := LockFile.adds_openAt lock w
  rcases LockFile.run_openAt_cases lock w with ⟨f, v, ho, hq⟩ | ⟨i, e, ht, ho⟩
  · obtain ⟨g, hrun⟩ := run_stand_unopened hn hp hl ho
    rw [ho] at hadds
    rw [hrun]
    refine ⟨.missed nofun hq ?_, hadds⟩
    rintro i ⟨h, u, x, ho', -⟩
    rw [ho] at ho'
    cases ho'
  · have he : e.WellFormed := ht.quiet.wellFormed hd
    rw [ho] at hadds
    by_cases hh : w.faults.lock = none ∧ e.holder? i = none
    · have htakes : Takes w lock i := (takes_iff ht hd ho).2 ⟨rfl, hh⟩
      have helects : ∀ ns, w.Elects { w with disk := published e i n, notices := ns }
          ⟨e.handles.length, lock, n⟩ i :=
        fun _ => elects ht hd hh.2 hp (LockFile.name_of_openAt ho)
      have hpublished := trans_of (Disk.Adds lock) hadds (adds_published lock e i n)
      cases hs : w.faults.sync with
      | none =>
        rw [run_stand_free hn hp hl ho hh.1 he hh.2 hs]
        exact ⟨.elected htakes hs (helects _), hpublished⟩
      | some r =>
        obtain ⟨hsteady, hcontent⟩ :=
          (helects []).disk.steady_close (helects []).entry (helects []).new (helects []).free
        have hkeeps := Disk.keeps_close (published e i n) e.handles.length
        have hfile := hkeeps.file (Disk.workDir_close _ _) (helects []).file
        rw [run_stand_unsynced hn hp hl ho hh.1 he hh.2 hs]
        exact ⟨.unpublished htakes hs hsteady hfile hcontent,
          trans_of (Disk.Adds lock) hpublished (Disk.adds_close _ _)⟩
    · have hquiet := ht.quiet.trans (Disk.quiet_openInode_close he (lt_of_touched ht hd))
      have hnever : ∀ j, ¬ Takes w lock j := fun j hj => hh ((takes_iff ht hd ho).1 hj).2
      obtain ⟨r, ns, hr, hrun⟩ := run_stand_missed hn hp hl ho he (not_and.1 hh)
      rw [hrun]
      exact ⟨.missed hr ⟨hquiet, rfl⟩ hnever,
        trans_of (Disk.Adds lock) hadds (Disk.adds_close _ e.handles.length)⟩

end Stand

/-- The candidate has a port to publish and gets the lock of the file that its path leads to. -/
structure Wins (candidate : Value) (path : Act Path) (w : World) (n : Int) (lock : Path) (i : Nat) :
    Prop where
  number : candidate.whole = .ok n
  usable : Port.isPublishable n = true
  path : path.run w = (.ok lock, w)
  takes : Takes w lock i

/-- What standing for election comes to, and what it leaves behind. -/
structure Accounts (candidate : Value) (path : Act Path) (w : World) (r : Except Failure Standing)
    (v : World) : Prop where
  rejected : (∀ n, candidate.whole = .ok n → Port.isPublishable n = false) →
    (∃ f, r = .error f) ∧ v = w
  adds : v = w ∨ ∃ lock, path.run w = (.ok lock, w) ∧ w.disk.Adds lock v.disk
  steady : Fruitless r → w.disk.Steady v.disk
  unwritten : Fruitless r → (∀ n lock i, ¬ Wins candidate path w n lock i) →
    v.disk.content = w.disk.content
  unpublished : Fruitless r → ∀ n lock i, Wins candidate path w n lock i →
    v.disk.file lock = .ok i ∧
      v.disk.content = Function.update w.disk.content i (Utf8.encode (Decimal.ofInt n)) ∧
      ∃ report, w.faults.sync = some report ∧ r = .error (if report.isSystem then
        .misconfigured (.portNotPublished lock report) else .report report)
  elected : ∀ h lock n, r = .ok (.elected h lock n) →
    w.faults.sync = none ∧ ∃ i, Wins candidate path w n lock i ∧ w.Elects v ⟨h, lock, n⟩ i

lemma Accounts.of_idle {candidate : Value} {path : Act Path} {f : Failure}
    (hm : ∀ n lock i, ¬ Wins candidate path w n lock i) :
    Accounts candidate path w (.error f) w where
  rejected _ := ⟨⟨f, rfl⟩, rfl⟩
  adds := .inl rfl
  steady _ := refl_of Disk.Steady w.disk
  unwritten _ _ := rfl
  unpublished _ n lock i hw := absurd hw (hm n lock i)
  elected := nofun

lemma Exits.accounts {candidate : Value} {path : Act Path} {n : Int} {r : Except Failure Standing}
    {v : World} (h : Exits w lock n r v) (ha : w.disk.Adds lock v.disk) (hn : candidate.whole = .ok n)
    (hp : Port.isPublishable n = true) (hl : path.run w = (.ok lock, w)) :
    Accounts candidate path w r v := by
  have hrejected : ¬ ∀ n, candidate.whole = .ok n → Port.isPublishable n = false := fun hr => by
    rw [hr n hn] at hp
    cases hp
  have hsame : ∀ {n' lock' i}, Wins candidate path w n' lock' i → n' = n ∧ lock' = lock := by
    intro n' lock' i hw
    have hpath := hw.path
    rw [hl] at hpath
    exact ⟨Except.ok.inj (hw.number.symm.trans hn), (Except.ok.inj (Prod.mk.inj hpath).1).symm⟩
  cases h with
  | missed hr hq hm =>
    have hnever : ∀ n' lock' i, ¬ Wins candidate path w n' lock' i := fun n' lock' i hw =>
      hm i ((hsame hw).2 ▸ hw.takes)
    exact {
      rejected := fun h => absurd h hrejected
      adds := .inr ⟨lock, hl, ha⟩
      steady := fun _ => hq.disk.steady
      unwritten := fun _ _ => hq.disk.content
      unpublished := fun _ n' lock' i hw => absurd hw (hnever n' lock' i)
      elected := fun h lock' n' he => nomatch hr _ he }
  | unpublished ht hf hs hi hc =>
    exact {
      rejected := fun h => absurd h hrejected
      adds := .inr ⟨lock, hl, ha⟩
      steady := fun _ => hs
      unwritten := fun _ h => absurd ⟨hn, hp, hl, ht⟩ (h n lock _)
      unpublished := fun _ n' lock' j hw => by
        obtain ⟨rfl, rfl⟩ := hsame hw
        obtain rfl := ht.unique hw.takes
        exact ⟨hi, hc, _, hf, rfl⟩
      elected := nofun }
  | elected ht hf he =>
    exact {
      rejected := fun h => absurd h hrejected
      adds := .inr ⟨lock, hl, ha⟩
      steady := fun h => nomatch h _ rfl
      unwritten := fun h => nomatch h _ rfl
      unpublished := fun h => nomatch h _ rfl
      elected := by
        rintro h lock' n' ⟨⟩
        exact ⟨hf, _, ⟨hn, hp, hl, ht⟩, he⟩ }

lemma stand_accounts {candidate : Value} {path : Act Path} (hd : w.disk.WellFormed)
    (hw : (path.run w).2 = w) :
    Accounts candidate path w ((stand candidate path).run w).1 ((stand candidate path).run w).2 := by
  by_cases hr : ∀ n, candidate.whole = .ok n → Port.isPublishable n = false
  · obtain ⟨f, hrun⟩ := run_stand_rejected hr path w
    rw [hrun]
    refine .of_idle fun n lock i hwins => ?_
    have hunusable := hr n hwins.number
    rw [hwins.usable] at hunusable
    cases hunusable
  · push Not at hr
    obtain ⟨n, hn, hp⟩ := hr
    rw [ne_eq, Bool.not_eq_false] at hp
    rcases hl : path.run w with ⟨f | lock, u⟩ <;> obtain rfl : u = w := by rw [hl] at hw; exact hw
    · rw [run_stand_unplaced hn hp hl]
      refine .of_idle fun n lock i hwins => ?_
      have hpath := hwins.path
      rw [hl] at hpath
      cases hpath
    · obtain ⟨hexits, hadds⟩ := stand_exits hn hp hl hd
      exact hexits.accounts hadds hn hp hl

end Election

end SharedVm
