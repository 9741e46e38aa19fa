import SharedVm.Proofs.Disk.Way
import SharedVm.Proofs.Grows

/-!
# The footprint of a runtime directory

What may be different on a disk once things have been done below one runtime directory: nothing is
gone, only the lock file says something else, and what is new is the lock file, the directories on
the way to the sockets of relays, and sockets if relays make any. A handle that is open on the lock
file stays open on it. What only looks leaves the files as they were, though it may take locks, open
handles and close them.
-/

namespace SharedVm

namespace Path

/-- The lock file of a runtime directory. -/
def lockFile (base : Path) : Path := base.child "krun.lock"

lemma parent_lockFile (base : Path) : base.lockFile.parent = base := by
  have hnames : namesOf "krun.lock" = [("krun.lock" : Text)] := by decide
  change (⟨base.start, (base.names ++ namesOf "krun.lock").dropLast⟩ : Path) = base
  rw [hnames, List.dropLast_concat]

lemma onWay_socketDir (base : Path) : base.OnWay (Relay.socketDir base) :=
  ⟨rfl, (List.prefix_append _ _).trans (List.prefix_append _ _)⟩

end Path

namespace Disk

/-- What is at a place that was empty: a directory on the way to the sockets of relays, the lock
file, or a socket. `Sockets` says that relays make sockets. -/
inductive Made (base : Path) (Sockets : Prop) (e : Disk) (place : Location) : Entry → Prop
  | directory {q : Path} (hq : q.OnWay (Relay.socketDir base)) (hl : e.locate q = .ok place) :
      Made base Sockets e place .directory
  | lockFile (i : Nat) (hl : e.locate base.lockFile = .ok place) : Made base Sockets e place (.file i)
  | socket (i : Nat) (port : Int) (hs : Sockets)
      (hl : e.locate (Relay.socketPath base (Decimal.ofInt port)) = .ok place) :
      Made base Sockets e place (.file i)

/-- What may be different after something has been done below a runtime directory. -/
structure Footprint (base : Path) (Sockets : Prop) (d e : Disk) : Prop where
  workDir : e.workDir = d.workDir
  keeps : d.Keeps e
  content : ∀ i, e.content i = d.content i ∨ e.file base.lockFile = .ok i
  handle : ∀ h x, d.handle? h = some x → ∃ y, e.handle? h = some y ∧ y.inode = x.inode
  made : ∀ ⦃place x⦄, e.entryAt? place = some x →
    d.entryAt? place = some x ∨ Made base Sockets e place x

/-- The handle has been opened on the lock file of the runtime directory. -/
def OnLock (base : Path) (d : Disk) (h : Nat) : Prop :=
  ∃ x, d.handle? h = some x ∧ d.file base.lockFile = .ok x.inode

variable {base : Path} {Sockets : Prop} {d e f : Disk} {h i : Nat}

lemma Made.later {place : Location} {x : Entry} (hm : Made base Sockets d place x) (hk : d.Keeps e)
    (hw : e.workDir = d.workDir) : Made base Sockets e place x := by
  cases hm with
  | directory hq hl => exact .directory hq (hk.locate hw hl)
  | lockFile i hl => exact .lockFile i (hk.locate hw hl)
  | socket i port hs hl => exact .socket i port hs (hk.locate hw hl)

namespace Footprint

lemma refl (d : Disk) : Footprint base Sockets d d :=
  ⟨rfl, .refl d, fun _ => .inl rfl, fun _ x hx => ⟨x, hx, rfl⟩, fun _ _ => .inl⟩

instance : IsPreorder Disk (Footprint base Sockets) where
  refl := .refl
  trans _ _ _ h k := {
    workDir := k.workDir.trans h.workDir
    keeps := h.keeps.trans k.keeps
    content := fun i => by
      rcases k.content i with hk | hk
      · rcases h.content i with hh | hh
        · exact .inl (hk.trans hh)
        · exact .inr (k.keeps.file k.workDir hh)
      · exact .inr hk
    handle := fun n x hx => by
      obtain ⟨y, hy, hyx⟩ := h.handle n x hx
      obtain ⟨z, hz, hzy⟩ := k.handle n y hy
      exact ⟨z, hz, hzy.trans hyx⟩
    made := fun place x hx => by
      rcases k.made hx with hx | hx
      · exact (h.made hx).imp_right fun hm => hm.later k.keeps k.workDir
      · exact .inr hx }

lemma onLock (hf : Footprint base Sockets d e) (ho : OnLock base d h) : OnLock base e h := by
  obtain ⟨x, hx, hi⟩ := ho
  obtain ⟨y, hy, hyx⟩ := hf.handle h x hx
  exact ⟨y, hy, hyx ▸ hf.keeps.file hf.workDir hi⟩

/-- Entries are as they were, and so is what they say. -/
lemma of_entries (hw : e.workDir = d.workDir) (he : e.entries = d.entries)
    (hc : e.content = d.content)
    (hh : ∀ h x, d.handle? h = some x → ∃ y, e.handle? h = some y ∧ y.inode = x.inode) :
    Footprint base Sockets d e := by
  have hentry : e.entryAt? = d.entryAt? := by
    funext place
    unfold entryAt?
    rw [he]
  exact ⟨hw, fun place x hx => by rwa [hentry], fun i => .inl (by rw [hc]), hh,
    fun place x hx => .inl (by rwa [hentry] at hx)⟩

end Footprint

/-! ### Directories and files that are made -/

lemma Paves.footprint {q : Path} (hp : Paves q d e) (hq : q.OnWay (Relay.socketDir base)) :
    Footprint base Sockets d e where
  workDir := hp.workDir
  keeps := hp.keeps
  content i := .inl (by rw [content, inode?, hp.inodes]; rfl)
  handle n x hx := ⟨x, by rwa [handle?, hp.handles], rfl⟩
  made place x hx := by
    rcases hp.paved hx with hx | ⟨rfl, q', hq', hl⟩
    · exact .inl hx
    · exact .inr (.directory (hq'.trans hq) hl)

lemma footprint_touch {p : Path} (ht : d.touch p = .ok (i, e))
    (hm : ∀ place, e.locate p = .ok place → Made base Sockets e place (.file i)) :
    Footprint base Sockets d e := by
  obtain ⟨place, hl, hf, hq, ⟨-, rfl⟩ | ⟨hn, rfl⟩⟩ := touch_cases ht
  · exact .refl e
  · have he : e = (d.addFile place).2 := by
      rw [touch_of_none hl hn] at ht
      exact (Prod.mk.inj (Except.ok.inj ht)).2.symm
    have hmade := hm place (hq.entry.locate hq.workDir hl)
    refine ⟨hq.workDir, hq.entry, fun j => .inl (by rw [hq.content]), fun n x hx => ⟨x, ?_, rfl⟩, ?_⟩
    · rw [he]
      exact hx
    · intro at' x hx
      by_cases hat : at' = place
      · subst hat
        rw [hf] at hx
        exact .inr (Option.some.inj hx ▸ hmade)
      · rw [he, addFile, entryAt?_append d hn, if_neg hat] at hx
        exact .inl hx

lemma footprint_touch_lockFile (ht : d.touch base.lockFile = .ok (i, e)) :
    Footprint base Sockets d e := footprint_touch ht fun _ hl => .lockFile i hl

lemma footprint_touch_socket (hs : Sockets) {port : Int}
    (ht : d.touch (Relay.socketPath base (Decimal.ofInt port)) = .ok (i, e)) :
    Footprint base Sockets d e := footprint_touch ht fun _ hl => .socket i port hs hl

/-! ### Handles and locks -/

lemma footprint_openInode (d : Disk) (i : Nat) : Footprint base Sockets d (d.openInode i).2 := by
  refine .of_entries rfl rfl rfl fun n x hx => ⟨x, ?_, rfl⟩
  unfold handle? at hx
  unfold handle? openInode
  rw [List.getElem?_append_left (List.getElem?_eq_some_iff.1 hx).1, hx]

lemma footprint_modifyHandle (d : Disk) (h : Nat) {g : Handle → Handle}
    (hg : ∀ x, (g x).inode = x.inode) : Footprint base Sockets d (d.modifyHandle h g) := by
  refine .of_entries rfl rfl rfl fun n x hx => ?_
  rw [handle?_modifyHandle, hx]
  split
  · exact ⟨g x, rfl, hg x⟩
  · exact ⟨x, rfl, rfl⟩

lemma footprint_modifyInode (d : Disk) (i : Nat) {g : Inode → Inode}
    (hg : ∀ x, (g x).content = x.content) : Footprint base Sockets d (d.modifyInode i g) :=
  .of_entries rfl rfl (content_modifyInode_of_same d i hg) fun _ x hx => ⟨x, hx, rfl⟩

lemma footprint_unlock (d : Disk) (h : Nat) : Footprint base Sockets d (d.unlock h) := by
  unfold unlock
  split
  · exact .refl d
  · split
    · exact footprint_modifyInode d _ fun _ => rfl
    · exact .refl d

lemma footprint_close (d : Disk) (h : Nat) : Footprint base Sockets d (d.close h) := by
  refine trans_of (Footprint base Sockets) (footprint_unlock d h) (footprint_modifyHandle _ h ?_)
  exact fun _ => rfl

lemma footprint_lock (hl : d.lock h = some e) : Footprint base Sockets d e := by
  unfold lock at hl
  split at hl
  · cases hl
  · split at hl
    · split at hl
      · exact Option.some.inj hl ▸ .refl d
      · cases hl
    · exact Option.some.inj hl ▸ footprint_modifyInode d _ fun _ => rfl

/-! ### Contents -/

/-- What a handle on the lock file writes is written to the lock file. -/
lemma OnLock.footprint_modifyInode (ho : OnLock base d h) {x : Handle} (hx : d.handle? h = some x)
    (g : Inode → Inode) : Footprint base Sockets d (d.modifyInode x.inode g) := by
  obtain ⟨y, hy, hi⟩ := ho
  obtain rfl : x = y := Option.some.inj (hx.symm.trans hy)
  have hkeeps : d.Keeps (d.modifyInode x.inode g) := .refl d
  refine ⟨rfl, hkeeps, fun j => ?_, fun _ z hz => ⟨z, hz, rfl⟩, fun _ _ => .inl⟩
  rw [content_modifyInode]
  split
  · rename_i hj
    exact .inr (hj ▸ hkeeps.file rfl hi)
  · exact .inl rfl

lemma OnLock.footprint_truncate (ho : OnLock base d h) :
    Footprint base Sockets d (d.truncate h) := by
  unfold truncate
  split
  · exact .refl d
  · exact ho.footprint_modifyInode ‹_› _

lemma OnLock.footprint_write (ho : OnLock base d h) (bs : Bytes) :
    Footprint base Sockets d (d.write h bs) := by
  unfold write
  split
  · exact .refl d
  · refine trans_of (Footprint base Sockets) (ho.footprint_modifyInode ‹_› _)
      (footprint_modifyHandle _ h ?_)
    exact fun _ => rfl

lemma OnLock.footprint_rewind_truncate (ho : OnLock base d h) :
    Footprint base Sockets d ((d.rewind h).truncate h) := by
  have hrewind : Footprint base Sockets d (d.rewind h) := footprint_modifyHandle d h fun _ => rfl
  exact trans_of (Footprint base Sockets) hrewind (hrewind.onLock ho).footprint_truncate

/-! ### Disks that are looked at -/

/-- The disk without who has opened what and who holds which lock. -/
def files (d : Disk) : Disk :=
  { d with inodes := d.inodes.map ({ · with holder := none }), handles := [] }

/-- A lock that changes hands changes no file. -/
lemma files_modifyInode (d : Disk) (i : Nat) {g : Inode → Inode}
    (hg : ∀ x, ({ g x with holder := none } : Inode) = { x with holder := none }) :
    (d.modifyInode i g).files = d.files := by
  unfold files modifyInode
  dsimp only
  congr 1
  refine List.ext_getElem? fun j => ?_
  rw [List.getElem?_map, List.getElem?_map, List.getElem?_modify]
  by_cases hj : i = j
  · cases d.inodes[j]? with
    | none => rfl
    | some x => simp [hj, hg]
  · simp [hj]

lemma files_lock (hl : d.lock h = some e) : e.files = d.files := by
  unfold lock at hl
  split at hl
  · cases hl
  · split at hl
    · split at hl
      · exact Option.some.inj hl ▸ rfl
      · cases hl
    · exact Option.some.inj hl ▸ files_modifyInode d _ fun _ => rfl

lemma files_unlock (d : Disk) (h : Nat) : (d.unlock h).files = d.files := by
  unfold unlock
  split
  · rfl
  · split
    · exact files_modifyInode d _ fun _ => rfl
    · rfl

end Disk

end SharedVm
