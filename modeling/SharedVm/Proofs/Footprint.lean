import SharedVm.Proofs.Disk.Footprint
import SharedVm.Proofs.Inspection
import SharedVm.Proofs.Leading
import SharedVm.Proofs.RelayPort

/-!
# Operations below one runtime directory

In a process whose variables name a runtime directory, operations that are given no path stay within
the footprint of that directory, whether they fail or not. Only publishing writes to a file, so only
for publishing it matters which file a handle has been opened on.
-/

namespace SharedVm

open Act Act.Within

/-- The process has these variables and runs among these users, and no relay makes a socket unless
`Sockets`. -/
structure World.Rooted (env : Environ) (users : Users) (Sockets : Prop) (w : World) : Prop where
  environ : w.environ = env
  users : w.system.users = users
  sockets : ∀ p ∈ w.relays, p.touches = true → Sockets

lemma World.Rooted.sockets_of_relay {env : Environ} {users : Users} {Sockets : Prop} {w : World}
    (h : w.Rooted env users Sockets) (ht : w.relay.touches = true) : Sockets := by
  unfold World.relay at ht
  cases hr : w.relays with
  | nil =>
    rw [hr] at ht
    cases ht
  | cons p rest =>
    rw [hr] at ht
    exact h.sockets p (by rw [hr]; exact List.mem_cons_self) ht

/-- In a process with these variables, whose own handles have been opened on the lock file, the disk
stays within the footprint of the runtime directory. -/
def World.Treads (base : Path) (env : Environ) (users : Users) (Sockets : Prop)
    (own : Nat → Prop) (w v : World) : Prop :=
  w.Rooted env users Sockets → (∀ h, own h → w.disk.OnLock base h) →
    v.Rooted env users Sockets ∧ Disk.Footprint base Sockets w.disk v.disk

variable {base : Path} {env : Environ} {users : Users} {Sockets : Prop} {own : Nat → Prop}

namespace World.Treads

instance : IsPreorder World (Treads base env users Sockets own) where
  refl w hr _ := ⟨hr, .refl w.disk⟩
  trans _ _ _ h k hr ho := by
    obtain ⟨hr', hf⟩ := h hr ho
    obtain ⟨hr'', hf'⟩ := k hr' fun h hh => hf.onLock (ho h hh)
    exact ⟨hr'', trans_of (Disk.Footprint base Sockets) hf hf'⟩

lemma mono {own' : Nat → Prop} {w v : World} (hown : ∀ h, own h → own' h)
    (h : Treads base env users Sockets own w v) : Treads base env users Sockets own' w v :=
  fun hr ho => h hr fun k hk => ho k (hown k hk)

lemma of_disk {w v : World} (hd : v.disk = w.disk) (he : v.environ = w.environ)
    (hs : v.system = w.system) (hr : v.relays ⊆ w.relays) : Treads base env users Sockets own w v :=
  fun hw _ => ⟨⟨he.trans hw.environ, hs ▸ hw.users, fun p hp => hw.sockets p (hr hp)⟩,
    by rw [hd]; exact .refl _⟩

lemma of_footprint {w : World} {d : Disk}
    (h : (∀ h, own h → w.disk.OnLock base h) → Disk.Footprint base Sockets w.disk d) :
    Treads base env users Sockets own w { w with disk := d } := fun hw ho =>
  ⟨⟨hw.environ, hw.users, hw.sockets⟩, h ho⟩

end World.Treads

/-! ### Operations that touch the disk -/

namespace Act.Within

lemma treads_makeDirectories {p : Path} (hp : p.OnWay (Relay.socketDir base)) :
    Within (World.Treads base env users Sockets own) (Act.makeDirectories p) :=
  makeDirectories fun w =>
    .of_footprint fun _ => (Disk.paves_makeDirectories w.disk p).footprint hp

lemma treads_openFile (p : Path) :
    Within (World.Treads base env users Sockets own) (openFile p) := by
  intro w
  rcases Election.run_openFile_cases p w with ⟨f, hrun⟩ | ⟨i, -, hrun⟩
  · rw [hrun]
    exact refl_of (World.Treads base env users Sockets own) w
  · rw [hrun]
    exact .of_footprint fun _ => Disk.footprint_openInode w.disk i

end Act.Within

lemma Act.treads_talks : Talks (World.Treads base env users Sockets own) where
  note _ _ := .of_disk rfl rfl rfl (List.Subset.refl _)
  event _ _ := .of_disk rfl rfl rfl (List.Subset.refl _)
  nextPeer w := by
    rw [Exchange.run_nextPeer]
    exact .of_disk rfl rfl rfl (List.Subset.refl _)

namespace LockFile

lemma treads_close (h : Nat) : Within (World.Treads base env users Sockets own) (close h) :=
  fun _ => .of_footprint fun _ => Disk.footprint_close _ h

lemma treads_take (h : Nat) :
    ∀ blocking, Within (World.Treads base env users Sockets own) (take h blocking) :=
  within_take fun _ _ _ hl => .of_footprint fun _ => Disk.footprint_lock hl

lemma treads_release (h : Nat) :
    ∀ closeFails, Within (World.Treads base env users Sockets own) (release h closeFails) :=
  within_release (fun w => .of_footprint fun _ => Disk.footprint_unlock w.disk h) (treads_close h)

lemma treads_looks : Looks (World.Treads base env users Sockets own) where
  note := treads_talks.note
  openFile := treads_openFile
  close := treads_close
  take := treads_take

/-- A handle of the process has been opened on the lock file, so that is where its port goes. -/
lemma treads_tends {h : Nat} (hh : own h) : Tends (World.Treads base env users Sockets own) h where
  note := treads_talks.note
  close := treads_close h
  take := treads_take h
  publish := within_publish
    (fun _ => .of_footprint fun ho => (ho h hh).footprint_rewind_truncate)
    fun _ bs => .of_footprint fun ho => (ho h hh).footprint_write bs
  release := treads_release h

end LockFile

namespace Relay

lemma treads_spawn (binary : Text) (port : Int) : Within (World.Treads base env users Sockets own)
    (spawn binary (socketPath base (Decimal.ofInt port))) := by
  intro w
  have htail : w.relays.tail ⊆ w.relays := List.tail_subset _
  rw [run_spawn]
  cases w.relay.spawnFails with
  | some r => exact .of_disk rfl rfl rfl htail
  | none =>
    rcases w.disk_listening binary (socketPath base (Decimal.ofInt port)) with hd | ⟨htouches, i, ht⟩
    · exact .of_disk hd rfl rfl htail
    · intro hr _
      have hsockets : Sockets := hr.sockets_of_relay htouches
      exact ⟨⟨hr.environ, hr.users, fun p hp => hr.sockets p (htail hp)⟩,
        Disk.footprint_touch_socket hsockets ht⟩

lemma treads_edges : EdgesAt (World.Treads base env users Sockets own) base where
  toTalks := treads_talks
  makeDirectories port := by
    rw [parent_socketPath]
    exact treads_makeDirectories (.refl _)
  spawn := treads_spawn

lemma treads_start {given : Option Path} (binary : Option Text) {host : Environ}
    (hbase : ∀ w : World, w.environ = env → w.system.users = users → Names base given host w) :
    Within (World.Treads base env users Sockets own) (start given binary host) := by
  intro w hr ho
  obtain ⟨looked, hlooked⟩ := run_binaryOr binary host w
  rw [run_start (hbase w hr.environ hr.users), hlooked]
  cases looked with
  | error f => exact ⟨hr, .refl w.disk⟩
  | ok found =>
    cases found with
    | none => exact ⟨hr, .refl w.disk⟩
    | some binary => exact within_listen treads_edges binary w hr ho

end Relay

/-! ### Operations that come back with a handle -/

/-- The operation stays within the footprint, and the handle that it comes back with, if any, has been
opened on the lock file. -/
def Act.Yields {α : Type} (base : Path) (env : Environ) (users : Users) (Sockets : Prop)
    (own : Nat → Prop) (handle? : α → Option Nat) (a : Act α) : Prop :=
  ∀ w : World, w.Rooted env users Sockets → (∀ h, own h → w.disk.OnLock base h) →
    (a.run w).2.Rooted env users Sockets ∧ Disk.Footprint base Sockets w.disk (a.run w).2.disk ∧
      ∀ x h, (a.run w).1 = .ok x → handle? x = some h → (a.run w).2.disk.OnLock base h

namespace Act.Yields

variable {α β : Type} {handle? : α → Option Nat} {next? : β → Option Nat}

lemma within {a : Act α} (ha : Yields base env users Sockets own handle? a) :
    Within (World.Treads base env users Sockets own) a := fun w hr ho =>
  ⟨(ha w hr ho).1, (ha w hr ho).2.1⟩

lemma pure {x : α} (hx : ∀ h, handle? x = some h → own h) :
    Yields base env users Sockets own handle? (Pure.pure x : Act α) := by
  refine fun w hr ho => ⟨hr, .refl w.disk, fun y h hy hh => ?_⟩
  cases hy
  exact ho h (hx h hh)

lemma throw (f : Failure) :
    Yields base env users Sockets own handle? (MonadExcept.throw f : Act α) :=
  fun w hr _ => ⟨hr, .refl w.disk, fun _ _ hx => nomatch hx⟩

lemma misconfigured (m : Misconfiguration) :
    Yields base env users Sockets own handle? (Act.misconfigured m : Act α) := throw _

/-- The handle that one part comes back with is one of the process's own for the next part. -/
lemma bind {a : Act α} {f : α → Act β} (ha : Yields base env users Sockets own handle? a)
    (hf : ∀ x, Yields base env users Sockets (fun h => own h ∨ handle? x = some h) next? (f x)) :
    Yields base env users Sockets own next? (a >>= f) := by
  intro w hr ho
  obtain ⟨hr', hfoot, hx⟩ := ha w hr ho
  rw [run_bind]
  rcases hrun : a.run w with ⟨e | x, v⟩ <;> rw [hrun] at hr' hfoot hx
  · exact ⟨hr', hfoot, fun _ _ hy => nomatch hy⟩
  · have hown : ∀ h, own h ∨ handle? x = some h → v.disk.OnLock base h := fun h hh =>
      hh.elim (fun hh => hfoot.onLock (ho h hh)) (hx x h rfl)
    obtain ⟨hr'', hfoot', hy⟩ := hf x v hr' hown
    exact ⟨hr'', trans_of (Disk.Footprint base Sockets) hfoot hfoot', hy⟩

lemma after {a : Act α} {f : α → Act β} (ha : Within (World.Treads base env users Sockets own) a)
    (hf : ∀ x, Yields base env users Sockets own next? (f x)) :
    Yields base env users Sockets own next? (a >>= f) := by
  have hnone : Yields base env users Sockets own (fun _ => none) a := fun w hr ho =>
    ⟨(ha w hr ho).1, (ha w hr ho).2, fun _ _ _ hh => nomatch hh⟩
  refine bind hnone fun x w hr ho => hf x w hr fun h hh => ho h (.inl hh)

lemma guard {c : Prop} [Decidable c] {a : Act Unit} {f : Unit → Act β}
    (ha : Within (World.Treads base env users Sockets own) a)
    (hf : ∀ x, Yields base env users Sockets own next? (f x)) :
    Yields base env users Sockets own next? (if c then a >>= f else f ()) := by
  split
  · exact after ha hf
  · exact hf ()

/-- What the variables of the process say is known, and where the homes are. -/
lemma look {x : α} {a : Act α} {f : α → Act β}
    (ha : ∀ w : World, w.environ = env → w.system.users = users → a.run w = (.ok x, w))
    (hf : Yields base env users Sockets own next? (f x)) :
    Yields base env users Sockets own next? (a >>= f) := by
  intro w hr ho
  rw [run_bind_of_ok (ha w hr.environ hr.users)]
  exact hf w hr ho

lemma tryCatch {a : Act α} {f : Failure → Act α} (ha : Yields base env users Sockets own handle? a)
    (hf : ∀ e, Yields base env users Sockets own handle? (f e)) :
    Yields base env users Sockets own handle? (MonadExcept.tryCatch a f) := by
  intro w hr ho
  obtain ⟨hr', hfoot, hx⟩ := ha w hr ho
  have hcaught : (MonadExcept.tryCatch a f).run w = _ := run_tryCatch a f w
  rw [hcaught]
  rcases hrun : a.run w with ⟨e | x, v⟩ <;> rw [hrun] at hr' hfoot hx
  · obtain ⟨hr'', hfoot', hy⟩ := hf e v hr' fun h hh => hfoot.onLock (ho h hh)
    exact ⟨hr'', trans_of (Disk.Footprint base Sockets) hfoot hfoot', hy⟩
  · exact ⟨hr', hfoot, hx⟩

lemma orReport {a : Act α} {cause : Report → Act α}
    (ha : Yields base env users Sockets own handle? a)
    (hc : ∀ r, Yields base env users Sockets own handle? (cause r)) :
    Yields base env users Sockets own handle? (Act.orReport a cause) := by
  refine tryCatch ha fun f => ?_
  split
  · split
    · exact hc _
    · exact throw _
  · exact throw _

end Act.Yields

lemma LockFile.yields_openAt : Yields base env users Sockets own some (openAt base.lockFile) := by
  refine .after ?_ fun _ => .after (checkPath _) fun _ => .after (mayFail _) fun _ w hr ho => ?_
  · rw [Path.parent_lockFile]
    exact treads_makeDirectories base.onWay_socketDir
  · rw [run_bind_of_ok (run_disk w)]
    cases ht : w.disk.touch base.lockFile with
    | error x => exact ⟨hr, .refl w.disk, fun _ _ hx => nomatch hx⟩
    | ok found =>
      obtain ⟨i, e⟩ := found
      obtain ⟨place, hl, hf, hq, -⟩ := Disk.touch_cases ht
      have hopen : Disk.Footprint base Sockets e (e.openInode i).2 := Disk.footprint_openInode e i
      have hfile : e.file base.lockFile = .ok i :=
        Disk.file_eq_ok_iff.2 ⟨place, hq.entry.locate hq.workDir hl, hf⟩
      have hhandle : (e.openInode i).2.handle? e.handles.length = some { inode := i } := by
        simp [Disk.openInode, Disk.handle?]
      refine ⟨⟨hr.environ, hr.users, hr.sockets⟩,
        trans_of (Disk.Footprint base Sockets) (Disk.footprint_touch_lockFile ht) hopen, fun x h hx hh => ?_⟩
      cases hx
      cases hh
      exact ⟨_, hhandle, hopen.keeps.file hopen.workDir hfile⟩

lemma Election.yields_stand (candidate : Value) {lock : Act Path}
    (hl : ∀ w : World, w.environ = env → w.system.users = users →
      lock.run w = (.ok base.lockFile, w)) :
    Yields base env users Sockets own (fun s => s.tenure?.map (·.handle))
      (stand candidate lock) := by
  refine .after (ofExcept _) fun port => .guard (misconfigured _) fun _ => .look hl ?_
  refine .bind (.orReport LockFile.yields_openAt fun _ => .misconfigured _) fun h => ?_
  have htends :
      LockFile.Tends (World.Treads base env users Sockets fun k => own k ∨ some h = some k) h :=
    LockFile.treads_tends (.inr rfl)
  refine .after (within_seek htends _) fun b => ?_
  split
  · refine .after (within_lead htends _ candidate) fun _ => .guard (htends.note _) fun _ => ?_
    exact .pure fun k hk => .inr hk
  · refine .after (within_follow htends _) fun _ => .after (htends.note _) fun _ => ?_
    exact .pure fun _ hk => nomatch hk

lemma Environ.lockPath_of_runtimeDir {host process : Environ}
    (h : host.runtimeDir process users = .ok base) :
    host.lockPath process users = .ok base.lockFile := by
  rw [Environ.lockPath, h]
  rfl

lemma Election.run_lockOf_of_runtimeDir {host : Environ}
    (hbase : host.runtimeDir env users = .ok base) {w : World} (hw : w.environ = env)
    (hu : w.system.users = users) : (lockOf host).run w = (.ok base.lockFile, w) := by
  rw [run_lockOf, hw, hu, Environ.lockPath_of_runtimeDir hbase]

namespace Launch

variable {α : Type} {l : Launch α} {prepare : List α → Act Value} {command : Value}
  {args : List Value}

section Parts

variable (hp : Within (World.Treads base env users Sockets own) (prepare l.overrides))
  {send : Value → Act Unit}
  (hs : ∀ vars, Within (World.Treads base env users Sockets own) (send vars))

include hp hs

lemma yields_askOnce (port : Nat) : Yields base env users Sockets own
    (fun r => r.tenure?.map (·.handle)) (l.askOnce prepare send port) := by
  refine .after hp fun vars => .after (within_launchError? (hs vars)) fun o => ?_
  split
  · exact .pure fun _ hk => nomatch hk
  · exact .throw _

lemma yields_askLeader (port : Nat) : Yields base env users Sockets own
    (fun r => r.tenure?.map (·.handle)) (l.askLeader prepare send port) := by
  have hretry := fun vars => within_retry treads_talks.note (fun _ => treads_talks.event _) (hs vars)
    port l.retryDelay (attemptLimit - 1) 1
  exact .after hp fun vars => .after (hretry vars) fun _ => .pure fun _ hk => nomatch hk

end Parts

lemma yields_compete (hp : Within (World.Treads base env users Sockets own) (prepare l.overrides))
    {send : Int → Value → Act Unit}
    (hs : ∀ port vars, Within (World.Treads base env users Sockets own) (send port vars)) :
    Yields base env users Sockets own (fun r => r.tenure?.map (·.handle))
      (l.compete prepare send command args base.lockFile) := by
  refine .bind (Election.yields_stand _ fun _ _ _ => rfl) fun s => ?_
  cases s with
  | elected h lock port => exact .after (treads_talks.note _) fun _ => .pure fun k hk => .inr hk
  | led lock port =>
    cases port with
    | none => exact .throw _
    | some port =>
      exact .after (treads_talks.note _) fun _ =>
        yields_askLeader (fun w => (hp w).mono fun _ => .inl)
          (fun vars w => (hs port vars w).mono fun _ => .inl) port

/-- A launch that is given no paths stays within the footprint of the host's runtime directory. -/
lemma yields_run (hlock : l.lock = none) (hdir : l.runtimeDir = none)
    (hbase : (l.host.getD env).runtimeDir env users = .ok base)
    (hp : Within (World.Treads base env users Sockets own) (prepare l.overrides)) :
    Yields base env users Sockets own (fun r => r.tenure?.map (·.handle)) (l.run prepare) := by
  intro w hr ho
  have hopens : (l.run prepare).run w = _ := l.run_opens prepare byExchange w
  rw [hopens, hr.environ, hr.users]
  cases hopening : l.opening (l.host.getD env) env users with
  | error f => exact ⟨hr, .refl w.disk, fun _ _ hx => nomatch hx⟩
  | ok o =>
    obtain ⟨-, -, hrelay, -⟩ := opening_eq_ok_iff.1 hopening
    have hs : ∀ (port : Int) vars, Within (World.Treads base env users Sockets own)
        (l.deliver byExchange o.base port o.command o.args vars) := by
      refine fun port => within_deliver_of_start treads_talks l (fun hi host => ?_) port _ _
      rw [relayBase, hdir, hi, hbase] at hrelay
      rw [← Except.ok.inj hrelay]
      exact Relay.treads_start none fun _ _ _ => .inl rfl
    have hgo : Yields base env users Sockets own (fun r => r.tenure?.map (·.handle))
        (l.goOn prepare byExchange (l.host.getD env) o) := by
      unfold goOn
      split
      · exact yields_askOnce hp (hs _) _
      · rw [hlock]
        exact .look (fun _ hw hu => Election.run_lockOf_of_runtimeDir hbase hw hu)
          (yields_compete hp hs)
    exact hgo w hr ho

end Launch

/-! ### Operations that only look -/

/-- No file and no directory is different. -/
def World.SameFiles (w v : World) : Prop := v.disk.files = w.disk.files

instance : IsPreorder World World.SameFiles where
  refl _ := rfl
  trans _ _ _ h k := k.trans h

lemma LockFile.sameFiles_looks : Looks World.SameFiles where
  note _ _ := rfl
  openFile p := by
    intro w
    rcases Election.run_openFile_cases p w with ⟨f, hrun⟩ | ⟨i, -, hrun⟩ <;> rw [hrun] <;> rfl
  close h w := Disk.files_unlock w.disk h
  take _ := within_take fun _ _ _ => Disk.files_lock

end SharedVm
