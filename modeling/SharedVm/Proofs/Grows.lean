import SharedVm.Proofs.Decimal
import SharedVm.Proofs.Disk.Reopen
import SharedVm.Proofs.Quiet

/-!
# Disks that only grow

A launch that is not about a lock file opens no file and makes none but the sockets of relays. So
no lock file comes into being on the way, and none is opened or locked.
-/

namespace SharedVm

lemma Text.splitOn_of_not_mem {sep : Symbol} {t : Text} (h : sep ∉ t) : t.splitOn sep = [t] := by
  unfold splitOn
  induction t with
  | nil => rfl
  | cons s rest ih =>
    obtain ⟨hs, hrest⟩ := List.ne_and_not_mem_of_not_mem_cons h
    rw [List.foldr_cons, ih hrest, if_neg (Ne.symm hs)]

namespace Relay

def socketName (port : Int) : Text := "port-" ++ Decimal.ofInt port

lemma slash_notMem_socketName (port : Int) : .char '/' ∉ socketName port := by
  intro hm
  rcases List.mem_append.1 hm with hm | hm
  · revert hm
    decide
  · exact Decimal.forall_mem_ofInt (P := (· ≠ .char '/')) (by decide) (by decide) port _ hm rfl

/-- The last name of the path of a socket tells its port. -/
lemma names_socketPath (base : Path) (port : Int) :
    (socketPath base (Decimal.ofInt port)).names = (socketDir base).names ++ [socketName port] := by
  have hnames : Path.namesOf (socketName port) = [socketName port] := by
    rw [Path.namesOf, Text.splitOn_of_not_mem (slash_notMem_socketName port)]
    rfl
  rw [socketPath, Path.child, ← socketName]
  change (socketDir base).names ++ Path.namesOf (socketName port) = _
  rw [hnames]

end Relay

namespace Disk

/-- Nothing that was there is different, no file is opened, and a file that is new is the socket of
a relay. -/
structure Grows (d e : Disk) : Prop extends Quiet d e where
  unopened : e.handles = d.handles
  files : d.inodes <+: e.inodes
  sockets : ∀ ⦃place i⦄, e.entryAt? place = some (.file i) →
    d.entryAt? place = some (.file i) ∨ ∃ above port, place = above ++ [Relay.socketName port]

variable {d e f : Disk}

lemma Grows.refl (d : Disk) : d.Grows d := ⟨.refl d, rfl, List.prefix_refl _, fun _ _ => .inl⟩

instance : IsPreorder Disk Grows where
  refl := .refl
  trans _ _ _ h k := {
    toQuiet := h.toQuiet.trans k.toQuiet
    unopened := k.unopened.trans h.unopened
    files := h.files.trans k.files
    sockets := fun _ _ hf => (k.sockets hf).elim (h.sockets ·) .inr }

lemma grows_makeDirectory {p : Path} (h : d.makeDirectory p = .ok e) : d.Grows e := by
  have hq := quiet_makeDirectory h
  obtain ⟨place, -, hn, rfl⟩ := makeDirectory_cases h
  refine ⟨hq, rfl, List.prefix_refl _, fun q i hf => .inl ?_⟩
  rw [entryAt?_append d hn] at hf
  split at hf
  · cases hf
  · exact hf

lemma grows_makeDirectories (d : Disk) (p : Path) : d.Grows (d.makeDirectories p).2 :=
  makeDirectoriesFrom_within (fun _ => grows_makeDirectory) d

lemma grows_touch {base : Path} {port : Int} {i : Nat}
    (h : d.touch (Relay.socketPath base (Decimal.ofInt port)) = .ok (i, e)) : d.Grows e := by
  obtain ⟨place, hl, hf, hq, ⟨-, rfl⟩ | ⟨hn, -⟩⟩ := touch_cases h
  · exact .refl e
  · have he : e = (d.addFile place).2 := by
      simp only [touch, hl, hn, bind, Except.bind] at h
      exact (Prod.mk.inj (Except.ok.inj h)).2.symm
    have hplace : ∃ above, place = above ++ [Relay.socketName port] := by
      unfold locate at hl
      split at hl
      · cases hl
      · rw [Relay.names_socketPath] at hl
        obtain ⟨q, -, -, hnext⟩ := follow_concat hl
        exact ⟨q, hnext⟩
    subst he
    refine ⟨hq, rfl, List.prefix_append _ _, fun q j hf => ?_⟩
    rw [addFile, entryAt?_append d hn] at hf
    split at hf
    · rename_i hq
      obtain ⟨above, habove⟩ := hplace
      exact .inr ⟨above, port, hq.trans habove⟩
    · exact .inl hf

end Disk

/-- The disk has only grown, and the same calls fail. -/
structure World.Grows (w v : World) : Prop where
  disk : w.disk.Grows v.disk
  faults : v.faults = w.faults

namespace World.Grows

instance : IsPreorder World World.Grows where
  refl w := ⟨.refl w.disk, rfl⟩
  trans _ _ _ h k := ⟨trans_of Disk.Grows h.disk k.disk, k.faults.trans h.faults⟩

lemma of_disk {w v : World} (hd : v.disk = w.disk) (hf : v.faults = w.faults) : w.Grows v :=
  ⟨hd ▸ .refl w.disk, hf⟩

end World.Grows

namespace Act

open Act.Within

lemma Within.grows_makeDirectories (p : Path) : Within World.Grows (Act.makeDirectories p) :=
  makeDirectories fun w => ⟨Disk.grows_makeDirectories w.disk p, rfl⟩

lemma Within.grows_spawn (binary : Text) (base : Path) (port : Int) :
    Within World.Grows (Relay.spawn binary (Relay.socketPath base (Decimal.ofInt port))) := by
  intro w
  rw [Relay.run_spawn]
  cases w.relay.spawnFails with
  | some r => exact .of_disk rfl rfl
  | none =>
    rcases w.disk_listening binary (Relay.socketPath base (Decimal.ofInt port)) with hd | ⟨-, i, ht⟩
    · exact .of_disk hd rfl
    · exact ⟨Disk.grows_touch ht, rfl⟩

lemma grows_talks : Talks World.Grows where
  note _ _ := .of_disk rfl rfl
  event _ _ := .of_disk rfl rfl
  nextPeer w := by
    rw [Exchange.run_nextPeer]
    exact .of_disk rfl rfl

lemma grows_edges : Edges World.Grows where
  toTalks := grows_talks
  makeDirectories := Within.grows_makeDirectories
  spawn := Within.grows_spawn

end Act

end SharedVm
