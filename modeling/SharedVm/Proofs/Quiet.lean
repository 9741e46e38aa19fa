import SharedVm.Proofs.Disk.Operations
import SharedVm.Proofs.Edges
import SharedVm.Proofs.Exchange
import SharedVm.Proofs.Relay

/-!
# Operations that leave everything that is there alone

Requests, relays and the variables of guests change no file, take no lock and keep no handle; at
most they make directories and sockets.
-/

namespace SharedVm

/-- What was on the disk is as it was, and the same calls fail. -/
structure World.Quiet (w v : World) : Prop where
  disk : w.disk.Quiet v.disk
  faults : v.faults = w.faults

namespace World.Quiet

instance : IsPreorder World World.Quiet where
  refl w := ⟨Disk.Quiet.refl w.disk, rfl⟩
  trans _ _ _ h k := ⟨h.disk.trans k.disk, k.faults.trans h.faults⟩

lemma of_disk {w v : World} (hd : v.disk = w.disk) (hf : v.faults = w.faults) : w.Quiet v :=
  ⟨hd ▸ Disk.Quiet.refl w.disk, hf⟩

end World.Quiet

open Act Act.Within

namespace Act.Within

lemma quiet_note (n : Notice) : Within World.Quiet (Act.note n) := fun _ => .of_disk rfl rfl

lemma quiet_event (e : Event) : Within World.Quiet (Act.event e) := fun _ => .of_disk rfl rfl

lemma quiet_makeDirectories (p : Path) : Within World.Quiet (Act.makeDirectories p) :=
  makeDirectories fun w => ⟨Disk.quiet_makeDirectories w.disk p, rfl⟩

end Act.Within

lemma Exchange.quiet_nextPeer : Within World.Quiet nextPeer := by
  intro w
  rw [run_nextPeer]
  exact .of_disk rfl rfl

lemma Relay.quiet_spawn (binary : Text) (socket : Path) :
    Within World.Quiet (spawn binary socket) := by
  intro w
  rw [run_spawn]
  cases w.relay.spawnFails with
  | some r => exact .of_disk rfl rfl
  | none =>
    rcases w.disk_listening binary socket with hd | ⟨-, i, ht⟩
    · exact .of_disk hd rfl
    · obtain ⟨-, -, -, hq, -⟩ := Disk.touch_cases ht
      exact ⟨hq, rfl⟩

lemma Act.quiet_talks : Talks World.Quiet where
  note := quiet_note
  event := quiet_event
  nextPeer := Exchange.quiet_nextPeer

lemma Act.quiet_edges : Edges World.Quiet where
  toTalks := quiet_talks
  makeDirectories := quiet_makeDirectories
  spawn _ _ _ := Relay.quiet_spawn _ _

end SharedVm
