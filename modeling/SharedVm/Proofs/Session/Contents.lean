import SharedVm.Proofs.Following
import SharedVm.Proofs.Session.Prediction

/-!
# Contents of a lock file that is held

A leader may write anything to its lock file, and others may too. In every state of a session,
whatever the file says while its lock is held, those who look for the leader take the file for what
it is: they learn a port or that there is none. Only a run of too many digits stops them all.
-/

namespace SharedVm.Session

open Act

/-- Where somebody holds the lock of the file, a candidate, an inspection and a launch learn the same
port from it, or that it has none, and leave files, locks and handles as they were. A launch then
asks the leader at that port and no one else, or gives up. They fail because of what the file says
only where it says too many digits, and then all in the same way. -/
theorem followers_agree (w : World) (lock : Path) (i : Nat) :
    (∀ s, Reached s → s.world.disk.WellFormed) ∧
    (w.faults = {} → w.disk.WellFormed → Failure.ofName? lock.text = none →
      w.disk.file lock = .ok i → w.disk.holder? i ≠ none →
      w.Follows lock (LockFile.portOf (w.disk.content i)) ∧
        ∀ f, LockFile.portOf (w.disk.content i) = .error f ↔
          ∃ n, Published.IsOverlong (w.disk.content i) n ∧ f = .notWhole (.tooLong n)) :=
  ⟨fun _ => Reached.wellFormed, fun hf hd hname hfile hheld =>
    ⟨World.follows hf hd hname hfile hheld, fun _ => LockFile.portOf_eq_error_iff⟩⟩

/-- While somebody leads, the lock file is written anew. -/
def overwritten (content : Bytes) : State :=
  (Step.run presentLeader (.one {} (.write "run/krun.lock" content false))).state

lemma reached_overwritten (content : Bytes) : Reached (overwritten content) :=
  .step _ (.step _ (.initial [] {}))

lemma seeks_newcomer (content : Bytes) : (newcomer "run/krun.lock").Seeks (overwritten content).world
    "run/krun.lock" (.text "c") [] where
  plain := ⟨rfl, rfl, rfl⟩
  unknown := rfl
  place := .inl rfl
  number := ⟨4444, rfl, by decide⟩

theorem followers_agree_garbled :
    (overwritten [0xFF, 0x33]).world.disk.content 0 = [0xFF, 0x33] ∧ ∃ v u t,
      (Election.stand (.int 4444) (pure ("run/krun.lock" : Path))).run
        (overwritten [0xFF, 0x33]).world = (.ok (.led "run/krun.lock" none), v) ∧
      (Election.inspect (pure ("run/krun.lock" : Path))).run (overwritten [0xFF, 0x33]).world =
        (.ok ⟨true, none, "run/krun.lock"⟩, u) ∧
      ((newcomer "run/krun.lock").run fun _ => pure .null).run (overwritten [0xFF, 0x33]).world =
        (.error (.leaderWithoutPort "run/krun.lock"), t) := by
  obtain ⟨hreached, hagree⟩ :=
    followers_agree (overwritten [0xFF, 0x33]).world "run/krun.lock" 0
  obtain ⟨hfollows, -⟩ := hagree rfl (hreached _ (reached_overwritten _)) (by decide) rfl nofun
  have hport : LockFile.portOf ((overwritten [0xFF, 0x33]).world.disk.content 0) = .ok none := rfl
  rw [hport] at hfollows
  obtain ⟨v, hstand, -⟩ := hfollows.stand (.int 4444) (pure "run/krun.lock") 4444 rfl (by decide) rfl
  obtain ⟨u, hinspect, -⟩ := hfollows.inspect (pure "run/krun.lock") rfl
  obtain ⟨t, -, -, hlaunch⟩ := hfollows.launch _ _ _ (seeks_newcomer _)
  exact ⟨rfl, v, u, t, hstand, hinspect, hlaunch _ _⟩

/-- The lock file of a leader says one digit more than a number may have. -/
def flooded : State := overwritten (List.replicate 4301 0x31)

lemma isOverlong_replicate {n : Nat} (h : Decimal.limit < n) :
    Published.IsOverlong (List.replicate n 0x31) n := by
  have hascii : ∀ b ∈ List.replicate n (0x31 : UInt8), b.toNat < 0x80 := fun b hb => by
    rw [List.eq_of_mem_replicate hb]
    decide
  refine ⟨[], List.replicate n (.char '1'), [], ?_, nofun, nofun, fun s hs => ?_,
    List.length_replicate, h⟩
  · rw [Utf8.decode_ascii hascii, List.map_replicate, List.nil_append, List.append_nil]
    rfl
  · rw [List.eq_of_mem_replicate hs]
    decide

/-- Somebody leads, and nobody can find out: standing, inspecting and launching all fail. -/
theorem followers_stopped :
    flooded.world.disk.holder? 0 ≠ none ∧ ∃ v u t,
      (Election.stand (.int 4444) (pure ("run/krun.lock" : Path))).run flooded.world =
        (.error (.notWhole (.tooLong 4301)), v) ∧
      (Election.inspect (pure ("run/krun.lock" : Path))).run flooded.world =
        (.error (.notWhole (.tooLong 4301)), u) ∧
      ((newcomer "run/krun.lock").run fun _ => pure .null).run flooded.world =
        (.error (.notWhole (.tooLong 4301)), t) := by
  have hd : flooded.world.disk.WellFormed := (reached_overwritten _).wellFormed
  have hheld : flooded.world.disk.holder? 0 ≠ none := nofun
  have hfollows : flooded.world.Follows "run/krun.lock" _ :=
    World.follows (i := 0) rfl hd (by decide) rfl hheld
  have hcontent : flooded.world.disk.content 0 = List.replicate 4301 0x31 := rfl
  have hport := LockFile.portOf_eq_error_iff.2 ⟨4301, isOverlong_replicate (by decide), rfl⟩
  rw [hcontent, hport] at hfollows
  obtain ⟨v, hstand, -⟩ := hfollows.stand (.int 4444) (pure "run/krun.lock") 4444 rfl (by decide) rfl
  obtain ⟨u, hinspect, -⟩ := hfollows.inspect (pure "run/krun.lock") rfl
  obtain ⟨t, -, -, hlaunch⟩ := hfollows.launch _ _ _ (seeks_newcomer _)
  exact ⟨hheld, v, u, t, hstand, hinspect, hlaunch _ _⟩

end SharedVm.Session
