import SharedVm.Proofs.Inspection
import SharedVm.Proofs.Launch.Known
import SharedVm.Proofs.Leading

/-!
# Launches that stand for election

What becomes of a launch whose host announces no server is settled by the election. A launch that
leads, and one that finds no port, is over at once, so nothing is prepared for a request and nothing
is sent.
-/

namespace SharedVm.Launch

open Act

variable {α : Type} {l : Launch α} {w : World} {o : Opening} {lock : Path}

lemma connectsTo_askLeader {prepare : List α → Act Value} {base : Option Path} {command : Value}
    {args : List Value} {port : Nat} (hp : Within World.Offline (prepare l.overrides)) :
    Within (World.ConnectsTo port)
      (l.askLeader prepare (l.deliver byExchange base port command args) port) := by
  have hsleep : ∀ d, Within (World.ConnectsTo port) (Act.event (.sleep d)) := by
    refine fun d w => ⟨_, rfl, fun host number timeout hm => ?_⟩
    cases List.mem_singleton.1 hm
  have hnote : ∀ n, Within (World.ConnectsTo port) (Act.note n) :=
    fun n w => (Within.local_note n w).offline.connectsTo port
  have hsend : ∀ env, Within (World.ConnectsTo port)
      (l.deliver byExchange base port command args env) :=
    fun env w => (deliver_delivers l byExchange base port command args env w).callsOnce.only
  exact within_askLeader hnote hsleep (fun w => (hp w).connectsTo port) hsend port

/-- A launch that has found out what it needs, knows of no server, and has its lock file here. -/
structure Stands (l : Launch α) (w : World) (o : Opening) (lock : Path) : Prop where
  opening : l.opening (l.host.getD w.environ) w.environ w.system.users = .ok o
  unknown : o.known = none
  place : l.StandsAt w lock

/-- What the launch leads with if it is elected. -/
def leaderOf (l : Launch α) (o : Opening) (handle : Nat) (lock : Path) (port : Int) : Leader α :=
  { handle, lock, port, command := o.command, args := o.args, overrides := l.overrides }

section Stands

variable (h : l.Stands w o lock)

include h

lemma run_of_stands (prepare : List α → Act Value) (request : Asking) :
    (l.run prepare request).run w =
      (l.compete prepare (fun port => l.deliver request o.base port o.command o.args) o.command
        o.args lock).run w := by
  rw [run_opens, h.opening, run_bind_of_ok (run_ofExcept (.ok o) w), goOn, h.unknown]
  rcases h.place with hl | ⟨hl, hlock⟩
  · rw [hl]
    rfl
  · rw [hl]
    exact run_bind_of_ok hlock _

lemma run_of_elected {handle : Nat} {path : Path} {port : Int} {v : World}
    (he : (Election.stand l.serverPort (pure lock)).run w = (.ok (.elected handle path port), v)) :
    ∃ u, w.Local u ∧ ∀ prepare request,
      (l.run prepare request).run w = (.ok (.leading (l.leaderOf o handle path port)), u) := by
  have hlocal := Election.local_stand l.serverPort (Within.pure lock) w
  rw [he] at hlocal
  refine ⟨_, trans_of World.Local hlocal (Within.local_note (.elected path port) v), ?_⟩
  intro prepare request
  rw [run_of_stands h, compete, run_bind_of_ok he]
  rfl

lemma run_of_led {port : Nat} {v : World} {prepare : List α → Act Value}
    (he : (Election.stand l.serverPort (pure lock)).run w = (.ok (.led lock (some port)), v))
    (hp : Within World.Offline (prepare l.overrides)) :
    (∀ leader, ((l.run prepare).run w).1 ≠ .ok (.leading leader)) ∧
      w.ConnectsTo port ((l.run prepare).run w).2 := by
  have hlocal := Election.local_stand l.serverPort (Within.pure lock) w
  rw [he] at hlocal
  have hnote := Within.local_note (.forwarding o.command port) v
  rw [run_of_stands h, compete, run_bind_of_ok he]
  dsimp only
  rw [run_bind_of_ok (run_note _ _)]
  refine ⟨(askLeader_makes _).ne_leading, ?_⟩
  exact trans_of (World.ConnectsTo port)
    ((trans_of World.Local hlocal hnote).offline.connectsTo port) (connectsTo_askLeader hp _)

lemma run_of_led_without_port {v : World}
    (he : (Election.stand l.serverPort (pure lock)).run w = (.ok (.led lock none), v)) :
    w.Local v ∧
      ∀ prepare request, (l.run prepare request).run w = (.error (.leaderWithoutPort lock), v) := by
  have hlocal := Election.local_stand l.serverPort (Within.pure lock) w
  rw [he] at hlocal
  refine ⟨hlocal, fun prepare request => ?_⟩
  rw [run_of_stands h, compete, run_bind_of_ok he]
  rfl

lemma run_of_unelected {f : Failure} {v : World}
    (he : (Election.stand l.serverPort (pure lock)).run w = (.error f, v)) :
    w.Local v ∧ ∀ prepare request, (l.run prepare request).run w = (.error f, v) := by
  have hlocal := Election.local_stand l.serverPort (Within.pure lock) w
  rw [he] at hlocal
  refine ⟨hlocal, fun prepare request => ?_⟩
  rw [run_of_stands h, compete, run_bind_of_error he]

section Candidate

variable {port : Int} (hc : l.serverPort.whole = .ok port) (hp : Port.isPublishable port = true)

include hc hp

/-- A launch that cannot open its lock file fails. -/
lemma run_of_unopened {f : Failure} {v : World}
    (hopen : (LockFile.openAt lock).run w = (.error f, v)) :
    ∃ g, w.Local v ∧ ∀ prepare request, (l.run prepare request).run w = (.error g, v) := by
  obtain ⟨g, he⟩ := Election.run_stand_unopened hc hp (run_pure lock w) hopen
  exact ⟨g, run_of_unelected h he⟩

section Sound

variable (hf : w.faults = {}) (hd : w.disk.WellFormed) (ha : w.disk.Admits lock)

include hf hd ha

/-- A launch leads where nobody holds the lock. -/
lemma run_of_free (hfree : w.disk.IsFree lock) : ∃ handle u, w.Local u ∧ ∀ prepare request,
    (l.run prepare request).run w = (.ok (.leading (l.leaderOf o handle lock port)), u) := by
  obtain ⟨k, v, hopen⟩ := ha.opens hf hd
  obtain ⟨handle, u, he⟩ :=
    Election.stand_of_unheld hc hp (run_pure lock w) hf hd hopen hfree
  exact ⟨handle, run_of_elected h he⟩

/-- A launch asks the leader that holds the lock, and no one else. -/
lemma run_of_announced {i p : Nat} (hi : w.disk.lockFile? lock = some i)
    (hheld : w.disk.holder? i ≠ none) (hport : LockFile.portOf (w.disk.content i) = .ok (some p))
    {prepare : List α → Act Value} (hprepare : Within World.Offline (prepare l.overrides)) :
    (∀ leader, ((l.run prepare).run w).1 ≠ .ok (.leading leader)) ∧
      w.ConnectsTo p ((l.run prepare).run w).2 := by
  obtain ⟨k, v, hopen⟩ := ha.opens hf hd
  obtain ⟨u, he⟩ := Election.stand_of_held hc hp (run_pure lock w) hf hd hopen hi hheld
  rw [hport] at he
  exact run_of_led h he hprepare

/-- A launch gives up where a leader holds the lock and has not published a port. -/
lemma run_of_unannounced {i : Nat} (hi : w.disk.lockFile? lock = some i)
    (hheld : w.disk.holder? i ≠ none) (hport : LockFile.portOf (w.disk.content i) = .ok none) :
    ∃ u, w.Local u ∧
      ∀ prepare request, (l.run prepare request).run w = (.error (.leaderWithoutPort lock), u) := by
  obtain ⟨k, v, hopen⟩ := ha.opens hf hd
  obtain ⟨u, he⟩ := Election.stand_of_held hc hp (run_pure lock w) hf hd hopen hi hheld
  rw [hport] at he
  exact ⟨u, run_of_led_without_port h he⟩

end Sound

end Candidate

end Stands

/-- Only a launch that stands for election leads, and it would lead whatever it was to prepare. -/
lemma exists_stands_of_leading {prepare : List α → Act Value} {request : Asking} {leader : Leader α}
    (h : ((l.run prepare request).run w).1 = .ok (.leading leader)) :
    ∃ o lock u, l.Stands w o lock ∧ leader.command = o.command ∧ leader.args = o.args ∧
      leader.overrides = l.overrides ∧ w.Local u ∧
      ∀ prepare request, (l.run prepare request).run w = (.ok (.leading leader), u) := by
  have hopens := l.run_opens prepare request w
  cases ho : l.opening (l.host.getD w.environ) w.environ w.system.users with
  | error f =>
    rw [hopens, ho] at h
    cases h
  | ok o =>
    rw [ho, run_bind_of_ok (run_ofExcept (.ok o) w)] at hopens
    cases hknown : o.known with
    | some known =>
      rw [hopens, goOn, hknown] at h
      exact absurd h ((askOnce_makes w).ne_leading leader)
    | none =>
      have hplace : ∃ lock, l.StandsAt w lock := by
        cases hl : l.lock with
        | some lock => exact ⟨lock, .inl hl⟩
        | none =>
          have hlock := Election.run_lockOf (l.host.getD w.environ) w
          cases hp : (l.host.getD w.environ).lockPath w.environ w.system.users with
          | ok lock => exact ⟨lock, .inr ⟨hl, by rw [hlock, hp]⟩⟩
          | error f =>
            rw [hp] at hlock
            rw [hopens, goOn, hknown, hl] at h
            dsimp only at h
            rw [run_bind_of_error hlock] at h
            cases h
      obtain ⟨lock, hplace⟩ := hplace
      have hstands : l.Stands w o lock := ⟨ho, hknown, hplace⟩
      rcases he : (Election.stand l.serverPort (pure lock)).run w with ⟨f | s, v⟩
      · rw [(run_of_unelected hstands he).2] at h
        cases h
      · cases s with
        | elected handle path port =>
          obtain ⟨u, hu, hrun⟩ := run_of_elected hstands he
          rw [hrun] at h
          cases h
          exact ⟨o, lock, u, hstands, rfl, rfl, rfl, hu, hrun⟩
        | led path port =>
          rw [run_of_stands hstands, compete, run_bind_of_ok he] at h
          cases port with
          | none => cases h
          | some port =>
            dsimp only at h
            rw [run_bind_of_ok (run_note _ _)] at h
            exact absurd h ((askLeader_makes _).ne_leading leader)

end SharedVm.Launch
