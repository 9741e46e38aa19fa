import SharedVm.Proofs.Launch.Retry
import SharedVm.Proofs.Launch.Standing
import SharedVm.Proofs.Ordinary
import SharedVm.Proofs.Published

/-!
# Followers of a leader

Where somebody holds the lock of a lock file, what its contents come to decides alike for a candidate,
for an inspection and for a launch: they learn the same port or that there is none, or they all fail
in the same way.
-/

namespace SharedVm

open Act

namespace Launch

variable {α : Type}

/-- The launch is not interactive, knows of no server, has its lock file here, and a port to
publish. -/
structure Seeks (l : Launch α) (w : World) (lock : Path) (command : Value) (args : List Value) :
    Prop where
  plain : l.Plain command args
  unknown : (l.host.getD w.environ).serverPort = .ok none
  place : l.StandsAt w lock
  number : ∃ n, l.serverPort.whole = .ok n ∧ Port.isPublishable n = true

/-- The launch fails as the lock file does, or tells that there is no port, or does nothing from `u`
on but ask the leader at the port. -/
def Heeds (l : Launch α) (lock : Path) (command : Value) (args : List Value)
    (prepare : List α → Act Value) (request : Asking) (u : World)
    (ran : Except Failure (Launched α) × World) : Except Failure (Option Nat) → Prop
  | .error f => ran = (.error f, u)
  | .ok none => ran = (.error (.leaderWithoutPort lock), u)
  | .ok (some port) =>
    l.Makes prepare (request (.int port) command (.list args)) port attemptLimit u ran.1 ran.2

end Launch

namespace Election

variable {w : World} {lock : Path} {i : Nat} (hf : w.faults = {}) (hd : w.disk.WellFormed)
  (hname : Failure.ofName? lock.text = none) (hfile : w.disk.file lock = .ok i)
  (hheld : w.disk.holder? i ≠ none)

include hf hd hname hfile hheld

lemma stand_follows {candidate : Value} {path : Act Path} {n : Int} (hn : candidate.whole = .ok n)
    (hp : Port.isPublishable n = true) (hl : path.run w = (.ok lock, w)) :
    ∃ v, (stand candidate path).run w = ((LockFile.portOf (w.disk.content i)).map (.led lock), v) ∧
      w.Local v ∧ w.disk.Untouched v.disk := by
  have hi : i < w.disk.inodes.length := by
    obtain ⟨place, -, hp⟩ := Disk.file_eq_ok_iff.1 hfile
    exact hd.file hp
  have hopen : (LockFile.openAt lock).run w = (.ok w.disk.handles.length, opened w w.disk i) :=
    LockFile.run_openAt_of_file hf hd hname hfile
  obtain ⟨ns, hrun⟩ := run_stand_held hn hp hl hopen (by rw [hf]) (by rw [hf]) hd hheld
  exact ⟨_, hrun, rfl, Disk.untouched_openInode_close hd hi⟩

lemma inspect_follows {path : Act Path} (hl : path.run w = (.ok lock, w)) :
    ∃ v, (inspect path).run w = ((LockFile.portOf (w.disk.content i)).map (⟨true, ·, lock⟩), v) ∧
      w.Local v ∧ w.disk.Untouched v.disk := by
  obtain ⟨v, hrun, hlocal, hsame, -⟩ := inspect_faithful hf hd hl ⟨hname, .inl ⟨i, hfile⟩⟩
  rw [Disk.leadership, hfile] at hrun
  dsimp only at hrun
  rw [if_neg hheld] at hrun
  exact ⟨v, hrun, hlocal, hsame⟩

end Election

namespace Launch

variable {α : Type} {l : Launch α} {w : World} {lock : Path} {command : Value} {args : List Value}

lemma Seeks.stands (h : l.Seeks w lock command args) :
    l.Stands w ⟨command, args, l.runtimeDir, none⟩ lock :=
  ⟨opening_of_plain h.plain h.unknown w.environ w.system.users, rfl, h.place⟩

lemma Seeks.heeds (h : l.Seeks w lock command args) {r : Except Failure (Option Nat)}
    (hs : ∃ v, (Election.stand l.serverPort (pure lock)).run w = (r.map (.led lock), v) ∧
      w.Local v ∧ w.disk.Untouched v.disk) :
    ∃ u, w.Local u ∧ w.disk.Untouched u.disk ∧ ∀ prepare request,
      l.Heeds lock command args prepare request u ((l.run prepare request).run w) r := by
  obtain ⟨v, hrun, hlocal, hsame⟩ := hs
  cases r with
  | error f => exact ⟨v, hlocal, hsame, (run_of_unelected h.stands hrun).2⟩
  | ok announced =>
    cases announced with
    | none => exact ⟨v, hlocal, hsame, (run_of_led_without_port h.stands hrun).2⟩
    | some port =>
      refine ⟨{ v with notices := v.notices ++ [.forwarding command port] }, ?_, hsame,
        fun prepare request => ?_⟩
      · exact trans_of World.Local hlocal (Within.local_note _ v)
      · rw [run_of_loses h.plain ⟨h.unknown, h.place, hrun⟩]
        exact askLeader_makes _

/-- Requests that fail to connect use up the tape and change nothing else that is going to happen. -/
lemma Retries.onward {send : Act Unit} {port : Int} {delay : Value} {n m : Nat} {x u : World}
    (hs : Within World.Onward send) (h : Retries send port delay n x m u) : x.Onward u := by
  induction h with
  | none n x => exact refl_of World.Onward x
  | @next n m x v u e hsend hk hd h ih =>
    have hv := hs x
    rw [hsend] at hv
    have hbetween : v.Onward (between port delay (n + 1) (some e) v) :=
      ⟨rfl, rfl, rfl, rfl, List.suffix_refl _, List.suffix_refl _⟩
    exact trans_of World.Onward hv (trans_of World.Onward hbetween ih)

/-- Around an ordinary process, requests that are made come to an answer or to an error that is handed
on, once the variables have been made, unless the delay between two of them cannot be waited for. -/
lemma Makes.comes_to {prepare : List α → Act Value} {port limit : Nat} {x v : World}
    {r : Except Failure (Launched α)} {P : Failure → Prop}
    (h : l.Makes prepare (byExchange (.int port) command (.list args)) port limit x r v)
    (hw : w.Ordinary) (hx : w.Onward x)
    (hp : Ends w.Onward (fun env u => w.Onward u ∧ ∃ entries, env = .mapping entries)
      (fun f _ => P f) (prepare l.overrides)) :
    (∃ n, r = .ok (.requested port n)) ∨ (∃ e n, r = .error (.forwarding e n)) ∨
      ∃ f, r = .error f ∧ (P f ∨ impatience? w.system l.retryDelay = some f) := by
  have hsend : ∀ env, Within World.Onward (byExchange (.int port) command (.list args) env) :=
    fun env => within_byExchange onward_talks _ _ _ _
  have hprepared := hp x hx
  cases h with
  | unprepared hrun =>
    rw [hrun] at hprepared
    exact .inr (.inr ⟨_, rfl, .inl hprepared⟩)
  | @made env y u m hrun hretries hm hlast =>
    rw [hrun] at hprepared
    obtain ⟨hy, entries, rfl⟩ := hprepared
    have hu : w.Onward u := trans_of World.Onward hy (hretries.onward (hsend _))
    have hasked := Exchange.only_request hw port command (.list args) entries Exchange.loopback none u hu
    rcases hs : (Exchange.request (.int port) command (.list args) (.mapping entries)).run u with
      ⟨f | _, v⟩ <;> rw [hs] at hasked
    · obtain ⟨-, e, rfl⟩ := hasked
      have hrequest : (byExchange (.int port) command (.list args) (.mapping entries)).run u =
        (.error (.launch e), v) := hs
      rw [hrequest]
      exact .inr (.inl ⟨e, _, rfl⟩)
    · have hrequest : (byExchange (.int port) command (.list args) (.mapping entries)).run u =
        (.ok (), v) := hs
      rw [hrequest]
      exact .inl ⟨_, rfl⟩
  | unpaused hrun hretries hm hg =>
    rw [hrun] at hprepared
    obtain ⟨hy, entries, rfl⟩ := hprepared
    have hu := trans_of World.Onward hy (hretries.onward (hsend _))
    have himpatient := hg.impatient
    rw [(trans_of World.Onward hu (hsend _ _)).system] at himpatient
    exact .inr (.inr ⟨_, rfl, .inr himpatient⟩)

end Launch

/-- What those come to who look for the leader in this lock file, and what they leave behind: `r` is
the port that it says, or the failure of reading it. -/
structure World.Follows (w : World) (lock : Path) (r : Except Failure (Option Nat)) : Prop where
  stand : ∀ (candidate : Value) (path : Act Path) (n : Int), candidate.whole = .ok n →
    Port.isPublishable n = true → path.run w = (.ok lock, w) →
    ∃ v, (Election.stand candidate path).run w = (r.map (.led lock), v) ∧ w.Local v ∧
      w.disk.Untouched v.disk
  inspect : ∀ path : Act Path, path.run w = (.ok lock, w) →
    ∃ v, (Election.inspect path).run w = (r.map (⟨true, ·, lock⟩), v) ∧ w.Local v ∧
      w.disk.Untouched v.disk
  launch : ∀ {α : Type} (l : Launch α) (command : Value) (args : List Value),
    l.Seeks w lock command args → ∃ u, w.Local u ∧ w.disk.Untouched u.disk ∧
      ∀ prepare request, l.Heeds lock command args prepare request u ((l.run prepare request).run w) r
  forwards : ∀ {α : Type} (l : Launch α) (command : Value) (args : List Value) (port : Nat),
    r = .ok (some port) → l.Seeks w lock command args → ∀ prepare : List α → Act Value,
      (Within World.Offline (prepare l.overrides) →
        w.ConnectsTo port ((l.run prepare).run w).2) ∧
      ∀ P : Failure → Prop, w.Ordinary →
        Ends w.Onward (fun env u => w.Onward u ∧ ∃ entries, env = .mapping entries) (fun f _ => P f)
          (prepare l.overrides) →
        (∃ n, ((l.run prepare).run w).1 = .ok (.requested port n)) ∨
          (∃ e n, ((l.run prepare).run w).1 = .error (.forwarding e n)) ∨
          ∃ f, ((l.run prepare).run w).1 = .error f ∧
            (P f ∨ Launch.impatience? w.system l.retryDelay = some f)

lemma World.follows {w : World} {lock : Path} {i : Nat} (hf : w.faults = {})
    (hd : w.disk.WellFormed) (hname : Failure.ofName? lock.text = none)
    (hfile : w.disk.file lock = .ok i) (hheld : w.disk.holder? i ≠ none) :
    w.Follows lock (LockFile.portOf (w.disk.content i)) where
  stand _ _ _ hn hp hl := Election.stand_follows hf hd hname hfile hheld hn hp hl
  inspect _ hl := Election.inspect_follows hf hd hname hfile hheld hl
  launch l command args h := by
    obtain ⟨n, hn, hp⟩ := h.number
    exact h.heeds (Election.stand_follows hf hd hname hfile hheld hn hp (run_pure lock w))
  forwards l command args port hport h prepare := by
    obtain ⟨n, hn, hp⟩ := h.number
    have hstand := Election.stand_follows hf hd hname hfile hheld hn hp (run_pure lock w)
    rw [hport] at hstand
    refine ⟨fun hprepare => ?_, fun P hw hends => ?_⟩
    · obtain ⟨v, hrun, -⟩ := hstand
      exact (Launch.run_of_led h.stands hrun hprepare).2
    · obtain ⟨u, hu, -, hheeds⟩ := h.heeds hstand
      exact (hheeds prepare Launch.byExchange).comes_to hw (.of_local hu) hends

end SharedVm
