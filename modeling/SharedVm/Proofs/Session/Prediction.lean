import SharedVm.Proofs.Launch.Retry
import SharedVm.Proofs.Launch.Standing
import SharedVm.Proofs.Session.Exclusion
import SharedVm.Proofs.Session.Intact

/-!
# What an inspection foretells

An inspection and a launch look at a lock file in ways of their own: the one opens it only if it is
there, the other makes it and takes its lock. On the same disk they find the same leader, unless the
path leads back out of a directory that only the launch makes.
-/

namespace SharedVm

open Act

namespace Launch

variable {α : Type} {l : Launch α} {x : World} {lock : Path} {command : Value} {args : List Value}
  {port : Int}

/-- What becomes of a launch in `x` with a port to publish, if this leadership was found where its
lock file is. -/
structure Foretold (l : Launch α) (x : World) (found : Leadership) (command : Value)
    (args : List Value) (port : Int) : Prop where
  leads : found.leader = false → x.disk.IsFree found.lock → ∃ handle u, x.Local u ∧
    ∀ prepare request, (l.run prepare request).run x = (.ok (.leading
      { handle, lock := found.lock, port, command, args, overrides := l.overrides }), u)
  asks : ∀ p : Nat, found.leader = true → found.port = some p →
    ∀ prepare, Within World.Offline (prepare l.overrides) →
      (∀ leader, ((l.run prepare).run x).1 ≠ .ok (.leading leader)) ∧
        x.ConnectsTo p ((l.run prepare).run x).2
  gives_up : found.leader = true → found.port = none → ∃ u, x.Local u ∧
    ∀ prepare request, (l.run prepare request).run x = (.error (.leaderWithoutPort found.lock), u)

/-- A launch that is not interactive needs no directory for relays. -/
lemma Plain.stands (hl : l.Plain command args)
    (hu : (l.host.getD x.environ).serverPort = .ok none) (hs : l.StandsAt x lock) :
    ∃ base, l.Stands x ⟨command, args, base, none⟩ lock :=
  ⟨l.runtimeDir, opening_of_plain hl hu x.environ x.system.users, rfl, hs⟩

/-- A launch does what is found on the disk. -/
lemma foretold (hl : l.Plain command args) (hu : (l.host.getD x.environ).serverPort = .ok none)
    (hs : l.StandsAt x lock) (hf : x.faults = {}) (hd : x.disk.WellFormed)
    (ha : x.disk.Admits lock) (hc : l.serverPort.whole = .ok port)
    (hp : Port.isPublishable port = true) {found : Leadership}
    (hfound : x.disk.leadership lock = .ok found) : l.Foretold x found command args port := by
  obtain ⟨base, hstands⟩ := hl.stands hu hs
  rcases Disk.leadership_cases hfound with ⟨rfl, -⟩ | ⟨i, announced, rfl, hfile, hheld, hport⟩
  · exact ⟨fun _ => run_of_free hstands hc hp hf hd ha, fun _ h => (nomatch h), fun h => (nomatch h)⟩
  · have hi := Disk.lockFile?_of_file hfile
    refine ⟨fun h => (nomatch h), ?_, ?_⟩
    · intro p _ hsome prepare hprepare
      obtain rfl : announced = some p := hsome
      exact run_of_announced hstands hc hp hf hd ha hi hheld hport hprepare
    · intro _ hnone
      obtain rfl : announced = none := hnone
      exact run_of_unannounced hstands hc hp hf hd ha hi hheld hport

end Launch

namespace Session

/-- In every state of a session in which no call fails of itself, an inspection leaves files, locks
and open handles as they were, and foretells what becomes of a launch that is made next: where
nobody leads it leads, if the lock of the file is free that its path leads to once the directories
above it have been made; it asks the leader that was found, and no one else; and without a port it
gives up before anything happens. The lock is free where nobody leads, unless the path leads back
out of a directory that is not there yet. A path does not if there is a file at it, or if it does not
lead back at all. -/
theorem inspect_predicts :
    (∀ s, Reached s → s.world.disk.WellFormed) ∧
    ∀ (w : World) (path : Act Path) (lock : Path), w.faults = {} → w.disk.WellFormed →
      path.run w = (.ok lock, w) → w.disk.Admits lock →
      (∀ i n, w.disk.file lock = .ok i →
        Published.ofBytes (w.disk.content i) ≠ .error (.tooLong n)) →
      ∃ found v, (Election.inspect path).run w = (.ok found, v) ∧ found.lock = lock ∧ w.Local v ∧
        w.disk.Untouched v.disk ∧ (found.leader = false → found.port = none) ∧
        (found.leader = false → w.disk.LeadsDown lock → v.disk.IsFree lock) ∧
        ((∃ i, w.disk.file lock = .ok i) ∨ (∀ name ∈ lock.names, name ≠ Path.back) →
          w.disk.LeadsDown lock) ∧
        ∀ {α : Type} (l : Launch α) (x : World) {command : Value} {args : List Value} {port : Int},
          x.disk = v.disk → x.faults = {} → l.Plain command args →
          (l.host.getD x.environ).serverPort = .ok none → l.StandsAt x lock →
          l.serverPort.whole = .ok port → Port.isPublishable port = true →
          l.Foretold x found command args port := by
  refine ⟨fun s => Reached.wellFormed, ?_⟩
  intro w path lock hf hd hl ha hshort
  obtain ⟨found, hfound⟩ := Disk.exists_leadership hshort
  obtain ⟨v, hrun, hlocal, hsame, hadmits⟩ := Election.inspect_faithful hf hd hl ha
  rw [hfound] at hrun
  -- the launch finds what the inspection has left, where the same is to be found
  have hd' : v.disk.WellFormed := hsame.wellFormed hd
  have hfound' : v.disk.leadership lock = .ok found := hsame.leadership.trans hfound
  refine ⟨found, v, hrun, ?_, hlocal, hsame, ?_, ?_, ?_, ?_⟩
  · rcases Disk.leadership_cases hfound with ⟨rfl, -⟩ | ⟨i, port, rfl, -⟩
    · rfl
    · rfl
  · rcases Disk.leadership_cases hfound with ⟨rfl, -⟩ | ⟨i, port, rfl, -⟩
    · exact fun _ => rfl
    · exact fun h => (nomatch h)
  · intro hnobody hp
    exact Disk.free_of_leadership hd' hfound' hnobody (hsame.leadsDown hp)
  · rintro (⟨i, hi⟩ | hn)
    · exact Disk.leadsDown_of_file hi
    · exact Disk.leadsDown_of_no_back hn
  · intro α l x command args port hx hxf hplain hunknown hstands hc hp
    rw [← hx] at hd' hadmits hfound'
    exact Launch.foretold hplain hunknown hstands hxf hd' hadmits hc hp hfound'

/-- A leader has been elected. -/
def presentLeader : State :=
  (Step.run (initial []) (.one { name := some "a" } (.stand (.int 3333) (some "run/krun.lock")))).state

/-- The leader has given up, and its port is still in the file. -/
def formerLeader : State := (Step.run presentLeader (.one {} (.release "a" none))).state

def newcomer (lock : Path) : Launch Unit :=
  { serverPort := .int 4444, command := .text "c", lock := some lock }

/-- Nobody leads any more at the path of the lock file, nor at one that leads back out of a directory
that is there, and the next launch does. -/
theorem inspect_predicts_former :
    let leads (lock : Path) : Prop := ∃ v handle u,
      (Election.inspect (pure lock)).run formerLeader.world = (.ok ⟨false, none, lock⟩, v) ∧
      ((newcomer lock).run fun _ => pure .null).run v = (.ok (.leading
        { handle, lock, port := 4444, command := .text "c", args := [], overrides := [] }), u)
    formerLeader.world.disk.content 0 = Utf8.encode "3333" ∧ leads "run/krun.lock" ∧
      formerLeader.world.disk.file "run/../run/other.lock" = .error .notFound ∧
        leads "run/../run/other.lock" := by
  intro leads
  have hreached : Reached formerLeader := .step _ (.step _ (.initial [] {}))
  have hleads : ∀ lock : Path, formerLeader.world.disk.Admits lock →
      formerLeader.world.disk.LeadsDown lock →
      (∀ i n, formerLeader.world.disk.file lock = .ok i →
        Published.ofBytes (formerLeader.world.disk.content i) ≠ .error (.tooLong n)) →
      ((Election.inspect (pure lock)).run formerLeader.world).1 = .ok ⟨false, none, lock⟩ →
      leads lock := by
    intro lock hadmits hdown hshort hnobody
    obtain ⟨found, v, hrun, -, hlocal, -, -, hfree, -, hforetold⟩ :=
      inspect_predicts.2 formerLeader.world (pure lock) lock rfl
        (inspect_predicts.1 _ hreached) rfl hadmits hshort
    rw [hrun] at hnobody
    obtain rfl : found = ⟨false, none, lock⟩ := Except.ok.inj hnobody
    have hlaunch := hforetold (newcomer lock) v rfl hlocal.faults ⟨rfl, rfl, rfl⟩
      (by rw [hlocal.environ]; rfl) (.inl rfl) rfl rfl
    obtain ⟨handle, u, -, hlead⟩ := hlaunch.leads rfl (hfree rfl hdown)
    exact ⟨v, handle, u, hrun, hlead _ _⟩
  have hlocked : leads "run/krun.lock" := by
    refine hleads _ ⟨rfl, .inl ⟨0, rfl⟩⟩ (Disk.leadsDown_of_file (i := 0) rfl) ?_ rfl
    rintro i n hi
    obtain rfl : 0 = i := Except.ok.inj hi
    exact nofun
  have hback : formerLeader.world.disk.LeadsDown "run/../run/other.lock" :=
    ⟨["run", Path.back, "run"], ["other.lock"], _, rfl, rfl, by decide⟩
  refine ⟨rfl, hlocked, rfl, hleads _ ⟨rfl, .inr ⟨rfl, _, rfl⟩⟩ hback ?_ rfl⟩
  exact fun i n hi => nomatch hi

/-- There is no file at a path that leads out of a directory that is not there, and nobody leads. But
a launch makes that directory before it opens its lock file, which then is there and held. -/
theorem inspect_before_led :
    Reached presentLeader ∧ presentLeader.world.disk.file "x/../run/krun.lock" = .error .notFound ∧
      presentLeader.world.disk.Admits "x/../run/krun.lock" ∧
      (Election.inspect (pure ("x/../run/krun.lock" : Path))).run presentLeader.world =
        (.ok ⟨false, none, "x/../run/krun.lock"⟩, presentLeader.world) ∧
      ∀ leader, (((newcomer "x/../run/krun.lock").run fun _ => pure .null).run
        presentLeader.world).1 ≠ .ok (.leading leader) := by
  refine ⟨.step _ (.initial [] {}), rfl, ⟨rfl, .inr ⟨rfl, _, rfl⟩⟩, rfl, ?_⟩
  have hplain : (newcomer "x/../run/krun.lock").Plain (.text "c") [] := ⟨rfl, rfl, rfl⟩
  have hled : ∃ v, (Election.stand (.int 4444) (pure ("x/../run/krun.lock" : Path))).run
      presentLeader.world = (.ok (.led "x/../run/krun.lock" (some 3333)), v) := ⟨_, rfl⟩
  obtain ⟨v, hled⟩ := hled
  obtain ⟨base, hstands⟩ := hplain.stands (x := presentLeader.world) rfl (.inl rfl)
  exact (Launch.run_of_led hstands hled (Within.pure _)).1

end Session

end SharedVm
