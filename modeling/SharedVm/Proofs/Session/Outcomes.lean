import SharedVm.Proofs.Launch.Standing
import SharedVm.Proofs.Launch.Unread
import SharedVm.Proofs.Session.Children
import SharedVm.Proofs.Session.Intact

/-!
# What each outcome of a launch does

A launch is refused at once, asks the server that its host announces, leads, asks the leader it lost
the election to, or gives up because that leader has no port. Each of these leaves alone whatever it
is not about.
-/

namespace SharedVm

open Act

namespace Launch

variable {α : Type} {l : Launch α} {w : World}

/-- The launch needs no place for a relay, or its host names one. -/
def Placed (l : Launch α) (w : World) : Prop :=
  l.interactive = true → (l.host.getD w.environ).stripped Environ.runtimeDirVar ≠ []

/-- The runtime directory of the host, if it has one, starts with no home that is not known. -/
def Expands (l : Launch α) (w : World) : Prop :=
  (l.host.getD w.environ).stripped Environ.runtimeDirVar ≠ [] →
    ∃ base, (l.host.getD w.environ).runtimeDir w.environ w.system.users = .ok base

lemma exists_relayBase (hd : l.runtimeDir = none) (hp : l.Placed w) (he : l.Expands w) :
    ∃ base, l.relayBase (l.host.getD w.environ) w.environ w.system.users = .ok base := by
  unfold relayBase
  rw [hd]
  cases hi : l.interactive with
  | false => exact ⟨none, rfl⟩
  | true =>
    obtain ⟨base, hbase⟩ := he (hp hi)
    exact ⟨some base, by rw [hbase]; rfl⟩

/-- Nothing happens if the host announces a server in a way that makes no sense. -/
lemma run_of_invalid {command : Value} {args : List Value} {base : Option Path} {raw : Value}
    (hc : Request.commandName l.command = .ok command) (ha : Request.itemsOf l.args = .ok args)
    (hb : l.relayBase (l.host.getD w.environ) w.environ w.system.users = .ok base)
    (hv : (l.host.getD w.environ).var? Environ.serverPortVar = some raw)
    (hinvalid : Port.announced? raw.display = none) (prepare : List α → Act Value)
    (request : Asking) :
    (l.run prepare request).run w = (.error (.misconfigured (.serverPortInvalid raw)), w) := by
  have hs : (l.host.getD w.environ).serverPort = .error (.misconfigured (.serverPortInvalid raw)) := by
    rw [Environ.serverPort, hv]
    dsimp only
    rw [hinvalid]
  have ho : l.opening (l.host.getD w.environ) w.environ w.system.users =
      .error (.misconfigured (.serverPortInvalid raw)) := by
    rw [opening, hc, ha, hb, hs]
    rfl
  rw [run_opens, ho]
  rfl

end Launch

namespace Session

/-- What each outcome of a launch does to a world. `port` is what the launch publishes if it leads. -/
structure Effects (l : Launch Override) (w : World) (command : Value) (args : List Value)
    (port : Int) : Prop where
  unplaced : ¬ l.Placed w → ∀ prepare request,
    (l.run prepare request).run w = (.error (.misconfigured .runtimeDirUnset), w)
  refused : ∀ raw, l.Placed w → (l.host.getD w.environ).var? Environ.serverPortVar = some raw →
    Port.announced? raw.display = none → ∀ prepare request,
    (l.run prepare request).run w = (.error (.misconfigured (.serverPortInvalid raw)), w)
  asks : ∀ known, (l.host.getD w.environ).serverPort = .ok (some known) → ∀ preparation,
    l.AsksOnly (prepare preparation) w known ∧ l.Unread (prepare preparation) w
  /-- Whoever does not lead leaves locks, handles and files alone. -/
  spares : ∀ preparation, (∀ leader, ((l.run (prepare preparation)).run w).1 ≠ .ok (.leading leader)) →
    w.Quiet ((l.run (prepare preparation)).run w).2
  leading : ∀ prepare request leader,
    ((l.run prepare request).run w).1 = .ok (.leading leader) →
    leader.command = command ∧ leader.args = args ∧ leader.overrides = l.overrides ∧
      (l.host.getD w.environ).serverPort = .ok none ∧ ∃ i u, w.Local u ∧ w.Elects u leader.tenure i ∧
      ∀ prepare request, (l.run prepare request).run w = (.ok (.leading leader), u)
  leads : ∀ lock, (l.host.getD w.environ).serverPort = .ok none →
    (l.host.getD w.environ).lockPath w.environ w.system.users = .ok lock → w.disk.Admits lock →
    w.disk.IsFree lock → ∃ handle u, ∀ prepare request, (l.run prepare request).run w =
      (.ok (.leading { handle, lock, port, command, args, overrides := l.overrides }), u)
  follows : ∀ lock i, (l.host.getD w.environ).serverPort = .ok none →
    (l.host.getD w.environ).lockPath w.environ w.system.users = .ok lock → w.disk.Admits lock →
    w.disk.lockFile? lock = some i → w.disk.holder? i ≠ none →
    (∃ published : Nat, LockFile.portOf (w.disk.content i) = .ok (some published) ∧ ∀ preparation,
      (∀ leader, ((l.run (prepare preparation)).run w).1 ≠ .ok (.leading leader)) ∧
        w.ConnectsTo published ((l.run (prepare preparation)).run w).2) ∨
    LockFile.portOf (w.disk.content i) = .ok none ∧
      lock.text <:+: (Failure.leaderWithoutPort lock).message ∧ ∃ u, w.Local u ∧ w.Quiet u ∧
      ∀ prepare request, (l.run prepare request).run w = (.error (.leaderWithoutPort lock), u)
  unopened : ∀ lock, (l.host.getD w.environ).serverPort = .ok none →
    (l.host.getD w.environ).lockPath w.environ w.system.users = .ok lock → ¬ w.disk.Admits lock →
    ∃ f u, w.Local u ∧ w.Quiet u ∧ ∀ prepare request, (l.run prepare request).run w = (.error f, u)

/-- A launch with readable values and a port that can be published, in a world where no call fails
of itself, has the effects of its outcome and no others. -/
theorem launch_effects :
    (∀ s, Reached s → s.world.disk.WellFormed) ∧
    ∀ (l : Launch Override) (w : World) {command : Value} {args : List Value} {port : Int},
      Request.commandName l.command = .ok command → Request.itemsOf l.args = .ok args →
      l.lock = none → l.runtimeDir = none → l.serverPort.whole = .ok port →
      Port.isPublishable port = true → w.faults = {} → w.disk.WellFormed → l.Expands w →
      (∀ lock i n, (l.host.getD w.environ).lockPath w.environ w.system.users = .ok lock →
        w.disk.lockFile? lock = some i →
        Published.ofBytes (w.disk.content i) ≠ .error (.tooLong n)) →
      Effects l w command args port := by
  refine ⟨fun s => Reached.wellFormed, ?_⟩
  intro l w command args port hc ha hlock hdir hn hp hf hd hexpands hshort
  have hplaced : ∀ {lock}, (l.host.getD w.environ).lockPath w.environ w.system.users = .ok lock →
      l.Placed w := by
    intro lock hpath hi hblank
    rw [Environ.lockPath, Environ.runtimeDir, hblank] at hpath
    cases hpath
  have hquiet : ∀ preparation, Act.Within World.Quiet (prepare preparation l.overrides) :=
    fun preparation =>
      within_prepare Act.Within.quiet_note (fun _ => Act.Within.quiet_event _) preparation _
  have hstands : ∀ {lock}, (l.host.getD w.environ).serverPort = .ok none →
      (l.host.getD w.environ).lockPath w.environ w.system.users = .ok lock →
      ∃ base, l.Stands w ⟨command, args, base, none⟩ lock := by
    intro lock hnone hpath
    obtain ⟨base, hbase⟩ := Launch.exists_relayBase hdir (hplaced hpath) hexpands
    exact ⟨base, Launch.opening_eq_ok_iff.2 ⟨hc, ha, hbase, hnone⟩, rfl,
      .inr ⟨hlock, by rw [Election.run_lockOf, hpath]⟩⟩
  constructor
  case unplaced =>
    intro hnowhere
    obtain ⟨hi, hblank⟩ := Classical.not_imp.1 hnowhere
    obtain ⟨f, hrun, hunset⟩ := Launch.run_of_unset hi hdir (not_not.1 hblank)
    rw [← hunset command args hc ha]
    exact hrun
  case refused =>
    intro raw hplace hv hinvalid
    obtain ⟨base, hbase⟩ := Launch.exists_relayBase hdir hplace hexpands
    exact Launch.run_of_invalid hc ha hbase hv hinvalid
  case asks =>
    exact fun known hk preparation =>
      ⟨asksOnly_of_known hk preparation, unread_of_known hk preparation⟩
  case spares =>
    exact fun preparation => (l.run_changes (hquiet preparation) hf hd).1
  case leading =>
    intro prepare request leader hleads
    obtain ⟨o, lock, u, hstands, hcommand, hargs, hoverrides, hu, hrun⟩ :=
      Launch.exists_stands_of_leading hleads
    obtain ⟨hc', ha', -, hknown⟩ := Launch.opening_eq_ok_iff.1 hstands.opening
    obtain ⟨i, hi⟩ := (l.run_changes (hquiet .real) hf hd).2 leader (by rw [hrun])
    rw [hrun] at hi
    refine ⟨hcommand.trans ?_, hargs.trans ?_, hoverrides, ?_, i, u, hu, hi, hrun⟩
    · exact Except.ok.inj (hc'.symm.trans hc)
    · exact Except.ok.inj (ha'.symm.trans ha)
    · rw [hknown, hstands.unknown]
  case leads =>
    intro lock hnone hpath hadmits hfree
    obtain ⟨base, hstands⟩ := hstands hnone hpath
    obtain ⟨handle, u, -, hrun⟩ := Launch.run_of_free hstands hn hp hf hd hadmits hfree
    exact ⟨handle, u, hrun⟩
  case follows =>
    intro lock i hnone hpath hadmits hi hheld
    obtain ⟨base, hstands⟩ := hstands hnone hpath
    obtain ⟨announced, hport⟩ := LockFile.exists_portOf fun n => hshort lock i n hpath hi
    cases announced with
    | some published =>
      exact .inl ⟨published, hport, fun preparation => Launch.run_of_announced hstands hn hp hf hd
        hadmits hi hheld hport (offline_prepare preparation _)⟩
    | none =>
      obtain ⟨u, hu, hrun⟩ := Launch.run_of_unannounced hstands hn hp hf hd hadmits hi hheld hport
      have hspared := (l.run_changes (hquiet .real) hf hd).1
      rw [hrun] at hspared
      exact .inr ⟨hport, ⟨_, _, rfl⟩, u, hu, hspared (fun _ h => by cases h), hrun⟩
  case unopened =>
    intro lock hnone hpath hadmits
    obtain ⟨base, hstands⟩ := hstands hnone hpath
    rcases LockFile.run_openAt_cases lock w with ⟨f, v, hopen, hv⟩ | ⟨i, e, -, hopen⟩
    · obtain ⟨g, hlocal, hrun⟩ := Launch.run_of_unopened hstands hn hp hopen
      exact ⟨g, v, hlocal, hv, hrun⟩
    · exact absurd (Disk.admits_of_opens hopen) hadmits

/-- A leader has been elected below the runtime directory, and its port is gone from the file. -/
def silencedLeader : State :=
  let elected := (Step.run (initial [("XDG_RUNTIME_DIR", .text "run")])
    (.one { name := some "a" } (.stand (.int 3333) none))).state
  (Step.run elected (.one {} (.replace "a" []))).state

/-- A launch that would inherit a variable which its host does not have. -/
def inheritor : Launch Override where
  serverPort := .int 4444
  command := .text "c"
  overrides := [("A", .null)]
  interactive := true

theorem launch_effects_silenced :
    silencedLeader.world.disk.holder? 0 = some 0 ∧ ∃ u, silencedLeader.world.Local u ∧
      (inheritor.run (prepare .real)).run silencedLeader.world =
        (.error (.leaderWithoutPort "run/krun.lock"), u) := by
  have hreached : Reached silencedLeader := .step _ (.step _ (.initial _ _))
  have hshort : ∀ lock i n,
      (inheritor.host.getD silencedLeader.world.environ).lockPath silencedLeader.world.environ
        silencedLeader.world.system.users = .ok lock →
      silencedLeader.world.disk.lockFile? lock = some i →
      Published.ofBytes (silencedLeader.world.disk.content i) ≠ .error (.tooLong n) := by
    rintro lock i n ⟨⟩ hi
    obtain rfl : 0 = i := Option.some.inj hi
    exact nofun
  have heffects := launch_effects.2 inheritor silencedLeader.world rfl rfl rfl rfl rfl rfl rfl
    (launch_effects.1 _ hreached) (fun _ => ⟨"run", rfl⟩) hshort
  rcases heffects.follows "run/krun.lock" 0 rfl rfl ⟨rfl, .inl ⟨0, rfl⟩⟩ rfl nofun with
    ⟨published, hport, -⟩ | ⟨-, -, u, hu, -, hrun⟩
  · cases hport
  · exact ⟨rfl, u, hu, hrun _ _⟩

end Session

end SharedVm
