import SharedVm.Proofs.CommandLine
import SharedVm.Proofs.Footprint
import SharedVm.Proofs.Launch.Known
import SharedVm.Proofs.Session.Names

/-!
# What sessions leave on the disk

A session whose steps are given no paths leaves what was there where it was, and writes to no file
but the lock file of the runtime directory, whatever fails on the way. Steps that only look at who
leads, or that know whom to ask, leave all files as they are.
-/

namespace SharedVm.Session

open Act Act.Within

/-- Operations of the program that are given no paths to open or to make: the runtime directory is
the one that the variables of the process, or those of a host, name. -/
def Operation.IsAmbient (base : Path) (env : Environ) (users : Users) : Operation → Prop
  | .stand _ lock => lock = none
  | .launch l _ =>
    l.lock = none ∧ l.runtimeDir = none ∧ (l.host.getD env).runtimeDir env users = .ok base
  | .startRelay given _ host => given = none ∧ (host.getD env).runtimeDir env users = .ok base
  | .setEnviron _ | .write .. | .fill .. | .makeDirectory _ | .remove _ | .replace .. | .openAt _ =>
    False
  | _ => True

/-- Steps with such operations, also while the command of a leader runs. No relay of theirs makes a
socket unless `Sockets`. Any call may fail. -/
inductive Step.IsAmbient (base : Path) (env : Environ) (users : Users) (Sockets : Prop) :
    Step → Prop
  | one (setting : Setting) (o : Operation) (ht : ∀ p ∈ setting.relays, p.touches = true → Sockets)
      (ho : o.IsAmbient base env users) : IsAmbient base env users Sockets (.one setting o)
  | commandLine (setting : Setting) (args : List Text) (ending : CommandLine.Ending)
      (meanwhile : Option (List Step)) (ht : ∀ p ∈ setting.relays, p.touches = true → Sockets)
      (hm : ∀ steps ∈ meanwhile, ∀ step ∈ steps, IsAmbient base env users Sockets step) :
      IsAmbient base env users Sockets (.commandLine setting args ending meanwhile)

/-- The process has these variables and runs among these users, and the handles that it knows by name
have been opened on the lock file. -/
structure State.Rooted (base : Path) (env : Environ) (users : Users) (s : State) : Prop where
  environ : s.world.environ = env
  users : s.world.system.users = users
  owned : ∀ name h, s.handles.get? name = some h → s.world.disk.OnLock base h

/-- The disk has stayed within the footprint of the runtime directory. -/
structure State.Treads (base : Path) (env : Environ) (users : Users) (Sockets : Prop)
    (s t : State) : Prop where
  rooted : t.Rooted base env users
  relays : t.world.relays = s.world.relays
  disk : Disk.Footprint base Sockets s.world.disk t.world.disk

def State.Owns (s : State) (h : Nat) : Prop := ∃ name, s.handles.get? name = some h

def Result.handle? (r : Result) : Option Nat := r.tenure?.map (·.handle)

variable {base : Path} {env : Environ} {users : Users} {Sockets : Prop} {s : State}

section Perform

lemma yields_withHandle {own : Nat → Prop} (name : Text) {f : Nat → Act Result}
    (hf : ∀ h, s.handles.get? name = some h →
      Yields base env users Sockets own Result.handle? (f h)) :
    Yields base env users Sockets own Result.handle? (withHandle s name f) := by
  unfold withHandle
  split
  · exact hf _ ‹_›
  · exact .throw _

lemma yields_withRelay {own : Nat → Prop} (name : Text) {f : Relay → Act Result}
    (hf : ∀ r, Yields base env users Sockets own Result.handle? (f r)) :
    Yields base env users Sockets own Result.handle? (withRelay s name f) := by
  unfold withRelay
  split
  · exact hf _
  · exact .throw _

lemma yields_of_within {α : Type} {own : Nat → Prop} {a : Act α} {f : α → Result}
    (ha : Within (World.Treads base env users Sockets own) a) (hf : ∀ x, (f x).handle? = none) :
    Yields base env users Sockets own Result.handle? (do return f (← a)) :=
  .after ha fun x => .pure fun h hh => by
    rw [hf] at hh
    cases hh

/-- Every ambient operation stays within the footprint, and gives a handle on the lock file if it
gives any. -/
theorem yields_perform (hbase : env.runtimeDir env users = .ok base) (s : State) {o : Operation}
    (ho : o.IsAmbient base env users) :
    Yields base env users Sockets s.Owns Result.handle? (perform s o) := by
  have hhost : ∀ (host : Option Environ) (w : World), w.environ = env →
      w.system.users = users →
      (hostOr host).run w = (.ok (host.getD env), w) := by
    intro host w hw _
    cases host with
    | some host => rfl
    | none => exact hw ▸ rfl
  cases o with
  | setEnviron env' => exact ho.elim
  | write file content executable => exact ho.elim
  | fill directory names => exact ho.elim
  | makeDirectory directory => exact ho.elim
  | remove file => exact ho.elim
  | replace handle content => exact ho.elim
  | openAt lock => exact ho.elim
  | stand port lock =>
    obtain rfl : lock = none := ho
    have hlock : ∀ w : World, w.environ = env → w.system.users = users →
        (lockOr none).run w = (.ok base.lockFile, w) := by
      intro w hw hu
      refine (run_bind_of_ok (run_environ w) _).trans ?_
      rw [hw]
      exact Election.run_lockOf_of_runtimeDir hbase hw hu
    exact .bind (Election.yields_stand port hlock) fun x => .pure fun h hh => .inr hh
  | launch l preparation =>
    obtain ⟨hlock, hdir, hhost⟩ := ho
    have hp := within_prepare (R := World.Treads base env users Sockets s.Owns) treads_talks.note
      (fun _ => treads_talks.event _) preparation l.overrides
    exact .bind (Launch.yields_run hlock hdir hhost hp) fun x => .pure fun h hh => .inr hh
  | inspect lock =>
    exact yields_of_within (Election.within_inspect LockFile.treads_looks (within_lockOr lock))
      fun _ => rfl
  | readPort lock =>
    exact yields_of_within (LockFile.within_readPort treads_talks.note lock) fun _ => rfl
  | publish name port =>
    exact yields_withHandle name fun h hh =>
      .after ((LockFile.treads_tends ⟨name, hh⟩).publish port) fun _ => .pure nofun
  | release name closeFails =>
    exact yields_withHandle name fun h _ =>
      .after (LockFile.treads_release h closeFails) fun _ => .after disk fun _ => .pure nofun
  | close name =>
    exact yields_withHandle name fun h _ => .after (LockFile.treads_close h) fun _ => .pure nofun
  | take name blocking =>
    exact yields_withHandle name fun h _ =>
      .after (LockFile.treads_take h blocking) fun _ => .pure nofun
  | freePort base' ports =>
    exact .after (ofExcept _) fun ports =>
      yields_of_within (Relay.within_freePort Value.display base' ports) fun _ => rfl
  | startRelay given binary host =>
    obtain ⟨rfl, hnamed⟩ := ho
    refine .look (hhost host) (yields_of_within (Relay.treads_start binary fun w hw hu => ?_)
      fun _ => rfl)
    exact .inr ⟨rfl, by rw [hw, hu]; exact hnamed⟩
  | waitRelay name =>
    exact yields_withRelay name fun r => yields_of_within (r.within_wait treads_talks) fun _ => rfl
  | endRelay name =>
    exact yields_withRelay name fun r => .after (r.within_terminate treads_talks) fun _ => .pure nofun
  | findProgram program host =>
    exact .after (within_hostOr host) fun env' =>
      yields_of_within (Program.within_find env' program) fun _ => rfl
  | findCompanion program running host =>
    exact .after (within_hostOr host) fun env' =>
      yields_of_within (Program.within_companion env' program running) fun _ => rfl
  | guestVars overrides host compatible =>
    exact .after get fun w => .after (within_hostOr host) fun env' =>
      yields_of_within (Guest.within_vars treads_talks.note env' _ overrides) fun _ => rfl
  | processVars overrides host =>
    exact .after (within_hostOr host) fun env' => .pure nofun

end Perform

/-! ### Runs -/

section Run

instance : IsTrans State (State.Treads base env users Sockets) where
  trans _ _ _ h k :=
    ⟨k.rooted, k.relays.trans h.relays, trans_of (Disk.Footprint base Sockets) h.disk k.disk⟩

lemma State.Rooted.onLock (hs : s.Rooted base env users) :
    ∀ h, s.Owns h → s.world.disk.OnLock base h :=
  fun h ⟨name, hn⟩ => hs.owned name h hn

lemma State.Rooted.enter (hs : s.Rooted base env users) {setting : Setting}
    (ht : ∀ p ∈ setting.relays, p.touches = true → Sockets) :
    (Session.enter s.world setting).Rooted env users Sockets := ⟨hs.environ, hs.users, ht⟩

/-- Names stand for what they stood for, so they are on the lock file still. -/
lemma State.Rooted.withWorld (hs : s.Rooted base env users) {v : World} (he : v.environ = env)
    (hu : v.system.users = users)
    (hd : Disk.Footprint base Sockets s.world.disk v.disk) :
    ({ s with world := v } : State).Rooted base env users :=
  ⟨he, hu, fun name h hn => hd.onLock (hs.owned name h hn)⟩

lemma treads_runAll {steps : List Step} (h : ∀ step ∈ steps, ∀ s : State, s.Rooted base env users →
    s.Treads base env users Sockets (step.run s).state) (hs : s.Rooted base env users) :
    s.Treads base env users Sockets (runAll s steps).2.1 := by
  induction steps generalizing s with
  | nil =>
    rw [runAll]
    exact ⟨hs, rfl, .refl _⟩
  | cons step rest ih =>
    have hstep := h step List.mem_cons_self s hs
    have hrest := ih (fun x hx => h x (List.mem_cons_of_mem _ hx)) hstep.rooted
    rw [runAll]
    exact trans_of (State.Treads base env users Sockets) hstep hrest

variable (hbase : env.runtimeDir env users = .ok base)

include hbase

lemma treads_runOne (hs : s.Rooted base env users) {setting : Setting} {o : Operation}
    (ht : ∀ p ∈ setting.relays, p.touches = true → Sockets) (ho : o.IsAmbient base env users) :
    s.Treads base env users Sockets (runOne s setting o).state := by
  have hopen : ∀ lock, o ≠ .openAt lock := by
    rintro lock rfl
    exact ho
  obtain ⟨hrooted, hdisk, hyields⟩ := yields_perform hbase s ho _ (hs.enter ht) hs.onLock
  rw [state_runOne s setting hopen]
  refine ⟨⟨hrooted.environ, hrooted.users, fun name h hn => ?_⟩, rfl, hdisk⟩
  have hkept : s.handles.get? name = some h →
      ((perform s o).run (enter s.world setting)).2.disk.OnLock base h :=
    fun hn => hdisk.onLock (hs.owned name h hn)
  rcases hr : ((perform s o).run (enter s.world setting)).1 with f | r <;> rw [hr] at hn
  · exact hkept hn
  · rcases get?_remember hn with hn | ⟨t, ht, hh⟩
    · exact hkept hn
    · refine hyields r h hr ?_
      rw [Result.handle?, ht]
      exact congrArg some hh

lemma treads_start (own : Nat → Prop) (args : List Text) :
    Within (World.Treads base env users Sockets own) (CommandLine.start args) :=
  CommandLine.within_start LockFile.treads_looks fun s _ =>
    CommandLine.within_beginLaunch treads_talks.event LockFile.treads_close
      (fun l hhost hlock hdir => by
        have hnamed : (l.host.getD env).runtimeDir env users = .ok base := by
          rw [hhost]
          exact hbase
        exact (Launch.yields_run hlock hdir hnamed
          (CommandLine.within_prepare treads_talks.note _)).within) s

/-- One ambient step, with everything that takes place in it, stays within the footprint. -/
theorem treads_step {step : Step} (h : step.IsAmbient base env users Sockets) :
    ∀ s : State, s.Rooted base env users → s.Treads base env users Sockets (step.run s).state := by
  induction h with
  | one setting o ht ho =>
    intro s hs
    rw [Step.run]
    exact treads_runOne hbase hs ht ho
  | commandLine setting args ending meanwhile ht hm ih =>
    intro s hs
    obtain ⟨hrooted, hdisk⟩ := treads_start hbase s.Owns args _ (hs.enter ht) hs.onLock
    rw [Step.run]
    dsimp only
    rcases hb : (CommandLine.start args).run (enter s.world setting) with ⟨f | b, w⟩ <;>
      rw [hb] at hrooted hdisk
    · exact ⟨hs.withWorld hrooted.environ hrooted.users hdisk, rfl, hdisk⟩
    · cases b with
      | done outcome => exact ⟨hs.withWorld hrooted.environ hrooted.users hdisk, rfl, hdisk⟩
      | running leader =>
        -- the leader gives up where its command has left the session
        have hfinish : ∀ s' : State, s'.Rooted base env users → s'.world.Rooted env users Sockets →
            Disk.Footprint base Sockets s.world.disk s'.world.disk →
            s.Treads base env users Sockets { s' with
              world := leave s.world ((CommandLine.finish leader ending).run s'.world).2 } := by
          intro s' hs' hr' hd'
          obtain ⟨hr, hd⟩ :=
            CommandLine.within_finish LockFile.treads_release leader ending s'.world hr' hs'.onLock
          exact ⟨hs'.withWorld hr.environ hr.users hd, rfl,
            trans_of (Disk.Footprint base Sockets) hd' hd⟩
        have hdirect := hfinish { s with world := w }
          (hs.withWorld hrooted.environ hrooted.users hdisk) hrooted hdisk
        cases meanwhile with
        | none => exact hdirect
        | some steps =>
          cases ending.isExit with
          | false => exact hdirect
          | true =>
            have hbegun :
                ({ s with world := { w with notices := [] } } : State).Rooted base env users :=
              hs.withWorld hrooted.environ hrooted.users hdisk
            have hsteps := treads_runAll (fun step hstep => ih steps rfl step hstep) hbegun
            refine hfinish _ hsteps.rooted ⟨hsteps.rooted.environ, hsteps.rooted.users, ?_⟩
              (trans_of (Disk.Footprint base Sockets) hdisk hsteps.disk)
            rw [hsteps.relays]
            exact hrooted.sockets

end Run

/-! ### Steps that only look -/

section Looking

open Environ

lemma sameDisk_prepare (p : Preparation) (overrides : List Override) :
    Within World.SameDisk (prepare p overrides) :=
  within_prepare World.sameDisk_talks.note (fun _ => World.sameDisk_talks.event _) p overrides

/-- A run of the command line that only looks has no command of its own. -/
def Looked (w : World) (begun : Except Failure CommandLine.Begun × World) : Prop :=
  w.SameFiles begun.2 ∧ ∀ leader, begun.1 ≠ .ok (.running leader)

lemma looked_status (w : World) {args : List Text} (hr : CommandLine.read args = .ok .status) :
    Looked w ((CommandLine.start args).run w) := by
  have hstatus := CommandLine.within_status LockFile.sameFiles_looks w
  unfold CommandLine.start
  rw [hr]
  dsimp only
  rw [run_bind]
  rcases hs : CommandLine.status.run w with ⟨f | outcome, v⟩ <;> rw [hs] at hstatus
  · exact ⟨hstatus, fun _ => nofun⟩
  · exact ⟨hstatus, fun _ => nofun⟩

lemma looked_launch {w : World} {args : List Text} {settings : CommandLine.Settings}
    (hr : CommandLine.read args = .ok (.launch settings)) (hi : settings.interactive = false)
    (hk : w.environ.var? serverPortVar ≠ none) : Looked w ((CommandLine.start args).run w) := by
  have hbegin : (CommandLine.start args).run w = (CommandLine.beginLaunch settings).run w := by
    unfold CommandLine.start
    rw [hr]
  rw [hbegin]
  cases hl : settings.launch? with
  | none =>
    obtain ⟨r, hr, hrun⟩ := CommandLine.beginLaunch_of_no_launch hl
    rw [hrun]
    exact ⟨rfl, hr⟩
  | some l =>
    obtain ⟨hown, hinteractive, -⟩ := CommandLine.Settings.launch?_spec hl
    have hk' : (l.host.getD w.environ).var? serverPortVar ≠ none := by rwa [hown.host]
    obtain ⟨hdisk, hleads⟩ := Launch.sameDisk_of_announced (hinteractive.trans hi) hk'
      (CommandLine.within_prepare World.sameDisk_talks.note _)
    rw [CommandLine.beginLaunch_of_launch hl, run_bind, run_tryCatch, run_map]
    rcases hrun : (l.run CommandLine.prepare).run w with ⟨f | launched, v⟩ <;> rw [hrun] at hdisk hleads
    · dsimp only [Except.map]
      cases CommandLine.isTold f with
      | true =>
        rw [if_pos rfl]
        exact ⟨congrArg Disk.files hdisk, fun _ => nofun⟩
      | false =>
        rw [if_neg Bool.false_ne_true]
        exact ⟨congrArg Disk.files hdisk, fun _ => nofun⟩
    · cases launched with
      | requested port attempts => exact ⟨congrArg Disk.files hdisk, fun _ => nofun⟩
      | leading leader => exact absurd rfl (hleads leader)

/-- Steps that ask who leads, and launches that are not interactive where a server is announced. -/
inductive Step.OnlyLooks (s : State) : Step → Prop
  | inspect (setting : Setting) (lock : Option Path) : OnlyLooks s (.one setting (.inspect lock))
  | readPort (setting : Setting) (lock : Path) : OnlyLooks s (.one setting (.readPort lock))
  | launch (setting : Setting) (l : Launch Override) (p : Preparation) (hi : l.interactive = false)
      (hk : (l.host.getD s.world.environ).var? serverPortVar ≠ none) :
      OnlyLooks s (.one setting (.launch l p))
  | statusLine (setting : Setting) (args : List Text) (ending : CommandLine.Ending)
      (meanwhile : Option (List Step)) (hr : CommandLine.read args = .ok .status) :
      OnlyLooks s (.commandLine setting args ending meanwhile)
  | launchLine (setting : Setting) (args : List Text) (ending : CommandLine.Ending)
      (meanwhile : Option (List Step)) (settings : CommandLine.Settings)
      (hr : CommandLine.read args = .ok (.launch settings)) (hi : settings.interactive = false)
      (hk : s.world.environ.var? serverPortVar ≠ none) :
      OnlyLooks s (.commandLine setting args ending meanwhile)

lemma files_runOne (s : State) (setting : Setting) (o : Operation) :
    (runOne s setting o).state.world.disk.files =
      ((perform s o).run (enter s.world setting)).2.disk.files := rfl

lemma Looked.files_step {setting : Setting} {args : List Text}
    (h : Looked (enter s.world setting) ((CommandLine.start args).run (enter s.world setting)))
    (ending : CommandLine.Ending) (meanwhile : Option (List Step)) :
    (Step.run s (.commandLine setting args ending meanwhile)).state.world.disk.files =
      s.world.disk.files := by
  obtain ⟨hfiles, hover⟩ := h
  rw [Step.run]
  dsimp only
  rcases hb : (CommandLine.start args).run (enter s.world setting) with ⟨f | b, w⟩ <;>
    rw [hb] at hfiles hover
  · exact hfiles
  · cases b with
    | done outcome => exact hfiles
    | running leader => exact absurd rfl (hover leader)

/-- What only looks creates nothing and changes nothing, whatever fails. -/
theorem files_of_onlyLooks {step : Step} (h : step.OnlyLooks s) :
    (step.run s).state.world.disk.files = s.world.disk.files := by
  cases h with
  | inspect setting lock =>
    rw [Step.run, files_runOne]
    exact bind (Election.within_inspect LockFile.sameFiles_looks (within_lockOr lock))
      (fun _ => pure _) (enter s.world setting)
  | readPort setting lock =>
    rw [Step.run, files_runOne]
    exact bind (LockFile.within_readPort LockFile.sameFiles_looks.note lock)
      (fun _ => pure _) (enter s.world setting)
  | launch setting l p hi hk =>
    have hlaunch := Launch.sameDisk_of_announced (w := enter s.world setting) hi hk
      (sameDisk_prepare p l.overrides)
    rw [Step.run, files_runOne, perform, run_bind]
    rcases hrun : (l.run (prepare p)).run (enter s.world setting) with ⟨f | launched, v⟩ <;>
      rw [hrun] at hlaunch <;> exact congrArg Disk.files hlaunch.1
  | statusLine setting args ending meanwhile hr => exact (looked_status _ hr).files_step ending meanwhile
  | launchLine setting args ending meanwhile settings hr hi hk =>
    exact (looked_launch (w := enter s.world setting) hr hi hk).files_step ending meanwhile

end Looking

/-- A session of ambient steps, in which any call may fail, leaves all files where they were, writes
to none but the lock file of the runtime directory, and makes nothing but that file, the directories
on the way to the sockets of relays, and the sockets of relays that make any. Steps that only look
create nothing and change nothing. -/
theorem ambient_footprint (hbase : env.runtimeDir env users = .ok base)
    (hs : s.Rooted base env users)
    {steps : List Step} (h : ∀ step ∈ steps, step.IsAmbient base env users Sockets) :
    Disk.Footprint base Sockets s.world.disk (runAll s steps).2.1.world.disk ∧
      ∀ (t : State) (step : Step), step.OnlyLooks t →
        (step.run t).state.world.disk.files = t.world.disk.files :=
  ⟨(treads_runAll (fun step hstep => treads_step hbase (h step hstep)) hs).disk,
    fun _ _ => files_of_onlyLooks⟩

def runtimeVars : Environ := [("XDG_RUNTIME_DIR", .text "run")]

/-- Somebody leads and publishes a port, a relay is started, an inspection fails, and once the first
leader has given up a leader is inspected while its command runs. -/
def crowdedSteps : List Step := [
  .one { name := some "a" } (.stand (.int 3333) none),
  .one {} (.publish "a" (.int 4444)),
  .one { relays := [{ touches := true }] } (.startRelay none (some "socat") none),
  .one { faults := { lock := some (.ofNumber 5 "Input/output error" none) } } (.inspect none),
  .one {} (.release "a" none),
  .commandLine {} ["launch", "c"] (.exited 0) (some [.one {} (.inspect none)])]

def crowded : State := (runAll (initial runtimeVars) crowdedSteps).2.1

lemma rooted_initial (base : Path) (env : Environ) (system : System) :
    (initial env system).Rooted base env system.users :=
  ⟨rfl, rfl, fun _ _ h => nomatch h⟩

lemma isAmbient_crowdedSteps :
    ∀ step ∈ crowdedSteps, step.IsAmbient ("run" : Path) runtimeVars {} True := by
  have hquiet : ∀ setting : Setting, ∀ p ∈ setting.relays, p.touches = true → True :=
    fun _ _ _ _ => trivial
  have hinspect : ∀ setting : Setting,
      (Step.one setting (.inspect none)).IsAmbient ("run" : Path) runtimeVars {} True :=
    fun setting => .one setting _ (hquiet setting) trivial
  simp only [crowdedSteps, List.forall_mem_cons, List.not_mem_nil, false_implies, implies_true,
    and_true]
  refine ⟨.one _ _ (hquiet _) rfl, .one _ _ (hquiet _) trivial, .one _ _ (hquiet _) ⟨rfl, rfl⟩,
    hinspect _, .one _ _ (hquiet _) trivial, .commandLine _ _ _ _ (hquiet _) ?_⟩
  rintro steps ⟨⟩ step hstep
  rw [List.mem_singleton.1 hstep]
  exact hinspect _

/-- What is left of the session is a lock file with the port of the last leader in it, and asking who
leads now leaves it there. -/
theorem ambient_footprint_crowded :
    Disk.Footprint "run" True (initial runtimeVars).world.disk crowded.world.disk ∧
      crowded.world.disk.file ("run" : Path).lockFile = .ok 0 ∧
      crowded.world.disk.content 0 = Utf8.encode "3333" ∧
      (Step.run crowded (.one {} (.inspect none))).state.world.disk.files =
        crowded.world.disk.files := by
  have hnamed : runtimeVars.runtimeDir runtimeVars {} = .ok ("run" : Path) := rfl
  have hfootprint := ambient_footprint hnamed (rooted_initial "run" runtimeVars {})
    isAmbient_crowdedSteps
  exact ⟨hfootprint.1, by decide +kernel, by decide +kernel, hfootprint.2 _ _ (.inspect {} none)⟩

end SharedVm.Session
