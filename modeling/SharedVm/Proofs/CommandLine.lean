import SharedVm.Proofs.Launch.Standing
import SharedVm.Proofs.Launch.Told

/-!
# Runs of the command line that end with an exit code

Where nothing fails but what the operating system reports, a run tells the user of what stopped it
and ends with an exit code that is not zero. The few failures that get past it are named here.
-/

namespace SharedVm.CommandLine

open Act

/-- The launch that the settings ask for, if they hold what it needs. -/
def Settings.launch? (s : Settings) : Option (Launch (Option Override)) :=
  match s.commandLine, s.port, s.retryDelay with
  | command :: args, some port, some delay => some {
      serverPort := .int port
      command := .text command
      args := .list (args.map .text)
      overrides := s.env.getD []
      interactive := s.interactive
      retryDelay := .real delay }
  | _, _, _ => none

/-- What a run does with what became of its launch. -/
def conclude : Except Failure (Launched (Option Override)) → Act Begun
  | .error f => return .done { code := 1, err := message f.message }
  | .ok (.requested _ _) => return .done { code := 0 }
  | .ok (.leading leader) => do
    startCommand leader
    return .running leader

section Launch

variable {s : Settings} {l : Launch (Option Override)} (h : s.launch? = some l)

include h

lemma beginLaunch_of_launch : beginLaunch s = tryCatch (Except.ok <$> l.run prepare) (fun f =>
    if isTold f then return .error f else throw f) >>= conclude := by
  have hconclude : ∀ launched, conclude launched = match launched with
      | .error f => pure (.done { code := 1, err := message f.message })
      | .ok (.requested _ _) => pure (.done { code := 0 })
      | .ok (.leading leader) => do
        startCommand leader
        return .running leader := by
    rintro (f | ⟨_ | _⟩) <;> rfl
  unfold Settings.launch? at h
  split at h
  · rename_i command args port delay hc hp hd
    cases h
    unfold beginLaunch
    rw [hc, hp, hd]
    dsimp only
    rw [pure_bind, pure_bind]
    exact congrArg _ (funext fun launched => (hconclude launched).symm)
  · cases h

lemma Settings.launch?_spec : l.IsOwn ∧ l.interactive = s.interactive ∧
    l.overrides = s.env.getD [] := by
  unfold launch? at h
  split at h
  · cases h
    exact ⟨⟨⟨_, rfl⟩, ⟨_, rfl⟩, ⟨_, rfl⟩, ⟨_, rfl⟩, rfl, rfl, rfl⟩, rfl, rfl⟩
  · cases h

end Launch

/-- A run whose settings do not make up a launch is over before anything has happened. -/
lemma beginLaunch_of_no_launch {s : Settings} (h : s.launch? = none) :
    ∃ r, (∀ leader, r ≠ .ok (.running leader)) ∧ ∀ w, (beginLaunch s).run w = (r, w) := by
  unfold Settings.launch? at h
  unfold beginLaunch
  cases hc : s.commandLine with
  | nil => exact ⟨.ok (.done _), fun _ => nofun, fun w => rfl⟩
  | cons command args =>
    cases hp : s.port with
    | none => exact ⟨.error _, fun _ => nofun, fun w => rfl⟩
    | some port =>
      cases hd : s.retryDelay with
      | none => exact ⟨.error _, fun _ => nofun, fun w => rfl⟩
      | some delay =>
        rw [hc, hp, hd] at h
        cases h

/-- What a run of a launch fails with instead of telling it: an option that was given a separator for
its value, and what a launch is not told of. -/
inductive Settings.Untold (s : Settings) (w : World) : Failure → Prop where
  | port (empty : s.port = none) : Untold s w .emptyPort
  | delay (empty : s.retryDelay = none) : Untold s w .emptyDelay
  | override (empty : none ∈ s.env.getD []) : Untold s w .emptyOverride
  | launch {l : Launch (Option Override)} {f : Failure} (asks : s.launch? = some l)
      (untold : l.Untold w f) : Untold s w f

/-- How the lock file of the process is inspected. -/
abbrev inspection : Act Leadership := Election.inspect do Election.lockOf (← environ)

lemma local_inspection : Within World.Local inspection :=
  Election.within_inspect LockFile.local_respects.toLooks
    (.bind .environ fun env => Election.within_lockOf env)

/-- What a run prints about a leadership. -/
def printout (l : Leadership) : Text := (report l).write Json.indented ++ "\n"

/-- What a run that asks for the status fails with instead of telling it. -/
inductive StatusUntold (w : World) : Failure → Prop where
  | home (unknown : w.environ.runtimeDir w.environ w.system.users = .error .homeUnknown) :
      StatusUntold w .homeUnknown
  | inspection {lock : Path} {f : Failure}
      (named : w.environ.lockPath w.environ w.system.users = .ok lock)
      (uninspected : Election.Uninspected w lock f) : StatusUntold w f
  | printing {l : Leadership} {f : Failure} (finds : (inspection.run w).1 = .ok l)
      (refused : w.system.printing (printout l) = some f) : StatusUntold w f

/-- What a run may come to around an ordinary process, by what it was asked for: it is over, with an
exit code and the message of what stopped it, or the command of a leader runs, or it fails with what
nobody is told of. -/
inductive Answers (w : World) : Command → Except Failure Begun → Prop where
  | commandless {s : Settings} (empty : s.commandLine = []) :
      Answers w (.launch s) (.ok (.done { code := 2, err := message "missing command" }))
  | requested {s : Settings} {l : Launch (Option Override)} {port : Int} {attempts : Nat}
      (asks : s.launch? = some l)
      (requests : ((l.run prepare).run w).1 = .ok (.requested port attempts)) :
      Answers w (.launch s) (.ok (.done { code := 0 }))
  | told {s : Settings} {l : Launch (Option Override)} {f : Failure} (asks : s.launch? = some l)
      (fails : ((l.run prepare).run w).1 = .error f) (told : f.IsTold) :
      Answers w (.launch s) (.ok (.done { code := 1, err := message f.message }))
  /-- A run whose command runs now concludes when that command has ended, whatever has happened
  meanwhile. -/
  | leads {s : Settings} {l : Launch (Option Override)} {leader : Leader (Option Override)}
      (asks : s.launch? = some l) (leads : ((l.run prepare).run w).1 = .ok (.leading leader))
      (concludes : ∀ (v : World) (ending : Ending), v.Ordinary →
        Concludes leader ending ((finish leader ending).run v).1) :
      Answers w (.launch s) (.ok (.running leader))
  | launchUntold {s : Settings} {f : Failure} (untold : s.Untold w f) :
      Answers w (.launch s) (.error f)
  | reported {l : Leadership} (finds : (inspection.run w).1 = .ok l)
      (printed : w.system.printing (printout l) = none) :
      Answers w .status (.ok (.done { code := if l.leader then 0 else 1, out := printout l }))
  | misconfigured {m : Misconfiguration} (fails : (inspection.run w).1 = .error (.misconfigured m)) :
      Answers w .status (.ok (.done { code := 2, err := message m.message }))
  | statusUntold {f : Failure} (untold : StatusUntold w f) : Answers w .status (.error f)

section Ordinary

variable {w : World} (hw : w.Ordinary)

include hw

/-- The variables for a request are gathered, or it is told why not, or an override is empty. -/
lemma ends_prepare (overrides : List (Option Override)) :
    Ends w.Onward (fun env v => w.Onward v ∧ ∃ entries, env = .mapping entries)
      (fun f v => w.Onward v ∧ (f.IsMisconfigured ∨ none ∈ overrides ∧ f = .emptyOverride))
      (prepare overrides) := by
  have hgather : ∀ os, Only w.Onward
      (fun f => f.IsMisconfigured ∨ none ∈ overrides ∧ f = .emptyOverride)
      (Guest.gather w.environ w.deviceTree os) := fun os =>
    (Guest.only_gather hw w.environ hw.deviceTree os).mono fun _ => .inl
  unfold prepare
  dsimp only
  split
  · rename_i hshort
    refine Ends.bind_look run_environ fun v hv => Ends.bind_look run_get fun u hu => ?_
    rw [hv.environ, hu.deviceTree]
    refine Ends.bind (hgather _) fun _ => Ends.throw fun _ hx => ?_
    exact ⟨hx, .inr ⟨filled_short.1 hshort, rfl⟩⟩
  · refine Ends.bind (M := fun _ => w.Onward) ?_ fun found => Ends.pure fun _ hx => ⟨hx, _, rfl⟩
    refine Ends.bind_look run_environ fun v hv => Ends.bind_look run_get fun u hu => ?_
    rw [hv.environ, hu.deviceTree]
    exact Only.bind (hgather _) fun _ => .bind (.note _) fun _ => .pure _

/-- A launch that the settings ask for fails with what the user is told of, or with what he is not. -/
lemma launch_told {s : Settings} {l : Launch (Option Override)} (h : s.launch? = some l) :
    Only w.Onward (fun f => f.IsTold ∨ s.Untold w f) (l.run prepare) := by
  obtain ⟨hown, -, hoverrides⟩ := Settings.launch?_spec h
  refine Launch.only_run (fun _ => .inl) hw (fun f hf => .inr (.launch h hf)) hown ?_
  refine (ends_prepare hw _).mono (fun _ => id) (fun _ _ => id) fun f v hf => ⟨hf.1, ?_⟩
  rcases hf.2 with hf | ⟨hempty, rfl⟩
  · exact .inl hf.isTold
  · exact .inr (.override (hoverrides ▸ hempty))

lemma finish_of_ordinary (leader : Leader (Option Override)) (ending : Ending) :
    Concludes leader ending ((finish leader ending).run w).1 := by
  have hrelease := LockFile.only_release (P := fun _ => False) hw leader.handle w
    (refl_of World.Onward w)
  rcases hr : (LockFile.release leader.handle).run w with ⟨f | ⟨⟩, v⟩ <;> rw [hr] at hrelease
  · exact hrelease.2.elim
  · obtain ⟨r, hconcludes, hfinish⟩ := finish_concludes hr ending
    rwa [hfinish]

lemma beginLaunch_answers_of_launch {s : Settings} {l : Launch (Option Override)}
    (h : s.launch? = some l) : Answers w (.launch s) ((beginLaunch s).run w).1 := by
  have htold := launch_told hw h w (refl_of World.Onward w)
  rw [beginLaunch_of_launch h, run_bind, run_tryCatch, run_map]
  rcases hrun : (l.run prepare).run w with ⟨f | launched, v⟩
  · rw [hrun] at htold
    dsimp only [Except.map]
    cases hf : isTold f with
    | true =>
      rw [if_pos rfl]
      exact .told h (congrArg Prod.fst hrun) hf
    | false =>
      rw [if_neg Bool.false_ne_true]
      refine .launchUntold (htold.2.resolve_left fun ht => ?_)
      rw [Failure.IsTold, hf] at ht
      cases ht
  · dsimp only [Except.map]
    cases launched with
    | requested port attempts => exact .requested h (congrArg Prod.fst hrun)
    | leading leader =>
      obtain ⟨-, -, -, -, -, -, hoverrides, -⟩ :=
        Launch.exists_stands_of_leading (congrArg Prod.fst hrun)
      -- the leader holds the overrides of its launch, and an empty one stops it here
      rw [conclude]
      rcases run_startCommand leader v with ⟨hempty, hs⟩ | ⟨es, hs⟩
      · rw [run_bind_of_error hs]
        rw [hoverrides, (Settings.launch?_spec h).2.2] at hempty
        exact .launchUntold (.override hempty)
      · rw [run_bind_of_ok hs]
        exact .leads h (congrArg Prod.fst hrun) fun v ending hv => finish_of_ordinary hv leader ending

lemma beginLaunch_answers (s : Settings) : Answers w (.launch s) ((beginLaunch s).run w).1 := by
  cases hc : s.commandLine with
  | nil =>
    unfold beginLaunch
    rw [hc]
    exact .commandless hc
  | cons command args =>
    cases hp : s.port with
    | none =>
      unfold beginLaunch
      rw [hc, hp]
      exact .launchUntold (.port hp)
    | some port =>
      cases hd : s.retryDelay with
      | none =>
        unfold beginLaunch
        rw [hc, hp, hd]
        exact .launchUntold (.delay hd)
      | some delay =>
        have hasks : ∃ l, s.launch? = some l := by
          unfold Settings.launch?
          rw [hc, hp, hd]
          exact ⟨_, rfl⟩
        obtain ⟨l, hl⟩ := hasks
        exact beginLaunch_answers_of_launch hw hl

lemma inspection_failed {f : Failure} (hf : (inspection.run w).1 = .error f) :
    f.IsMisconfigured ∨ StatusUntold w f := by
  have hlock : (do Election.lockOf (← environ) : Act Path).run w =
      (w.environ.lockPath w.environ w.system.users, w) := by
    rw [run_bind_of_ok (run_environ w), Election.run_lockOf]
  rcases hw.environ.lockPath hw.environ hw.homes with he | ⟨hr, he⟩ | ⟨lock, he, hnative⟩
  · unfold inspection Election.inspect at hf
    rw [run_bind_of_error (hlock.trans (by rw [he]))] at hf
    cases hf
    exact .inl ⟨_, rfl⟩
  · unfold inspection Election.inspect at hf
    rw [run_bind_of_error (hlock.trans (by rw [he]))] at hf
    cases hf
    exact .inr (.home hr)
  · exact .inr (.inspection he (Election.uninspected hnative.ofName? (hlock.trans (by rw [he])) hf))

lemma status_answers :
    Answers w .status ((status >>= fun o => pure (.done o) : Act Begun).run w).1 := by
  unfold status
  rw [run_bind, run_bind, run_tryCatch, run_map]
  rcases hrun : inspection.run w with ⟨f | l, v⟩
  · rcases inspection_failed hw (congrArg Prod.fst hrun) with ⟨m, rfl⟩ | hf
    · exact .misconfigured (congrArg Prod.fst hrun)
    · have hstatus : Answers w .status (.error f) := .statusUntold hf
      cases f with
      | misconfigured m => exact .misconfigured (congrArg Prod.fst hrun)
      | _ => exact hstatus
  · have hsystem : v.system = w.system := by
      have hlocal := local_inspection w
      rw [hrun] at hlocal
      exact hlocal.system
    have hfinds := congrArg Prod.fst hrun
    dsimp only [Except.map]
    rw [run_bind, run_unlessRefused, hsystem]
    cases hp : w.system.printing (printout l) with
    | none =>
      rw [printout] at hp
      rw [hp]
      exact .reported hfinds hp
    | some f =>
      rw [printout] at hp
      rw [hp]
      exact .statusUntold (.printing hfinds hp)

/-- A run of the command line that the operating system gets in the way of tells the user so and
ends with an exit code that is not zero, apart from what `Settings.Untold` and `StatusUntold` list
and a command of a leader that is there but cannot be started. -/
theorem start_answers {args : List Text} {c : Command} (hr : read args = .ok c) :
    Answers w c ((start args).run w).1 := by
  unfold start
  rw [hr]
  cases c with
  | status => exact status_answers hw
  | launch s => exact beginLaunch_answers hw s

end Ordinary

/-- A host with a relay program, and with a file in the place of the directory for the sockets of
relays. -/
def blockedHost : World where
  disk := {
    workDir := ["work"]
    entries := [
      (["work"], .directory), (["work", "bin"], .directory), (["work", "bin", "socat"], .file 0),
      (["work", "run"], .directory), (["work", "run", "krun"], .file 1)]
    inodes := [{ executable := true }, {}] }
  environ := [
    ("XDG_RUNTIME_DIR", .text "run"), ("KRUN_SERVER_PORT", .text "3333"), ("PATH", .text "bin")]

lemma ordinary_blockedHost : blockedHost.Ordinary where
  homes := ⟨nofun, fun _ => nofun⟩
  environ b hb := by
    simp only [blockedHost, List.mem_cons, List.not_mem_nil, or_false] at hb
    rcases hb with rfl | rfl | rfl
    · exact ⟨"run", rfl, Text.native_iff.2 (by decide)⟩
    · exact ⟨"3333", rfl, Text.native_iff.2 (by decide)⟩
    · exact ⟨"bin", rfl, Text.native_iff.2 (by decide)⟩
  deviceTree t ht := by
    have hnames : Text.Native "proc" ∧ Text.Native "device-tree" ∧ Text.Native "compatible" := by
      rw [Text.native_iff, Text.native_iff, Text.native_iff]
      decide
    simp only [blockedHost, List.mem_cons, List.not_mem_nil, or_false] at ht
    rcases ht with rfl | rfl | rfl
    · exact hnames.1
    · exact hnames.2.1
    · exact hnames.2.2
  faults := Faults.ofSystem_empty
  peers _ h := (List.not_mem_nil h).elim
  relays _ h := (List.not_mem_nil h).elim

def interactiveSettings : Settings where
  interactive := true
  command := ["c"]

lemma read_interactive : read ["launch", "-i", "c"] = .ok (.launch interactiveSettings) := by
  have hread : read ["launch", "-i", "c"] = readCommand [] "launch" ["-i", "c"] := rfl
  have hmarks : marks .launch ["-i", "c"] =
      .ok [("-i", .option .interactive true none), ("c", .plain)] := rfl
  have hlaunch : readLaunch {} [] [("-i", .option .interactive true none), ("c", .plain)] =
      .ok (interactiveSettings, []) := by
    delta readLaunch
    rfl
  rw [hread, readCommand, if_pos rfl, hmarks]
  change (readLaunch {} [] [("-i", .option .interactive true none), ("c", .plain)] >>= _) = _
  rw [hlaunch]
  rfl

lemma start_interactive : ((start ["launch", "-i", "c"]).run blockedHost).1 = .error (.report
    ⟨.system .notDirectory, some 20, "Not a directory", some "run/krun/socket"⟩) := by
  unfold start
  rw [read_interactive]
  rfl

/-- A run that cannot make the directory for the sockets of its relay is among those that nobody is
told of. -/
theorem start_answers_blocked : blockedHost.Ordinary ∧
    read ["launch", "-i", "c"] = .ok (.launch interactiveSettings) ∧
    interactiveSettings.Untold blockedHost (.report
      ⟨.system .notDirectory, some 20, "Not a directory", some "run/krun/socket"⟩) := by
  have hanswers := start_answers ordinary_blockedHost read_interactive
  rw [start_interactive] at hanswers
  cases hanswers with
  | launchUntold huntold => exact ⟨ordinary_blockedHost, read_interactive, huntold⟩

/-- Not every run that has a command ends with an exit code. -/
theorem start_unplaced : ¬ ∀ (w : World) (args : List Text) (s : Settings), w.Ordinary →
    read args = .ok (.launch s) → s.commandLine ≠ [] → ∃ begun, ((start args).run w).1 = .ok begun := by
  intro h
  obtain ⟨begun, hbegun⟩ := h blockedHost ["launch", "-i", "c"] interactiveSettings
    ordinary_blockedHost read_interactive (by decide)
  rw [start_interactive] at hbegun
  cases hbegun

end SharedVm.CommandLine
