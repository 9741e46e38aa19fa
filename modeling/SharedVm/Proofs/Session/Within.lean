import SharedVm.Proofs.Launch.Attempts
import SharedVm.Proofs.Session.Perform

/-!
# What sessions keep to

A disk changes in five ways only: a handle is opened, takes a lock, gives it up or is closed, or
neither locks nor handles change. What these keep to, whatever fails, every step of a session keeps to.
-/

namespace SharedVm

open Act Act.Within

/-- What every change that is made to a disk keeps to. -/
structure Disk.Governs (R : Disk → Disk → Prop) : Prop where
  becomes : ∀ {d e content}, d.Becomes e d.holder? d.openOn? content → R d e
  openInode : ∀ {d p i}, d.file p = .ok i → R d (d.openInode i).2
  lock : ∀ {d e h}, d.isOpen h = true → d.lock h = some e → R d e
  unlock : ∀ d h, R d (d.unlock h)
  close : ∀ d h, R d (d.close h)

/-- The disk before and the disk after are related. -/
def World.OnDisk (R : Disk → Disk → Prop) (w v : World) : Prop := R w.disk v.disk

instance {R : Disk → Disk → Prop} [IsPreorder Disk R] : IsPreorder World (World.OnDisk R) where
  refl w := refl_of R w.disk
  trans _ _ _ h k := trans_of R h k

namespace Disk.Governs

variable {R : Disk → Disk → Prop} (hR : Governs R) {α : Type}

include hR

lemma quiet {d e : Disk} (h : d.Quiet e) : R d e := hR.becomes h.toBecomes

lemma steady {d e : Disk} (h : d.Steady e) : R d e := hR.becomes h.toBecomes

lemma of_quiet {a : Act α} (ha : Within World.Quiet a) : Within (World.OnDisk R) a :=
  fun w => hR.quiet (ha w).disk

lemma of_rewrites {a : Act α} (ha : Within World.Rewrites a) : Within (World.OnDisk R) a :=
  fun w => hR.steady (ha w).disk

variable [IsPreorder Disk R]

/-! ### Lock files -/

lemma openAt (lock : Path) : Within (World.OnDisk R) (LockFile.openAt lock) := by
  intro w
  rcases LockFile.run_openAt_cases lock w with ⟨f, v, hrun, hv⟩ | ⟨i, e, ht, hrun⟩
  · rw [hrun]
    exact hR.quiet hv.disk
  · rw [hrun]
    exact trans_of R (hR.quiet ht.quiet) (hR.openInode ht.file)

lemma openFile (p : Path) : Within (World.OnDisk R) (Act.openFile p) := by
  intro w
  rcases Election.run_openFile_cases p w with ⟨f, hrun⟩ | ⟨i, hi, hrun⟩
  · rw [hrun]
    exact refl_of R w.disk
  · rw [hrun]
    exact hR.openInode hi

lemma respects : LockFile.Respects (World.OnDisk R) where
  note n := hR.of_quiet (quiet_note n)
  openAt := hR.openAt
  openFile := hR.openFile
  close h w := hR.close w.disk h
  take h := LockFile.within_take (h := h) fun _ _ => hR.lock
  publish h := LockFile.within_publish (h := h)
    (fun w => hR.steady (trans_of Disk.Steady (Disk.steady_rewind w.disk h) (Disk.steady_truncate _ h)))
    fun w bs => hR.steady (Disk.steady_write w.disk h bs)
  release h := LockFile.within_release (h := h) (fun w => hR.unlock w.disk h)
    fun w => hR.close w.disk h

/-! ### Launches and runs of the command line -/

lemma launch (l : Launch α) {prepare : List α → Act Value}
    (hp : ∀ overrides, Within World.Quiet (prepare overrides)) :
    Within (World.OnDisk R) (l.run prepare) := by
  intro w
  rcases l.run_proceeds prepare Launch.byExchange w with ⟨f, hrun⟩ | ⟨command, args, base, -, -, hrest⟩
  · rw [hrun]
    exact refl_of R w.disk
  · have hdeliver := fun port env => Launch.within_deliver quiet_edges l base port command args env
    rcases hrest with ⟨port, -, hrun⟩ | ⟨-, lock, -, hrun⟩
    · rw [hrun]
      exact hR.of_quiet (Launch.within_askOnce (hp _) (hdeliver _) port) w
    · rw [hrun]
      refine bind (Election.within_stand hR.respects _ (pure lock)) (fun s => ?_) w
      split
      · exact bind (hR.respects.note _) fun _ => pure _
      · exact throw _
      · exact hR.of_quiet (bind (quiet_note _) fun _ =>
          Launch.within_askLeader quiet_note (fun _ => quiet_event _) (hp _) (hdeliver _) _)

lemma start (args : List Text) : Within (World.OnDisk R) (CommandLine.start args) :=
  CommandLine.within_start hR.respects.toLooks fun s _ =>
    CommandLine.within_beginLaunch (fun e => hR.of_quiet (quiet_event e)) hR.respects.close
      (fun l _ _ _ => hR.launch l (CommandLine.within_prepare quiet_note)) s

lemma finish (leader : Leader (Option Override)) (ending : CommandLine.Ending) :
    Within (World.OnDisk R) (CommandLine.finish leader ending) :=
  CommandLine.within_finish hR.respects.release leader ending

end Disk.Governs

namespace Session

variable {R : Disk → Disk → Prop} [IsPreorder Disk R]

lemma governed_removeFile (hR : Disk.Governs R) (file : Path) : Within (World.OnDisk R) (removeFile file) := by
  intro w
  rcases run_removeFile_cases file w with ⟨f, hrun⟩ | ⟨place, v, -, hrun, hv⟩
  · rw [hrun]
    exact refl_of R w.disk
  · rw [hrun]
    exact hR.becomes hv.disk

/-- An operation keeps to what every change of the disk keeps to, whether it fails or not. -/
theorem governed_perform (hR : Disk.Governs R) (s : State) (o : Operation) :
    Within (World.OnDisk R) (perform s o) := by
  cases o with
  | setEnviron env => exact bind (fun w => refl_of R w.disk) fun _ => pure _
  | write file content executable =>
    exact bind (hR.of_rewrites (rewrites_writeFile file content executable)) fun _ => pure _
  | fill directory names => exact hR.of_rewrites (rewrites_fill directory names)
  | makeDirectory directory =>
    exact hR.of_quiet (bind (quiet_makeDirectories directory) fun _ => pure _)
  | remove file => exact bind (governed_removeFile hR file) fun _ => pure _
  | stand port lock =>
    exact bind (Election.within_stand hR.respects port (within_lockOr lock)) fun _ => pure _
  | inspect lock =>
    exact bind (Election.within_inspect hR.respects.toLooks (within_lockOr lock)) fun _ => pure _
  | readPort lock =>
    exact hR.of_quiet (bind (LockFile.within_readPort quiet_note lock) fun _ => pure _)
  | publish handle port =>
    exact within_withHandle s handle fun h _ => bind (hR.respects.publish h port) fun _ => pure _
  | replace handle content =>
    exact within_withHandle s handle fun h _ =>
      bind (hR.of_rewrites (rewrites_replace h content)) fun _ => pure _
  | release handle closeFails =>
    exact within_withHandle s handle fun h _ =>
      bind (hR.respects.release h closeFails) fun _ => bind disk fun _ => pure _
  | close handle =>
    exact within_withHandle s handle fun h _ => bind (hR.respects.close h) fun _ => pure _
  | openAt lock =>
    exact bind (hR.openAt lock) fun h => bind (LockFile.within_contents h) fun _ => pure _
  | take handle blocking =>
    exact within_withHandle s handle fun h _ =>
      bind (hR.respects.take h blocking) fun _ => pure _
  | launch l preparation =>
    have hp := within_prepare quiet_note (fun _ => quiet_event _) preparation
    exact bind (hR.launch l hp) fun _ => pure _
  | freePort base ports =>
    exact hR.of_quiet (bind (ofExcept _) fun ports =>
      bind (Relay.within_freePort Value.display base ports) fun _ => pure _)
  | startRelay base binary host =>
    exact hR.of_quiet (bind (within_hostOr host) fun env =>
      bind (Relay.within_start quiet_edges base binary env) fun _ => pure _)
  | waitRelay relay =>
    exact within_withRelay s relay fun r =>
      hR.of_quiet (bind (r.within_wait quiet_talks) fun _ => pure _)
  | endRelay relay =>
    exact within_withRelay s relay fun r =>
      hR.of_quiet (bind (r.within_terminate quiet_talks) fun _ => pure _)
  | findProgram program host =>
    exact hR.of_quiet (bind (within_hostOr host) fun env =>
      bind (Program.within_find env program) fun _ => pure _)
  | findCompanion program running host =>
    exact hR.of_quiet (bind (within_hostOr host) fun env =>
      bind (Program.within_companion env program running) fun _ => pure _)
  | guestVars overrides host compatible =>
    exact hR.of_quiet (bind get fun w => bind (within_hostOr host) fun env =>
      bind (Guest.within_vars quiet_note env _ overrides) fun _ => pure _)
  | processVars overrides host =>
    exact hR.of_quiet (bind (within_hostOr host) fun _ => pure _)

mutual

/-- One step, with everything that takes place in it. -/
theorem Step.run_governed (hR : Disk.Governs R) (s : State) :
    ∀ step : Step, R s.world.disk (step.run s).state.world.disk
  | .one setting o => by
    rw [Step.run]
    exact governed_perform hR s o (enter s.world setting)
  | .commandLine setting args ending meanwhile => by
    have hstart := hR.start args (enter s.world setting)
    rw [Step.run]
    dsimp only
    rcases hb : (CommandLine.start args).run (enter s.world setting) with ⟨f | b, w⟩ <;>
      rw [hb] at hstart
    · exact hstart
    · cases b with
      | done outcome => exact hstart
      | running leader =>
        have hdirect := trans_of R hstart (hR.finish leader ending w)
        cases meanwhile with
        | none => exact hdirect
        | some steps =>
          cases ending.isExit with
          | false => exact hdirect
          | true =>
            have hsteps := runAll_governed hR { s with world := { w with notices := [] } } steps
            exact trans_of R (trans_of R hstart hsteps) (hR.finish leader ending _)

/-- What every change of the disk keeps to, a session keeps to as a whole. -/
theorem runAll_governed (hR : Disk.Governs R) (s : State) :
    ∀ steps : List Step, R s.world.disk (runAll s steps).2.1.world.disk
  | [] => by
    rw [runAll]
    exact refl_of R s.world.disk
  | step :: rest => by
    rw [runAll]
    exact trans_of R (Step.run_governed hR s step) (runAll_governed hR (step.run s).state rest)

end

/-- The states that a state may come to: between two steps, while the command of a leader runs, and
when one has ended, whatever was around it. -/
inductive Later (s : State) : State → Prop
  | refl : Later s s
  | step {t : State} (step : Step) (h : Later s t) : Later s (step.run t).state
  | running {t : State} {setting : Setting} {args : List Text} {leader : Leader (Option Override)}
      {w : World} (h : Later s t)
      (hs : (CommandLine.start args).run (enter t.world setting) = (.ok (.running leader), w)) :
      Later s { t with world := { w with notices := [] } }
  | ended {t : State} (leader : Leader (Option Override)) (ending : CommandLine.Ending)
      (before : World) (h : Later s t) :
      Later s { t with world := leave before ((CommandLine.finish leader ending).run t.world).2 }

theorem Later.governed (hR : Disk.Governs R) {s t : State} (h : Later s t) :
    R s.world.disk t.world.disk := by
  induction h with
  | refl => exact refl_of R s.world.disk
  | step step _ ih => exact trans_of R ih (Step.run_governed hR _ step)
  | @running t setting args leader w _ hs ih =>
    have hstart := hR.start args (enter t.world setting)
    rw [hs] at hstart
    exact trans_of R ih hstart
  | ended leader ending before _ ih => exact trans_of R ih (hR.finish leader ending _)

end Session

end SharedVm
