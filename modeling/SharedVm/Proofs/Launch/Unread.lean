import SharedVm.Proofs.Inspection
import SharedVm.Proofs.Launch.Known
import SharedVm.Proofs.Launch.Twin

/-!
# Lock files that are left unread

Two disks may have the same places and programs and yet say different things in their files, which
others hold. A launch whose host announces a server sees no difference.
-/

namespace SharedVm

namespace Disk

/-- The disks have the same places and the same programs. What the files say and who holds them is
left open. -/
structure SamePlaces (d e : Disk) : Prop where
  workDir : e.workDir = d.workDir
  entries : e.entries = d.entries
  programs : e.inodes.map (·.executable) = d.inodes.map (·.executable)

variable {d e : Disk}

namespace SamePlaces

lemma entryAt? (h : d.SamePlaces e) : e.entryAt? = d.entryAt? := by
  funext place
  rw [Disk.entryAt?, Disk.entryAt?, h.entries]

lemma length_inodes (h : d.SamePlaces e) : e.inodes.length = d.inodes.length := by
  have hlength := congrArg List.length h.programs
  rwa [List.length_map, List.length_map] at hlength

lemma follow (h : d.SamePlaces e) (names : List Text) (here : Location) :
    e.follow here names = d.follow here names := follow_congr h.entryAt? names here

lemma look (h : d.SamePlaces e) (place : Location) : e.look place = d.look place := by
  rw [Disk.look, Disk.look, h.entryAt?]

lemma origin (h : d.SamePlaces e) (r : PathRoot) : e.origin r = d.origin r := by
  cases r with
  | here => exact h.workDir
  | _ => rfl

lemma locate (h : d.SamePlaces e) (p : Path) : e.locate p = d.locate p := by
  rw [Disk.locate, Disk.locate, h.origin, h.follow]

lemma stat (h : d.SamePlaces e) (p : Path) : e.stat p = d.stat p := by
  unfold Disk.stat
  rw [h.locate]
  cases d.locate p with
  | error x => rfl
  | ok place => exact h.look place

lemma isDirectory (h : d.SamePlaces e) (p : Path) : e.isDirectory p = d.isDirectory p := by
  rw [Disk.isDirectory, Disk.isDirectory, h.stat]

lemma statText (h : d.SamePlaces e) (t : Text) : e.statText t = d.statText t := by
  unfold Disk.statText
  rw [h.origin, h.follow, funext h.look]

lemma isRunnable (h : d.SamePlaces e) (t : Text) :
    Program.isRunnable e t = Program.isRunnable d t := by
  have hany : ∀ i, (e.inode? i).any (·.executable) = (d.inode? i).any (·.executable) := by
    intro i
    have hi := congrArg (·[i]?) h.programs
    simp only [List.getElem?_map] at hi
    unfold inode?
    cases hd : d.inodes[i]? <;> cases he : e.inodes[i]? <;> simp_all
  unfold Program.isRunnable
  rw [h.statText, funext hany]

lemma append (h : d.SamePlaces e) (place : Location) (x : Entry) :
    SamePlaces { d with entries := d.entries ++ [(place, x)] }
      { e with entries := e.entries ++ [(place, x)] } where
  workDir := h.workDir
  entries := by rw [h.entries]
  programs := h.programs

lemma addFile (h : d.SamePlaces e) (place : Location) :
    (e.addFile place).1 = (d.addFile place).1 ∧ (d.addFile place).2.SamePlaces (e.addFile place).2 :=
  ⟨h.length_inodes, h.workDir, by simp [Disk.addFile, h.entries, h.length_inodes],
    by simp [Disk.addFile, h.programs]⟩

/-- Both disks make the directory, or neither does. -/
lemma makeDirectory (h : d.SamePlaces e) (p : Path) :
    (∃ x, d.makeDirectory p = .error x ∧ e.makeDirectory p = .error x) ∨
      ∃ d' e', d.makeDirectory p = .ok d' ∧ e.makeDirectory p = .ok e' ∧ d'.SamePlaces e' := by
  unfold Disk.makeDirectory
  rw [h.locate, h.entryAt?]
  cases d.locate p with
  | error x => exact .inl ⟨x, rfl, rfl⟩
  | ok place =>
    dsimp only [bind, Except.bind]
    cases d.entryAt? place with
    | some x => exact .inl ⟨_, rfl, rfl⟩
    | none => exact .inr ⟨_, _, rfl, rfl, h.append place .directory⟩

lemma makeDirectoriesFrom (h : d.SamePlaces e) (start : PathRoot) (names : List Text) :
    (e.makeDirectoriesFrom start names).1 = (d.makeDirectoriesFrom start names).1 ∧
      (d.makeDirectoriesFrom start names).2.SamePlaces (e.makeDirectoriesFrom start names).2 := by
  have hsettle : ∀ {d e : Disk} (x : DiskError) (p : Path), d.SamePlaces e →
      let settle (d : Disk) : Option (DiskError × Path) × Disk :=
        if d.isDirectory p then (none, d) else (some (x, p), d)
      (settle e).1 = (settle d).1 ∧ (settle d).2.SamePlaces (settle e).2 := by
    intro d e x p h
    dsimp only
    rw [h.isDirectory]
    split
    · exact ⟨rfl, h⟩
    · exact ⟨rfl, h⟩
  induction names with
  | nil => exact ⟨rfl, h⟩
  | cons name above ih =>
    rw [Disk.makeDirectoriesFrom, Disk.makeDirectoriesFrom]
    rcases h.makeDirectory ⟨start, (name :: above).reverse⟩ with ⟨x, hd, he⟩ | ⟨d', e', hd, he, h'⟩
    · rw [hd, he]
      cases x with
      | notFound =>
        obtain ⟨hfailed, habove⟩ := ih
        rcases hd' : d.makeDirectoriesFrom start above with ⟨failed, d'⟩
        rcases he' : e.makeDirectoriesFrom start above with ⟨failed', e'⟩
        rw [hd', he'] at hfailed habove
        obtain rfl : failed' = failed := hfailed
        cases failed' with
        | some x => exact ⟨rfl, habove⟩
        | none =>
          dsimp only
          rcases habove.makeDirectory ⟨start, (name :: above).reverse⟩ with
            ⟨x, hx, hx'⟩ | ⟨d'', e'', hx, hx', h'⟩
          · rw [hx, hx']
            cases x with
            | notFound => exact ⟨rfl, habove⟩
            | _ => exact hsettle _ _ habove
          · rw [hx, hx']
            exact ⟨rfl, h'⟩
      | _ => exact hsettle _ _ h
    · rw [hd, he]
      exact ⟨rfl, h'⟩

lemma touch (h : d.SamePlaces e) (p : Path) :
    (∃ x, d.touch p = .error x ∧ e.touch p = .error x) ∨
      ∃ i d' e', d.touch p = .ok (i, d') ∧ e.touch p = .ok (i, e') ∧ d'.SamePlaces e' := by
  unfold Disk.touch
  rw [h.locate, h.entryAt?]
  cases d.locate p with
  | error x => exact .inl ⟨x, rfl, rfl⟩
  | ok place =>
    dsimp only [bind, Except.bind]
    cases d.entryAt? place with
    | none =>
      obtain ⟨hi, hadd⟩ := h.addFile place
      exact .inr ⟨(d.addFile place).1, (d.addFile place).2, (e.addFile place).2, rfl,
        congrArg Except.ok (Prod.ext hi rfl), hadd⟩
    | some x =>
      cases x with
      | directory => exact .inl ⟨_, rfl, rfl⟩
      | file i => exact .inr ⟨i, d, e, rfl, rfl, h⟩

end SamePlaces

lemma kin_samePlaces : Kin SamePlaces where
  stat h := h.stat
  isRunnable h := h.isRunnable
  makeDirectories h p := h.makeDirectoriesFrom p.start p.names.reverse
  touch h := h.touch

end Disk

open Act

/-- What the files say and who holds them makes no difference to the launch, unless it is the device
tree that says something else. -/
def Launch.Unread {α : Type} (l : Launch α) (prepare : List α → Act Value) (w : World) : Prop :=
  ∀ d, w.disk.SamePlaces d → w.disk.ReadAlike w.deviceTree d →
    let ran := (l.run prepare).run w
    let ran' := (l.run prepare).run { w with disk := d }
    ran'.1 = ran.1 ∧ ran'.2.events = ran.2.events ∧ ran'.2.notices = ran.2.notices ∧
      ran.2.disk.SamePlaces ran'.2.disk

/-- A launch whose host announces a server reads no file but the device tree. -/
lemma Session.unread_of_known {l : Launch Override} {w : World} {port : Nat}
    (hk : (l.host.getD w.environ).serverPort = .ok (some port)) (preparation : Preparation) :
    l.Unread (prepare preparation) w := by
  intro d hd hread ran ran'
  let R := World.Twin Disk.SamePlaces fun _ => True
  have htwin : R w { w with disk := d } := .of d w.environ hd fun _ _ => rfl
  have halike : AlikeAt R (l.run (prepare preparation)) (l.run (prepare preparation)) w
      { w with disk := d } := by
    refine .congr_run (Launch.run_opens _ _ _ _) (Launch.run_opens _ _ _ _) ?_
    cases ho : l.opening (l.host.getD w.environ) w.environ w.system.users with
    | error f => exact Act.Alike.throw f _ _ htwin
    | ok o =>
      have hknown : o.known = some port := by
        have hs := (Launch.opening_eq_ok_iff.1 ho).2.2.2
        rw [hk] at hs
        exact (Except.ok.inj hs).symm
      refine .congr_run (run_bind_of_ok (run_ofExcept _ _) _) (run_bind_of_ok (run_ofExcept _ _) _) ?_
      unfold Launch.goOn
      rw [hknown]
      exact Launch.alikeAt_askOnce
        (alikeAt_prepare Disk.kin_samePlaces (fun _ _ => trivial) (fun _ _ => trivial) htwin hread
          preparation)
        (fun env => Launch.alike_deliver Disk.kin_samePlaces (fun _ _ => trivial) l _ _ _ _ env) port
  exact ⟨halike.result.symm, halike.world.events, halike.world.notices, halike.world.disk⟩

end SharedVm
