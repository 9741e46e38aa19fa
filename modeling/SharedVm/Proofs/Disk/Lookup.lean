import SharedVm.Proofs.Disk.Operations
import Mathlib.Data.List.Induction

/-!
# Where paths lead

A path leads through directories, so it leads to the same place as long as the directories on the
way stay. The file that a lock file path leads to is looked for after the directories above it have
been made; without `..` on the way that is the file that was there before.
-/

namespace SharedVm.Disk

variable {d e : Disk} {p : Path} {i : Nat}

lemma follow_append {here place : Location} {front : List Text} (hf : d.follow here front = .ok place)
    (rest : List Text) : d.follow here (front ++ rest) = d.follow place rest := by
  induction front generalizing here with
  | nil =>
    rw [follow, Except.ok.injEq] at hf
    rw [List.nil_append, hf]
  | cons name front ih =>
    rw [follow] at hf
    rw [List.cons_append, follow]
    split at hf
    · cases hf
    · cases hf
    · split at hf
      · cases hf
      · rename_i hlen
        rw [if_neg hlen]
        exact ih hf

section Directories

variable (hdir : ∀ q, d.entryAt? q = some .directory → e.entryAt? q = some .directory)

include hdir

/-- What names come to does not change, unless something was missing on the way. -/
lemma follow_eq_of_directories {names : List Text} {here : Location} {r : Except DiskError Location}
    (h : d.follow here names = r) (hr : r ≠ .error .notFound) (hr' : r ≠ .error .notDirectory) :
    e.follow here names = r := by
  induction names generalizing here with
  | nil => exact h
  | cons name rest ih =>
    rw [follow] at h ⊢
    split at h
    · exact absurd h.symm hr
    · exact absurd h.symm hr'
    · rename_i hd
      rw [hdir here hd]
      dsimp only
      split at h
      · rename_i hn
        rw [if_pos hn, h]
      · rename_i hn
        rw [if_neg hn]
        exact ih h

lemma locate_eq_of_directories (hw : e.workDir = d.workDir) {r : Except DiskError Location}
    (h : d.locate p = r) (hr : r ≠ .error .notFound) (hr' : r ≠ .error .notDirectory) :
    e.locate p = r := by
  have ho : e.origin p.start = d.origin p.start := by
    cases p.start
    · exact hw
    · rfl
    · rfl
  unfold locate at h ⊢
  split at h
  · rename_i hn
    rw [if_pos hn, h]
  · rename_i hn
    rw [if_neg hn, ho]
    exact follow_eq_of_directories hdir h hr hr'

end Directories

lemma locate_of_directories (hw : e.workDir = d.workDir)
    (hdir : ∀ q, d.entryAt? q = some .directory → e.entryAt? q = some .directory)
    {place : Location} (h : d.locate p = .ok place) : e.locate p = .ok place :=
  locate_eq_of_directories hdir hw h nofun nofun

lemma file_eq_ok_iff :
    d.file p = .ok i ↔ ∃ place, d.locate p = .ok place ∧ d.entryAt? place = some (.file i) := by
  unfold file stat look
  cases hl : d.locate p with
  | error x => simp [bind, Except.bind]
  | ok place =>
    cases he : d.entryAt? place with
    | none => simp [bind, Except.bind, he]
    | some x => cases x <;> simp [bind, Except.bind, he]

lemma Keeps.file (hk : d.Keeps e) (hw : e.workDir = d.workDir) (h : d.file p = .ok i) :
    e.file p = .ok i := by
  obtain ⟨place, hl, hp⟩ := file_eq_ok_iff.1 h
  exact file_eq_ok_iff.2 ⟨place, locate_of_directories hw (fun _ hq => hk hq) hl, hk hp⟩

/-- The file that a path leads to once the directories above it have been made. -/
def lockFile? (d : Disk) (lock : Path) : Option Nat :=
  ((d.makeDirectories lock.parent).2.file lock).toOption

lemma lockFile?_eq_some_iff :
    d.lockFile? p = some i ↔ (d.makeDirectories p.parent).2.file p = .ok i := by
  unfold lockFile?
  cases (d.makeDirectories p.parent).2.file p <;> simp [Except.toOption]

lemma lockFile?_of_file (h : d.file p = .ok i) : d.lockFile? p = some i :=
  have hq := quiet_makeDirectories d p.parent
  lockFile?_eq_some_iff.2 (Keeps.file hq.entry hq.workDir h)

/-! ### Paths that do not lead back -/

lemma WellFormed.directory_of_append (hd : d.WellFormed) {a b : Location} {x : Entry} (hb : b ≠ [])
    (h : d.entryAt? (a ++ b) = some x) : d.entryAt? a = some .directory := by
  induction b using List.reverseRecOn generalizing x with
  | nil => exact absurd rfl hb
  | append_singleton b name ih =>
    have ha := hd.above h
    rw [← List.append_assoc, List.dropLast_concat] at ha
    by_cases hn : b = []
    · rwa [hn, List.append_nil] at ha
    · exact ih hn ha

lemma follow_prefix {names : List Text} (hn : ∀ name ∈ names, name ≠ Path.back)
    {here place : Location} (h : e.follow here names = .ok place) : here <+: place := by
  induction names generalizing here with
  | nil =>
    rw [follow, Except.ok.injEq] at h
    exact h ▸ List.prefix_refl here
  | cons name rest ih =>
    rw [follow] at h
    split at h
    · cases h
    · cases h
    · split at h
      · cases h
      · have hp := ih (fun n hm => hn n (List.mem_cons_of_mem _ hm)) h
        unfold next at hp
        rw [if_neg (hn name List.mem_cons_self)] at hp
        split at hp
        · exact hp
        · exact (List.prefix_append here [name]).trans hp

/-- If names lead down to something that was there before, they led there before. -/
lemma follow_of_later (hd : d.WellFormed) {names : List Text}
    (hn : ∀ name ∈ names, name ≠ Path.back) {here place : Location}
    (h : e.follow here names = .ok place) (hp : d.entryAt? place = some (.file i))
    (he : e.entryAt? place = some (.file i)) : d.follow here names = .ok place := by
  induction names generalizing here with
  | nil => exact h
  | cons name rest ih =>
    have hpre := follow_prefix hn h
    rw [follow] at h ⊢
    split at h
    · cases h
    · cases h
    · rename_i hdir
      -- the names lead on down to a file that was there, so this directory was there as well
      have hhere : d.entryAt? here = some .directory := by
        obtain ⟨t, rfl⟩ := hpre
        apply hd.directory_of_append _ hp
        intro ht
        rw [ht, List.append_nil, hdir] at he
        cases he
      rw [hhere]
      dsimp only
      split at h
      · cases h
      · rename_i hlen
        rw [if_neg hlen]
        exact ih (fun n hm => hn n (List.mem_cons_of_mem _ hm)) h

/-- Whatever the path leads back out of is there: from a place on the way on it only leads down. -/
def LeadsDown (d : Disk) (p : Path) : Prop :=
  ∃ front rest place, p.names = front ++ rest ∧ d.follow (d.origin p.start) front = .ok place ∧
    ∀ name ∈ rest, name ≠ Path.back

lemma leadsDown_of_no_back (hn : ∀ name ∈ p.names, name ≠ Path.back) : d.LeadsDown p :=
  ⟨[], p.names, d.origin p.start, rfl, rfl, hn⟩

lemma leadsDown_of_file (h : d.file p = .ok i) : d.LeadsDown p := by
  obtain ⟨place, hl, -⟩ := file_eq_ok_iff.1 h
  unfold locate at hl
  split at hl
  · cases hl
  · exact ⟨p.names, [], place, (List.append_nil _).symm, hl, List.forall_mem_nil _⟩

/-- A path that leads down leads to the file that is there now. -/
lemma lockFile?_of_leadsDown (hd : d.WellFormed) (hp : d.LeadsDown p) :
    d.lockFile? p = (d.file p).toOption := by
  have hq := quiet_makeDirectories d p.parent
  have hiff : ∀ i, d.lockFile? p = some i ↔ (d.file p).toOption = some i := by
    intro i
    have hsome : (d.file p).toOption = some i ↔ d.file p = .ok i := by
      cases d.file p <;> simp [Except.toOption]
    rw [hsome]
    refine ⟨?_, lockFile?_of_file⟩
    intro h
    obtain ⟨place, hl, he⟩ := file_eq_ok_iff.1 (lockFile?_eq_some_iff.1 h)
    have hd' := file_of_makeDirectories _ he
    have ho : (d.makeDirectories p.parent).2.origin p.start = d.origin p.start := by
      cases p.start
      · exact hq.workDir
      · rfl
      · rfl
    obtain ⟨front, rest, turn, hnames, hfront, hrest⟩ := hp
    have hfront' : (d.makeDirectories p.parent).2.follow (d.origin p.start) front = .ok turn :=
      follow_eq_of_directories (fun _ h => hq.entry h) hfront nofun nofun
    refine file_eq_ok_iff.2 ⟨place, ?_, hd'⟩
    unfold locate at hl ⊢
    split at hl
    · cases hl
    · rename_i hlen
      -- both disks lead to the same turn, and from there on down to a file that was there
      rw [ho, hnames, follow_append hfront'] at hl
      rw [if_neg hlen, hnames, follow_append hfront]
      exact follow_of_later hd hrest hl hd' he
  exact Option.ext hiff

lemma lockFile?_eq_file (hd : d.WellFormed) (hn : ∀ name ∈ p.names, name ≠ Path.back) :
    d.lockFile? p = (d.file p).toOption := lockFile?_of_leadsDown hd (leadsDown_of_no_back hn)

end SharedVm.Disk
