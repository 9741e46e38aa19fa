import SharedVm.Proofs.Disk.Reopen
import Mathlib.Data.List.Infix

/-!
# The way to a path

Making the directories down to a path makes directories on the way to it and nothing else. It
succeeds if no file is on the way, and if the operating system takes the path for a name.
-/

namespace SharedVm

namespace Path

/-- The path `q` is `p` or one above it. -/
def OnWay (q p : Path) : Prop := q.start = p.start ∧ q.names <+: p.names

/-- The operating system takes the path for a name. -/
structure Nameable (p : Path) : Prop where
  native : Failure.ofName? p.text = none
  length : Disk.nameLength p.text ≤ Disk.pathLimit
  names : ∀ name ∈ p.names, Disk.nameLength name ≤ Disk.nameLimit

variable {p q : Path}

lemma OnWay.refl (p : Path) : p.OnWay p := ⟨rfl, List.prefix_refl _⟩

lemma OnWay.trans {r : Path} (h : r.OnWay q) (hq : q.OnWay p) : r.OnWay p :=
  ⟨h.1.trans hq.1, h.2.trans hq.2⟩

namespace Nameable

lemma parent (h : p.Nameable) : p.parent.Nameable where
  native := ofName?_parent h.native
  length := Disk.nameLength_parent h.native h.length
  names name hm := h.names name (List.dropLast_subset _ hm)

/-- What is above a name is a name. -/
lemma onWay (h : p.Nameable) (hq : q.OnWay p) : q.Nameable := by
  obtain ⟨start, names⟩ := q
  obtain ⟨hstart, rest, hrest⟩ := hq
  dsimp only at hstart hrest
  subst hstart
  induction rest using List.reverseRecOn generalizing p with
  | nil =>
    rw [List.append_nil] at hrest
    subst hrest
    exact h
  | append_singleton rest last ih =>
    refine ih (p := p.parent) h.parent ?_
    rw [Path.parent, ← hrest, ← List.append_assoc, List.dropLast_concat]

end Nameable

end Path

namespace Disk

variable {d e f : Disk} {p q : Path}

/-! ### Looking along the way -/

/-- Names lead nowhere because something is missing, or a file is among them, or one is too long. -/
lemma follow_error_cases {names : List Text} {here : Location} {x : DiskError}
    (h : d.follow here names = .error x) :
    x = .notFound ∨
      x = .notDirectory ∧ (∃ front place i, front <+: names ∧ d.follow here front = .ok place ∧
        d.entryAt? place = some (.file i)) ∨
      x = .nameTooLong ∧ ∃ name ∈ names, nameLimit < nameLength name := by
  induction names generalizing here with
  | nil => cases h
  | cons name rest ih =>
    rw [follow] at h
    split at h
    · exact .inl (Except.error.inj h).symm
    · rename_i i hfile
      exact .inr (.inl ⟨(Except.error.inj h).symm, [], here, i, List.nil_prefix, rfl, hfile⟩)
    · rename_i hdir
      split at h
      · rename_i hlen
        exact .inr (.inr ⟨(Except.error.inj h).symm, name, List.mem_cons_self, hlen⟩)
      · rename_i hlen
        rcases ih h with hx | ⟨hx, front, place, i, hfront, hf, hfile⟩ | ⟨hx, long, hm, hlong⟩
        · exact .inl hx
        · refine .inr (.inl ⟨hx, name :: front, place, i, List.cons_prefix_cons.2 ⟨rfl, hfront⟩, ?_, hfile⟩)
          rw [follow, hdir]
          dsimp only
          rw [if_neg hlen, hf]
        · exact .inr (.inr ⟨hx, long, List.mem_cons_of_mem _ hm, hlong⟩)

lemma locate_of_length (h : nameLength p.text ≤ pathLimit) :
    d.locate p = d.follow (d.origin p.start) p.names := if_neg (Nat.not_lt.2 h)

lemma locate_error_cases (hn : p.Nameable) {x : DiskError} (h : d.locate p = .error x) :
    x = .notFound ∨ x = .notDirectory ∧ ∃ q i, q.OnWay p ∧ d.file q = .ok i := by
  rw [locate_of_length hn.length] at h
  rcases follow_error_cases h with hx | ⟨hx, front, place, i, hfront, hf, hfile⟩ |
    ⟨-, name, hm, hlong⟩
  · exact .inl hx
  · have hq : (⟨p.start, front⟩ : Path).OnWay p := ⟨rfl, hfront⟩
    refine .inr ⟨hx, _, i, hq, file_eq_ok_iff.2 ⟨place, ?_, hfile⟩⟩
    rw [locate_of_length (hn.onWay hq).length]
    exact hf
  · exact absurd (hn.names name hm) (Nat.not_le.2 hlong)

/-- Below a directory that is there a path leads somewhere. -/
lemma exists_locate_of_parent (hn : p.Nameable) {place : Location}
    (hl : d.locate p.parent = .ok place) (hp : d.entryAt? place = some .directory) :
    ∃ place, d.locate p = .ok place := by
  obtain ⟨start, names⟩ := p
  rcases List.eq_nil_or_concat names with rfl | ⟨front, last, rfl⟩
  · exact ⟨place, hl⟩
  · rw [List.concat_eq_append] at hn hl ⊢
    have hlast : nameLength last ≤ nameLimit := hn.names last (by simp)
    rw [locate_of_length hn.parent.length] at hl
    rw [locate_of_length hn.length]
    unfold Path.parent at hl
    dsimp only at hl ⊢
    rw [List.dropLast_concat] at hl
    rw [follow_append hl, follow, hp]
    dsimp only
    rw [if_neg (Nat.not_lt.2 hlast)]
    exact ⟨_, rfl⟩

/-- Something is at the path. -/
def IsThere (d : Disk) (p : Path) : Prop := ∃ x, d.stat p = .ok x

lemma isThere_iff : d.IsThere p ↔ ∃ place x, d.locate p = .ok place ∧ d.entryAt? place = some x := by
  unfold IsThere stat look
  cases hl : d.locate p with
  | error x => simp [bind, Except.bind]
  | ok place => cases he : d.entryAt? place <;> simp [bind, Except.bind, he]

lemma stat_ne_nameTooLong (hn : p.Nameable) : d.stat p ≠ .error .nameTooLong := by
  unfold stat look
  cases hl : d.locate p with
  | error x => rcases locate_error_cases hn hl with rfl | ⟨rfl, -⟩ <;> exact nofun
  | ok place => cases he : d.entryAt? place <;> simp [bind, Except.bind, he]

lemma stat_of_length (h : pathLimit < nameLength p.text) : d.stat p = .error .nameTooLong := by
  unfold stat locate
  rw [if_pos h]
  rfl

/-! ### Making the way -/

/-- The disk `e` has what `d` had, and besides that only directories on the way to `p`. -/
structure Paves (p : Path) (d e : Disk) : Prop where
  workDir : e.workDir = d.workDir
  inodes : e.inodes = d.inodes
  handles : e.handles = d.handles
  keeps : d.Keeps e
  paved : ∀ ⦃place x⦄, e.entryAt? place = some x →
    d.entryAt? place = some x ∨ x = .directory ∧ ∃ q, q.OnWay p ∧ e.locate q = .ok place

lemma Keeps.locate (hk : d.Keeps e) (hw : e.workDir = d.workDir) {place : Location}
    (h : d.locate p = .ok place) : e.locate p = .ok place :=
  locate_of_directories hw (fun _ hq => hk hq) h

lemma Keeps.isThere (hk : d.Keeps e) (hw : e.workDir = d.workDir) (h : d.IsThere p) : e.IsThere p := by
  obtain ⟨place, x, hl, hp⟩ := isThere_iff.1 h
  exact isThere_iff.2 ⟨place, x, hk.locate hw hl, hk hp⟩

instance (p : Path) : IsPreorder Disk (Paves p) where
  refl d := ⟨rfl, rfl, rfl, .refl d, fun _ _ => .inl⟩
  trans _ _ _ h k := {
    workDir := k.workDir.trans h.workDir
    inodes := k.inodes.trans h.inodes
    handles := k.handles.trans h.handles
    keeps := h.keeps.trans k.keeps
    paved := fun place x hx => by
      rcases k.paved hx with hx | hx
      · rcases h.paved hx with hx | ⟨hx, q, hq, hl⟩
        · exact .inl hx
        · exact .inr ⟨hx, q, hq, k.keeps.locate k.workDir hl⟩
      · exact .inr hx }

lemma paves_makeDirectory (hq : q.OnWay p) (h : d.makeDirectory q = .ok e) : Paves p d e := by
  have hquiet := quiet_makeDirectory h
  obtain ⟨place, hl, hn, rfl⟩ := makeDirectory_cases h
  refine ⟨rfl, rfl, rfl, hquiet.entry, fun at' x hx => ?_⟩
  rw [entryAt?_append d hn] at hx
  split at hx
  · rename_i he
    refine .inr ⟨(Option.some.inj hx).symm, q, hq, ?_⟩
    rw [he]
    exact hquiet.entry.locate rfl hl
  · exact .inl hx

lemma paves_makeDirectories (d : Disk) (p : Path) : Paves p d (d.makeDirectories p).2 := by
  refine makeDirectoriesFrom_within (fun {_ _} {front} hfront => paves_makeDirectory ⟨rfl, ?_⟩) d
  rwa [List.reverse_reverse] at hfront

/-- No file is on the way to the path once the directories that are missing have been made. -/
def Clear (d : Disk) (p : Path) : Prop := ∀ q i, q.OnWay p → (d.makeDirectories p).2.file q ≠ .ok i

lemma clear_iff : d.Clear p ↔ ∀ names ∈ p.names.inits,
    ((d.makeDirectories p).2.file ⟨p.start, names⟩).toOption = none := by
  have hnone : ∀ q, ((d.makeDirectories p).2.file q).toOption = none ↔
      ∀ i, (d.makeDirectories p).2.file q ≠ .ok i := by
    intro q
    cases (d.makeDirectories p).2.file q <;> simp [Except.toOption]
  constructor
  · exact fun h names hm => (hnone _).2 fun i => h _ i ⟨rfl, (List.mem_inits _ _).1 hm⟩
  · rintro h ⟨start, names⟩ i ⟨hstart, hnames⟩
    dsimp only at hstart hnames
    subst hstart
    exact (hnone _).1 (h names ((List.mem_inits _ _).2 hnames)) i

instance : Decidable (d.Clear p) := decidable_of_iff' _ clear_iff

/-- The path leads to a directory. -/
def Leads (d : Disk) (p : Path) : Prop :=
  ∃ place, d.locate p = .ok place ∧ d.entryAt? place = some .directory

lemma leads_of_makeDirectory (h : d.makeDirectory p = .ok e) : e.Leads p := by
  have hquiet := quiet_makeDirectory h
  obtain ⟨place, hl, hn, rfl⟩ := makeDirectory_cases h
  refine ⟨place, hquiet.entry.locate rfl hl, ?_⟩
  rw [entryAt?_append d hn, if_pos rfl]

lemma isDirectory_of_leads (h : d.Leads p) : d.isDirectory p = true := by
  obtain ⟨place, hl, hp⟩ := h
  simp [isDirectory, stat, look, hl, hp, bind, Except.bind]

/-- Where no file is on the way, a directory is made, or it is there, or the one above it is
missing. -/
lemma makeDirectory_of_clear (hn : p.Nameable) (hc : ∀ q i, q.OnWay p → d.file q ≠ .ok i) :
    (∃ e, d.makeDirectory p = .ok e) ∨
      d.makeDirectory p = .error .fileExists ∧ d.Leads p ∨ d.makeDirectory p = .error .notFound ∧
        d.locate p = .error .notFound := by
  unfold makeDirectory
  cases hl : d.locate p with
  | error x =>
    rcases locate_error_cases hn hl with rfl | ⟨-, q, i, hq, hf⟩
    · exact .inr (.inr ⟨rfl, rfl⟩)
    · exact absurd hf (hc q i hq)
  | ok place =>
    simp only [bind, Except.bind]
    cases hp : d.entryAt? place with
    | none => exact .inl ⟨_, rfl⟩
    | some x =>
      cases x with
      | directory => exact .inr (.inl ⟨rfl, place, hl, hp⟩)
      | file i => exact absurd (file_eq_ok_iff.2 ⟨place, hl, hp⟩) (hc p i (.refl p))

lemma Keeps.clear (hk : d.Keeps e) (hw : e.workDir = d.workDir)
    (hc : ∀ q i, q.OnWay p → e.file q ≠ .ok i) (q : Path) (i : Nat) (hq : q.OnWay p) :
    d.file q ≠ .ok i := fun hf => hc q i hq (hk.file hw hf)

lemma makeDirectoriesFrom_of_clear (hd : d.WellFormed) {start : PathRoot} {names : List Text}
    (hn : (⟨start, names.reverse⟩ : Path).Nameable) (hc : ∀ q i, q.OnWay ⟨start, names.reverse⟩ →
      (d.makeDirectoriesFrom start names).2.file q ≠ .ok i) :
    (d.makeDirectoriesFrom start names).1 = none ∧
      (d.makeDirectoriesFrom start names).2.Leads ⟨start, names.reverse⟩ := by
  induction names with
  | nil => exact ⟨rfl, d.origin start, locate_of_length hn.length, entryAt?_origin hd start⟩
  | cons name above ih =>
    have habove : (⟨start, above.reverse⟩ : Path).OnWay ⟨start, (name :: above).reverse⟩ :=
      ⟨rfl, by simp⟩
    have hquiet : d.Quiet (d.makeDirectoriesFrom start (name :: above)).2 :=
      makeDirectoriesFrom_within (fun _ => quiet_makeDirectory) d
    have hbefore := hquiet.entry.clear hquiet.workDir hc
    rw [makeDirectoriesFrom] at hc ⊢
    dsimp only at hc ⊢
    rcases makeDirectory_of_clear hn hbefore with ⟨e, hm⟩ | ⟨hm, hleads⟩ | ⟨hm, -⟩ <;>
      rw [hm] at hc ⊢ <;> dsimp only at hc ⊢
    · exact ⟨rfl, leads_of_makeDirectory hm⟩
    · rw [if_pos (isDirectory_of_leads hleads)]
      exact ⟨rfl, hleads⟩
    · rcases hr : d.makeDirectoriesFrom start above with ⟨failed, d'⟩
      rw [hr] at hc ih
      cases failed with
      | some x =>
        have habsent := (ih (hn.onWay habove) fun q i hq => hc q i (hq.trans habove)).1
        cases habsent
      | none =>
        dsimp only at hc ⊢
        have hlater : ∀ q i, q.OnWay ⟨start, (name :: above).reverse⟩ → d'.file q ≠ .ok i := by
          cases hm' : d'.makeDirectory ⟨start, (name :: above).reverse⟩ with
          | ok e =>
            rw [hm'] at hc
            exact (quiet_makeDirectory hm').entry.clear (quiet_makeDirectory hm').workDir hc
          | error x =>
            rw [hm'] at hc
            intro q i hq hf
            refine hc q i hq ?_
            cases x <;> dsimp only <;> (try split) <;> exact hf
        obtain ⟨-, place, hl, hp⟩ := ih (hn.onWay habove) fun q i hq => hlater q i (hq.trans habove)
        have hparent : (⟨start, (name :: above).reverse⟩ : Path).parent = ⟨start, above.reverse⟩ := by
          simp [Path.parent]
        obtain ⟨place', hl'⟩ := exists_locate_of_parent hn (hparent ▸ hl) hp
        rcases makeDirectory_of_clear hn hlater with ⟨e, hm'⟩ | ⟨hm', hleads⟩ | ⟨-, hmissing⟩
        · rw [hm']
          exact ⟨rfl, leads_of_makeDirectory hm'⟩
        · rw [hm']
          dsimp only
          rw [if_pos (isDirectory_of_leads hleads)]
          exact ⟨rfl, hleads⟩
        · rw [hmissing] at hl'
          cases hl'

/-- Where no file is on the way, all the directories down to the path are there in the end. -/
lemma makeDirectories_of_clear (hd : d.WellFormed) (hn : p.Nameable) (hc : d.Clear p) :
    d.makeDirectories p = (none, (d.makeDirectories p).2) ∧ (d.makeDirectories p).2.Leads p := by
  have hnames : (⟨p.start, p.names.reverse.reverse⟩ : Path) = p := by rw [List.reverse_reverse]
  have hn' : (⟨p.start, p.names.reverse.reverse⟩ : Path).Nameable := hnames.symm ▸ hn
  have hmade := makeDirectoriesFrom_of_clear hd hn' (hnames.symm ▸ hc)
  rw [hnames] at hmade
  exact ⟨Prod.ext hmade.1 rfl, hmade.2⟩

end Disk

end SharedVm
